import H3ntun.Agent
import H3ntun.Foundation.Ranking
import H3ntun.Ipv4
import Mathlib.Data.Finset.Card
import Mathlib.Data.Int.Interval
import Mathlib.Data.String.Basic

namespace H3ntun

open StructPack

/-!
# The source scanner

Probe packets, the receiver that keeps statistics on the addresses they come
from, and the choice of the address with the least loss.  The keyed hash is a
parameter; clocks are read once for the age check of a packet and once for
its age.
-/

/-- A decoded probe. -/
structure Probe where
  candidateIp : String
  sequence : Int
  totalProbes : Int
  timestampNs : Int
  deriving Repr, DecidableEq

/-- `HYPROBE1` -/
def probeMagic : Bytes := [72, 89, 80, 82, 79, 66, 69, 49]

/-- `!8s16s4sIIQ` -/
def probePrefix : List Item :=
  [.bytes 8, .bytes 16, .bytes 4, .unsigned 4, .unsigned 4, .unsigned 8]

/-- `!8s16s4sIIQ16s` -/
def probeHeader : List Item :=
  [.bytes 8, .bytes 16, .bytes 4, .unsigned 4, .unsigned 4, .unsigned 8,
    .bytes 16]

/-- `MAX_CLOCK_SKEW_SECONDS` -/
def maxClockSkewSeconds : Int := 600

/-- `hmac.new(secret, message, hashlib.sha256).digest()` -/
abbrev HmacSha256 := (secret message : Bytes) → Bytes

namespace Probe

/--
`encode_probe`; `nowNs` stands for `time.time_ns()`, read only when no time
stamp is given.
-/
def encode
    (hmac : HmacSha256)
    (nowNs : Int)
    (tunnelId secret : Bytes)
    (candidateIp : String)
    (sequence totalProbes : Int)
    (timestampNs : Option Int) :
    Except Failure Bytes :=
  if tunnelId.length ≠ 16 ∨ secret.length < 32 then
    .error (.probeError "invalid tunnel credentials")
  else if ¬ (1 ≤ sequence ∧ sequence ≤ totalProbes) then
    .error (.probeError "invalid probe sequence")
  else do
    let timestampNs := timestampNs.getD nowNs
    let candidate := (← IPv4Address.ofText candidateIp).packed
    let signed ← structPack probePrefix
      [.bytes probeMagic, .bytes tunnelId, .bytes candidate, .int sequence,
        .int totalProbes, .int timestampNs]
    let tag := (hmac secret signed).take 16
    structPack probeHeader
      [.bytes probeMagic, .bytes tunnelId, .bytes candidate, .int sequence,
        .int totalProbes, .int timestampNs, .bytes tag]

/-- `decode_probe`; `nowNs` stands for `time.time_ns()`. -/
def decode
    (hmac : HmacSha256)
    (packet tunnelId secret : Bytes)
    (nowNs : Int) :
    Except Failure Probe :=
  if packet.length ≠ size probeHeader then
    .error (.probeError "invalid probe length")
  else
    match unpackFrom probeHeader packet with
    | some [.bytes magic, .bytes receivedTunnel, .bytes candidate,
        .int sequence, .int total, .int timestampNs, .bytes tag] =>
        if magic ≠ probeMagic ∨ receivedTunnel ≠ tunnelId then
          .error (.probeError "unexpected probe identity")
        else do
          let signed ← structPack probePrefix
            [.bytes magic, .bytes receivedTunnel, .bytes candidate,
              .int sequence, .int total, .int timestampNs]
          let expected := (hmac secret signed).take 16
          if tag ≠ expected then
            .error (.probeError "probe authentication failed")
          else if ¬ (1 ≤ sequence ∧ sequence ≤ total) then
            .error (.probeError "invalid probe sequence")
          else if |nowNs - timestampNs| >
              maxClockSkewSeconds * 1000000000 then
            .error (.probeError "probe timestamp is stale")
          else
            match IPv4Address.ofPacked? candidate with
            | some address =>
                .ok {
                  candidateIp := address.text
                  sequence := sequence
                  totalProbes := total
                  timestampNs := timestampNs
                }
            | none => .error (.valueError "not an IPv4 address")
    | _ => .error .structError

/-- What the receiver knows a probe by. -/
def replayKey (probe : Probe) : String × Int × Int :=
  (probe.candidateIp, probe.sequence, probe.timestampNs)

end Probe

/-- The statistics on one candidate. -/
structure SourceStats where
  sequences : Finset Int := ∅
  declared : Int := 0
  ageMs : List Rat := []

namespace SourceStats

/-- Statistics with one more probe. -/
def add
    (values : SourceStats)
    (probe : Probe)
    (nowNs : Int) :
    SourceStats where
  sequences := insert probe.sequence values.sequences
  declared := max values.declared probe.totalProbes
  ageMs :=
    values.ageMs ++
      [max 0 (((nowNs - probe.timestampNs : Int) : Rat) / 1000000)]

/-- `len(values["sequences"])` -/
def received (values : SourceStats) : Int :=
  values.sequences.card

/-- The declared total of the table, not below the received one. -/
def shownDeclared (values : SourceStats) : Int :=
  max values.declared values.received

/-- The loss of the table, in percent. -/
def loss (values : SourceStats) : Rat :=
  if values.shownDeclared ≠ 0 then
    max 0 (((values.shownDeclared - values.received : Int) : Rat) * 100 /
      (values.shownDeclared : Rat))
  else
    100

/-- `average_age`, in milliseconds. -/
def averageAge (values : SourceStats) : Rat :=
  if values.ageMs ≠ [] then
    values.ageMs.sum / (values.ageMs.length : Rat)
  else
    0

end SourceStats

/-- A row of the table: tuples compare from left to right. -/
abbrev RankedRow := Rat ×ₗ Int ×ₗ String ×ₗ Int ×ₗ Rat

/-- The row of one candidate. -/
def rankedRow (entry : String × SourceStats) : RankedRow :=
  toLex (entry.2.loss, toLex (-entry.2.received,
    toLex (entry.1, toLex (entry.2.shownDeclared, entry.2.averageAge))))

/-- What `_print_receiver_table` returns. -/
def printReceiverTable
    (stats : OrderedDict String SourceStats) :
    Option String :=
  let ranked := stats.entries.map rankedRow
  match Ranking.first? ranked with
  | none => none
  | some row =>
      let loss := row.1
      let received := -row.2.1
      let candidate := row.2.2.1
      let declared := row.2.2.2.1
      if received ≥ 3 ∧ loss ≤ 20 ∧ declared ≥ 3 then
        some candidate
      else
        none

/-- State of `run_receiver`. -/
structure ScanReceiver where
  stats : OrderedDict String SourceStats := .empty
  seen : Finset (String × Int × Int) := ∅
  authFailures : Nat := 0
  sourceMismatches : Nat := 0

/-- A received packet, its source address and the two readings of the clock. -/
structure ProbeDelivery where
  packet : Bytes
  peer : String
  decodedNs : Int
  recordedNs : Int
  deriving Repr, DecidableEq

/-- One turn of the loop: the monotonic clock, and a packet or a timeout. -/
structure ScanTurn where
  clock : Time
  delivery : Option ProbeDelivery
  deriving Repr, DecidableEq

namespace ScanReceiver

/-- Account for a probe from the source it names. -/
def record
    (receiver : ScanReceiver)
    (probe : Probe)
    (nowNs : Int) :
    ScanReceiver :=
  if probe.replayKey ∈ receiver.seen then
    receiver
  else
    let values := (receiver.stats.get? probe.candidateIp).getD {}
    { receiver with
      seen := insert probe.replayKey receiver.seen
      stats :=
        receiver.stats.set probe.candidateIp (values.add probe nowNs) }

/-- The loop body for one packet. -/
def handle
    (hmac : HmacSha256)
    (tunnelId secret : Bytes)
    (receiver : ScanReceiver)
    (delivery : ProbeDelivery) :
    Except Failure ScanReceiver :=
  match Probe.decode hmac delivery.packet tunnelId secret
      delivery.decodedNs with
  | .error (.probeError _) =>
      .ok { receiver with authFailures := receiver.authFailures + 1 }
  | .error failure => .error failure
  | .ok probe =>
      if delivery.peer ≠ probe.candidateIp then
        .ok {
          receiver with
          sourceMismatches := receiver.sourceMismatches + 1
        }
      else
        .ok (receiver.record probe delivery.recordedNs)

/-- The deadline has not passed. -/
def isOpen (deadline : Option Time) (clock : Time) : Bool :=
  match deadline with
  | none => true
  | some deadline => clock < deadline

/-- The receive loop; it also ends where the turns do, by an interrupt. -/
def receive
    (hmac : HmacSha256)
    (tunnelId secret : Bytes)
    (deadline : Option Time) :
    ScanReceiver → List ScanTurn → Except Failure ScanReceiver
  | receiver, [] => .ok receiver
  | receiver, turn :: rest =>
      if isOpen deadline turn.clock then
        match turn.delivery with
        | none => receive hmac tunnelId secret deadline receiver rest
        | some delivery => do
            let receiver ← receiver.handle hmac tunnelId secret delivery
            receive hmac tunnelId secret deadline receiver rest
      else
        .ok receiver

end ScanReceiver

/-- What `run_receiver` reads besides the packets. -/
structure ScanSetup where
  role : Side
  tunnelId : Bytes
  sharedSecret : Bytes
  durationSeconds : Option Time := none
  updateConfig : Bool := false
  /-- `time.monotonic()` before the loop. -/
  startedAt : Time := 0
  /-- Outcome of `_atomic_update_iran_config` for an address. -/
  update : String → Except Failure Unit := fun _ => .ok ()

namespace ScanSetup

/-- A duration of zero counts as none. -/
def deadline (setup : ScanSetup) : Option Time :=
  match setup.durationSeconds with
  | none => none
  | some duration =>
      if duration = 0 then none else some (setup.startedAt + duration)

/-- The end of `run_receiver`, after the table. -/
def conclude
    (setup : ScanSetup)
    (bestIp : Option String) :
    Except Failure (Option String) :=
  if setup.updateConfig then
    match bestIp with
    | none =>
        .error (.runtimeError
          "no candidate met the authenticated delivery threshold")
    | some address =>
        if address = "" then
          .error (.runtimeError
            "no candidate met the authenticated delivery threshold")
        else do
          setup.update address
          return bestIp
  else
    return bestIp

end ScanSetup

/-- `run_receiver` over the turns of its loop. -/
def runReceiver
    (hmac : HmacSha256)
    (setup : ScanSetup)
    (turns : List ScanTurn) :
    Except Failure (Option String) :=
  if setup.role ≠ .iran then
    .error (.valueError "receiver config must have role=iran")
  else do
    let receiver ← ScanReceiver.receive hmac setup.tunnelId
      setup.sharedSecret setup.deadline {} turns
    setup.conclude (printReceiverTable receiver.stats)

end H3ntun

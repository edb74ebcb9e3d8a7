import H3ntun.ProbeRoundTrip
import H3ntun.ScannerVerdict

namespace H3ntun

open StructPack

/-!
# A scan from end to end

The scanner sends numbered probes from every candidate it can bind, and the
receiver judges the candidates by what arrives.  All probes of one scan
declare the same total, so no candidate hides another: the receiver names one
of those that delivered most, if that is enough, and nobody otherwise.
-/

/-- What `run_scanner` reads of its configuration and its arguments. -/
structure ScannerSetup where
  role : Side
  tunnelId : Bytes
  sharedSecret : Bytes
  probesPerIp : Int := 20
  delayMs : Int := 20

/-- What the socket of one candidate does, and the clock meanwhile. -/
structure CandidateSocket where
  /-- Text of the `OSError` of `bind`. -/
  bindError : Option String := none
  /-- `time.time_ns()` at each probe. -/
  clockNs : Int → Int := fun _ => 0
  /-- The probe that `sendto` raises on. -/
  failsAt : Option Int := none

/-- A probe on its way, with what it was encoded from. -/
structure ProbeDatagram where
  source : String
  sequence : Int
  timestampNs : Int
  packet : Bytes
  deriving Repr, DecidableEq

/-- What `run_scanner` has sent, and how it ended. -/
structure Scanned where
  sent : List ProbeDatagram := []
  results : OrderedDict String String := .empty
  raised : Option Failure := none

namespace ScannerSetup

variable (hmac : HmacSha256) (setup : ScannerSetup)

/-- `range(1, probes_per_ip + 1)` -/
def sequences : List Int :=
  (List.range setup.probesPerIp.toNat).map fun position : Nat =>
    (position : Int) + 1

/-- The probes of one candidate, up to an exception. -/
def sendProbes
    (candidate : String)
    (socket : CandidateSocket) :
    List Int → List ProbeDatagram × Option Failure
  | [] => ([], none)
  | sequence :: rest =>
      match Probe.encode hmac (socket.clockNs sequence) setup.tunnelId
          setup.sharedSecret candidate sequence setup.probesPerIp none with
      | .error failure => ([], some failure)
      | .ok packet =>
          if socket.failsAt = some sequence then
            ([], some .osError)
          else
            let (later, raised) := sendProbes candidate socket rest
            ({ source := candidate
               sequence := sequence
               timestampNs := socket.clockNs sequence
               packet := packet } :: later, raised)

/-- The loop over the candidates. -/
def scanCandidates :
    List (String × CandidateSocket) → Scanned → Scanned
  | [], scanned => scanned
  | (candidate, socket) :: rest, scanned =>
      match socket.bindError with
      | some text =>
          scanCandidates rest { scanned with
            results :=
              scanned.results.set candidate ("not-local: " ++ text) }
      | none =>
          let probes :=
            setup.sendProbes hmac candidate socket setup.sequences
          let later := { scanned with sent := scanned.sent ++ probes.1 }
          match probes.2 with
          | some failure => { later with raised := some failure }
          | none =>
              scanCandidates rest { later with
                results :=
                  later.results.set candidate
                    ("sent:" ++ toString setup.probesPerIp) }

/-- `run_scanner` -/
def runScanner (candidates : List (String × CandidateSocket)) : Scanned :=
  if setup.role ≠ .foreign then
    { raised := some (.valueError "scanner config must have role=foreign") }
  else if ¬ (1 ≤ setup.probesPerIp ∧ setup.probesPerIp ≤ 10000) then
    { raised := some (.valueError "probes must be within 1..10000") }
  else if ¬ (0 ≤ setup.delayMs ∧ setup.delayMs ≤ 60000) then
    { raised := some (.valueError "delay-ms must be within 0..60000") }
  else
    setup.scanCandidates hmac candidates {}

/-- Where a probe that was sent comes from. -/
structure Sends
    (candidates : List (String × CandidateSocket))
    (datagram : ProbeDatagram) : Prop where
  bound :
    ∃ socket, (datagram.source, socket) ∈ candidates ∧
      socket.bindError = none
  small :
    setup.probesPerIp ≤ 10000
  sequence :
    1 ≤ datagram.sequence ∧ datagram.sequence ≤ setup.probesPerIp
  encoded :
    Probe.encode hmac datagram.timestampNs setup.tunnelId
        setup.sharedSecret datagram.source datagram.sequence
        setup.probesPerIp none = .ok datagram.packet

theorem mem_sequences
    {setup : ScannerSetup}
    {sequence : Int}
    (member : sequence ∈ setup.sequences) :
    1 ≤ sequence ∧ sequence ≤ setup.probesPerIp := by
  obtain ⟨position, inRange, rfl⟩ := List.mem_map.mp member
  have below := List.mem_range.mp inRange
  omega

variable {hmac setup}

theorem encoded_of_mem_sendProbes
    {candidate : String}
    {socket : CandidateSocket}
    {sequences : List Int}
    {datagram : ProbeDatagram}
    (member :
      datagram ∈ (setup.sendProbes hmac candidate socket sequences).1) :
    datagram.source = candidate ∧
      datagram.sequence ∈ sequences ∧
      Probe.encode hmac datagram.timestampNs setup.tunnelId
          setup.sharedSecret datagram.source datagram.sequence
          setup.probesPerIp none = .ok datagram.packet := by
  induction sequences with
  | nil =>
      cases member
  | cons sequence rest inductionHypothesis =>
      unfold sendProbes at member
      split at member
      · cases member
      · rename_i packet encoded
        split at member
        · cases member
        · rcases List.mem_cons.mp member with rfl | later
          · exact ⟨rfl, List.mem_cons_self, encoded⟩
          · obtain ⟨source, inRest, isEncoded⟩ := inductionHypothesis later
            exact ⟨source, List.mem_cons_of_mem _ inRest, isEncoded⟩

/-- Everything sent was sent before or comes from a candidate that binds. -/
theorem sends_of_mem_scanCandidates
    {candidates : List (String × CandidateSocket)}
    {scanned : Scanned}
    {datagram : ProbeDatagram}
    (small : setup.probesPerIp ≤ 10000)
    (member :
      datagram ∈ (setup.scanCandidates hmac candidates scanned).sent) :
    datagram ∈ scanned.sent ∨ setup.Sends hmac candidates datagram := by
  induction candidates generalizing scanned with
  | nil =>
      exact .inl member
  | cons first rest inductionHypothesis =>
      have fromRest
          (sends : setup.Sends hmac rest datagram) :
          setup.Sends hmac (first :: rest) datagram := by
        obtain ⟨⟨socket, inRest, binds⟩, _, sequence, encoded⟩ := sends
        exact ⟨⟨socket, List.mem_cons_of_mem _ inRest, binds⟩, small,
          sequence, encoded⟩
      obtain ⟨candidate, socket⟩ := first
      unfold scanCandidates at member
      split at member
      · exact (inductionHypothesis member).imp_right fromRest
      · rename_i binds
        have own
            (sent :
              datagram ∈
                (setup.sendProbes hmac candidate socket
                  setup.sequences).1) :
            setup.Sends hmac ((candidate, socket) :: rest) datagram := by
          obtain ⟨rfl, inSequences, encoded⟩ :=
            encoded_of_mem_sendProbes sent
          exact ⟨⟨socket, List.mem_cons_self, binds⟩, small,
            mem_sequences inSequences, encoded⟩
        dsimp only at member
        split at member
        · exact (List.mem_append.mp member).imp_right own
        · rcases inductionHypothesis member with before | later
          · exact (List.mem_append.mp before).imp_right own
          · exact .inr (fromRest later)

/-- A scan sends nothing unless its arguments are in range. -/
theorem sends_of_mem_sent
    {candidates : List (String × CandidateSocket)}
    {datagram : ProbeDatagram}
    (member : datagram ∈ (setup.runScanner hmac candidates).sent) :
    setup.Sends hmac candidates datagram := by
  unfold runScanner at member
  split at member
  · cases member
  · split at member
    · cases member
    · rename_i inRange
      split at member
      · cases member
      · exact (sends_of_mem_scanCandidates (not_not.mp inRange).2
          member).resolve_left List.not_mem_nil

end ScannerSetup

namespace ProbeDatagram

/-- The probe a datagram carries. -/
def probe (datagram : ProbeDatagram) (total : Int) : Probe where
  candidateIp := datagram.source
  sequence := datagram.sequence
  totalProbes := total
  timestampNs := datagram.timestampNs

/-- A datagram read in time, from its own source. -/
def ReadIn (datagram : ProbeDatagram) (delivery : ProbeDelivery) : Prop :=
  delivery.packet = datagram.packet ∧
    delivery.peer = datagram.source ∧
    |delivery.decodedNs - datagram.timestampNs| ≤
      maxClockSkewSeconds * 1000000000

instance (datagram : ProbeDatagram) (delivery : ProbeDelivery) :
    Decidable (datagram.ReadIn delivery) :=
  inferInstanceAs (Decidable (_ ∧ _ ∧ _))

end ProbeDatagram

namespace ScannerSetup.Sends

variable
  {mac : (secret message : Bytes) → Sha256Digest}
  {setup : ScannerSetup}
  {candidates : List (String × CandidateSocket)}
  {datagram : ProbeDatagram}

/-- What `encode_probe` has checked of a probe that was sent. -/
theorem checked
    (sends : setup.Sends (.ofDigests mac) candidates datagram) :
    setup.tunnelId.length = 16 ∧ 32 ≤ setup.sharedSecret.length ∧
      (0 ≤ datagram.timestampNs ∧ datagram.timestampNs < 2 ^ 64) ∧
      ∃ ip : IPv4Address,
        ip.text = datagram.source ∧
          Probe.encode (.ofDigests mac) 0 setup.tunnelId
              setup.sharedSecret ip.text datagram.sequence
              setup.probesPerIp (some datagram.timestampNs) =
            .ok datagram.packet := by
  have encoded := sends.encoded
  simp only [Probe.encode, guard_eq_ok_iff, not_or, not_not, not_lt,
    bind_eq_ok_iff] at encoded
  obtain ⟨⟨tunnelLength, secretLength⟩, inRange, ip, isAddress, signed,
    signs, packs⟩ := encoded
  have isText : ip.text = datagram.source := by
    rw [IPv4Address.ofText] at isAddress
    split at isAddress
    · rename_i read
      obtain rfl := Except.ok.inj isAddress
      exact IPv4Address.text_of_ofText? read
    · cases isAddress
  have timestamp :
      0 ≤ datagram.timestampNs ∧ datagram.timestampNs < 2 ^ 64 := by
    rw [structPack] at signs
    split at signs
    · rename_i packed
      have members := accepted_of_pack packed
      simp only [probePrefix, List.forall₂_cons,
        List.forall₂_nil_right_iff] at members
      obtain ⟨_, _, _, _, _, ⟨_, packed⟩, _⟩ := members
      have fits := Item.fits_of_pack_unsigned packed
      simpa [Item.Fits] using fits
    · cases signs
  refine ⟨tunnelLength, secretLength, timestamp, ip, isText, ?_⟩
  rw [Probe.encode_eq_ok_iff ip tunnelLength secretLength inRange]
  exact ⟨signed, signs, packs⟩

/-- A probe that was sent is decoded in time, and to nothing else. -/
theorem decode_iff
    (sends : setup.Sends (.ofDigests mac) candidates datagram)
    (nowNs : Int)
    (probe : Probe) :
    Probe.decode (.ofDigests mac) datagram.packet setup.tunnelId
        setup.sharedSecret nowNs = .ok probe ↔
      probe = datagram.probe setup.probesPerIp ∧
        |nowNs - datagram.timestampNs| ≤
          maxClockSkewSeconds * 1000000000 := by
  obtain ⟨tunnelLength, secretLength, timestamp, ip, isText, encoded⟩ :=
    sends.checked
  have decoded
      (nowNs : Int)
      (fresh :
        |nowNs - datagram.timestampNs| ≤
          maxClockSkewSeconds * 1000000000) :
      Probe.decode (.ofDigests mac) datagram.packet setup.tunnelId
          setup.sharedSecret nowNs =
        .ok (datagram.probe setup.probesPerIp) := by
    rw [ProbeDatagram.probe, ← isText]
    have small := sends.small
    exact Probe.decode_of_encode mac tunnelLength secretLength
      sends.sequence.1 sends.sequence.2 (by omega) timestamp fresh encoded
  constructor
  · intro accepted
    -- Read at the time it was sent, the packet decodes to the same probe.
    have atOnce := decoded datagram.timestampNs (by simp; decide)
    have same := Probe.eq_of_decode accepted atOnce
    obtain ⟨_, _, _, timestampNs, _, _, _, _, _, fresh, _, rfl⟩ :=
      Probe.encode_of_decode tunnelLength secretLength accepted
    have sameTime : timestampNs = datagram.timestampNs :=
      congrArg Probe.timestampNs same
    exact ⟨same, sameTime ▸ fresh⟩
  · rintro ⟨rfl, fresh⟩
    exact decoded nowNs fresh

end ScannerSetup.Sends

section Table

variable {stats : OrderedDict String SourceStats} {total : Int}

/-- Rows that declare the same total compare by what was received. -/
theorem received_of_rankedRow_le
    {entry other : String × SourceStats}
    (inRange : entry.2.InRange)
    (otherInRange : other.2.InRange)
    (positive : 1 ≤ total)
    (declared : entry.2.declared = total)
    (otherDeclared : other.2.declared = total)
    (le : rankedRow entry ≤ rankedRow other) :
    other.2.received < entry.2.received ∨
      other.2.received = entry.2.received ∧ entry.1 ≤ other.1 := by
  have castPositive : (0 : Rat) < (total : Rat) := by
    exact_mod_cast (by omega : 0 < total)
  have lossShape
      {values : SourceStats}
      (inRange : values.InRange)
      (declared : values.declared = total) :
      values.loss = ((total - values.received : Int) : Rat) * 100 /
        (total : Rat) := by
    rw [inRange.loss_eq (by omega), SourceStats.lossPercent, declared]
  rw [rankedRow, rankedRow, Prod.Lex.toLex_le_toLex,
    lossShape inRange declared, lossShape otherInRange otherDeclared]
    at le
  rcases le with lower | ⟨same, later⟩
  · rw [div_lt_div_iff_of_pos_right castPositive] at lower
    have scaled :
        (total - entry.2.received) * 100 <
          (total - other.2.received) * 100 := by
      exact_mod_cast lower
    exact .inl (by omega)
  · rw [div_left_inj' castPositive.ne'] at same
    have scaled :
        (total - entry.2.received) * 100 =
          (total - other.2.received) * 100 := by
      exact_mod_cast same
    rw [Prod.Lex.toLex_le_toLex] at later
    rcases later with more | ⟨_, candidates⟩
    · exact .inl (neg_lt_neg_iff.mp more)
    · rw [Prod.Lex.toLex_le_toLex] at candidates
      refine .inr ⟨by omega, ?_⟩
      rcases candidates with before | ⟨same, _⟩
      · exact le_of_lt before
      · exact le_of_eq same

/-- With one declared total, the table yields the first of the best. -/
theorem printReceiverTable_eq_some_iff
    (inRange : ∀ entry ∈ stats.entries, entry.2.InRange)
    (declared :
      ∀ entry ∈ stats.entries,
        entry.2.declared = total ∧ 1 ≤ entry.2.declared)
    (candidate : String) :
    printReceiverTable stats = some candidate ↔
      ∃ values, (candidate, values) ∈ stats.entries ∧ values.Qualifies ∧
        ∀ other ∈ stats.entries,
          other.2.received < values.received ∨
            other.2.received = values.received ∧ candidate ≤ other.1 := by
  cases isFirst : Ranking.first? (stats.entries.map rankedRow) with
  | none =>
      have empty := Ranking.first?_eq_none_iff.mp isFirst
      rw [List.map_eq_nil_iff] at empty
      have nobody : printReceiverTable stats = none := by
        simp only [printReceiverTable, isFirst]
      simp [nobody, empty]
  | some row =>
      obtain ⟨first, member, rfl⟩ :=
        List.mem_map.mp (Ranking.mem_of_first? isFirst)
      have best :
          ∀ other ∈ stats.entries,
            other.2.received < first.2.received ∨
              other.2.received = first.2.received ∧ first.1 ≤ other.1 :=
        fun other inTable =>
          received_of_rankedRow_le (inRange first member)
            (inRange other inTable)
            ((declared first member).1 ▸ (declared first member).2)
            (declared first member).1 (declared other inTable).1
            (Ranking.le_of_first? isFirst _ (List.mem_map_of_mem inTable))
      obtain ⟨picked, nobody⟩ :=
        printReceiverTable_of_first? (inRange first member) isFirst
      constructor
      · intro isPicked
        by_cases qualifies : first.2.Qualifies
        · rw [picked qualifies] at isPicked
          obtain rfl := Option.some.inj isPicked
          exact ⟨first.2, member, qualifies, best⟩
        · rw [nobody qualifies] at isPicked
          cases isPicked
      · rintro ⟨values, inTable, qualifies, wins⟩
        have isBest :
            values.received < first.2.received ∨
              values.received = first.2.received ∧ first.1 ≤ candidate :=
          best _ inTable
        have beatsFirst := wins first member
        have sameName : first.1 = candidate := by
          rcases isBest with fewer | ⟨same, before⟩
          · rcases beatsFirst with less | ⟨equal, _⟩ <;> omega
          · rcases beatsFirst with less | ⟨_, after⟩
            · omega
            · exact le_antisymm before after
        have sameValues : first.2 = values := by
          have stored := OrderedDict.get?_eq_some_iff.mpr inTable
          have firstStored :
              stats.get? first.1 = some first.2 :=
            OrderedDict.get?_eq_some_iff.mpr member
          rw [sameName, stored] at firstStored
          exact (Option.some.inj firstStored).symm
        rw [← sameName]
        exact picked (sameValues ▸ qualifies)

end Table

/-- Probes of a candidate that are read in time, by their numbers. -/
def arrivals
    (sent : List ProbeDatagram)
    (deliveries : List ProbeDelivery)
    (candidate : String) : Finset Int :=
  ((sent.filter fun datagram =>
    datagram.source = candidate ∧
      ∃ delivery ∈ deliveries, datagram.ReadIn delivery).map
        ProbeDatagram.sequence).toFinset

/--
A candidate wins if enough of its probes arrived and no candidate delivered
more, or as many under a smaller name.
-/
structure Wins
    (arrived : String → Finset Int)
    (total : Int)
    (candidate : String) : Prop where
  enough :
    3 ≤ (arrived candidate).card
  lost :
    5 * (total - (arrived candidate).card) ≤ total
  best :
    ∀ other,
      (arrived other).card < (arrived candidate).card ∨
        (arrived other).card = (arrived candidate).card ∧
          candidate ≤ other

section OneScan

variable
  {mac : (secret message : Bytes) → Sha256Digest}
  {setup : ScannerSetup}
  {candidates : List (String × CandidateSocket)}
  {sent : List ProbeDatagram}
  {deliveries : List ProbeDelivery}

theorem mem_arrivals_iff
    {candidate : String}
    {sequence : Int} :
    sequence ∈ arrivals sent deliveries candidate ↔
      ∃ datagram ∈ sent,
        datagram.source = candidate ∧ datagram.sequence = sequence ∧
          ∃ delivery ∈ deliveries, datagram.ReadIn delivery := by
  simp only [arrivals, List.mem_toFinset, List.mem_map, List.mem_filter,
    decide_eq_true_eq]
  constructor
  · rintro ⟨datagram, ⟨member, source, isRead⟩, isSequence⟩
    exact ⟨datagram, member, source, isSequence, isRead⟩
  · rintro ⟨datagram, member, source, isSequence, isRead⟩
    exact ⟨datagram, ⟨member, source, isRead⟩, isSequence⟩

/-- The probes counted are those sent that are read in time. -/
theorem counted_iff_read
    (sends :
      ∀ datagram ∈ sent, setup.Sends (.ofDigests mac) candidates datagram)
    (authentic :
      ∀ delivery ∈ deliveries,
        accepts (.ofDigests mac) setup.tunnelId setup.sharedSecret
            delivery = true →
          ∃ datagram ∈ sent, datagram.packet = delivery.packet)
    {probe : Probe} :
    probe ∈ (countedProbes (.ofDigests mac) setup.tunnelId
        setup.sharedSecret deliveries).map Prod.fst ↔
      ∃ datagram ∈ sent,
        probe = datagram.probe setup.probesPerIp ∧
          ∃ delivery ∈ deliveries, datagram.ReadIn delivery := by
  rw [mem_countedProbes_iff]
  constructor
  · rintro ⟨delivery, member, isCounted⟩
    obtain ⟨decoded, fromSource⟩ := countedProbe_eq_some_iff.mp isCounted
    obtain ⟨datagram, isSent, samePacket⟩ :=
      authentic delivery member (by rw [accepts, decoded]; rfl)
    rw [← samePacket, (sends datagram isSent).decode_iff] at decoded
    obtain ⟨rfl, fresh⟩ := decoded
    exact ⟨datagram, isSent, rfl, delivery, member, samePacket.symm,
      fromSource, fresh⟩
  · rintro ⟨datagram, isSent, rfl, delivery, member, samePacket, fromSource,
      fresh⟩
    refine ⟨delivery, member, countedProbe_eq_some_iff.mpr
      ⟨?_, fromSource⟩⟩
    rw [samePacket, (sends datagram isSent).decode_iff]
    exact ⟨rfl, fresh⟩

/-- The table of a scan holds the arrivals of each candidate. -/
theorem table_of_scan
    (sends :
      ∀ datagram ∈ sent, setup.Sends (.ofDigests mac) candidates datagram)
    (authentic :
      ∀ delivery ∈ deliveries,
        accepts (.ofDigests mac) setup.tunnelId setup.sharedSecret
            delivery = true →
          ∃ datagram ∈ sent, datagram.packet = delivery.packet) :
    let stats :=
      tableOf (countedProbes (.ofDigests mac) setup.tunnelId
        setup.sharedSecret deliveries)
    (∀ entry ∈ stats.entries,
        entry.2.declared = setup.probesPerIp ∧
          entry.2.sequences = arrivals sent deliveries entry.1 ∧
          (arrivals sent deliveries entry.1).Nonempty) ∧
      ∀ candidate, (arrivals sent deliveries candidate).Nonempty →
        ∃ values, (candidate, values) ∈ stats.entries := by
  intro stats
  have countedIff
      (probe : Probe) :
      probe ∈ (countedProbes (.ofDigests mac) setup.tunnelId
          setup.sharedSecret deliveries).map Prod.fst ↔
        ∃ datagram ∈ sent,
          probe = datagram.probe setup.probesPerIp ∧
            ∃ delivery ∈ deliveries, datagram.ReadIn delivery :=
    counted_iff_read sends authentic
  have nonneg :
      ∀ input ∈ countedProbes (.ofDigests mac) setup.tunnelId
          setup.sharedSecret deliveries,
        0 ≤ input.1.totalProbes := by
    intro input member
    obtain ⟨first, last⟩ := sequence_of_countedProbes input member
    omega
  have summarises := summarises_run nonneg
  refine ⟨?_, ?_⟩
  · rintro ⟨candidate, values⟩ inTable
    have stored := OrderedDict.get?_eq_some_iff.mpr inTable
    obtain ⟨probe, isCounted, isCandidate, isDeclared⟩ :=
      summarises.declared_mem candidate values stored
    obtain ⟨datagram, isSent, rfl, isRead⟩ :=
      (countedIff probe).mp isCounted
    refine ⟨isDeclared.symm, ?_, ?_⟩
    · ext sequence
      rw [summarises.sequence_iff candidate values stored,
        mem_arrivals_iff]
      constructor
      · rintro ⟨probe, isCounted, isCandidate, isSequence⟩
        obtain ⟨datagram, isSent, rfl, isRead⟩ :=
          (countedIff probe).mp isCounted
        exact ⟨datagram, isSent, isCandidate, isSequence, isRead⟩
      · rintro ⟨datagram, isSent, isCandidate, isSequence, isRead⟩
        exact ⟨_, (countedIff _).mpr ⟨datagram, isSent, rfl, isRead⟩,
          isCandidate, isSequence⟩
    · exact ⟨_, mem_arrivals_iff.mpr
        ⟨datagram, isSent, isCandidate, rfl, isRead⟩⟩
  · rintro candidate ⟨sequence, arrived⟩
    obtain ⟨datagram, isSent, isCandidate, _, isRead⟩ :=
      mem_arrivals_iff.mp arrived
    have present :=
      (summarises.present_iff candidate).mpr
        ⟨_, (countedIff _).mpr ⟨datagram, isSent, rfl, isRead⟩,
          isCandidate⟩
    obtain ⟨values, stored⟩ := OrderedDict.mem_keys_iff.mp present
    exact ⟨values, OrderedDict.get?_eq_some_iff.mp stored⟩

/-- The verdict of a table of one scan. -/
theorem choice_of_scan
    (sends :
      ∀ datagram ∈ sent, setup.Sends (.ofDigests mac) candidates datagram)
    (authentic :
      ∀ delivery ∈ deliveries,
        accepts (.ofDigests mac) setup.tunnelId setup.sharedSecret
            delivery = true →
          ∃ datagram ∈ sent, datagram.packet = delivery.packet)
    (candidate : String) :
    printReceiverTable
        (tableOf (countedProbes (.ofDigests mac) setup.tunnelId
          setup.sharedSecret deliveries)) = some candidate ↔
      Wins (arrivals sent deliveries) setup.probesPerIp candidate := by
  obtain ⟨rows, present⟩ := table_of_scan sends authentic
  have sequences :
      ∀ input ∈ countedProbes (.ofDigests mac) setup.tunnelId
          setup.sharedSecret deliveries,
        1 ≤ input.1.sequence ∧
          input.1.sequence ≤ input.1.totalProbes :=
    sequence_of_countedProbes
  have inRange := inRange_tableOf sequences
  generalize tableOf (countedProbes (.ofDigests mac) setup.tunnelId
    setup.sharedSecret deliveries) = stats at *
  have positive
      (arrived :
        ∃ other, (arrivals sent deliveries other).Nonempty) :
      1 ≤ setup.probesPerIp := by
    obtain ⟨other, sequence, member⟩ := arrived
    obtain ⟨datagram, isSent, _⟩ := mem_arrivals_iff.mp member
    have inOrder := (sends datagram isSent).sequence
    omega
  have received
      (name : String)
      (values : SourceStats)
      (inTable : (name, values) ∈ stats.entries) :
      values.received = (arrivals sent deliveries name).card := by
    rw [SourceStats.received, (rows _ inTable).2.1]
  have declared
      (name : String)
      (values : SourceStats)
      (inTable : (name, values) ∈ stats.entries) :
      values.declared = setup.probesPerIp ∧ 1 ≤ values.declared := by
    obtain ⟨isTotal, _, arrived⟩ := rows _ inTable
    exact ⟨isTotal, isTotal ▸ positive ⟨name, arrived⟩⟩
  rw [printReceiverTable_eq_some_iff inRange
    fun entry => declared entry.1 entry.2]
  constructor
  · rintro ⟨values, inTable, qualifies, best⟩
    have isReceived := received _ _ inTable
    obtain ⟨isTotal, atLeastOne⟩ := declared _ _ inTable
    have lost :
        5 * (values.declared - values.received) ≤ values.declared :=
      ((inRange _ inTable).lossPercent_le_iff
        (show values.declared ≠ 0 by omega)).mp qualifies.loss
    have enough := qualifies.received
    rw [isReceived] at lost enough
    rw [isTotal] at lost
    refine ⟨by omega, lost, ?_⟩
    intro other
    by_cases arrived : (arrivals sent deliveries other).Nonempty
    · obtain ⟨others, otherInTable⟩ := present other arrived
      have compared :
          others.received < values.received ∨
            others.received = values.received ∧ candidate ≤ other :=
        best _ otherInTable
      rw [received _ _ otherInTable, isReceived] at compared
      exact_mod_cast compared
    · -- Nothing arrived of it, so it is beaten by any winner.
      rw [Finset.not_nonempty_iff_eq_empty.mp arrived, Finset.card_empty]
      exact .inl (by omega)
  · rintro ⟨enough, lost, best⟩
    have arrived : (arrivals sent deliveries candidate).Nonempty :=
      Finset.card_pos.mp (by omega)
    obtain ⟨values, inTable⟩ := present candidate arrived
    have isReceived := received _ _ inTable
    obtain ⟨isTotal, atLeastOne⟩ := declared _ _ inTable
    have atMost : values.received ≤ values.declared :=
      (inRange _ inTable).received_le
    refine ⟨values, inTable, ⟨by omega, by omega, ?_⟩, ?_⟩
    · refine ((inRange _ inTable).lossPercent_le_iff
        (show values.declared ≠ 0 by omega)).mpr ?_
      change 5 * (values.declared - values.received) ≤ values.declared
      rw [isReceived, isTotal]
      exact lost
    · rintro ⟨other, others⟩ otherInTable
      have compared := best other
      change others.received < values.received ∨
        others.received = values.received ∧ candidate ≤ other
      rw [received _ _ otherInTable, isReceived]
      exact_mod_cast compared

/--
One scan, end to end.  Whatever happens to the probes on their way, as long
as only probes of the scan decode, the receiver names a candidate exactly if
it wins by the probes read in time; the named candidate is one the scanner
could bind.
-/
theorem one_scan_names_winner
    (mac : (secret message : Bytes) → Sha256Digest)
    (setup : ScannerSetup)
    (candidates : List (String × CandidateSocket))
    (receiver : ScanSetup)
    (turns : List ScanTurn)
    (isIran : receiver.role = .iran)
    (sameTunnel : receiver.tunnelId = setup.tunnelId)
    (sameSecret : receiver.sharedSecret = setup.sharedSecret)
    (authentic :
      ∀ delivery ∈ delivered receiver.deadline turns,
        accepts (.ofDigests mac) setup.tunnelId setup.sharedSecret
            delivery = true →
          ∃ datagram ∈ (setup.runScanner (.ofDigests mac) candidates).sent,
            datagram.packet = delivery.packet) :
    ∃ best,
      runReceiver (.ofDigests mac) receiver turns =
          receiver.conclude best ∧
        (∀ candidate,
          best = some candidate ↔
            Wins
              (arrivals
                (setup.runScanner (.ofDigests mac) candidates).sent
                (delivered receiver.deadline turns))
              setup.probesPerIp candidate) ∧
        ∀ candidate,
          best = some candidate →
            ∃ socket, (candidate, socket) ∈ candidates ∧
              socket.bindError = none := by
  have sends :
      ∀ datagram ∈ (setup.runScanner (.ofDigests mac) candidates).sent,
        setup.Sends (.ofDigests mac) candidates datagram :=
    fun _ => ScannerSetup.sends_of_mem_sent
  have named :=
    choice_of_scan sends authentic
  refine ⟨printReceiverTable
    (tableOf (receiver.counted (.ofDigests mac) turns)), ?_, ?_, ?_⟩
  · rw [runReceiver_eq, if_neg (not_not.mpr isIran)]
  · rw [ScanSetup.counted, sameTunnel, sameSecret]
    exact named
  · rw [ScanSetup.counted, sameTunnel, sameSecret]
    intro candidate isNamed
    have wins := (named candidate).mp isNamed
    obtain ⟨sequence, member⟩ :=
      Finset.card_pos.mp (Nat.lt_of_lt_of_le (by decide) wins.enough)
    obtain ⟨datagram, isSent, isSource, _⟩ := mem_arrivals_iff.mp member
    exact isSource ▸ (sends datagram isSent).bound

end OneScan

/-- A digest that does not depend on what is signed. -/
def zeroDigest : Sha256Digest where
  bytes := List.replicate 32 0
  length := rfl

/-- A scan with three probes for each candidate. -/
def shortScan : ScannerSetup where
  role := .foreign
  tunnelId := List.replicate 16 7
  sharedSecret := List.replicate 32 9
  probesPerIp := 3

/-- The second candidate is not an address of this host. -/
def shortScanCandidates : List (String × CandidateSocket) := [
  ("127.0.0.1", { clockNs := fun sequence => sequence }),
  ("192.0.2.1", { bindError := some "Cannot assign requested address" })]

/-- Its receiver. -/
def shortScanReceiver : ScanSetup where
  role := .iran
  tunnelId := shortScan.tunnelId
  sharedSecret := shortScan.sharedSecret

/-- All that was sent arrives, the last probe first and then again. -/
def shortScanTurns : List ScanTurn :=
  let sent :=
    (shortScan.runScanner (.ofDigests fun _ _ => zeroDigest)
      shortScanCandidates).sent
  (sent.reverse ++ sent).map fun datagram => {
    clock := 0
    delivery := some {
      packet := datagram.packet
      peer := datagram.source
      decodedNs := 10
      recordedNs := 11 } }

/-- A scan of which everything arrives names its candidate. -/
theorem one_scan_names_winner_three_probes :
    Wins
        (arrivals
          (shortScan.runScanner (.ofDigests fun _ _ => zeroDigest)
            shortScanCandidates).sent
          (delivered shortScanReceiver.deadline shortScanTurns))
        3 "127.0.0.1" ∧
      runReceiver (.ofDigests fun _ _ => zeroDigest) shortScanReceiver
          shortScanTurns =
        .ok (some "127.0.0.1") := by
  have ran :
      runReceiver (.ofDigests fun _ _ => zeroDigest) shortScanReceiver
          shortScanTurns =
        .ok (some "127.0.0.1") := by
    decide +kernel
  obtain ⟨best, concludes, named, _⟩ :=
    one_scan_names_winner (fun _ _ => zeroDigest) shortScan
      shortScanCandidates shortScanReceiver shortScanTurns rfl rfl rfl
      (by decide +kernel)
  have isBest : best = some "127.0.0.1" :=
    Except.ok.inj (concludes.symm.trans ran)
  exact ⟨(named _).mp isBest, ran⟩

end H3ntun

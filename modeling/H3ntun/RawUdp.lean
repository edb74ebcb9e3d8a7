import H3ntun.Foundation.OnesComplement
import H3ntun.Ipv4

namespace H3ntun

open StructPack

/-!
# Raw IPv4 and UDP packets

The packet builder with the checksum of its two headers.  The checksum loop
folds the carries of the plain total of the words back in; the result is the
complement of their one's-complement sum, so a packet that carries it sums to
zero.
-/

/-- A whole number of words, the last one padded with a zero byte. -/
def padded (data : Bytes) : Bytes :=
  if data.length % 2 ≠ 0 then data ++ [0] else data

/-- `struct.unpack("!...H", data)`. -/
def wordsOf : Bytes → List Nat
  | high :: low :: rest => ofBigEndian [high, low] :: wordsOf rest
  | _ => []

theorem lowWord_eq
    (total : Nat) :
    total &&& 0xFFFF = total % 65536 :=
  Nat.and_two_pow_sub_one_eq_mod total 16

/-- The loop `while total >> 16`. -/
def foldCarries (total : Nat) : Nat :=
  if total >>> 16 = 0 then
    total
  else
    foldCarries ((total &&& 0xFFFF) + (total >>> 16))
termination_by total
decreasing_by
  rename_i carries
  rw [lowWord_eq]
  rw [Nat.shiftRight_eq_div_pow] at carries ⊢
  omega

/-- `internet_checksum`; `~total & 0xFFFF` is a complement of sixteen bits. -/
def internetChecksum (data : Bytes) : Nat :=
  let total := (wordsOf (padded data)).sum
  (~~~ BitVec.ofNat 16 (foldCarries total)).toNat

/-- `!HHHH` -/
def udpFormat : List Item :=
  [.unsigned 2, .unsigned 2, .unsigned 2, .unsigned 2]

/-- `!BBH` -/
def pseudoFormat : List Item :=
  [.unsigned 1, .unsigned 1, .unsigned 2]

/-- `!BBHHHBBH4s4s` -/
def ipFormat : List Item :=
  [.unsigned 1, .unsigned 1, .unsigned 2, .unsigned 2, .unsigned 2,
    .unsigned 1, .unsigned 1, .unsigned 2, .bytes 4, .bytes 4]

/-- `socket.IPPROTO_UDP` -/
def ipprotoUdp : Nat := 17

/-- The UDP header around a checksum. -/
def udpHeader
    (sourcePort destinationPort : Int)
    (udpLen checksum : Nat) :
    Except Failure Bytes :=
  structPack udpFormat
    [.int sourcePort, .int destinationPort, .int udpLen, .int checksum]

/-- The addresses, the protocol and the length, as the checksum sees them. -/
def pseudoHeader
    (src dst : Bytes)
    (udpLen : Nat) :
    Except Failure Bytes := do
  let rest ← structPack pseudoFormat
    [.int 0, .int ipprotoUdp, .int udpLen]
  return src ++ dst ++ rest

/-- The IPv4 header around a checksum. -/
def ipHeader
    (src dst : Bytes)
    (totalLen : Nat)
    (packetId : Int)
    (checksum : Nat) :
    Except Failure Bytes :=
  structPack ipFormat
    [.int 0x45, .int 0, .int totalLen, .int packetId, .int 0x4000, .int 64,
      .int ipprotoUdp, .int checksum, .bytes src, .bytes dst]

/--
`build_ipv4_udp_packet`; `drawn` stands for `random.randint(0, 65535)`, read
only when no identifier is given.
-/
def buildIpv4UdpPacket
    (drawn : Int)
    (sourceIp : String)
    (sourcePort : Int)
    (destinationIp : String)
    (destinationPort : Int)
    (payload : Bytes)
    (packetId : Option Int) :
    Except Failure Bytes := do
  let src := (← IPv4Address.ofText sourceIp).packed
  let dst := (← IPv4Address.ofText destinationIp).packed
  if ¬ (0 ≤ sourcePort ∧ sourcePort ≤ 65535) ∨
      ¬ (0 ≤ destinationPort ∧ destinationPort ≤ 65535) then
    .error (.valueError "UDP port is outside 0..65535")
  else if payload.length > 65507 then
    .error (.valueError "UDP payload is too large")
  else
    let udpLen := 8 + payload.length
    let udpHeaderZero ← udpHeader sourcePort destinationPort udpLen 0
    let pseudo ← pseudoHeader src dst udpLen
    let computed := internetChecksum (pseudo ++ udpHeaderZero ++ payload)
    -- `or 0xFFFF`: a zero checksum field would mean that there is none.
    let udpChecksum := if computed = 0 then 0xFFFF else computed
    let udpHeader ←
      udpHeader sourcePort destinationPort udpLen udpChecksum
    let totalLen := 20 + udpLen
    let packetId := packetId.getD drawn
    let ipHeaderZero ← ipHeader src dst totalLen packetId 0
    let ipChecksum := internetChecksum ipHeaderZero
    let ipHeader ← ipHeader src dst totalLen packetId ipChecksum
    return ipHeader ++ udpHeader ++ payload

end H3ntun

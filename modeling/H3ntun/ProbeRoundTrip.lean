import H3ntun.ProbePackets

namespace H3ntun

open StructPack

/-!
# Decoded probes are encoded probes

`encode_probe` checks its arguments before it signs and `decode_probe` checks
its fields after it has verified.  For one tunnel identifier and one secret
both leave the same packets, for every keyed hash.
-/

/-- A digest of SHA-256. -/
structure Sha256Digest where
  bytes : Bytes
  length : bytes.length = 32

/-- A keyed hash with digests of the right length. -/
def HmacSha256.ofDigests
    (mac : (secret message : Bytes) → Sha256Digest) : HmacSha256 :=
  fun secret message => (mac secret message).bytes

namespace Probe

variable {tunnelId secret packet : Bytes} {nowNs : Int}

/-- With arguments in range, encoding signs the prefix and packs the rest. -/
theorem encode_eq_ok_iff
    {hmac : HmacSha256}
    {clockNs : Int}
    (ip : IPv4Address)
    {sequence total timestampNs : Int}
    (tunnelLength : tunnelId.length = 16)
    (secretLength : 32 ≤ secret.length)
    (sequenceInRange : 1 ≤ sequence ∧ sequence ≤ total) :
    encode hmac clockNs tunnelId secret ip.text sequence total
        (some timestampNs) = .ok packet ↔
      ∃ signed,
        structPack probePrefix
            [.bytes probeMagic, .bytes tunnelId, .bytes ip.packed,
              .int sequence, .int total, .int timestampNs] =
          .ok signed ∧
        structPack probeHeader
            [.bytes probeMagic, .bytes tunnelId, .bytes ip.packed,
              .int sequence, .int total, .int timestampNs,
              .bytes ((hmac secret signed).take 16)] =
          .ok packet := by
  have credentials : ¬ (tunnelId.length ≠ 16 ∨ secret.length < 32) := by
    omega
  have isAddress : IPv4Address.ofText ip.text = .ok ip := by
    rw [IPv4Address.ofText, IPv4Address.ofText?_text]
  rw [encode, if_neg credentials, if_neg (not_not.mpr sequenceInRange),
    isAddress]
  simp only [ok_bind]
  exact bind_eq_ok_iff

/-- A decoded probe was encoded from its own values. -/
theorem encode_of_decode
    {hmac : HmacSha256}
    {probe : Probe}
    (tunnelLength : tunnelId.length = 16)
    (secretLength : 32 ≤ secret.length)
    (accepted : decode hmac packet tunnelId secret nowNs = .ok probe) :
    ∃ (ip : IPv4Address) (sequence total timestampNs : Int),
      1 ≤ sequence ∧ sequence ≤ total ∧ total < 2 ^ 32 ∧
        0 ≤ timestampNs ∧ timestampNs < 2 ^ 64 ∧
        |nowNs - timestampNs| ≤ 600 * 1000000000 ∧
        (∀ clockNs,
          encode hmac clockNs tunnelId secret ip.text sequence total
              (some timestampNs) =
            .ok packet) ∧
        probe = {
          candidateIp := ip.text
          sequence := sequence
          totalProbes := total
          timestampNs := timestampNs } := by
  obtain ⟨fields, sized, magic, tunnel, tag, first, last, fresh, rfl⟩ :=
    decode_ok accepted
  obtain ⟨fits, packed⟩ := pack_unpackFrom fields.unpacked
  simp only [Fits, probeHeader, List.forall₂_cons, Item.Fits,
    List.forall₂_nil_right_iff] at fits
  obtain ⟨_, _, _, _, total, timestamp, _⟩ := fits
  refine ⟨fields.address, fields.sequence, fields.total,
    fields.timestampNs, first, last, by omega, timestamp.1, by omega, fresh,
    ?_, rfl⟩
  intro clockNs
  rw [encode_eq_ok_iff fields.address tunnelLength secretLength
    ⟨first, last⟩]
  rw [← sized, List.take_length] at packed
  have signed := fields.packed
  rw [IPv4Address.packed_of_ofPacked? fields.isAddress, ← magic, ← tunnel]
  refine ⟨fields.signed, signed, ?_⟩
  rw [← tag]
  exact structPack_eq_ok packed

/-- An encoded packet is decoded to the values it was encoded from. -/
theorem decode_of_encode
    (mac : (secret message : Bytes) → Sha256Digest)
    {ip : IPv4Address}
    {sequence total timestampNs clockNs : Int}
    (tunnelLength : tunnelId.length = 16)
    (secretLength : 32 ≤ secret.length)
    (first : 1 ≤ sequence)
    (last : sequence ≤ total)
    (totalFits : total < 2 ^ 32)
    (timestampInRange : 0 ≤ timestampNs ∧ timestampNs < 2 ^ 64)
    (fresh : |nowNs - timestampNs| ≤ 600 * 1000000000)
    (encoded :
      encode (.ofDigests mac) clockNs tunnelId secret ip.text sequence total
          (some timestampNs) =
        .ok packet) :
    decode (.ofDigests mac) packet tunnelId secret nowNs =
      .ok {
        candidateIp := ip.text
        sequence := sequence
        totalProbes := total
        timestampNs := timestampNs } := by
  obtain ⟨signed, signs, packs⟩ :=
    (encode_eq_ok_iff ip tunnelLength secretLength ⟨first, last⟩).mp encoded
  have fits :
      Fits probeHeader
        [.bytes probeMagic, .bytes tunnelId, .bytes ip.packed,
          .int sequence, .int total, .int timestampNs,
          .bytes ((HmacSha256.ofDigests mac secret signed).take 16)] := by
    have digest := (mac secret signed).length
    simp only [Fits, probeHeader, List.forall₂_cons, Item.Fits,
      List.forall₂_nil_right_iff, HmacSha256.ofDigests, List.length_take]
    exact ⟨rfl, tunnelLength, ip.length_packed, by omega, by omega,
      by omega, by omega, trivial⟩
  obtain ⟨other, otherPacked, unpacked⟩ := unpackFrom_pack fits []
  have isPacket : other = packet := by
    rw [structPack_eq_ok otherPacked] at packs
    exact Except.ok.inj packs
  rw [isPacket, List.append_nil] at unpacked
  rw [isPacket] at otherPacked
  let fields : ProbeFields packet := {
    magic := probeMagic
    receivedTunnel := tunnelId
    candidate := ip.packed
    sequence := sequence
    total := total
    timestampNs := timestampNs
    tag := (HmacSha256.ofDigests mac secret signed).take 16
    signed := signed
    address := ip
    unpacked := unpacked
    packed := signs
    isAddress := ip.ofPacked?_packed
  }
  have identity :
      ¬ (fields.magic ≠ probeMagic ∨ fields.receivedTunnel ≠ tunnelId) := by
    simp [fields]
  have inRange :
      ¬ ¬ (1 ≤ fields.sequence ∧ fields.sequence ≤ fields.total) :=
    not_not.mpr ⟨first, last⟩
  have notStale :
      ¬ |nowNs - fields.timestampNs| > maxClockSkewSeconds * 1000000000 :=
    not_lt.mpr fresh
  rw [decode_eq _ tunnelId secret nowNs (length_of_pack otherPacked) fields,
    if_neg identity, if_neg (not_not.mpr rfl), if_neg inRange,
    if_neg notStale]
  rfl

/--
For every tunnel identifier, secret and keyed hash, a packet is decoded to a
probe if and only if it is the encoding of the values of the probe and its
time stamp is not too far away; all other packets raise `ProbeError`.
-/
theorem decode_accepts_exactly_encoded
    (mac : (secret message : Bytes) → Sha256Digest)
    {tunnelId secret : Bytes}
    (tunnelLength : tunnelId.length = 16)
    (secretLength : 32 ≤ secret.length)
    (packet : Bytes)
    (nowNs : Int) :
    (∀ probe,
      decode (.ofDigests mac) packet tunnelId secret nowNs = .ok probe ↔
        ∃ (ip : IPv4Address) (sequence total timestampNs : Int),
          1 ≤ sequence ∧ sequence ≤ total ∧ total < 2 ^ 32 ∧
            0 ≤ timestampNs ∧ timestampNs < 2 ^ 64 ∧
            |nowNs - timestampNs| ≤ 600 * 1000000000 ∧
            (∀ clockNs,
              encode (.ofDigests mac) clockNs tunnelId secret ip.text
                  sequence total (some timestampNs) =
                .ok packet) ∧
            probe = {
              candidateIp := ip.text
              sequence := sequence
              totalProbes := total
              timestampNs := timestampNs }) ∧
      ∀ failure,
        decode (.ofDigests mac) packet tunnelId secret nowNs =
            .error failure →
          ∃ message, failure = .probeError message := by
  refine ⟨?_, decode_error⟩
  intro probe
  constructor
  · exact encode_of_decode tunnelLength secretLength
  · rintro ⟨ip, sequence, total, timestampNs, first, last, totalFits,
      nonnegative, timestampFits, fresh, encoded, rfl⟩
    exact decode_of_encode mac tunnelLength secretLength first last
      totalFits ⟨nonnegative, timestampFits⟩ fresh (encoded 0)

/-- The digest of one prefix under the bytes from 0 to 31. -/
def oneDigest : Sha256Digest where
  bytes := [
    24, 101, 185, 247, 144, 45, 6, 195, 25, 234, 247, 119, 151, 220, 210,
    119, 175, 200, 255, 98, 173, 31, 241, 184, 238, 132, 29, 253, 196,
    70, 191, 233]
  length := rfl

/-- A probe from 127.0.0.1, the first of two, of the first second. -/
def oneProbe : Bytes := [
  72, 89, 80, 82, 79, 66, 69, 49, 0, 1, 2, 3, 4, 5, 6, 7, 8, 9, 10, 11,
  12, 13, 14, 15, 127, 0, 0, 1, 0, 0, 0, 1, 0, 0, 0, 2, 0, 0, 0, 0, 59,
  154, 202, 0, 24, 101, 185, 247, 144, 45, 6, 195, 25, 234, 247, 119,
  151, 220, 210, 119]

/-- A probe of the right age is decoded. -/
theorem decode_accepts_exactly_encoded_one :
    decode (.ofDigests fun _ _ => oneDigest) oneProbe
        ((List.range 16).map UInt8.ofNat) ((List.range 32).map UInt8.ofNat)
        5000000000 =
      .ok {
        candidateIp := "127.0.0.1"
        sequence := 1
        totalProbes := 2
        timestampNs := 1000000000 } := by
  refine ((decode_accepts_exactly_encoded (fun _ _ => oneDigest)
    (by decide) (by decide) oneProbe 5000000000).1 _).mpr
      ⟨⟨127, 0, 0, 1⟩, 1, 2, 1000000000, by decide, by decide, by decide,
        by decide, by decide, by decide, ?_, by decide +kernel⟩
  intro clockNs
  rw [encode_eq_ok_iff _ (by decide) (by decide) (by decide)]
  exact ⟨oneProbe.take 44, by decide +kernel, by decide +kernel⟩

end Probe

end H3ntun

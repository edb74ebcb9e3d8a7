import H3ntun.SourceScanner

namespace H3ntun

open StructPack

/-!
# Reading probe packets

A packet of the right length always unpacks, its prefix packs again and its
address bytes are an address.  What remains of `decode_probe` are its guards,
so it raises `ProbeError` only, and the probe it returns depends on the packet
alone.
-/

/-- The fields of a packet, with the prefix they pack to. -/
structure ProbeFields (packet : Bytes) where
  magic : Bytes
  receivedTunnel : Bytes
  candidate : Bytes
  sequence : Int
  total : Int
  timestampNs : Int
  tag : Bytes
  signed : Bytes
  address : IPv4Address
  unpacked :
    unpackFrom probeHeader packet =
      some [.bytes magic, .bytes receivedTunnel, .bytes candidate,
        .int sequence, .int total, .int timestampNs, .bytes tag]
  packed :
    structPack probePrefix
        [.bytes magic, .bytes receivedTunnel, .bytes candidate,
          .int sequence, .int total, .int timestampNs] =
      .ok signed
  isAddress : IPv4Address.ofPacked? candidate = some address

namespace ProbeFields

/-- The probe these fields describe. -/
def probe {packet : Bytes} (fields : ProbeFields packet) : Probe where
  candidateIp := fields.address.text
  sequence := fields.sequence
  totalProbes := fields.total
  timestampNs := fields.timestampNs

end ProbeFields

/-- A packet of the right length has its fields. -/
theorem exists_probeFields
    {packet : Bytes}
    (sized : packet.length = size probeHeader) :
    Nonempty (ProbeFields packet) := by
  have shape :
      ∃ magic receivedTunnel candidate sequence total timestampNs tag,
        unpackFrom probeHeader packet =
          some [.bytes magic, .bytes receivedTunnel, .bytes candidate,
            .int sequence, .int total, .int timestampNs, .bytes tag] := by
    have isSixty : packet.length = 60 := sized
    simp [unpackFrom, probeHeader, Item.size, Item.read, isSixty]
  obtain ⟨magic, receivedTunnel, candidate, sequence, total, timestampNs,
    tag, unpacked⟩ := shape
  obtain ⟨magicFits, fits⟩ :=
    List.forall₂_cons.mp (pack_unpackFrom unpacked).1
  obtain ⟨tunnelFits, fits⟩ := List.forall₂_cons.mp fits
  obtain ⟨candidateFits, fits⟩ := List.forall₂_cons.mp fits
  obtain ⟨sequenceFits, fits⟩ := List.forall₂_cons.mp fits
  obtain ⟨totalFits, fits⟩ := List.forall₂_cons.mp fits
  obtain ⟨timestampFits, _⟩ := List.forall₂_cons.mp fits
  have prefixFits :
      Fits probePrefix
        [.bytes magic, .bytes receivedTunnel, .bytes candidate,
          .int sequence, .int total, .int timestampNs] :=
    .cons magicFits (.cons tunnelFits (.cons candidateFits
      (.cons sequenceFits (.cons totalFits
        (.cons timestampFits .nil)))))
  obtain ⟨signed, packed, _⟩ := unpackFrom_pack prefixFits []
  obtain ⟨address, isAddress⟩ :=
    IPv4Address.ofPacked?_of_length candidateFits
  exact ⟨{
    magic := magic
    receivedTunnel := receivedTunnel
    candidate := candidate
    sequence := sequence
    total := total
    timestampNs := timestampNs
    tag := tag
    signed := signed
    address := address
    unpacked := unpacked
    packed := structPack_eq_ok packed
    isAddress := isAddress
  }⟩

namespace Probe

variable {hmac : HmacSha256} {packet tunnelId secret : Bytes} {nowNs : Int}

/-- With its fields at hand, decoding a packet is a chain of guards. -/
theorem decode_eq
    (hmac : HmacSha256)
    (tunnelId secret : Bytes)
    (nowNs : Int)
    (sized : packet.length = size probeHeader)
    (fields : ProbeFields packet) :
    decode hmac packet tunnelId secret nowNs =
      if fields.magic ≠ probeMagic ∨ fields.receivedTunnel ≠ tunnelId then
        .error (.probeError "unexpected probe identity")
      else if fields.tag ≠ (hmac secret fields.signed).take 16 then
        .error (.probeError "probe authentication failed")
      else if ¬ (1 ≤ fields.sequence ∧ fields.sequence ≤ fields.total) then
        .error (.probeError "invalid probe sequence")
      else if |nowNs - fields.timestampNs| >
          maxClockSkewSeconds * 1000000000 then
        .error (.probeError "probe timestamp is stale")
      else
        .ok fields.probe := by
  rw [decode, if_neg (not_not.mpr sized), fields.unpacked]
  simp only [fields.packed, ok_bind, fields.isAddress]
  rfl

/-- Decoding raises `ProbeError` only. -/
theorem decode_error :
    ∀ failure,
      decode hmac packet tunnelId secret nowNs = .error failure →
        ∃ message, failure = .probeError message := by
  by_cases sized : packet.length = size probeHeader
  · obtain ⟨fields⟩ := exists_probeFields sized
    rw [decode_eq hmac tunnelId secret nowNs sized fields]
    repeat refine forall_guard_error ⟨_, rfl⟩ ?_
    intro failure fails
    cases fails
  · intro failure fails
    rw [decode, if_pos sized] at fails
    cases fails
    exact ⟨_, rfl⟩

/-- What the guards leave of a decoded probe. -/
theorem decode_ok
    {probe : Probe}
    (accepted : decode hmac packet tunnelId secret nowNs = .ok probe) :
    ∃ fields : ProbeFields packet,
      packet.length = size probeHeader ∧
        fields.magic = probeMagic ∧ fields.receivedTunnel = tunnelId ∧
        fields.tag = (hmac secret fields.signed).take 16 ∧
        1 ≤ fields.sequence ∧ fields.sequence ≤ fields.total ∧
        |nowNs - fields.timestampNs| ≤ maxClockSkewSeconds * 1000000000 ∧
        probe = fields.probe := by
  by_cases sized : packet.length = size probeHeader
  · obtain ⟨fields⟩ := exists_probeFields sized
    rw [decode_eq hmac tunnelId secret nowNs sized fields] at accepted
    simp only [guard_eq_ok_iff, not_or, not_not, not_lt, gt_iff_lt,
      Except.ok.injEq] at accepted
    obtain ⟨⟨magic, tunnel⟩, tag, sequence, fresh, isProbe⟩ := accepted
    exact ⟨fields, sized, magic, tunnel, tag, sequence.1, sequence.2,
      fresh, isProbe.symm⟩
  · rw [decode, if_pos sized] at accepted
    cases accepted

/-- A decoded probe is one of the probes its total declares. -/
theorem sequence_of_decode
    {probe : Probe}
    (accepted : decode hmac packet tunnelId secret nowNs = .ok probe) :
    1 ≤ probe.sequence ∧ probe.sequence ≤ probe.totalProbes := by
  obtain ⟨fields, _, _, _, _, first, last, _, rfl⟩ := decode_ok accepted
  exact ⟨first, last⟩

/-- The fields of a packet are unique. -/
theorem probe_eq_of_fields
    (first second : ProbeFields packet) :
    first.probe = second.probe := by
  have same := first.unpacked.symm.trans second.unpacked
  simp only [Option.some.injEq, List.cons.injEq, Value.bytes.injEq,
    Value.int.injEq, and_true] at same
  obtain ⟨_, _, sameCandidate, sameSequence, sameTotal, sameTimestamp,
    _⟩ := same
  have sameAddress :=
    first.isAddress.symm.trans (sameCandidate ▸ second.isAddress)
  simp only [ProbeFields.probe, sameSequence, sameTotal, sameTimestamp,
    Option.some.inj sameAddress]

/-- The probe of a packet does not depend on when it is decoded. -/
theorem eq_of_decode
    {later : Int}
    {probe other : Probe}
    (accepted : decode hmac packet tunnelId secret nowNs = .ok probe)
    (again : decode hmac packet tunnelId secret later = .ok other) :
    probe = other := by
  obtain ⟨fields, _, _, _, _, _, _, _, rfl⟩ := decode_ok accepted
  obtain ⟨others, _, _, _, _, _, _, _, rfl⟩ := decode_ok again
  exact probe_eq_of_fields fields others

end Probe

end H3ntun

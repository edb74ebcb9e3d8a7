import H3ntun.RawUdp

namespace H3ntun

open StructPack OnesComplement

/-!
# Verifiable checksums

The checksum of a byte string is the complement of the one's-complement sum
of its words.  Hence a header whose checksum field holds the checksum of the
same bytes with a zero field sums to zero; the UDP checksum, sent as `0xFFFF`
when it is zero, does so too.
-/

/-- The carry loop ends with the digit that stands for the total. -/
theorem standsFor_foldCarries
    (total : Nat) :
    StandsFor 65535 (foldCarries total) total := by
  induction total using foldCarries.induct with
  | case1 total noCarry =>
      rw [foldCarries, if_pos noCarry]
      rw [Nat.shiftRight_eq_div_pow] at noCarry
      exact StandsFor.refl (by omega)
  | case2 total carries inductionHypothesis =>
      rw [foldCarries, if_neg carries]
      rw [lowWord_eq, Nat.shiftRight_eq_div_pow] at *
      exact inductionHypothesis.of_folded

/-- Every word is a digit. -/
theorem wordsOf_le
    (data : Bytes) :
    ∀ word ∈ wordsOf data, word ≤ 65535 := by
  induction data using wordsOf.induct with
  | case1 high low rest inductionHypothesis =>
      intro word member
      rcases List.mem_cons.mp member with isFirst | inRest
      · have bound := ofBigEndian_lt [high, low]
        simp only [List.length_cons, List.length_nil] at bound
        omega
      · exact inductionHypothesis word inRest
  | case2 data notTwo =>
      simp [wordsOf]

/-- The result is the complement of the one's-complement sum. -/
theorem internetChecksum_eq
    (data : Bytes) :
    internetChecksum data = 65535 - sum 65535 (wordsOf (padded data)) := by
  have folded := standsFor_foldCarries (wordsOf (padded data)).sum
  have summed := standsFor_sum (wordsOf_le (padded data))
  have same := folded.unique summed
  have atMost := summed.atMost
  simp only [internetChecksum, same, BitVec.toNat_not, BitVec.toNat_ofNat]
  omega

/-- The checksum of a header with a zero field fits the field. -/
theorem internetChecksum_le
    (data : Bytes) :
    internetChecksum data ≤ 65535 := by
  rw [internetChecksum_eq]
  omega

/-- Plain total of the padded words. -/
def wordTotal (data : Bytes) : Nat :=
  (wordsOf (padded data)).sum

theorem wordsOf_append
    {first : Bytes}
    (whole : first.length % 2 = 0)
    (second : Bytes) :
    wordsOf (first ++ second) = wordsOf first ++ wordsOf second := by
  induction first using wordsOf.induct with
  | case1 high low rest inductionHypothesis =>
      have restWhole : rest.length % 2 = 0 := by
        simp only [List.length_cons] at whole
        omega
      simp [wordsOf, inductionHypothesis restWhole]
  | case2 first notTwo =>
      rcases first with _ | ⟨high, _ | ⟨low, rest⟩⟩
      · rfl
      · simp at whole
      · exact absurd rfl (notTwo high low rest)

/-- Totals of whole words add up. -/
theorem wordTotal_append
    {first : Bytes}
    (whole : first.length % 2 = 0)
    (second : Bytes) :
    wordTotal (first ++ second) = wordTotal first + wordTotal second := by
  have isPadded : padded first = first := by simp [padded, whole]
  have padsLast : padded (first ++ second) = first ++ padded second := by
    unfold padded
    rw [List.length_append, Nat.add_mod, whole, Nat.zero_add, Nat.mod_mod]
    split <;> simp
  simp only [wordTotal, padsLast, isPadded, wordsOf_append whole,
    List.sum_append]

theorem wordTotal_bigEndian
    {value : Nat}
    (fits : value ≤ 65535) :
    wordTotal (bigEndian 2 value) = value := by
  have readBack : ofBigEndian (bigEndian 2 value) = value :=
    ofBigEndian_bigEndian (by omega)
  have digits :
      bigEndian 2 value =
        [UInt8.ofNat (value / 256 % 256), UInt8.ofNat (value % 256)] := by
    rfl
  rw [digits] at readBack ⊢
  simp [wordTotal, padded, wordsOf, readBack]

/--
Words that hold their own checksum sum to zero.  The field may also hold the
other representation of the checksum, unless that is zero.
-/
theorem internetChecksum_eq_zero
    {before after : Bytes}
    {field : Nat}
    (whole : before.length % 2 = 0)
    (fits : field ≤ 65535)
    (congruent :
      field ≡ internetChecksum (before ++ bigEndian 2 0 ++ after)
        [MOD 65535])
    (zero :
      field = 0 →
        internetChecksum (before ++ bigEndian 2 0 ++ after) = 0) :
    internetChecksum (before ++ bigEndian 2 field ++ after) = 0 := by
  have total :
      ∀ value ≤ 65535,
        wordTotal (before ++ bigEndian 2 value ++ after) =
          wordTotal before + wordTotal after + value := by
    intro value small
    have wholeField : (before ++ bigEndian 2 value).length % 2 = 0 := by
      simp only [List.length_append, length_bigEndian]
      omega
    rw [wordTotal_append wholeField, wordTotal_append whole,
      wordTotal_bigEndian small]
    omega
  have zeroed :=
    standsFor_sum (wordsOf_le (padded (before ++ bigEndian 2 0 ++ after)))
  have filled :=
    standsFor_sum
      (wordsOf_le (padded (before ++ bigEndian 2 field ++ after)))
  change StandsFor 65535 _ (wordTotal _) at zeroed filled
  rw [total 0 (by omega), Nat.add_zero] at zeroed
  rw [total field fits] at filled
  rw [internetChecksum_eq] at congruent zero
  have notZero : wordTotal before + wordTotal after + field ≠ 0 := by
    intro isZero
    obtain ⟨noTotal, noField⟩ := Nat.add_eq_zero_iff.mp isZero
    have noSum := zeroed.zero_iff.mpr noTotal
    have atTop := zero noField
    omega
  have full := zeroed.complement congruent notZero
  rw [internetChecksum_eq, filled.unique full]

/-- A value of sixteen bits is packed as its digits. -/
theorem pack_word
    {value : Nat}
    (fits : value ≤ 65535) :
    (Item.unsigned 2).pack (.int value) = some (bigEndian 2 value) :=
  Item.pack_unsigned (by omega)

/-- A UDP header in range, as bytes. -/
theorem udpHeader_eq
    {sourcePort destinationPort udpLen checksum : Nat}
    (sourceFits : sourcePort ≤ 65535)
    (destinationFits : destinationPort ≤ 65535)
    (lenFits : udpLen ≤ 65535)
    (checksumFits : checksum ≤ 65535) :
    udpHeader sourcePort destinationPort udpLen checksum =
      .ok (bigEndian 2 sourcePort ++ bigEndian 2 destinationPort ++
        bigEndian 2 udpLen ++ bigEndian 2 checksum) := by
  have packed :=
    pack_cons (pack_word sourceFits)
      (pack_cons (pack_word destinationFits)
        (pack_cons (pack_word lenFits)
          (pack_cons (pack_word checksumFits) pack_nil)))
  rw [udpHeader, udpFormat, structPack_eq_ok packed]
  simp only [List.append_nil, List.append_assoc]

/-- The pseudo-header, as bytes. -/
theorem pseudoHeader_eq
    {src dst : Bytes}
    {udpLen : Nat}
    (lenFits : udpLen ≤ 65535) :
    pseudoHeader src dst udpLen =
      .ok (src ++ dst ++ [0, 17] ++ bigEndian 2 udpLen) := by
  have constants :
      (Item.unsigned 1).pack (.int 0) = some [0] ∧
        (Item.unsigned 1).pack (.int ipprotoUdp) = some [17] := by
    decide
  have packed :=
    pack_cons constants.1
      (pack_cons constants.2 (pack_cons (pack_word lenFits) pack_nil))
  rw [pseudoHeader, pseudoFormat, structPack_eq_ok packed]
  simp [bind, Except.bind, pure, Except.pure]

/-- Bytes of the IPv4 header before its checksum. -/
def ipHeaderStart
    (totalLen packetId : Nat) :
    Bytes :=
  [0x45, 0] ++ bigEndian 2 totalLen ++ bigEndian 2 packetId ++
    [0x40, 0, 64, 17]

/-- The IPv4 header, as bytes. -/
theorem ipHeader_eq
    (source destination : IPv4Address)
    {totalLen packetId checksum : Nat}
    (lenFits : totalLen ≤ 65535)
    (idFits : packetId ≤ 65535)
    (checksumFits : checksum ≤ 65535) :
    ipHeader source.packed destination.packed totalLen packetId checksum =
      .ok (ipHeaderStart totalLen packetId ++ bigEndian 2 checksum ++
        (source.packed ++ destination.packed)) := by
  have constants :
      (Item.unsigned 1).pack (.int 0x45) = some [0x45] ∧
        (Item.unsigned 1).pack (.int 0) = some [0] ∧
        (Item.unsigned 2).pack (.int 0x4000) = some [0x40, 0] ∧
        (Item.unsigned 1).pack (.int 64) = some [64] ∧
        (Item.unsigned 1).pack (.int ipprotoUdp) = some [17] := by
    decide
  obtain ⟨version, service, fragment, ttl, protocol⟩ := constants
  have packed :=
    pack_cons version <| pack_cons service <|
      pack_cons (pack_word lenFits) <| pack_cons (pack_word idFits) <|
      pack_cons fragment <| pack_cons ttl <| pack_cons protocol <|
      pack_cons (pack_word checksumFits) <|
      pack_cons (Item.pack_bytes source.length_packed) <|
      pack_cons (Item.pack_bytes destination.length_packed) pack_nil
  rw [ipHeader, ipFormat, structPack_eq_ok packed]
  simp [ipHeaderStart]

/-- The checksum field of a packet's UDP header. -/
def udpField (packet : Bytes) : Nat :=
  ofBigEndian ((packet.drop 26).take 2)

/-- What the UDP checksum of a packet covers. -/
def covered
    (source destination : IPv4Address)
    (payload udp : Bytes) :
    Bytes :=
  source.packed ++ destination.packed ++ [0, 17] ++
    bigEndian 2 (8 + payload.length) ++ udp

/-- A packet both of whose checksums can be verified. -/
structure Verifies
    (source destination : IPv4Address)
    (payload packet : Bytes) : Prop where
  length : packet.length = 28 + payload.length
  carries : packet.drop 28 = payload
  ip : internetChecksum (packet.take 20) = 0
  udp :
    internetChecksum
      (covered source destination payload (packet.drop 20)) = 0
  present : udpField packet ≠ 0
  /-- The field is the checksum with a zero field, or `0xFFFF` for zero. -/
  field :
    let zeroed :=
      internetChecksum
        (covered source destination payload
          ((packet.drop 20).take 6 ++ [0, 0] ++ packet.drop 28))
    udpField packet = if zeroed = 0 then 0xFFFF else zeroed

/-- Bytes of the UDP header before its checksum. -/
def udpHeaderStart
    (sourcePort destinationPort udpLen : Nat) :
    Bytes :=
  bigEndian 2 sourcePort ++ bigEndian 2 destinationPort ++
    bigEndian 2 udpLen

/-- Where the parts of a packet start. -/
theorem drops_of_layout
    {ipHeader udpStart field : Bytes}
    (payload : Bytes)
    (ipLength : ipHeader.length = 20)
    (udpStartLength : udpStart.length = 6)
    (fieldLength : field.length = 2) :
    (ipHeader ++ (udpStart ++ field) ++ payload).drop 20 =
        udpStart ++ (field ++ payload) ∧
      (ipHeader ++ (udpStart ++ field) ++ payload).drop 26 =
        field ++ payload ∧
      (ipHeader ++ (udpStart ++ field) ++ payload).drop 28 = payload := by
  have twenty :
      (ipHeader ++ (udpStart ++ field) ++ payload).drop 20 =
        udpStart ++ (field ++ payload) := by
    rw [List.append_assoc, List.drop_left' ipLength, List.append_assoc]
  have twentySix :
      (ipHeader ++ (udpStart ++ field) ++ payload).drop 26 =
        field ++ payload := by
    rw [show 26 = 20 + 6 from rfl, ← List.drop_drop, twenty,
      List.drop_left' udpStartLength]
  refine ⟨twenty, twentySix, ?_⟩
  rw [show 28 = 26 + 2 from rfl, ← List.drop_drop, twentySix,
    List.drop_left' fieldLength]

/-- The two headers around their checksums make a packet that verifies. -/
theorem verifies_of_headers
    (source destination : IPv4Address)
    (payload : Bytes)
    {ipStart udpStart : Bytes}
    {ipChecksum computed udpChecksum : Nat}
    (ipStartLength : ipStart.length = 10)
    (udpStartLength : udpStart.length = 6)
    (isIpChecksum :
      ipChecksum =
        internetChecksum
          (ipStart ++ bigEndian 2 0 ++
            (source.packed ++ destination.packed)))
    (isComputed :
      computed =
        internetChecksum
          (covered source destination payload
            (udpStart ++ bigEndian 2 0 ++ payload)))
    (isUdpChecksum :
      udpChecksum = if computed = 0 then 0xFFFF else computed) :
    Verifies source destination payload
      (ipStart ++ bigEndian 2 ipChecksum ++
          (source.packed ++ destination.packed) ++
        (udpStart ++ bigEndian 2 udpChecksum) ++ payload) := by
  have computedLe : computed ≤ 65535 := by
    rw [isComputed]
    exact internetChecksum_le _
  have ipLe : ipChecksum ≤ 65535 := by
    rw [isIpChecksum]
    exact internetChecksum_le _
  have udpLe : udpChecksum ≤ 65535 := by
    rw [isUdpChecksum]
    split <;> omega
  have notZero : udpChecksum ≠ 0 := by
    rw [isUdpChecksum]
    split <;> omega
  have ipLength :
      (ipStart ++ bigEndian 2 ipChecksum ++
        (source.packed ++ destination.packed)).length = 20 := by
    simp [ipStartLength]
  obtain ⟨dropsTwenty, dropsTwentySix, dropsTwentyEight⟩ :=
    drops_of_layout payload ipLength udpStartLength
      (length_bigEndian 2 udpChecksum)
  have isField :
      udpField
          (ipStart ++ bigEndian 2 ipChecksum ++
              (source.packed ++ destination.packed) ++
            (udpStart ++ bigEndian 2 udpChecksum) ++ payload) =
        udpChecksum := by
    rw [udpField, dropsTwentySix,
      List.take_left' (length_bigEndian 2 udpChecksum)]
    exact ofBigEndian_bigEndian (by omega)
  refine {
    length := ?_
    carries := dropsTwentyEight
    ip := ?_
    udp := ?_
    present := ?_
    field := ?_
  }
  · simp only [List.length_append, length_bigEndian, ipStartLength,
      udpStartLength, IPv4Address.length_packed]
  · rw [List.append_assoc, List.take_left' ipLength]
    exact internetChecksum_eq_zero (by omega) ipLe
      (by rw [isIpChecksum]) (by rw [isIpChecksum]; exact id)
  · rw [dropsTwenty]
    have whole :
        (covered source destination payload udpStart).length % 2 = 0 := by
      simp [covered, udpStartLength]
    have spread :
        ∀ field,
          covered source destination payload
              (udpStart ++ (bigEndian 2 field ++ payload)) =
            covered source destination payload udpStart ++
              bigEndian 2 field ++ payload := by
      intro field
      simp [covered]
    rw [List.append_assoc, spread] at isComputed
    rw [spread]
    refine internetChecksum_eq_zero whole udpLe ?_ ?_
    · rw [← isComputed, isUdpChecksum]
      split
      · rename_i isZero
        rw [isZero]
        decide
      · rfl
    · intro isZero
      exact absurd isZero notZero
  · rw [isField]
    exact notZero
  · rw [isField, dropsTwenty, dropsTwentyEight,
      List.take_left' udpStartLength]
    have zeroField : bigEndian 2 0 = [0, 0] := by decide
    rw [zeroField] at isComputed
    rw [← isComputed]
    exact isUdpChecksum

/-- The packet built from arguments in range, around its two checksums. -/
theorem buildIpv4UdpPacket_eq
    (drawn : Int)
    {sourceIp destinationIp : String}
    {source destination : IPv4Address}
    {sourcePort destinationPort identifier : Nat}
    {payload : Bytes}
    {packetId : Option Int}
    {ipChecksum computed udpChecksum : Nat}
    (isSource : IPv4Address.ofText sourceIp = .ok source)
    (isDestination : IPv4Address.ofText destinationIp = .ok destination)
    (sourceFits : sourcePort ≤ 65535)
    (destinationFits : destinationPort ≤ 65535)
    (isIdentifier : packetId.getD drawn = identifier)
    (idFits : identifier ≤ 65535)
    (small : payload.length ≤ 65507)
    (isIpChecksum :
      ipChecksum =
        internetChecksum
          (ipHeaderStart (20 + (8 + payload.length)) identifier ++
            bigEndian 2 0 ++ (source.packed ++ destination.packed)))
    (isComputed :
      computed =
        internetChecksum
          (covered source destination payload
            (udpHeaderStart sourcePort destinationPort
                (8 + payload.length) ++
              bigEndian 2 0 ++ payload)))
    (isUdpChecksum :
      udpChecksum = if computed = 0 then 0xFFFF else computed) :
    buildIpv4UdpPacket drawn sourceIp sourcePort destinationIp
        destinationPort payload packetId =
      .ok
        (ipHeaderStart (20 + (8 + payload.length)) identifier ++
            bigEndian 2 ipChecksum ++
            (source.packed ++ destination.packed) ++
          (udpHeaderStart sourcePort destinationPort
              (8 + payload.length) ++
            bigEndian 2 udpChecksum) ++
          payload) := by
  have inRange :
      ¬ (¬ (0 ≤ (sourcePort : Int) ∧ (sourcePort : Int) ≤ 65535) ∨
        ¬ (0 ≤ (destinationPort : Int) ∧
          (destinationPort : Int) ≤ 65535)) := by
    omega
  have fitsPayload : ¬ payload.length > 65507 := by omega
  have lenFits : 8 + payload.length ≤ 65535 := by omega
  have totalFits : 20 + (8 + payload.length) ≤ 65535 := by omega
  have computedFits : computed ≤ 65535 := by
    rw [isComputed]
    exact internetChecksum_le _
  have udpFits : udpChecksum ≤ 65535 := by
    rw [isUdpChecksum]
    split <;> omega
  have ipFits : ipChecksum ≤ 65535 := by
    rw [isIpChecksum]
    exact internetChecksum_le _
  have sameComputed :
      internetChecksum
          (source.packed ++ destination.packed ++ [0, 17] ++
              bigEndian 2 (8 + payload.length) ++
            (bigEndian 2 sourcePort ++ bigEndian 2 destinationPort ++
              bigEndian 2 (8 + payload.length) ++ bigEndian 2 0) ++
            payload) =
        computed := by
    rw [isComputed, covered, udpHeaderStart]
    simp only [List.append_assoc]
  have zeroUdp :=
    udpHeader_eq sourceFits destinationFits lenFits (Nat.zero_le 65535)
  have udp :=
    udpHeader_eq sourceFits destinationFits lenFits udpFits
  have zeroIp :=
    ipHeader_eq source destination totalFits idFits (Nat.zero_le 65535)
  have ip := ipHeader_eq source destination totalFits idFits ipFits
  have pseudo :
      pseudoHeader source.packed destination.packed
          (8 + payload.length) =
        _ :=
    pseudoHeader_eq lenFits
  rw [buildIpv4UdpPacket, isSource, isDestination]
  simp only [ok_bind]
  rw [if_neg inRange, if_neg fitsPayload, isIdentifier]
  rw [zeroUdp, ok_bind, pseudo, ok_bind, sameComputed, ← isUdpChecksum]
  rw [udp, ok_bind, zeroIp, ok_bind, ← isIpChecksum, ip, ok_bind]
  rfl

/--
Every packet the builder makes from arguments in range verifies, and every
checksum is the complement of the one's-complement sum of the padded words.
-/
theorem built_packets_verify :
    (∀ data : Bytes,
      internetChecksum data =
        65535 - sum 65535 (wordsOf (padded data))) ∧
    ∀ (drawn : Int)
      (sourceIp destinationIp : String)
      (source destination : IPv4Address)
      (sourcePort destinationPort : Int)
      (payload : Bytes)
      (packetId : Option Int),
      IPv4Address.ofText sourceIp = .ok source →
      IPv4Address.ofText destinationIp = .ok destination →
      0 ≤ sourcePort ∧ sourcePort ≤ 65535 →
      0 ≤ destinationPort ∧ destinationPort ≤ 65535 →
      0 ≤ packetId.getD drawn ∧ packetId.getD drawn ≤ 65535 →
      payload.length ≤ 65507 →
      ∃ packet,
        buildIpv4UdpPacket drawn sourceIp sourcePort destinationIp
            destinationPort payload packetId =
          .ok packet ∧
        Verifies source destination payload packet := by
  refine ⟨internetChecksum_eq, ?_⟩
  intro drawn sourceIp destinationIp source destination sourcePort
    destinationPort payload packetId isSource isDestination
    sourceRange destinationRange idRange small
  obtain ⟨sourcePort, rfl⟩ :=
    Int.eq_ofNat_of_zero_le sourceRange.1
  obtain ⟨destinationPort, rfl⟩ :=
    Int.eq_ofNat_of_zero_le destinationRange.1
  obtain ⟨identifier, isIdentifier⟩ :=
    Int.eq_ofNat_of_zero_le idRange.1
  rw [isIdentifier] at idRange
  have sourceFits : sourcePort ≤ 65535 := by omega
  have destinationFits : destinationPort ≤ 65535 := by omega
  have idFits : identifier ≤ 65535 := by omega
  have ipStartLength :
      (ipHeaderStart (20 + (8 + payload.length)) identifier).length =
        10 := by
    rfl
  have udpStartLength :
      (udpHeaderStart sourcePort destinationPort
        (8 + payload.length)).length = 6 := by
    rfl
  exact ⟨_,
    buildIpv4UdpPacket_eq drawn isSource isDestination sourceFits
      destinationFits isIdentifier idFits small rfl rfl rfl,
    verifies_of_headers source destination payload ipStartLength
      udpStartLength rfl rfl rfl⟩

/-- A payload of odd length between two documentation addresses. -/
theorem built_packets_verify_odd :
    ∃ packet,
      buildIpv4UdpPacket 0 "192.0.2.1" 40000 "198.51.100.7" 443 [1, 2, 3]
          (some 7) =
        .ok packet ∧
      Verifies ⟨192, 0, 2, 1⟩ ⟨198, 51, 100, 7⟩ [1, 2, 3] packet :=
  built_packets_verify.2 0 "192.0.2.1" "198.51.100.7" ⟨192, 0, 2, 1⟩
    ⟨198, 51, 100, 7⟩ 40000 443 [1, 2, 3] (some 7) (by decide) (by decide)
    (by decide) (by decide) (by decide) (by decide)

end H3ntun

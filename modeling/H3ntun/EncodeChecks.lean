import H3ntun.FrameCodecRoundTrip

namespace H3ntun

open StructPack

/-!
# What `encode` accepts and how it fails

`encode` checks every field but the two counters before it packs the header.
`_nonce` would refuse a sequence outside of 64 bits, but runs after the
header has been packed.
-/

namespace Header

variable {header : Header}

/-- The rules `encode` checks before it packs the header. -/
structure EncodeRules (header : Header) : Prop where
  rules :
    ∃ kind, header.Rules kind
  messageId :
    0 ≤ header.messageId ∧ header.messageId ≤ 0xFFFFFFFFFFFFFFFF
  messageLen :
    0 ≤ header.messageLen
  fragmentIndex :
    0 ≤ header.fragmentIndex

/-- The sequence and the timestamp fit in 64 bits. -/
structure CountersFit (header : Header) : Prop where
  sequence :
    0 ≤ header.sequence ∧ header.sequence ≤ 0xFFFFFFFFFFFFFFFF
  timestampMs :
    0 ≤ header.timestampMs ∧ header.timestampMs ≤ 0xFFFFFFFFFFFFFFFF

theorem encodeChecks_iff_rules :
    header.encodeChecks = .ok () ↔ header.EncodeRules := by
  rw [encodeChecks_eq_ok_iff]
  constructor
  · rintro ⟨rules, messageId, messageLen, fragmentIndex⟩
    exact ⟨rules, messageId, messageLen, fragmentIndex⟩
  · rintro ⟨rules, messageId, messageLen, fragmentIndex⟩
    exact ⟨rules, messageId, messageLen, fragmentIndex⟩

/-- A refused request is refused with a `ProtocolError`. -/
theorem encodeChecks_error :
    ∀ failure,
      header.encodeChecks = .error failure →
        ∃ message, failure = .protocolError message := by
  unfold encodeChecks
  repeat refine forall_guard_error ⟨_, rfl⟩ ?_
  intro failure refused
  cases refused

end Header

namespace FrameCodec

variable {codec : FrameCodec} {clockMs : Int} {request : EncodeRequest}

/-- A requested header that meets the rules packs if its counters fit. -/
theorem fits_requestHeader_iff
    (rules : (codec.requestHeader clockMs request).EncodeRules) :
    StructPack.Fits aadFormat
        (codec.requestHeader clockMs request).values ↔
      (codec.requestHeader clockMs request).CountersFit := by
  constructor
  · intro fits
    simp only [StructPack.Fits, aadFormat, Header.values,
      List.forall₂_cons, Item.Fits, List.forall₂_nil_right_iff] at fits
    obtain ⟨_, _, _, _, _, _, sequence, timestampMs, _⟩ := fits
    exact ⟨by omega, by omega⟩
  · rintro ⟨sequence, timestampMs⟩
    obtain ⟨kind, kindRules⟩ := rules.rules
    have sessionFits := codec.sessionIdFits
    refine kindRules.fits rfl rfl codec.tunnelIdLength ?_ sequence
      timestampMs rules.messageId rules.messageLen rules.fragmentIndex
      (Int.natCast_nonneg _)
    simp only [requestHeader]
    omega

/-- A request that breaks a rule raises `ProtocolError`. -/
theorem encode_of_not_rules
    (broken : ¬ (codec.requestHeader clockMs request).EncodeRules) :
    ∃ message,
      codec.encode clockMs request = .error (.protocolError message) := by
  cases checks : (codec.requestHeader clockMs request).encodeChecks with
  | ok =>
      exact absurd (Header.encodeChecks_iff_rules.mp checks) broken
  | error failure =>
      obtain ⟨message, rfl⟩ := Header.encodeChecks_error _ checks
      exact ⟨message, by simp only [encode, checks]⟩

/-- A request that meets the rules is answered if its counters fit. -/
theorem encode_of_countersFit
    (rules : (codec.requestHeader clockMs request).EncodeRules)
    (countersFit : (codec.requestHeader clockMs request).CountersFit) :
    ∃ packet, codec.encode clockMs request = .ok packet := by
  obtain ⟨kind, kindRules⟩ := rules.rules
  obtain ⟨valid, sameHeader⟩ :=
    Header.exists_frame request.payload kindRules
      ((fits_requestHeader_iff rules).mpr countersFit) rfl rfl rfl
  exact ⟨_, encode_eq_ok_iff.mpr ⟨_, valid, sameHeader, rfl, rfl⟩⟩

/-- The header of any other request does not pack. -/
theorem encode_of_not_countersFit
    (rules : (codec.requestHeader clockMs request).EncodeRules)
    (tooLarge : ¬ (codec.requestHeader clockMs request).CountersFit) :
    codec.encode clockMs request = .error .structError := by
  have checks := Header.encodeChecks_iff_rules.mpr rules
  cases packed :
      pack aadFormat (codec.requestHeader clockMs request).values with
  | none =>
      simp only [encode, checks, packed]
  | some aad =>
      have fits := Header.fits_of_pack rfl codec.tunnelIdLength packed
      exact absurd ((fits_requestHeader_iff rules).mp fits) tooLarge

/--
The values of a header fit their items, and the checks `decode` makes of it
before decryption pass for some packet.
-/
def Admits (codec : FrameCodec) (header : Header) : Prop :=
  StructPack.Fits aadFormat header.values ∧
    ∃ packet, header.decodeChecks codec.tunnelId packet = .ok ()

/-- Both directions admit the same headers. -/
theorem admits_requestHeader_iff :
    codec.Admits (codec.requestHeader clockMs request) ↔
      (codec.requestHeader clockMs request).EncodeRules ∧
        (codec.requestHeader clockMs request).CountersFit := by
  constructor
  · rintro ⟨fits, packet, checks⟩
    obtain ⟨rules, _⟩ := Header.decodeChecks_eq_ok_iff.mp checks
    have encodeRules :
        (codec.requestHeader clockMs request).EncodeRules := by
      simp only [StructPack.Fits, aadFormat, Header.values,
        List.forall₂_cons, Item.Fits, List.forall₂_nil_right_iff] at fits
      obtain ⟨_, _, _, _, _, _, _, _, messageId, messageLen,
        fragmentIndex, _⟩ := fits
      exact ⟨rules, by omega, messageLen.1, fragmentIndex.1⟩
    exact ⟨encodeRules, (fits_requestHeader_iff encodeRules).mp fits⟩
  · rintro ⟨rules, countersFit⟩
    refine ⟨(fits_requestHeader_iff rules).mpr countersFit,
      List.replicate
        (size aadFormat + request.payload.length + aeadTagSize) 0, ?_⟩
    refine Header.decodeChecks_eq_ok_iff.mpr
      ⟨rules.rules, rfl, rfl, rfl, ?_⟩
    rw [List.length_replicate]
    simp only [requestHeader]
    push_cast
    rfl

/-- `encode` returns exactly when `decode` would admit the header. -/
theorem encode_isOk_iff :
    (∃ packet, codec.encode clockMs request = .ok packet) ↔
      codec.Admits (codec.requestHeader clockMs request) := by
  rw [admits_requestHeader_iff]
  constructor
  · rintro ⟨packet, encoded⟩
    by_cases rules : (codec.requestHeader clockMs request).EncodeRules
    · refine ⟨rules, ?_⟩
      by_contra tooLarge
      rw [encode_of_not_countersFit rules tooLarge] at encoded
      cases encoded
    · obtain ⟨message, refused⟩ := encode_of_not_rules rules
      rw [refused] at encoded
      cases encoded
  · rintro ⟨rules, countersFit⟩
    exact encode_of_countersFit rules countersFit

/--
`encode` answers exactly the calls whose header `decode` would admit.  It
answers or raises `ProtocolError` if and only if the sequence and the
timestamp fit in 64 bits or another rule is broken.
-/
theorem encode_fails_cleanly_iff
    (codec : FrameCodec)
    (clockMs : Int)
    (request : EncodeRequest) :
    (((∃ packet, codec.encode clockMs request = .ok packet) ∨
        ∃ message,
          codec.encode clockMs request =
            .error (.protocolError message)) ∧
      ((∃ packet, codec.encode clockMs request = .ok packet) ↔
        codec.Admits (codec.requestHeader clockMs request))) ↔
      ((codec.requestHeader clockMs request).EncodeRules →
        (codec.requestHeader clockMs request).CountersFit) := by
  constructor
  · rintro ⟨answered, _⟩ rules
    by_contra tooLarge
    rw [encode_of_not_countersFit rules tooLarge] at answered
    rcases answered with ⟨_, impossible⟩ | ⟨_, impossible⟩
    · cases impossible
    · cases impossible
  · intro countersFit
    refine ⟨?_, encode_isOk_iff⟩
    by_cases rules : (codec.requestHeader clockMs request).EncodeRules
    · exact .inl (encode_of_countersFit rules (countersFit rules))
    · exact .inr (encode_of_not_rules rules)

/-- A sequence of 65 bits and a negative timestamp reach `struct.pack`. -/
theorem encode_raises_struct_error :
    (plain 5 (by decide)).encode 1000
        { kind := 1, sequence := 2 ^ 64 } = .error .structError ∧
      (plain 5 (by decide)).encode 1000
          { kind := 1, sequence := 3, timestampMs := some (-1) } =
        .error .structError := by
  constructor <;> decide +kernel

end FrameCodec

end H3ntun

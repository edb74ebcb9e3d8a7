import H3ntun.FrameCodecRoundTrip
import Mathlib.Data.Finset.Card
import Mathlib.Data.Finset.Range

namespace H3ntun

open StructPack

/-!
# Nonces

A nonce is the digest of a context, four bytes that stand for the session,
the kind, the flags and the fragment index, followed by the sequence.  Two
nonces agree exactly when sequences and digests do, and more sessions exist
than digests.
-/

/-- Packed context of a nonce. -/
def nonceContext
    (sessionId : Nat)
    (kind : FrameKind)
    (flags fragmentIndex : Nat) : Bytes :=
  (pack nonceFormat
    [.int sessionId, .int kind.code, .int flags,
      .int fragmentIndex]).getD []

/-- Flags and fragment indices a frame of a kind may carry. -/
def FrameKind.Carries
    (kind : FrameKind)
    (flags fragmentIndex : Nat) : Prop :=
  (flags = 0 ∧ fragmentIndex < maxFragments ∧
      (kind.isData = false → fragmentIndex = 0)) ∨
    (flags = 1 ∧ kind.isData = true ∧ 2 ≤ fragmentIndex ∧
      fragmentIndex ≤ maxFragments)

/-- The digest is as long as `digest_size` says. -/
def Primitives.ShortDigests (primitives : Primitives) : Prop :=
  ∀ context, (primitives.blake2s context).length = 4

/-- Digest that starts the nonces of a frame. -/
def Frame.digest (primitives : Primitives) (frame : Frame) : Bytes :=
  primitives.blake2s
    (nonceContext frame.sessionId frame.kind frame.flags
      frame.fragmentIndex)

/-- Nonce `encode` encrypts under for a request. -/
def FrameCodec.requestNonce
    (codec : FrameCodec)
    (request : EncodeRequest) : Except Failure Bytes :=
  nonce codec.primitives codec.sessionId request.sequence request.kind
    request.flags request.fragmentIndex

/-- A nonce some packet of a codec is encrypted under. -/
def FrameCodec.Uses (codec : FrameCodec) (used : Bytes) : Prop :=
  ∃ clockMs request packet,
    codec.encode clockMs request = .ok packet ∧
      codec.requestNonce request = .ok used

namespace Frame

variable {first second frame : Frame} {primitives : Primitives}

/-- The nonce of a frame is its digest followed by its sequence. -/
theorem Valid.nonce_eq_append
    (valid : frame.Valid)
    (primitives : Primitives) :
    frame.nonce primitives =
      frame.digest primitives ++ bigEndian 8 frame.sequence := by
  have answered := valid.nonce_eq primitives
  have small : frame.sequence < 2 ^ 64 := valid.sequence
  have inRange :
      (0 : Int) ≤ frame.sequence ∧
        (frame.sequence : Int) ≤ 0xFFFFFFFFFFFFFFFF := by
    omega
  have counter :
      pack [.unsigned 8] [.int frame.sequence] =
        some (bigEndian 8 frame.sequence) :=
    pack_unsigned (by omega)
  cases packed :
      pack nonceFormat
        [.int frame.sessionId, .int frame.kind.code, .int frame.flags,
          .int frame.fragmentIndex] with
  | none =>
      simp [FrameCodec.nonce, inRange, packed, counter] at answered
  | some context =>
      simp only [FrameCodec.nonce, inRange, and_self, not_true_eq_false,
        ↓reduceIte, packed, counter, Except.ok.injEq] at answered
      rw [← answered, digest, nonceContext, packed, Option.getD_some]

/-- Frames with the same nonce have the same sequence. -/
theorem Valid.sequence_of_nonce_eq
    (firstValid : first.Valid)
    (secondValid : second.Valid)
    (same : first.nonce primitives = second.nonce primitives) :
    first.sequence = second.sequence := by
  rw [firstValid.nonce_eq_append, secondValid.nonce_eq_append] at same
  have sameCounter :=
    (List.append_inj' same (by simp)).2
  have firstSmall : first.sequence < 2 ^ 64 := firstValid.sequence
  have secondSmall : second.sequence < 2 ^ 64 := secondValid.sequence
  have firstFits : first.sequence < 256 ^ 8 := by
    omega
  have secondFits : second.sequence < 256 ^ 8 := by
    omega
  rw [← ofBigEndian_bigEndian firstFits, sameCounter,
    ofBigEndian_bigEndian secondFits]

/-- Nonces agree exactly when the sequences and the digests agree. -/
theorem Valid.nonce_eq_iff
    (short : primitives.ShortDigests)
    (firstValid : first.Valid)
    (secondValid : second.Valid) :
    first.nonce primitives = second.nonce primitives ↔
      first.sequence = second.sequence ∧
        first.digest primitives = second.digest primitives := by
  constructor
  · intro same
    refine ⟨firstValid.sequence_of_nonce_eq secondValid same, ?_⟩
    rw [firstValid.nonce_eq_append, secondValid.nonce_eq_append] at same
    exact (List.append_inj same ((short _).trans (short _).symm)).1
  · rintro ⟨sameSequence, sameDigest⟩
    rw [firstValid.nonce_eq_append, secondValid.nonce_eq_append,
      sameSequence, sameDigest]

/-- A valid frame carries flags and an index its kind may carry. -/
theorem Valid.carries
    (valid : frame.Valid) :
    frame.kind.Carries frame.flags frame.fragmentIndex := by
  have counts := valid.rules.fragmentCount
  have atMost : frame.fragmentCount ≤ maxFragments := by
    have := counts.2
    simpa [header] using this
  rcases valid.rules.flags with isData | isParity
  · left
    have small : (frame.fragmentIndex : Int) < frame.fragmentCount :=
      valid.rules.data isData
    refine ⟨Int.ofNat_eq_zero.mp isData, by omega, ?_⟩
    intro control
    exact Int.ofNat_eq_zero.mp (valid.rules.control control).2.2.1
  · right
    obtain ⟨several, isLast⟩ := valid.rules.parity isParity
    have isSet : frame.flags = 1 := Int.ofNat_inj.mp isParity
    have sameIndex : frame.fragmentIndex = frame.fragmentCount :=
      Int.ofNat_inj.mp isLast
    have atLeast : (2 : Int) ≤ frame.fragmentCount := several
    refine ⟨isSet, ?_, by omega, by omega⟩
    by_contra control
    rw [Bool.not_eq_true] at control
    have zero : frame.flags = 0 :=
      Int.ofNat_eq_zero.mp (valid.rules.control control).1
    omega

/-- A fragment of an empty message. -/
def emptyFragment
    (kind : FrameKind)
    (tunnelId : Bytes)
    (sessionId sequence flags fragmentIndex fragmentCount : Nat) :
    Frame where
  kind := kind
  flags := flags
  tunnelId := tunnelId
  sessionId := sessionId
  sequence := sequence
  timestampMs := 0
  messageId := 0
  messageLen := 0
  fragmentIndex := fragmentIndex
  fragmentCount := fragmentCount
  payload := []

/-- A session has a valid frame for all that a kind may carry. -/
theorem emptyFragment_valid
    {kind : FrameKind}
    {flags fragmentIndex sessionId sequence : Nat}
    {tunnelId : Bytes}
    (carries : kind.Carries flags fragmentIndex)
    (tunnelIdLength : tunnelId.length = 16)
    (sessionFits : sessionId < 2 ^ 64)
    (sequenceFits : sequence < 2 ^ 64) :
    ∃ fragmentCount,
      (emptyFragment kind tunnelId sessionId sequence flags fragmentIndex
        fragmentCount).Valid := by
  have known := FrameKind.ofCode?_code kind
  rcases carries with
    ⟨rfl, small, control⟩ | ⟨rfl, isData, atLeast, atMost⟩
  · refine ⟨fragmentIndex + 1, ⟨⟨known, .inl rfl, ?_, ?_, ⟨?_, ?_⟩, ?_, ?_,
      ?_⟩, tunnelIdLength, sessionFits, sequenceFits, ?_, ?_⟩⟩
    · simp [emptyFragment, header]
    · simp [emptyFragment, header]
    · simp [emptyFragment, header]
    · simp only [emptyFragment, header]
      omega
    · intro isParity
      cases isParity
    · intro _
      simp [emptyFragment, header]
    · intro isControl
      have zero := control isControl
      subst zero
      exact ⟨rfl, rfl, rfl, rfl, rfl⟩
    · simp [emptyFragment]
    · simp [emptyFragment]
  · refine ⟨fragmentIndex, ⟨⟨known, .inr rfl, ?_, ?_, ⟨?_, ?_⟩, ?_, ?_,
      ?_⟩, tunnelIdLength, sessionFits, sequenceFits, ?_, ?_⟩⟩
    · simp [emptyFragment, header]
    · simp [emptyFragment, header]
    · simp only [emptyFragment, header]
      omega
    · simp only [emptyFragment, header]
      omega
    · intro _
      refine ⟨?_, rfl⟩
      simp only [emptyFragment, header]
      omega
    · intro isZero
      cases isZero
    · intro isControl
      exact absurd (isData.symm.trans isControl) (by decide)
    · simp [emptyFragment]
    · simp [emptyFragment]

end Frame

namespace FrameCodec

variable
  {primitives : Primitives}
  {codec first second : FrameCodec}
  {used : Bytes}

/-- The frame of a successful request, and its nonce. -/
theorem frame_of_request
    {clockMs : Int}
    {request : EncodeRequest}
    {packet : Bytes}
    (encoded : codec.encode clockMs request = .ok packet) :
    ∃ frame : Frame,
      frame.Valid ∧ frame.tunnelId = codec.tunnelId ∧
        frame.sessionId = codec.sessionId ∧
        (frame.sequence : Int) = request.sequence ∧
        codec.requestNonce request =
          .ok (frame.nonce codec.primitives) := by
  obtain ⟨frame, valid, sameHeader, _, _⟩ :=
    encode_eq_ok_iff.mp encoded
  have sameTunnel : frame.tunnelId = codec.tunnelId :=
    congrArg Header.tunnelId sameHeader
  have sameSession : (frame.sessionId : Int) = codec.sessionId :=
    congrArg Header.sessionId sameHeader
  have sameSequence : (frame.sequence : Int) = request.sequence :=
    congrArg Header.sequence sameHeader
  exact ⟨frame, valid, sameTunnel, Int.ofNat_inj.mp sameSession,
    sameSequence, nonce_of_header valid sameHeader codec.primitives⟩

/-- Successful requests with the same nonce have the same sequence. -/
theorem sequence_of_requestNonce_eq
    {clockMs otherMs : Int}
    {request other : EncodeRequest}
    {packet otherPacket : Bytes}
    (encoded : codec.encode clockMs request = .ok packet)
    (otherEncoded : codec.encode otherMs other = .ok otherPacket)
    (same : codec.requestNonce request = codec.requestNonce other) :
    request.sequence = other.sequence := by
  obtain ⟨frame, valid, _, _, sequence, nonceShape⟩ :=
    frame_of_request encoded
  obtain ⟨otherFrame, otherValid, _, _, otherSequence, otherShape⟩ :=
    frame_of_request otherEncoded
  rw [nonceShape, otherShape] at same
  rw [← sequence, ← otherSequence,
    valid.sequence_of_nonce_eq otherValid (Except.ok.inj same)]

/-- The nonces a codec uses are those of its valid frames. -/
theorem uses_iff :
    codec.Uses used ↔
      ∃ frame : Frame,
        frame.Valid ∧ frame.tunnelId = codec.tunnelId ∧
          frame.sessionId = codec.sessionId ∧
          used = frame.nonce codec.primitives := by
  constructor
  · rintro ⟨clockMs, request, packet, encoded, nonceShape⟩
    obtain ⟨frame, valid, sameTunnel, sameSession, _, answered⟩ :=
      frame_of_request encoded
    exact ⟨frame, valid, sameTunnel, sameSession,
      Except.ok.inj (nonceShape.symm.trans answered)⟩
  · rintro ⟨frame, valid, sameTunnel, sameSession, rfl⟩
    have encoded := encode_request valid sameTunnel sameSession 0
    refine ⟨0, frame.request, _, encoded, ?_⟩
    rw [requestNonce, ← sameSession]
    exact valid.nonce_eq codec.primitives

/-- A codec uses every sequence under every context its frames can have. -/
theorem uses_of_carries
    {kind : FrameKind}
    {flags fragmentIndex sequence : Nat}
    (carries : kind.Carries flags fragmentIndex)
    (sequenceFits : sequence < 2 ^ 64) :
    codec.Uses
      (codec.primitives.blake2s
          (nonceContext codec.sessionId kind flags fragmentIndex) ++
        bigEndian 8 sequence) := by
  obtain ⟨fragmentCount, valid⟩ :=
    Frame.emptyFragment_valid carries codec.tunnelIdLength
      codec.sessionIdFits sequenceFits
  exact uses_iff.mpr
    ⟨_, valid, rfl, rfl, (valid.nonce_eq_append codec.primitives).symm⟩

/--
Two sessions of one tunnel and one secret, whatever their counters, share no
nonce if and only if no context of the one has the digest of a context of the
other.
-/
theorem sessions_share_no_nonce_iff
    {tunnelId secret firstToken secondToken : Bytes}
    {firstSkew secondSkew : Rat}
    {firstSession secondSession : Option Int}
    (short : primitives.ShortDigests)
    (firstBuilt :
      init primitives tunnelId secret firstSkew firstSession firstToken =
        .ok first)
    (secondBuilt :
      init primitives tunnelId secret secondSkew secondSession
        secondToken = .ok second) :
    (∀ used, first.Uses used → ¬ second.Uses used) ↔
      ∀ kind flags fragmentIndex otherKind otherFlags otherIndex,
        kind.Carries flags fragmentIndex →
        otherKind.Carries otherFlags otherIndex →
        primitives.blake2s
            (nonceContext first.sessionId kind flags fragmentIndex) ≠
          primitives.blake2s
            (nonceContext second.sessionId otherKind otherFlags
              otherIndex) := by
  obtain ⟨firstPrimitives, _⟩ := init_eq_ok firstBuilt
  obtain ⟨secondPrimitives, _⟩ := init_eq_ok secondBuilt
  constructor
  · intro disjoint kind flags fragmentIndex otherKind otherFlags
      otherIndex carries otherCarries sameDigest
    have zeroFits : 0 < 2 ^ 64 := by
      decide
    have firstUses := first.uses_of_carries carries zeroFits
    have secondUses := second.uses_of_carries otherCarries zeroFits
    rw [firstPrimitives, sameDigest] at firstUses
    rw [secondPrimitives] at secondUses
    exact disjoint _ firstUses secondUses
  · intro separated used firstUses secondUses
    obtain ⟨frame, valid, _, sameSession, rfl⟩ := uses_iff.mp firstUses
    obtain ⟨other, otherValid, _, otherSession, sameNonce⟩ :=
      uses_iff.mp secondUses
    rw [firstPrimitives, secondPrimitives] at sameNonce
    have sameDigest :=
      ((valid.nonce_eq_iff short otherValid).mp sameNonce).2
    rw [Frame.digest, Frame.digest, sameSession, otherSession]
      at sameDigest
    exact separated _ _ _ _ _ _ valid.carries otherValid.carries
      sameDigest

/-- Two of more sessions than digests share a digest. -/
theorem exists_shared_digest
    (short : primitives.ShortDigests)
    (kind : FrameKind) :
    ∃ session other,
      session < 2 ^ 64 ∧ other < 2 ^ 64 ∧ session ≠ other ∧
        primitives.blake2s (nonceContext session kind 0 0) =
          primitives.blake2s (nonceContext other kind 0 0) := by
  let value (session : Nat) : Nat :=
    ofBigEndian (primitives.blake2s (nonceContext session kind 0 0))
  have inRange :
      ∀ session ∈ Finset.range (256 ^ 4 + 1),
        value session ∈ Finset.range (256 ^ 4) := by
    intro session _
    have bound :=
      ofBigEndian_lt (primitives.blake2s (nonceContext session kind 0 0))
    rw [short] at bound
    exact Finset.mem_range.mpr bound
  obtain ⟨session, small, other, otherSmall, different, same⟩ :=
    Finset.exists_ne_map_eq_of_card_lt_of_maps_to
      (by rw [Finset.card_range, Finset.card_range]; omega) inRange
  rw [Finset.mem_range] at small otherSmall
  refine ⟨session, other, by omega, by omega, different, ?_⟩
  have sameDigits :=
    congrArg (bigEndian 4) same
  have firstDigits :=
    bigEndian_ofBigEndian
      (primitives.blake2s (nonceContext session kind 0 0))
  have secondDigits :=
    bigEndian_ofBigEndian
      (primitives.blake2s (nonceContext other kind 0 0))
  rw [short] at firstDigits secondDigits
  rw [← firstDigits, ← secondDigits]
  exact sameDigits

/-- A tunnel in which every session identifier can be chosen. -/
theorem init_of_any_session
    (primitives : Primitives)
    {session : Nat}
    (fits : session < 2 ^ 64) :
    ∃ built,
      init primitives (List.replicate 16 7) (List.replicate 32 9)
          defaultClockSkewSeconds (some session) [] = .ok built ∧
        built.sessionId = session := by
  apply init_of_session primitives
  · rfl
  · exact le_rfl
  · decide +kernel
  · exact fits

/-- No digest keeps all sessions of a tunnel apart. -/
theorem no_digest_separates_sessions :
    ¬ ∃ primitives : Primitives,
      primitives.ShortDigests ∧
        ∀ tunnelId secret session other first second,
          session ≠ other →
          init primitives tunnelId secret defaultClockSkewSeconds
            (some session) [] = .ok first →
          init primitives tunnelId secret defaultClockSkewSeconds
            (some other) [] = .ok second →
          ∀ used, first.Uses used → ¬ second.Uses used := by
  rintro ⟨primitives, short, separated⟩
  obtain ⟨session, other, fits, otherFits, different, sameDigest⟩ :=
    exists_shared_digest short .dataUp
  obtain ⟨first, firstBuilt, rfl⟩ :=
    init_of_any_session primitives fits
  obtain ⟨second, secondBuilt, rfl⟩ :=
    init_of_any_session primitives otherFits
  have carries : FrameKind.dataUp.Carries 0 0 :=
    .inl ⟨rfl, by decide, fun _ => rfl⟩
  have disjoint :=
    separated _ _ _ _ first second (mt Int.ofNat_inj.mp different)
      firstBuilt secondBuilt
  exact (sessions_share_no_nonce_iff short firstBuilt secondBuilt).mp
    disjoint _ _ _ _ _ _ carries carries sameDigest

/--
Libraries whose digest is the one that `blake2s` gives to the first data
frames of the sessions 3970 and 41906.
-/
def collidingPrimitives : Primitives :=
  { Primitives.plain with blake2s := fun _ => [0xEB, 0xAB, 0x1F, 0x5E] }

/-- The sessions 3970 and 41906 of one tunnel share a nonce. -/
theorem sessions_share_no_nonce_iff_colliding :
    ∃ first second,
      init collidingPrimitives (List.replicate 16 7)
          (List.replicate 32 9) defaultClockSkewSeconds (some 3970) [] =
        .ok first ∧
      init collidingPrimitives (List.replicate 16 7)
          (List.replicate 32 9) defaultClockSkewSeconds (some 41906) [] =
        .ok second ∧
      ¬ ∀ used, first.Uses used → ¬ second.Uses used := by
  obtain ⟨first, firstBuilt, _⟩ :=
    init_of_any_session collidingPrimitives (by decide : 3970 < 2 ^ 64)
  obtain ⟨second, secondBuilt, _⟩ :=
    init_of_any_session collidingPrimitives (by decide : 41906 < 2 ^ 64)
  have carries : FrameKind.dataUp.Carries 0 0 :=
    .inl ⟨rfl, by decide, fun _ => rfl⟩
  refine ⟨first, second, firstBuilt, secondBuilt, ?_⟩
  intro disjoint
  exact (sessions_share_no_nonce_iff (fun _ => rfl) firstBuilt
    secondBuilt).mp disjoint _ _ _ _ _ _ carries carries rfl

end FrameCodec

end H3ntun

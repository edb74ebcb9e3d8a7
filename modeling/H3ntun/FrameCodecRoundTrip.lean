import H3ntun.FrameCodec

namespace H3ntun

open StructPack

/-!
# Encoding and decoding are mutually inverse

`encode` and `decode` validate a header in two different ways.  Both accept
exactly the headers of valid frames, and the packet of a valid frame is the
same byte string on both sides.
-/

/-- Only the values zero and one pass the flag mask. -/
theorem flags_known_iff
    (flags : Int) :
    Int.land flags (Int.lnot validFlags) = 0 ↔ flags = 0 ∨ flags = 1 := by
  cases flags with
  | ofNat value =>
      show Int.ofNat (Nat.ldiff value 1) = 0 ↔ _
      have testBits : Nat.ldiff value 1 = 0 ↔ value < 2 := by
        constructor
        · intro isZero
          by_contra large
          obtain ⟨bit, isSet, notLow⟩ :
              ∃ bit, value.testBit bit = true ∧ bit ≠ 0 := by
            by_contra none
            push Not at none
            have atMostOne : value < 2 ^ 1 := by
              apply Nat.lt_pow_two_of_testBit
              intro bit high
              by_contra isSet
              rw [Bool.not_eq_false] at isSet
              have := none bit isSet
              omega
            omega
          have cleared := congrArg (Nat.testBit · bit) isZero
          simp [Nat.testBit_ldiff, isSet,
            Nat.testBit_one_eq_true_iff_self_eq_zero, notLow] at cleared
        · intro small
          obtain rfl | rfl : value = 0 ∨ value = 1 := by omega
          · decide +kernel
          · decide +kernel
      rw [Int.ofNat_eq_natCast, Int.ofNat_eq_natCast, Int.natCast_eq_zero,
        testBits]
      omega
  | negSucc value =>
      show Int.negSucc (value ||| 1) = 0 ↔ _
      constructor
      · intro impossible
        cases impossible
      · rintro (impossible | impossible) <;> cases impossible

/-- The parity test on flags that passed the mask. -/
theorem parity_iff
    {flags : Int}
    (known : flags = 0 ∨ flags = 1) :
    Int.land flags flagParity ≠ 0 ↔ flags = 1 := by
  rcases known with rfl | rfl <;> decide

namespace Header

/-- Fragment, flag and length rules shared by both directions. -/
structure Rules (header : Header) (kind : FrameKind) : Prop where
  known :
    FrameKind.ofCode? header.kind = some kind
  flags :
    header.flags = 0 ∨ header.flags = 1
  payloadLen :
    header.payloadLen ≤ maxFragmentPayload
  messageLen :
    header.messageLen ≤ maxMessageSize
  fragmentCount :
    1 ≤ header.fragmentCount ∧ header.fragmentCount ≤ maxFragments
  parity :
    header.flags = 1 →
      2 ≤ header.fragmentCount ∧
        header.fragmentIndex = header.fragmentCount
  data :
    header.flags = 0 → header.fragmentIndex < header.fragmentCount
  control :
    kind.isData = false →
      header.flags = 0 ∧ header.messageId = 0 ∧
        header.fragmentIndex = 0 ∧ header.fragmentCount = 1 ∧
        header.messageLen = header.payloadLen

variable {header : Header}

theorem isParity_iff
    (known : header.flags = 0 ∨ header.flags = 1) :
    header.isParity = true ↔ header.flags = 1 := by
  rw [isParity, decide_eq_true_eq]
  exact parity_iff known

theorem isData_eq
    {kind : FrameKind}
    (known : FrameKind.ofCode? header.kind = some kind) :
    header.isData = kind.isData := by
  simp [isData, known]

theorem isFragmented_eq_false_iff :
    header.isFragmented = false ↔
      header.flags = 0 ∧ header.messageId = 0 ∧
        header.fragmentIndex = 0 ∧ header.fragmentCount = 1 ∧
        header.messageLen = header.payloadLen := by
  simp [isFragmented, and_assoc]

/-- Every value of a header that meets the rules fits its item. -/
theorem Rules.fits
    {kind : FrameKind}
    (rules : header.Rules kind)
    (magic : header.magic = H3ntun.magic)
    (version : header.version = H3ntun.version)
    (tunnelId : header.tunnelId.length = 16)
    (sessionId :
      0 ≤ header.sessionId ∧ header.sessionId ≤ 0xFFFFFFFFFFFFFFFF)
    (sequence :
      0 ≤ header.sequence ∧ header.sequence ≤ 0xFFFFFFFFFFFFFFFF)
    (timestampMs :
      0 ≤ header.timestampMs ∧ header.timestampMs ≤ 0xFFFFFFFFFFFFFFFF)
    (messageId :
      0 ≤ header.messageId ∧ header.messageId ≤ 0xFFFFFFFFFFFFFFFF)
    (messageLenNonneg : 0 ≤ header.messageLen)
    (fragmentIndexNonneg : 0 ≤ header.fragmentIndex)
    (payloadLenNonneg : 0 ≤ header.payloadLen) :
    StructPack.Fits aadFormat header.values := by
  have kindBound : kind.code < 256 := by
    cases kind <;> decide
  have kindCode := FrameKind.ofCode?_eq_some rules.known
  have flags := rules.flags
  have payloadLen := rules.payloadLen
  have messageLen := rules.messageLen
  have fragmentCount := rules.fragmentCount
  have fragmentIndex : header.fragmentIndex ≤ header.fragmentCount := by
    rcases flags with isZero | isOne
    · exact (rules.data isZero).le
    · exact (rules.parity isOne).2.le
  simp only [maxFragmentPayload, maxMessageSize, maxFragments]
    at payloadLen messageLen fragmentCount
  simp only [StructPack.Fits, aadFormat, Header.values,
    List.forall₂_cons, Item.Fits, tunnelId, magic, version,
    H3ntun.magic, H3ntun.version, List.length_cons, List.length_nil,
    List.forall₂_nil_right_iff]
  norm_num
  omega

/-- The checks of `encode` are the rules and two 64-bit ranges. -/
theorem encodeChecks_eq_ok_iff :
    header.encodeChecks = .ok () ↔
      (∃ kind, header.Rules kind) ∧
        (0 ≤ header.messageId ∧
          header.messageId ≤ 0xFFFFFFFFFFFFFFFF) ∧
        0 ≤ header.messageLen ∧
        0 ≤ header.fragmentIndex := by
  simp only [encodeChecks, guard_eq_ok_iff, not_not, and_true,
    flags_known_iff, Bool.not_eq_true, Option.isNone_eq_false_iff,
    Option.isSome_iff_exists, not_lt, gt_iff_lt, not_and, not_or,
    Classical.not_imp, not_le]
  constructor
  · rintro ⟨⟨kind, known⟩, flags, payloadLen, messageId, messageLen,
      fragmentCount, parity, data, control⟩
    rw [isParity_iff flags] at parity
    rw [← Bool.not_eq_true, isParity_iff flags] at data
    rw [isData_eq known, isFragmented_eq_false_iff] at control
    have dataRule :
        header.flags = 0 →
          0 ≤ header.fragmentIndex ∧
            header.fragmentIndex < header.fragmentCount := by
      intro isZero
      exact data (by omega)
    refine ⟨⟨kind, {
      known := known
      flags := flags
      payloadLen := payloadLen
      messageLen := messageLen.2
      fragmentCount := fragmentCount
      parity := fun isOne => parity isOne
      data := fun isZero => (dataRule isZero).2
      control := control
    }⟩, messageId, messageLen.1, ?_⟩
    rcases flags with isZero | isOne
    · exact (dataRule isZero).1
    · have := parity isOne
      omega
  · rintro ⟨⟨kind, rules⟩, messageId, messageLen, fragmentIndex⟩
    rw [isParity_iff rules.flags, ← Bool.not_eq_true,
      isParity_iff rules.flags, isData_eq rules.known,
      isFragmented_eq_false_iff]
    refine ⟨⟨kind, rules.known⟩, rules.flags, rules.payloadLen, messageId,
      ⟨messageLen, rules.messageLen⟩, rules.fragmentCount, rules.parity,
      fun notParity => ⟨fragmentIndex, rules.data ?_⟩, rules.control⟩
    exact rules.flags.resolve_right notParity

/-- The checks of `decode` are the rules and the fixed header values. -/
theorem decodeChecks_eq_ok_iff
    {tunnelId packet : Bytes} :
    header.decodeChecks tunnelId packet = .ok () ↔
      (∃ kind, header.Rules kind) ∧
        header.magic = H3ntun.magic ∧
        header.version = H3ntun.version ∧
        header.tunnelId = tunnelId ∧
        (packet.length : Int) =
          size aadFormat + header.payloadLen + aeadTagSize := by
  simp only [decodeChecks, guard_eq_ok_iff, not_not, and_true,
    flags_known_iff, Bool.not_eq_true, Option.isNone_eq_false_iff,
    Option.isSome_iff_exists, not_lt, gt_iff_lt, not_and, not_or,
    Classical.not_imp, ge_iff_le, not_le]
  constructor
  · rintro ⟨fixed, sameTunnel, ⟨kind, known⟩, flags, payloadLen, length,
      messageLen, fragmentCount, parity, data, control⟩
    rw [isParity_iff flags] at parity
    rw [← Bool.not_eq_true, isParity_iff flags] at data
    rw [isData_eq known, isFragmented_eq_false_iff] at control
    refine ⟨⟨kind, {
      known := known
      flags := flags
      payloadLen := payloadLen
      messageLen := messageLen
      fragmentCount := fragmentCount
      parity := fun isOne => parity isOne
      data := fun isZero => data (by omega)
      control := control
    }⟩, fixed.1, fixed.2, sameTunnel, length⟩
  · rintro ⟨⟨kind, rules⟩, magic, version, sameTunnel, length⟩
    rw [isParity_iff rules.flags, ← Bool.not_eq_true,
      isParity_iff rules.flags, isData_eq rules.known,
      isFragmented_eq_false_iff]
    exact ⟨⟨magic, version⟩, sameTunnel, ⟨kind, rules.known⟩, rules.flags,
      rules.payloadLen, length, rules.messageLen, rules.fragmentCount,
      rules.parity,
      fun notParity =>
        rules.data (rules.flags.resolve_right notParity),
      rules.control⟩

/-- A refused header is refused with a `ProtocolError`. -/
theorem decodeChecks_error
    {tunnelId packet : Bytes} :
    ∀ failure,
      header.decodeChecks tunnelId packet = .error failure →
        ∃ message, failure = .protocolError message := by
  unfold decodeChecks
  repeat refine forall_guard_error ⟨_, rfl⟩ ?_
  intro failure refused
  cases refused

end Header

namespace Frame

/-- Header of a frame. -/
def header (frame : Frame) : Header where
  magic := H3ntun.magic
  version := H3ntun.version
  kind := frame.kind.code
  flags := frame.flags
  tunnelId := frame.tunnelId
  sessionId := frame.sessionId
  sequence := frame.sequence
  timestampMs := frame.timestampMs
  messageId := frame.messageId
  messageLen := frame.messageLen
  fragmentIndex := frame.fragmentIndex
  fragmentCount := frame.fragmentCount
  payloadLen := frame.payload.length

/-- Arguments of the `encode` call that names every field of a frame. -/
def request (frame : Frame) : EncodeRequest where
  kind := frame.kind.code
  sequence := frame.sequence
  payload := frame.payload
  timestampMs := some frame.timestampMs
  messageId := frame.messageId
  messageLen := some frame.messageLen
  fragmentIndex := frame.fragmentIndex
  fragmentCount := frame.fragmentCount
  flags := frame.flags

/-- The frames the wire format can carry. -/
structure Valid (frame : Frame) : Prop where
  rules :
    frame.header.Rules frame.kind
  tunnelId :
    frame.tunnelId.length = 16
  sessionId :
    frame.sessionId < 2 ^ 64
  sequence :
    frame.sequence < 2 ^ 64
  timestampMs :
    frame.timestampMs < 2 ^ 64
  messageId :
    frame.messageId < 2 ^ 64

/-- Packed header of a frame. -/
def aad (frame : Frame) : Bytes :=
  (pack aadFormat frame.header.values).getD []

/-- Nonce of a frame. -/
def nonce (primitives : Primitives) (frame : Frame) : Bytes :=
  match FrameCodec.nonce primitives frame.sessionId frame.sequence
      frame.kind.code frame.flags frame.fragmentIndex with
  | .ok nonce => nonce
  | .error _ => []

/-- The packet of a frame. -/
def wire (primitives : Primitives) (aead : Aead) (frame : Frame) : Bytes :=
  frame.aad ++
    aead.encrypt (frame.nonce primitives) frame.payload frame.aad

variable {frame : Frame}

/-- Every header value of a valid frame fits its item. -/
theorem Valid.fits
    (valid : frame.Valid) :
    StructPack.Fits aadFormat frame.header.values := by
  have sessionId := valid.sessionId
  have sequence := valid.sequence
  have timestampMs := valid.timestampMs
  have messageId := valid.messageId
  refine valid.rules.fits rfl rfl valid.tunnelId ?_ ?_ ?_ ?_
    (Int.natCast_nonneg _) (Int.natCast_nonneg _) (Int.natCast_nonneg _)
  all_goals
    simp only [header]
    omega

/-- A valid frame's header packs into its bytes and reads back. -/
theorem Valid.pack_header
    (valid : frame.Valid)
    (rest : Bytes) :
    pack aadFormat frame.header.values = some frame.aad ∧
      frame.aad.length = size aadFormat ∧
      unpackFrom aadFormat (frame.aad ++ rest) =
        some frame.header.values := by
  obtain ⟨packed, packs, reads⟩ := unpackFrom_pack valid.fits rest
  have shape : frame.aad = packed := by simp [aad, packs]
  rw [shape]
  exact ⟨packs, length_of_pack packs, reads⟩

/-- The nonce of a valid frame is defined. -/
theorem Valid.nonce_eq
    (valid : frame.Valid)
    (primitives : Primitives) :
    FrameCodec.nonce primitives frame.sessionId frame.sequence
        frame.kind.code frame.flags frame.fragmentIndex =
      .ok (frame.nonce primitives) := by
  have fits := valid.fits
  simp only [StructPack.Fits, aadFormat, Header.values, header,
    List.forall₂_cons, List.forall₂_nil_right_iff] at fits
  obtain ⟨_, _, kind, flags, _, sessionId, sequence, _, _, _,
    fragmentIndex, _⟩ := fits
  have contextFits :
      StructPack.Fits nonceFormat
        [.int frame.sessionId, .int frame.kind.code, .int frame.flags,
          .int frame.fragmentIndex] :=
    .cons sessionId (.cons kind (.cons flags (.cons fragmentIndex .nil)))
  have counterFits :
      StructPack.Fits [.unsigned 8] [.int frame.sequence] :=
    .cons sequence .nil
  obtain ⟨context, contextPacked, _⟩ := unpackFrom_pack contextFits []
  obtain ⟨counter, counterPacked, _⟩ := unpackFrom_pack counterFits []
  have inRange :
      (0 : Int) ≤ frame.sequence ∧
        (frame.sequence : Int) ≤ 0xFFFFFFFFFFFFFFFF := by
    have := valid.sequence
    omega
  simp [nonce, FrameCodec.nonce, inRange, contextPacked, counterPacked]

/-- The packet of a valid frame starts with its header. -/
theorem Valid.take_wire
    (valid : frame.Valid)
    (primitives : Primitives)
    (aead : Aead) :
    (frame.wire primitives aead).take (size aadFormat) = frame.aad ∧
      (frame.wire primitives aead).drop (size aadFormat) =
        aead.encrypt (frame.nonce primitives) frame.payload frame.aad := by
  obtain ⟨_, length, _⟩ := valid.pack_header []
  rw [← length]
  exact ⟨List.take_left, List.drop_left⟩

end Frame

namespace Header

variable {header : Header}

/-- A frame rebuilt from its own header and payload is the frame. -/
theorem frameOf_header
    (frame : Frame) :
    FrameCodec.frameOf frame.header frame.kind frame.payload = frame := by
  cases frame
  simp [FrameCodec.frameOf, Frame.header]

/-- A checked header within its items is the header of a valid frame. -/
theorem exists_frame
    {kind : FrameKind}
    (payload : Bytes)
    (rules : header.Rules kind)
    (fits : StructPack.Fits aadFormat header.values)
    (magic : header.magic = H3ntun.magic)
    (version : header.version = H3ntun.version)
    (payloadLen : header.payloadLen = payload.length) :
    (FrameCodec.frameOf header kind payload).Valid ∧
      (FrameCodec.frameOf header kind payload).header = header := by
  simp only [StructPack.Fits, aadFormat, Header.values,
    List.forall₂_cons, Item.Fits, List.forall₂_nil_right_iff] at fits
  obtain ⟨_, _, kindFits, flagsFit, tunnelFits, sessionFits, sequenceFits,
    timestampFits, messageFits, lengthFits, indexFits, countFits, _⟩ := fits
  have kindCode := FrameKind.ofCode?_eq_some rules.known
  have sameHeader :
      (FrameCodec.frameOf header kind payload).header = header := by
    apply Header.ext <;>
      simp only [FrameCodec.frameOf, Frame.header, magic, version,
        payloadLen, kindCode] <;>
      omega
  refine ⟨{
    rules := sameHeader.symm ▸ rules
    tunnelId := tunnelFits
    sessionId := ?_
    sequence := ?_
    timestampMs := ?_
    messageId := ?_
  }, sameHeader⟩
  all_goals
    simp only [FrameCodec.frameOf]
    omega

/-- A header that packs has all its values within their items. -/
theorem fits_of_pack
    {packed : Bytes}
    (magic : header.magic = H3ntun.magic)
    (tunnelId : header.tunnelId.length = 16)
    (accepted : pack aadFormat header.values = some packed) :
    StructPack.Fits aadFormat header.values := by
  have members := accepted_of_pack accepted
  simp only [aadFormat, Header.values, List.forall₂_cons,
    List.forall₂_nil_right_iff] at members
  obtain ⟨_, ⟨_, version⟩, ⟨_, kind⟩, ⟨_, flags⟩, _, ⟨_, sessionId⟩,
    ⟨_, sequence⟩, ⟨_, timestampMs⟩, ⟨_, messageId⟩, ⟨_, messageLen⟩,
    ⟨_, fragmentIndex⟩, ⟨_, fragmentCount⟩, ⟨_, payloadLen⟩, _⟩ := members
  have magicFits : (Item.bytes 4).Fits (.bytes header.magic) := by
    rw [magic]
    rfl
  exact .cons magicFits
    (.cons (Item.fits_of_pack_unsigned version)
    (.cons (Item.fits_of_pack_unsigned kind)
    (.cons (Item.fits_of_pack_unsigned flags)
    (.cons tunnelId
    (.cons (Item.fits_of_pack_unsigned sessionId)
    (.cons (Item.fits_of_pack_unsigned sequence)
    (.cons (Item.fits_of_pack_unsigned timestampMs)
    (.cons (Item.fits_of_pack_unsigned messageId)
    (.cons (Item.fits_of_pack_unsigned messageLen)
    (.cons (Item.fits_of_pack_unsigned fragmentIndex)
    (.cons (Item.fits_of_pack_unsigned fragmentCount)
    (.cons (Item.fits_of_pack_unsigned payloadLen) .nil))))))))))))

theorem ofValues?_eq_some
    {values : List Value}
    (known : ofValues? values = some header) :
    values = header.values := by
  unfold ofValues? at known
  split at known
  · cases known
    rfl
  · cases known

end Header

namespace FrameCodec

variable {codec : FrameCodec}

/-- The nonce of a checked header is the nonce of its frame. -/
theorem nonce_of_header
    {frame : Frame}
    {header : Header}
    (valid : frame.Valid)
    (sameHeader : frame.header = header)
    (primitives : Primitives) :
    nonce primitives header.sessionId header.sequence header.kind
        header.flags header.fragmentIndex =
      .ok (frame.nonce primitives) := by
  subst sameHeader
  exact valid.nonce_eq primitives

/-- A request for the header of a valid frame is answered with its packet. -/
theorem encode_of_header
    {frame : Frame}
    {clockMs : Int}
    {request : EncodeRequest}
    (valid : frame.Valid)
    (sameHeader : frame.header = codec.requestHeader clockMs request)
    (samePayload : frame.payload = request.payload) :
    codec.encode clockMs request =
      .ok (frame.wire codec.primitives codec.aead) := by
  have checks :
      (codec.requestHeader clockMs request).encodeChecks = .ok () := by
    rw [← sameHeader, Header.encodeChecks_eq_ok_iff]
    have messageId := valid.messageId
    refine ⟨⟨frame.kind, valid.rules⟩, ?_, ?_, ?_⟩
    · simp only [Frame.header]
      omega
    · exact Int.natCast_nonneg _
    · exact Int.natCast_nonneg _
  have packed := (valid.pack_header []).1
  rw [sameHeader] at packed
  have nonceShape :
      nonce codec.primitives codec.sessionId request.sequence
          request.kind request.flags request.fragmentIndex =
        .ok (frame.nonce codec.primitives) :=
    nonce_of_header valid sameHeader codec.primitives
  simp only [encode, checks, packed, nonceShape, Frame.wire, samePayload]

/-- `encode` returns exactly the packets of the requested valid frames. -/
theorem encode_eq_ok_iff
    {clockMs : Int}
    {request : EncodeRequest}
    {packet : Bytes} :
    codec.encode clockMs request = .ok packet ↔
      ∃ frame : Frame,
        frame.Valid ∧
          frame.header = codec.requestHeader clockMs request ∧
          frame.payload = request.payload ∧
          packet = frame.wire codec.primitives codec.aead := by
  constructor
  · intro encoded
    cases checks : (codec.requestHeader clockMs request).encodeChecks with
    | error failure =>
        simp [encode, checks] at encoded
    | ok =>
        cases packed :
            pack aadFormat (codec.requestHeader clockMs request).values with
        | none =>
            simp [encode, checks, packed] at encoded
        | some aad =>
            obtain ⟨⟨kind, rules⟩, _⟩ :=
              Header.encodeChecks_eq_ok_iff.mp checks
            have fits := Header.fits_of_pack rfl codec.tunnelIdLength packed
            obtain ⟨valid, sameHeader⟩ :=
              Header.exists_frame request.payload rules fits rfl rfl rfl
            refine ⟨_, valid, sameHeader, rfl, ?_⟩
            have answered := encode_of_header valid sameHeader rfl
            exact Except.ok.inj (encoded.symm.trans answered)
  · rintro ⟨frame, valid, sameHeader, samePayload, packetShape⟩
    rw [packetShape]
    exact encode_of_header valid sameHeader samePayload

/-- A packet whose header can be read and passes the checks of `decode`. -/
structure Readable
    (codec : FrameCodec)
    (packet : Bytes)
    (header : Header)
    (kind : FrameKind) : Prop where
  unpacks :
    unpackFrom aadFormat packet = some header.values
  checks :
    header.decodeChecks codec.tunnelId packet = .ok ()
  known :
    FrameKind.ofCode? header.kind = some kind

/-- The header of a readable packet is the header of a valid frame. -/
theorem Readable.exists_frame
    {packet : Bytes}
    {header : Header}
    {kind : FrameKind}
    (readable : codec.Readable packet header kind)
    (payload : Bytes)
    (payloadLen : header.payloadLen = payload.length) :
    (frameOf header kind payload).Valid ∧
      (frameOf header kind payload).header = header ∧
      (frameOf header kind payload).aad =
        packet.take (size aadFormat) := by
  obtain ⟨fits, packs⟩ := pack_unpackFrom readable.unpacks
  obtain ⟨⟨checkedKind, rules⟩, magic, version, _⟩ :=
    Header.decodeChecks_eq_ok_iff.mp readable.checks
  have sameKind : checkedKind = kind :=
    Option.some.inj (rules.known.symm.trans readable.known)
  subst sameKind
  obtain ⟨valid, sameHeader⟩ :=
    Header.exists_frame payload rules fits magic version payloadLen
  refine ⟨valid, sameHeader, ?_⟩
  rw [Frame.aad, sameHeader, packs, Option.getD_some]

/-- A readable packet is long enough and is decided by decryption. -/
theorem decode_of_readable
    {packet : Bytes}
    {header : Header}
    {kind : FrameKind}
    (readable : codec.Readable packet header kind)
    (nowMs : Int) :
    codec.decode packet nowMs = codec.decrypt packet nowMs header kind := by
  obtain ⟨_, _, _, _, length⟩ :=
    Header.decodeChecks_eq_ok_iff.mp readable.checks
  have payloadLen : 0 ≤ header.payloadLen := by
    have fits := (pack_unpackFrom readable.unpacks).1
    simp only [StructPack.Fits, aadFormat, Header.values,
      List.forall₂_cons, Item.Fits, List.forall₂_nil_right_iff] at fits
    omega
  have longEnough : ¬ packet.length < frameOverhead := by
    simp only [frameOverhead]
    omega
  have headerShape : Header.ofValues? header.values = some header := rfl
  simp [decode, longEnough, readable.unpacks, headerShape,
    readable.checks, readable.known]

/-- Every packet is readable or is refused with a `ProtocolError`. -/
theorem readable_or_refused
    (codec : FrameCodec)
    (packet : Bytes) :
    (∃ header kind, codec.Readable packet header kind) ∨
      ∃ message, ∀ nowMs,
        codec.decode packet nowMs = .error (.protocolError message) := by
  by_cases tooShort : packet.length < frameOverhead
  · refine .inr ⟨"packet is shorter than the frame header", ?_⟩
    intro nowMs
    simp only [decode, tooShort, ↓reduceIte]
  · cases unpacked :
        (unpackFrom aadFormat packet).bind Header.ofValues? with
    | none =>
        refine .inr ⟨"invalid frame header", ?_⟩
        intro nowMs
        simp only [decode, tooShort, ↓reduceIte, unpacked]
    | some header =>
        obtain ⟨values, unpacks, headerShape⟩ :=
          Option.bind_eq_some_iff.mp unpacked
        have valuesShape := Header.ofValues?_eq_some headerShape
        subst valuesShape
        cases checks : header.decodeChecks codec.tunnelId packet with
        | ok =>
            obtain ⟨⟨kind, rules⟩, _⟩ :=
              Header.decodeChecks_eq_ok_iff.mp checks
            exact .inl ⟨header, kind, unpacks, checks, rules.known⟩
        | error failure =>
            obtain ⟨message, messageShape⟩ :=
              Header.decodeChecks_error _ checks
            refine .inr ⟨message, ?_⟩
            intro nowMs
            simp only [decode, tooShort, ↓reduceIte, unpacked, checks,
              messageShape]

/-- The nonce of a readable packet is defined. -/
theorem Readable.nonce_isOk
    {packet : Bytes}
    {header : Header}
    {kind : FrameKind}
    (readable : codec.Readable packet header kind)
    (primitives : Primitives) :
    ∃ derived,
      nonce primitives header.sessionId header.sequence header.kind
        header.flags header.fragmentIndex = .ok derived := by
  have payloadLen : 0 ≤ header.payloadLen := by
    have fits := (pack_unpackFrom readable.unpacks).1
    simp only [StructPack.Fits, aadFormat, Header.values,
      List.forall₂_cons, Item.Fits, List.forall₂_nil_right_iff] at fits
    omega
  obtain ⟨valid, sameHeader, _⟩ :=
    readable.exists_frame (List.replicate header.payloadLen.toNat 0)
      (by simp [payloadLen])
  exact ⟨_, nonce_of_header valid sameHeader primitives⟩

/-- Decryption of a readable packet returns a frame or a `ProtocolError`. -/
theorem decrypt_total
    {packet : Bytes}
    {header : Header}
    {kind : FrameKind}
    (readable : codec.Readable packet header kind)
    (nowMs : Int) :
    (∃ frame, codec.decrypt packet nowMs header kind = .ok frame) ∨
      ∃ message,
        codec.decrypt packet nowMs header kind =
          .error (.protocolError message) := by
  obtain ⟨derived, nonceShape⟩ := readable.nonce_isOk codec.primitives
  simp only [decrypt, nonceShape]
  split
  · exact .inr ⟨_, rfl⟩
  · split
    · exact .inr ⟨_, rfl⟩
    · split
      · exact .inr ⟨_, rfl⟩
      · exact .inl ⟨_, rfl⟩

/-- `decode` returns a frame or raises `ProtocolError`. -/
theorem decode_total
    (codec : FrameCodec)
    (packet : Bytes)
    (nowMs : Int) :
    (∃ frame, codec.decode packet nowMs = .ok frame) ∨
      ∃ message,
        codec.decode packet nowMs = .error (.protocolError message) := by
  rcases readable_or_refused codec packet with
    ⟨header, kind, readable⟩ | ⟨message, refused⟩
  · rw [decode_of_readable readable]
    exact decrypt_total readable nowMs
  · exact .inr ⟨message, refused nowMs⟩

/-- A frame a readable packet decrypts to is the frame of that packet. -/
theorem wire_of_decrypt
    {packet : Bytes}
    {header : Header}
    {kind : FrameKind}
    {nowMs : Int}
    {frame : Frame}
    (lawful : codec.aead.Lawful)
    (readable : codec.Readable packet header kind)
    (decrypted : codec.decrypt packet nowMs header kind = .ok frame) :
    frame.Valid ∧
      frame.header = header ∧
      packet = frame.wire codec.primitives codec.aead ∧
      |nowMs - frame.timestampMs| ≤ codec.maxClockSkewMs := by
  obtain ⟨derived, nonceShape⟩ := readable.nonce_isOk codec.primitives
  simp only [decrypt, nonceShape] at decrypted
  split at decrypted
  · cases decrypted
  · rename_i payload opened
    simp only [guard_eq_ok_iff, not_not, not_lt, gt_iff_lt,
      Except.ok.injEq] at decrypted
    obtain ⟨payloadLen, inTime, frameShape⟩ := decrypted
    obtain ⟨valid, sameHeader, sameAad⟩ :=
      readable.exists_frame payload payloadLen.symm
    have sameNonce :=
      (nonce_of_header valid sameHeader codec.primitives).symm.trans
        nonceShape
    have sealed := lawful.encrypt_of_decrypt _ _ _ _ opened
    have sameTimestamp :
        header.timestampMs =
          ((frameOf header kind payload).timestampMs : Int) :=
      (congrArg Header.timestampMs sameHeader).symm
    subst frameShape
    refine ⟨valid, sameHeader, ?_, sameTimestamp ▸ inTime⟩
    calc packet
        = packet.take (size aadFormat) ++ packet.drop (size aadFormat) :=
          (List.take_append_drop _ _).symm
      _ = (frameOf header kind payload).wire codec.primitives
            codec.aead := by
          rw [Frame.wire, sameAad, Except.ok.inj sameNonce, ← sealed]
          rfl

/-- The packet of a valid frame of this tunnel is readable. -/
theorem readable_wire
    {frame : Frame}
    (lawful : codec.aead.Lawful)
    (valid : frame.Valid)
    (sameTunnel : frame.tunnelId = codec.tunnelId) :
    codec.Readable (frame.wire codec.primitives codec.aead) frame.header
      frame.kind := by
  obtain ⟨_, length, reads⟩ :=
    valid.pack_header
      (codec.aead.encrypt (frame.nonce codec.primitives) frame.payload
        frame.aad)
  refine ⟨reads, ?_, valid.rules.known⟩
  rw [Header.decodeChecks_eq_ok_iff]
  refine ⟨⟨_, valid.rules⟩, rfl, rfl, sameTunnel, ?_⟩
  simp only [Frame.wire, List.length_append, length,
    lawful.length_encrypt, Frame.header]
  push_cast
  omega

/-- `decode` returns exactly the frames of the packets it is given. -/
theorem decode_eq_ok_iff
    {packet : Bytes}
    {nowMs : Int}
    {frame : Frame}
    (lawful : codec.aead.Lawful) :
    codec.decode packet nowMs = .ok frame ↔
      frame.Valid ∧
        frame.tunnelId = codec.tunnelId ∧
        packet = frame.wire codec.primitives codec.aead ∧
        |nowMs - frame.timestampMs| ≤ codec.maxClockSkewMs := by
  constructor
  · intro decoded
    rcases readable_or_refused codec packet with
      ⟨header, kind, readable⟩ | ⟨message, refused⟩
    · rw [decode_of_readable readable] at decoded
      obtain ⟨valid, sameHeader, sealed, inTime⟩ :=
        wire_of_decrypt lawful readable decoded
      obtain ⟨_, _, _, sameTunnel, _⟩ :=
        Header.decodeChecks_eq_ok_iff.mp readable.checks
      refine ⟨valid, ?_, sealed, inTime⟩
      rw [← sameTunnel, ← sameHeader]
      rfl
    · rw [refused] at decoded
      cases decoded
  · rintro ⟨valid, sameTunnel, packetShape, inTime⟩
    have readable := readable_wire lawful valid sameTunnel
    obtain ⟨takes, drops⟩ :=
      valid.take_wire codec.primitives codec.aead
    have nonceShape :=
      nonce_of_header valid rfl codec.primitives
    have sameFrame := Header.frameOf_header frame
    rw [packetShape, decode_of_readable readable, decrypt]
    simp only [takes, drops, nonceShape, lawful.decrypt_encrypt]
    have sameLength :
        frame.header.payloadLen = (frame.payload.length : Int) := rfl
    have sameTimestamp :
        frame.header.timestampMs = (frame.timestampMs : Int) := rfl
    simp [sameLength, sameTimestamp, inTime, sameFrame]

/-- Different valid frames have different packets. -/
theorem wire_injective
    {primitives : Primitives}
    {aead : Aead}
    {first second : Frame}
    (lawful : aead.Lawful)
    (firstValid : first.Valid)
    (secondValid : second.Valid)
    (same : first.wire primitives aead = second.wire primitives aead) :
    first = second := by
  obtain ⟨firstAad, firstSealed⟩ := firstValid.take_wire primitives aead
  obtain ⟨secondAad, secondSealed⟩ :=
    secondValid.take_wire primitives aead
  have sameAad : first.aad = second.aad := by
    rw [← firstAad, same, secondAad]
  have sameHeader : first.header = second.header := by
    obtain ⟨_, _, firstReads⟩ := firstValid.pack_header []
    obtain ⟨_, _, secondReads⟩ := secondValid.pack_header []
    rw [sameAad, secondReads] at firstReads
    have sameValues :
        Header.ofValues? second.header.values =
          Header.ofValues? first.header.values := by
      rw [Option.some.inj firstReads]
    exact (Option.some.inj sameValues).symm
  have sameNonce : first.nonce primitives = second.nonce primitives := by
    have firstNonce := nonce_of_header firstValid sameHeader primitives
    have secondNonce := nonce_of_header secondValid rfl primitives
    exact Except.ok.inj (firstNonce.symm.trans secondNonce)
  have samePayload : first.payload = second.payload := by
    have opened :=
      lawful.decrypt_encrypt (first.nonce primitives) first.payload
        first.aad
    rw [← firstSealed, same, secondSealed, sameNonce, sameAad,
      lawful.decrypt_encrypt] at opened
    exact (Option.some.inj opened).symm
  have sameKind : first.kind = second.kind := by
    have known := firstValid.rules.known
    rw [sameHeader, secondValid.rules.known] at known
    exact (Option.some.inj known).symm
  rw [← Header.frameOf_header first, ← Header.frameOf_header second,
    sameHeader, sameKind, samePayload]

/-- What a successful constructor call fixes. -/
theorem init_eq_ok
    {primitives : Primitives}
    {tunnelId secret token : Bytes}
    {maxClockSkewSeconds : Rat}
    {sessionId : Option Int}
    (built :
      init primitives tunnelId secret maxClockSkewSeconds sessionId token =
        .ok codec) :
    codec.primitives = primitives ∧
      codec.tunnelId = tunnelId ∧
      codec.aead = primitives.deriveAead tunnelId secret ∧
      tunnelId.length = 16 ∧
      32 ≤ secret.length := by
  simp only [init] at built
  split at built
  · cases built
  · rename_i tunnelIdLength
    split at built
    · cases built
    · rename_i secretLength
      split at built
      · cases built
      · split at built
        · cases built
        · cases built
          exact ⟨rfl, rfl, rfl, not_not.mp tunnelIdLength,
            not_lt.mp secretLength⟩

/-- The constructor accepts every session identifier that fits. -/
theorem init_of_session
    (primitives : Primitives)
    {tunnelId secret : Bytes}
    {maxClockSkewSeconds : Rat}
    {session : Nat}
    (tunnelIdLength : tunnelId.length = 16)
    (secretLength : 32 ≤ secret.length)
    (positive : 0 < maxClockSkewSeconds)
    (fits : session < 2 ^ 64)
    (token : Bytes) :
    ∃ built,
      init primitives tunnelId secret maxClockSkewSeconds (some session)
          token = .ok built ∧
        built.sessionId = session := by
  have inRange :
      (0 : Int) ≤ session ∧ (session : Int) ≤ 0xFFFFFFFFFFFFFFFF := by
    omega
  simp [init, tunnelIdLength, not_lt.mpr secretLength, positive, inRange]

/-- Any codec of the same key and session re-encodes a frame alike. -/
theorem encode_request
    {frame : Frame}
    (valid : frame.Valid)
    (sameTunnel : frame.tunnelId = codec.tunnelId)
    (sameSession : frame.sessionId = codec.sessionId)
    (clockMs : Int) :
    codec.encode clockMs frame.request =
      .ok (frame.wire codec.primitives codec.aead) := by
  apply encode_of_header valid _ rfl
  simp [Frame.header, requestHeader, Frame.request, sameTunnel, sameSession]

/--
For codecs built from one tunnel identifier and one secret: a packet is
decoded to the frame it was encoded from, decoding raises nothing but
`ProtocolError`, and a decoded frame encodes back to the packet it came from
and comes from no other packet.
-/
theorem encode_decode_inverse
    {primitives : Primitives}
    {tunnelId secret encoderToken decoderToken : Bytes}
    {encoderSkew decoderSkew : Rat}
    {encoderSession decoderSession : Option Int}
    {encoder decoder : FrameCodec}
    (lawful : (primitives.deriveAead tunnelId secret).Lawful)
    (encoderBuilt :
      init primitives tunnelId secret encoderSkew encoderSession
        encoderToken = .ok encoder)
    (decoderBuilt :
      init primitives tunnelId secret decoderSkew decoderSession
        decoderToken = .ok decoder) :
    (∀ clockMs request packet,
      encoder.encode clockMs request = .ok packet →
      ∃ frame : Frame,
        frame.header = encoder.requestHeader clockMs request ∧
          frame.payload = request.payload ∧
          frame.sessionId = encoder.sessionId ∧
          ∀ nowMs,
            |nowMs - request.timestampMs.getD clockMs| ≤
              decoder.maxClockSkewMs →
            decoder.decode packet nowMs = .ok frame) ∧
      (∀ packet nowMs,
        (∃ frame, decoder.decode packet nowMs = .ok frame) ∨
          ∃ message,
            decoder.decode packet nowMs =
              .error (.protocolError message)) ∧
      (∀ packet nowMs frame,
        decoder.decode packet nowMs = .ok frame →
        (∀ skew token, 0 < skew →
          ∃ codec,
            init primitives tunnelId secret skew (some frame.sessionId)
                token = .ok codec ∧
              ∀ clockMs,
                codec.encode clockMs frame.request = .ok packet) ∧
        ∀ other otherMs,
          decoder.decode other otherMs = .ok frame → other = packet) := by
  obtain ⟨encoderPrimitives, encoderTunnel, encoderAead, tunnelIdLength,
    secretLength⟩ := init_eq_ok encoderBuilt
  obtain ⟨decoderPrimitives, decoderTunnel, decoderAead, _⟩ :=
    init_eq_ok decoderBuilt
  have decoderLawful : decoder.aead.Lawful := decoderAead ▸ lawful
  refine ⟨?_, fun packet nowMs => decode_total decoder packet nowMs, ?_⟩
  · intro clockMs request packet encoded
    obtain ⟨frame, valid, sameHeader, samePayload, packetShape⟩ :=
      encode_eq_ok_iff.mp encoded
    have sameSession :
        (frame.sessionId : Int) = encoder.sessionId :=
      congrArg Header.sessionId sameHeader
    have sameTunnel : frame.tunnelId = encoder.tunnelId :=
      congrArg Header.tunnelId sameHeader
    have sameTimestamp :
        (frame.timestampMs : Int) = request.timestampMs.getD clockMs :=
      congrArg Header.timestampMs sameHeader
    refine ⟨frame, sameHeader, samePayload, Int.ofNat_inj.mp sameSession, ?_⟩
    intro nowMs inTime
    rw [decode_eq_ok_iff decoderLawful]
    refine ⟨valid, ?_, ?_, sameTimestamp ▸ inTime⟩
    · rw [sameTunnel, encoderTunnel, decoderTunnel]
    · rw [packetShape, encoderPrimitives, encoderAead, decoderPrimitives,
        decoderAead]
  · intro packet nowMs frame decoded
    obtain ⟨valid, sameTunnel, packetShape, _⟩ :=
      (decode_eq_ok_iff decoderLawful).mp decoded
    refine ⟨?_, ?_⟩
    · intro skew token positive
      obtain ⟨codec, built, sameSession⟩ :=
        init_of_session primitives tunnelIdLength secretLength positive
          valid.sessionId token
      obtain ⟨codecPrimitives, codecTunnel, codecAead, _⟩ :=
        init_eq_ok built
      refine ⟨codec, built, ?_⟩
      intro clockMs
      have codecFrame : frame.tunnelId = codec.tunnelId := by
        rw [sameTunnel, decoderTunnel, codecTunnel]
      rw [encode_request valid codecFrame sameSession.symm, packetShape,
        codecPrimitives, codecAead, decoderPrimitives, decoderAead]
    · intro other otherMs otherDecoded
      obtain ⟨_, _, otherShape, _⟩ :=
        (decode_eq_ok_iff decoderLawful).mp otherDecoded
      rw [otherShape, packetShape]

end FrameCodec

/--
Stand-in for the libraries on concrete inputs: the tag is sixteen zero bytes
and the digest is constant.
-/
def Primitives.plain : Primitives where
  deriveAead _ _ := {
    encrypt := fun _ plaintext _ => plaintext ++ List.replicate 16 0
    decrypt := fun _ ciphertext _ =>
      if ciphertext.drop (ciphertext.length - 16) = List.replicate 16 0 then
        some (ciphertext.take (ciphertext.length - 16))
      else
        none
  }
  blake2s _ := List.replicate 4 0

theorem Primitives.plain_lawful
    (tunnelId secret : Bytes) :
    (plain.deriveAead tunnelId secret).Lawful where
  length_encrypt nonce plaintext associated := by
    simp [plain, aeadTagSize]
  decrypt_encrypt nonce plaintext associated := by
    simp [plain]
  encrypt_of_decrypt nonce ciphertext associated plaintext opened := by
    simp only [plain, Option.ite_none_right_eq_some,
      Option.some.injEq] at opened ⊢
    obtain ⟨tagged, rfl⟩ := opened
    rw [← tagged, List.take_append_drop]

/-- One session of a fixed tunnel on the stand-in libraries. -/
def FrameCodec.plain (session : Nat) (fits : session < 2 ^ 64) :
    FrameCodec where
  primitives := .plain
  tunnelId := List.replicate 16 7
  sessionId := session
  maxClockSkewMs := 600000
  aead := Primitives.plain.deriveAead (List.replicate 16 7)
    (List.replicate 32 9)
  tunnelIdLength := rfl
  sessionIdFits := fits
  skewNonnegative := by decide

theorem FrameCodec.init_plain
    (session : Nat)
    (fits : session < 2 ^ 64) :
    init .plain (List.replicate 16 7) (List.replicate 32 9)
        defaultClockSkewSeconds (some session) [] =
      .ok (plain session fits) := by
  have inRange :
      (0 : Int) ≤ session ∧ (session : Int) ≤ 0xFFFFFFFFFFFFFFFF := by
    omega
  have skew : (defaultClockSkewSeconds * 1000).floor = 600000 := by
    decide +kernel
  have positive : 0 < defaultClockSkewSeconds := by
    decide +kernel
  simp [init, plain, skew, positive, inRange]

/-- A packet of session 5 decoded, and refused a second encoding, by 6. -/
theorem FrameCodec.encode_decode_inverse_two_sessions :
    ∃ packet frame,
      (plain 5 (by decide)).encode 1000
          { kind := 1, sequence := 3, payload := [1, 2, 3] } = .ok packet ∧
        (plain 6 (by decide)).decode packet 1500 = .ok frame ∧
        frame.payload = [1, 2, 3] ∧
        ∀ other otherMs,
          (plain 6 (by decide)).decode other otherMs = .ok frame →
            other = packet := by
  obtain ⟨decoded, _, reencoded⟩ :=
    encode_decode_inverse (Primitives.plain_lawful _ _)
      (init_plain 5 (by decide)) (init_plain 6 (by decide))
  have isOk :
      ((plain 5 (by decide)).encode 1000
        { kind := 1, sequence := 3, payload := [1, 2, 3] }).toOption.isSome =
          true := by
    decide +kernel
  cases encoded :
      (plain 5 (by decide)).encode 1000
        { kind := 1, sequence := 3, payload := [1, 2, 3] } with
  | error failure =>
      rw [encoded] at isOk
      cases isOk
  | ok packet =>
      obtain ⟨frame, _, samePayload, _, decodes⟩ :=
        decoded _ _ _ encoded
      have answered := decodes 1500 (by decide)
      exact ⟨packet, frame, rfl, answered, samePayload,
        (reencoded _ _ _ answered).2⟩

end H3ntun

import H3ntun.Basic
import H3ntun.Foundation.StructPack
import Mathlib.Data.Int.Bitwise
import Mathlib.Data.Rat.Floor

namespace H3ntun

open StructPack

/-!
# The frame codec

Header layout, validation and encryption of wire frames.  The cipher, the key
derivation and the hash come from libraries and are parameters; everything
else follows the source, including the order of its checks and the texts of
its errors.
-/

/-- The six frame kinds of `VALID_KINDS`. -/
inductive FrameKind where
  | dataUp
  | dataDown
  | ping
  | pong
  | ackUp
  | ackDown
  deriving Repr, DecidableEq

namespace FrameKind

/-- Number of a kind on the wire. -/
def code : FrameKind → Nat
  | .dataUp => 1
  | .dataDown => 2
  | .ping => 3
  | .pong => 4
  | .ackUp => 5
  | .ackDown => 6

/-- Kind with a given number, if it is one of `VALID_KINDS`. -/
def ofCode? (code : Int) : Option FrameKind :=
  [dataUp, dataDown, ping, pong, ackUp, ackDown].find? fun kind =>
    (kind.code : Int) = code

/-- The kinds that may be fragmented. -/
def isData : FrameKind → Bool
  | .dataUp => true
  | .dataDown => true
  | _ => false

/-- A kind is found under its own code. -/
@[simp] theorem ofCode?_code
    (kind : FrameKind) :
    ofCode? kind.code = some kind := by
  cases kind <;> rfl

/-- And under no other. -/
theorem ofCode?_eq_some
    {code : Int}
    {kind : FrameKind}
    (known : ofCode? code = some kind) :
    code = kind.code := by
  have found := List.find?_some known
  simpa using (of_decide_eq_true found).symm

end FrameKind

/-- The bytes of `b"H3TN"`. -/
def magic : Bytes := [0x48, 0x33, 0x54, 0x4E]

/-- `VERSION`. -/
def version : Int := 3

/-- `FLAG_PARITY`. -/
def flagParity : Int := 0x01

/-- `VALID_FLAGS`. -/
def validFlags : Int := flagParity

/-- `MAX_FRAGMENT_PAYLOAD`. -/
def maxFragmentPayload : Nat := 1391

/-- `MAX_MESSAGE_SIZE`. -/
def maxMessageSize : Nat := 60000

/-- `MAX_FRAGMENTS`. -/
def maxFragments : Nat := 256

/-- Layout `!4sBBB16sQQQQIHHH` of the authenticated header. -/
def aadFormat : List Item :=
  [.bytes 4, .unsigned 1, .unsigned 1, .unsigned 1, .bytes 16,
    .unsigned 8, .unsigned 8, .unsigned 8, .unsigned 8,
    .unsigned 4, .unsigned 2, .unsigned 2, .unsigned 2]

/-- Layout `!QQ` of an acknowledgement payload. -/
def ackFormat : List Item :=
  [.unsigned 8, .unsigned 8]

/-- Layout `!QBBH` of the nonce context. -/
def nonceFormat : List Item :=
  [.unsigned 8, .unsigned 1, .unsigned 1, .unsigned 2]

/-- `AEAD_TAG_SIZE`. -/
def aeadTagSize : Nat := 16

/-- `FRAME_OVERHEAD`. -/
def frameOverhead : Nat := size aadFormat + aeadTagSize

/-- A decoded frame. -/
structure Frame where
  kind : FrameKind
  flags : Nat
  tunnelId : Bytes
  sessionId : Nat
  sequence : Nat
  timestampMs : Nat
  messageId : Nat
  messageLen : Nat
  fragmentIndex : Nat
  fragmentCount : Nat
  payload : Bytes
  deriving Repr, DecidableEq

namespace Frame

/-- The parity flag is set. -/
def isParity (frame : Frame) : Bool :=
  Int.land frame.flags flagParity ≠ 0

end Frame

/-- The thirteen values of a header, as packed or unpacked. -/
@[ext]
structure Header where
  magic : Bytes
  version : Int
  kind : Int
  flags : Int
  tunnelId : Bytes
  sessionId : Int
  sequence : Int
  timestampMs : Int
  messageId : Int
  messageLen : Int
  fragmentIndex : Int
  fragmentCount : Int
  payloadLen : Int
  deriving Repr, DecidableEq

namespace Header

/-- Values in wire order. -/
def values (header : Header) : List Value :=
  [.bytes header.magic, .int header.version, .int header.kind,
    .int header.flags, .bytes header.tunnelId, .int header.sessionId,
    .int header.sequence, .int header.timestampMs, .int header.messageId,
    .int header.messageLen, .int header.fragmentIndex,
    .int header.fragmentCount, .int header.payloadLen]

/-- Header with the given values in wire order. -/
def ofValues? : List Value → Option Header
  | [.bytes magic, .int version, .int kind, .int flags, .bytes tunnelId,
      .int sessionId, .int sequence, .int timestampMs, .int messageId,
      .int messageLen, .int fragmentIndex, .int fragmentCount,
      .int payloadLen] =>
      some {
        magic, version, kind, flags, tunnelId, sessionId, sequence,
        timestampMs, messageId, messageLen, fragmentIndex, fragmentCount,
        payloadLen
      }
  | _ => none

/-- The parity flag is set. -/
def isParity (header : Header) : Bool :=
  Int.land header.flags flagParity ≠ 0

/-- Whether the kind is one of the two data kinds. -/
def isData (header : Header) : Bool :=
  match FrameKind.ofCode? header.kind with
  | some kind => kind.isData
  | none => false

/-- A control frame carries no fragment fields. -/
def isFragmented (header : Header) : Bool :=
  header.flags ≠ 0 || header.messageId ≠ 0 ||
    header.fragmentIndex ≠ 0 || header.fragmentCount ≠ 1 ||
    header.messageLen ≠ header.payloadLen

/-- Checks of `encode` before the header is packed, in source order. -/
def encodeChecks (header : Header) : Except Failure Unit :=
  if (FrameKind.ofCode? header.kind).isNone then
    .error (.protocolError "unknown frame kind")
  else if Int.land header.flags (Int.lnot validFlags) ≠ 0 then
    .error (.protocolError "unknown frame flags")
  else if header.payloadLen > maxFragmentPayload then
    .error (.protocolError s!"fragment exceeds {maxFragmentPayload} bytes")
  else if ¬ (0 ≤ header.messageId ∧
      header.messageId ≤ 0xFFFFFFFFFFFFFFFF) then
    .error (.protocolError "message_id must fit in 64 bits")
  else if ¬ (0 ≤ header.messageLen ∧
      header.messageLen ≤ maxMessageSize) then
    .error (.protocolError s!"message exceeds {maxMessageSize} bytes")
  else if ¬ (1 ≤ header.fragmentCount ∧
      header.fragmentCount ≤ maxFragments) then
    .error (.protocolError "invalid fragment count")
  else if header.isParity ∧
      (header.fragmentCount < 2 ∨
        header.fragmentIndex ≠ header.fragmentCount) then
    .error (.protocolError "invalid parity fragment index")
  else if ¬ header.isParity ∧
      ¬ (0 ≤ header.fragmentIndex ∧
        header.fragmentIndex < header.fragmentCount) then
    .error (.protocolError "invalid fragment index")
  else if ¬ header.isData ∧ header.isFragmented then
    .error (.protocolError "control frames cannot be fragmented")
  else
    .ok ()

/-- Checks of `decode` before decryption, in source order. -/
def decodeChecks
    (header : Header)
    (tunnelId packet : Bytes) :
    Except Failure Unit :=
  if header.magic ≠ H3ntun.magic ∨ header.version ≠ H3ntun.version then
    .error (.protocolError "bad magic or protocol version")
  else if header.tunnelId ≠ tunnelId then
    .error (.protocolError "unexpected tunnel id")
  else if (FrameKind.ofCode? header.kind).isNone then
    .error (.protocolError "unknown frame kind")
  else if Int.land header.flags (Int.lnot validFlags) ≠ 0 then
    .error (.protocolError "unknown frame flags")
  else if header.payloadLen > maxFragmentPayload then
    .error (.protocolError "invalid fragment length")
  else if (packet.length : Int) ≠
      size aadFormat + header.payloadLen + aeadTagSize then
    .error (.protocolError "invalid encrypted payload length")
  else if header.messageLen > maxMessageSize then
    .error (.protocolError "invalid message length")
  else if ¬ (1 ≤ header.fragmentCount ∧
      header.fragmentCount ≤ maxFragments) then
    .error (.protocolError "invalid fragment count")
  else if header.isParity ∧
      (header.fragmentCount < 2 ∨
        header.fragmentIndex ≠ header.fragmentCount) then
    .error (.protocolError "invalid parity metadata")
  else if ¬ header.isParity ∧
      header.fragmentIndex ≥ header.fragmentCount then
    .error (.protocolError "invalid fragment metadata")
  else if ¬ header.isData ∧ header.isFragmented then
    .error (.protocolError "invalid control frame metadata")
  else
    .ok ()

end Header

/-- An authenticated cipher under one key; `none` stands for `InvalidTag`. -/
structure Aead where
  encrypt : (nonce plaintext associated : Bytes) → Bytes
  decrypt : (nonce ciphertext associated : Bytes) → Option Bytes

/--
Documented behaviour of the cipher: the output is a tag longer than the
plaintext, decryption inverts encryption, and it succeeds only on outputs of
encryption for the same nonce and associated data.
-/
structure Aead.Lawful (aead : Aead) : Prop where
  length_encrypt :
    ∀ nonce plaintext associated,
      (aead.encrypt nonce plaintext associated).length =
        plaintext.length + aeadTagSize
  decrypt_encrypt :
    ∀ nonce plaintext associated,
      aead.decrypt nonce (aead.encrypt nonce plaintext associated)
        associated = some plaintext
  encrypt_of_decrypt :
    ∀ nonce ciphertext associated plaintext,
      aead.decrypt nonce ciphertext associated = some plaintext →
      aead.encrypt nonce plaintext associated = ciphertext

/-- Library functions the codec calls. -/
structure Primitives where
  /-- `ChaCha20Poly1305(HKDF(salt=tunnel_id, ...).derive(secret))` -/
  deriveAead : (tunnelId secret : Bytes) → Aead
  /-- `hashlib.blake2s(context, digest_size=4, person=b"h3ntun").digest()` -/
  blake2s : (context : Bytes) → Bytes

/-- One process session of the codec. -/
structure FrameCodec where
  primitives : Primitives
  tunnelId : Bytes
  sessionId : Nat
  maxClockSkewMs : Int
  aead : Aead
  tunnelIdLength : tunnelId.length = 16
  sessionIdFits : sessionId < 2 ^ 64
  skewNonnegative : 0 ≤ maxClockSkewMs

/-- Arguments of one `encode` call, with the defaults of the source. -/
structure EncodeRequest where
  kind : Int
  sequence : Int
  payload : Bytes := []
  timestampMs : Option Int := none
  messageId : Int := 0
  messageLen : Option Int := none
  fragmentIndex : Int := 0
  fragmentCount : Int := 1
  flags : Int := 0
  deriving Repr, DecidableEq

namespace FrameCodec

/-- Default of `max_clock_skew_seconds`. -/
def defaultClockSkewSeconds : Rat := 600

/--
The constructor.  `token` stands for `secrets.token_bytes(8)`, read only when
no session identifier is given.
-/
def init
    (primitives : Primitives)
    (tunnelId secret : Bytes)
    (maxClockSkewSeconds : Rat)
    (sessionId : Option Int)
    (token : Bytes) :
    Except Failure FrameCodec :=
  if tunnelIdLength : tunnelId.length ≠ 16 then
    .error (.valueError "tunnel_id must be exactly 16 bytes")
  else if secret.length < 32 then
    .error (.valueError "shared secret must be at least 32 bytes")
  else
    let chosen := sessionId.getD (ofBigEndian token)
    if fits : ¬ (0 ≤ chosen ∧ chosen ≤ 0xFFFFFFFFFFFFFFFF) then
      .error (.valueError "session_id must fit in 64 bits")
    else if positive : ¬ maxClockSkewSeconds > 0 then
      .error (.valueError "max_clock_skew_seconds must be positive")
    else
      .ok {
        primitives := primitives
        tunnelId := tunnelId
        sessionId := chosen.toNat
        maxClockSkewMs := (maxClockSkewSeconds * 1000).floor
        aead := primitives.deriveAead tunnelId secret
        tunnelIdLength := not_not.mp tunnelIdLength
        sessionIdFits := by
          rw [not_not] at fits
          omega
        skewNonnegative := by
          rw [not_not] at positive
          exact Int.floor_nonneg.mpr
            (mul_nonneg positive.le (by decide +kernel))
      }

/-- Derivation of the nonce from the header fields. -/
def nonce
    (primitives : Primitives)
    (sessionId sequence kind flags fragmentIndex : Int) :
    Except Failure Bytes :=
  if ¬ (0 ≤ sequence ∧ sequence ≤ 0xFFFFFFFFFFFFFFFF) then
    .error (.protocolError "sequence must fit in 64 bits")
  else
    match pack nonceFormat
        [.int sessionId, .int kind, .int flags, .int fragmentIndex],
      pack [.unsigned 8] [.int sequence] with
    | some context, some counter =>
        .ok (primitives.blake2s context ++ counter)
    | _, _ => .error .structError

/-- Header `encode` packs; `clockMs` is the reading of the wall clock. -/
def requestHeader
    (codec : FrameCodec)
    (clockMs : Int)
    (request : EncodeRequest) : Header where
  magic := magic
  version := version
  kind := request.kind
  flags := request.flags
  tunnelId := codec.tunnelId
  sessionId := codec.sessionId
  sequence := request.sequence
  timestampMs := request.timestampMs.getD clockMs
  messageId := request.messageId
  messageLen := request.messageLen.getD request.payload.length
  fragmentIndex := request.fragmentIndex
  fragmentCount := request.fragmentCount
  payloadLen := request.payload.length

/-- `FrameCodec.encode`, at a reading of the wall clock. -/
def encode
    (codec : FrameCodec)
    (clockMs : Int)
    (request : EncodeRequest) :
    Except Failure Bytes :=
  let header := codec.requestHeader clockMs request
  match header.encodeChecks with
  | .error failure => .error failure
  | .ok () =>
      match pack aadFormat header.values with
      | none => .error .structError
      | some aad =>
          match nonce codec.primitives codec.sessionId request.sequence
              request.kind request.flags request.fragmentIndex with
          | .error failure => .error failure
          | .ok nonce =>
              .ok (aad ++ codec.aead.encrypt nonce request.payload aad)

/-- Frame with the fields of a checked header and the decrypted payload. -/
def frameOf (header : Header) (kind : FrameKind) (payload : Bytes) :
    Frame where
  kind := kind
  flags := header.flags.toNat
  tunnelId := header.tunnelId
  sessionId := header.sessionId.toNat
  sequence := header.sequence.toNat
  timestampMs := header.timestampMs.toNat
  messageId := header.messageId.toNat
  messageLen := header.messageLen.toNat
  fragmentIndex := header.fragmentIndex.toNat
  fragmentCount := header.fragmentCount.toNat
  payload := payload

/-- Decryption and the last checks, once the header has been checked. -/
def decrypt
    (codec : FrameCodec)
    (packet : Bytes)
    (nowMs : Int)
    (header : Header)
    (kind : FrameKind) :
    Except Failure Frame :=
  let aad := packet.take (size aadFormat)
  let encrypted := packet.drop (size aadFormat)
  match nonce codec.primitives header.sessionId header.sequence
      header.kind header.flags header.fragmentIndex with
  | .error failure => .error failure
  | .ok nonce =>
      match codec.aead.decrypt nonce encrypted aad with
      | none => .error (.protocolError "authentication failed")
      | some payload =>
          if (payload.length : Int) ≠ header.payloadLen then
            .error (.protocolError "decrypted payload length mismatch")
          else if |nowMs - header.timestampMs| > codec.maxClockSkewMs then
            .error (.protocolError
              "frame timestamp is outside the accepted window")
          else
            .ok (frameOf header kind payload)

/-- `FrameCodec.decode`, at a reading of the wall clock. -/
def decode
    (codec : FrameCodec)
    (packet : Bytes)
    (nowMs : Int) :
    Except Failure Frame :=
  if packet.length < frameOverhead then
    .error (.protocolError "packet is shorter than the frame header")
  else
    match (unpackFrom aadFormat packet).bind Header.ofValues? with
    | none => .error (.protocolError "invalid frame header")
    | some header =>
        match header.decodeChecks codec.tunnelId packet,
            FrameKind.ofCode? header.kind with
        | .ok (), some kind => codec.decrypt packet nowMs header kind
        | .error failure, _ => .error failure
        | _, none => .error (.protocolError "unknown frame kind")

/-- `encode` of an acknowledgement for one message of one session. -/
def encodeAck
    (codec : FrameCodec)
    (clockMs : Int)
    (kind : FrameKind)
    (sequence : Int)
    (acknowledgedSession messageId : Int) :
    Except Failure Bytes :=
  if kind ≠ .ackUp ∧ kind ≠ .ackDown then
    .error (.protocolError "invalid acknowledgement kind")
  else
    match pack ackFormat [.int acknowledgedSession, .int messageId] with
    | none => .error .structError
    | some payload =>
        codec.encode clockMs
          { kind := kind.code, sequence := sequence, payload := payload }

/-- Session and message an acknowledgement names. -/
def decodeAck (frame : Frame) : Except Failure (Nat × Nat) :=
  if (frame.kind ≠ .ackUp ∧ frame.kind ≠ .ackDown) ∨
      frame.payload.length ≠ size ackFormat then
    .error (.protocolError "invalid acknowledgement payload")
  else
    match unpackFrom ackFormat frame.payload with
    | some [.int acknowledgedSession, .int messageId] =>
        .ok (acknowledgedSession.toNat, messageId.toNat)
    | _ => .error .structError

end FrameCodec

end H3ntun

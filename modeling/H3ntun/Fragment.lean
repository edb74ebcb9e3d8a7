import H3ntun.FrameCodec
import H3ntun.Foundation.ErasureBlocks
import Mathlib.Data.List.Nodup

namespace H3ntun

/-!
# Fragmentation

A message is cut into pieces of one size, and a parity fragment is appended
when error correction is on and there is more than one piece.
-/

/-- The exclusive-or code on bytes. -/
def xorCode : ErasureBlocks.Cancelling UInt8 where
  op left right := left ^^^ right
  zero := 0
  comm := UInt8.xor_comm
  assoc := UInt8.xor_assoc
  op_zero := fun _ => UInt8.xor_zero
  op_self := fun _ => UInt8.xor_self

/-- One fragment of a message, before it is given a sequence number. -/
structure FragmentSpec where
  payload : Bytes
  messageLen : Nat
  fragmentIndex : Nat
  fragmentCount : Nat
  flags : Nat := 0
  deriving Repr, DecidableEq

/--
Number of pieces of a payload.  The quotient of the source is a float; on
its range rounding never crosses an integer, so this is the integer ceiling.
-/
def pieceCount (length fragmentPayloadBytes : Nat) : Nat :=
  max 1 ((length + fragmentPayloadBytes - 1) / fragmentPayloadBytes)

/-- `fragment_message`. -/
def fragmentMessage
    (payload : Bytes)
    (fragmentPayloadBytes : Nat)
    (fecEnabled : Bool) :
    Except Failure (List FragmentSpec) :=
  if ¬ (256 ≤ fragmentPayloadBytes ∧
      fragmentPayloadBytes ≤ maxFragmentPayload) then
    .error (.protocolError
      s!"fragment payload must be between 256 and {maxFragmentPayload} bytes")
  else if payload.length > maxMessageSize then
    .error (.protocolError s!"message exceeds {maxMessageSize} bytes")
  else
    let count := pieceCount payload.length fragmentPayloadBytes
    if count > maxFragments then
      .error (.protocolError "message requires too many fragments")
    else
      let pieces :=
        ErasureBlocks.blocks fragmentPayloadBytes count payload
      let result := pieces.mapIdx fun index piece =>
        { payload := piece, messageLen := payload.length,
          fragmentIndex := index, fragmentCount := count : FragmentSpec }
      if fecEnabled ∧ count > 1 then
        .ok (result ++ [{
          payload := xorCode.parity fragmentPayloadBytes pieces
          messageLen := payload.length
          fragmentIndex := count
          fragmentCount := count
          flags := flagParity.toNat
        }])
      else
        .ok result

/-- A payload with the settings under which it may be fragmented. -/
structure Message where
  payload : Bytes
  fragmentPayloadBytes : Nat
  fecEnabled : Bool
  sizeInRange :
    256 ≤ fragmentPayloadBytes ∧ fragmentPayloadBytes ≤ maxFragmentPayload
  payloadFits :
    payload.length ≤ maxMessageSize

namespace Message

/-- A message of three bytes. -/
def short : Message where
  payload := [1, 2, 3]
  fragmentPayloadBytes := 256
  fecEnabled := true
  sizeInRange := by decide
  payloadFits := by decide

variable (message : Message)

/-- Number of data fragments. -/
def count : Nat :=
  pieceCount message.payload.length message.fragmentPayloadBytes

/-- Payloads of the data fragments. -/
def pieces : List Bytes :=
  ErasureBlocks.blocks message.fragmentPayloadBytes message.count
    message.payload

/-- Payload of the parity fragment. -/
def parity : Bytes :=
  xorCode.parity message.fragmentPayloadBytes message.pieces

/-- The message gets a parity fragment. -/
def hasParity : Bool :=
  message.fecEnabled && decide (message.count > 1)

/-- The data fragment with a given index. -/
def dataFragment (index : Nat) : FragmentSpec where
  payload := message.pieces.getD index []
  messageLen := message.payload.length
  fragmentIndex := index
  fragmentCount := message.count

/-- The parity fragment. -/
def parityFragment : FragmentSpec where
  payload := message.parity
  messageLen := message.payload.length
  fragmentIndex := message.count
  fragmentCount := message.count
  flags := 1

/-- All fragments of a message, in the order they are sent. -/
def fragments : List FragmentSpec :=
  (List.range message.count).map message.dataFragment ++
    if message.hasParity then [message.parityFragment] else []

variable {message}

theorem count_pos
    (message : Message) :
    0 < message.count := by
  simp [count, pieceCount]

theorem hasParity_iff :
    message.hasParity = true ↔
      message.fecEnabled = true ∧ message.count > 1 := by
  simp [hasParity]

/-- The pieces cover the payload, and all but the last of them are full. -/
theorem count_bounds
    (message : Message) :
    message.payload.length ≤
        message.fragmentPayloadBytes * message.count ∧
      message.fragmentPayloadBytes * (message.count - 1) ≤
        message.payload.length := by
  have sizePositive : 0 < message.fragmentPayloadBytes := by
    have := message.sizeInRange.1
    omega
  generalize countShape : message.count = count
  simp only [Message.count, pieceCount] at countShape
  have upper :=
    Nat.lt_mul_div_succ
      (message.payload.length + message.fragmentPayloadBytes - 1)
      sizePositive
  have lower :=
    Nat.mul_div_le
      (message.payload.length + message.fragmentPayloadBytes - 1)
      message.fragmentPayloadBytes
  generalize quotientShape :
    (message.payload.length + message.fragmentPayloadBytes - 1) /
      message.fragmentPayloadBytes = quotient at *
  rw [Nat.mul_add, Nat.mul_one] at upper
  cases quotient with
  | zero =>
      simp only [Nat.mul_zero, Nat.zero_le, Nat.max_eq_left] at *
      subst countShape
      omega
  | succ quotient =>
      rw [Nat.max_eq_right (by omega)] at countShape
      subst countShape
      rw [Nat.mul_succ] at *
      simp only [Nat.add_sub_cancel]
      omega

/-- No payload of the allowed length needs more than `maxFragments`. -/
theorem count_le
    (message : Message) :
    message.count ≤ 235 := by
  have bounds := message.count_bounds.2
  have size := message.sizeInRange.1
  have fits := message.payloadFits
  have product :
      256 * (message.count - 1) ≤
        message.fragmentPayloadBytes * (message.count - 1) :=
    Nat.mul_le_mul_right _ size
  simp only [maxMessageSize] at fits
  omega

@[simp] theorem length_pieces :
    message.pieces.length = message.count := by
  simp [pieces]

theorem flatten_pieces :
    message.pieces.flatten = message.payload :=
  ErasureBlocks.flatten_blocks message.count_bounds.1

/-- Length of a piece: full, or what the payload leaves for the last one. -/
theorem length_piece
    {index : Nat}
    {piece : Bytes}
    (found : message.pieces[index]? = some piece) :
    piece.length ≤ message.fragmentPayloadBytes ∧
      (index < message.count - 1 →
        piece.length = message.fragmentPayloadBytes) ∧
      (index = message.count - 1 →
        piece.length =
          message.payload.length -
            message.fragmentPayloadBytes * (message.count - 1)) := by
  have length := ErasureBlocks.length_block found
  obtain ⟨covered, full⟩ := message.count_bounds
  refine ⟨by omega, ?_, ?_⟩
  · intro notLast
    have inside :
        message.fragmentPayloadBytes * (index + 1) ≤
          message.fragmentPayloadBytes * (message.count - 1) :=
      Nat.mul_le_mul_left _ notLast
    rw [Nat.mul_succ, Nat.mul_comm] at inside
    omega
  · intro isLast
    have positive := message.count_pos
    have countShape : message.count = (message.count - 1) + 1 := by omega
    rw [countShape, Nat.mul_succ] at covered
    rw [isLast, Nat.mul_comm] at length
    omega

@[simp] theorem length_parity :
    message.parity.length = message.fragmentPayloadBytes := by
  simp [parity]

theorem mem_fragments_iff
    {spec : FragmentSpec} :
    spec ∈ message.fragments ↔
      (∃ index, index < message.count ∧
        spec = message.dataFragment index) ∨
        (message.hasParity = true ∧ spec = message.parityFragment) := by
  simp only [fragments, List.mem_append, List.mem_map, List.mem_range,
    List.mem_ite_nil_right, List.mem_singleton, eq_comm (a := spec)]

/-- There is at most one fragment besides the data fragments. -/
theorem length_fragments_le
    (message : Message) :
    message.fragments.length ≤ message.count + 1 := by
  rw [fragments, List.length_append, List.length_map, List.length_range]
  split <;> simp

/-- A message of one piece has no parity fragment. -/
theorem length_fragments_of_single
    (message : Message)
    (single : message.count = 1) :
    message.fragments.length = 1 := by
  have noParity : ¬ message.hasParity = true := by
    rw [hasParity_iff, single]
    simp
  rw [fragments, if_neg noParity]
  simp [single]

/-- Different fragments of a message have different indices. -/
theorem nodup_fragmentIndex
    (message : Message) :
    (message.fragments.map FragmentSpec.fragmentIndex).Nodup := by
  have dataIndices :
      ((List.range message.count).map message.dataFragment).map
          FragmentSpec.fragmentIndex = List.range message.count := by
    rw [List.map_map]
    exact List.map_id _
  rw [fragments, List.map_append, dataIndices]
  split
  · refine List.Nodup.append List.nodup_range (List.nodup_singleton _) ?_
    intro index member isLast
    have bound := List.mem_range.mp member
    rw [List.map_singleton, List.mem_singleton] at isLast
    exact absurd (isLast ▸ bound) (Nat.lt_irrefl _)
  · simpa using List.nodup_range

/-- The data fragments are the indexed pieces. -/
theorem mapIdx_pieces
    (message : Message) :
    (message.pieces.mapIdx fun index piece =>
      { payload := piece, messageLen := message.payload.length,
        fragmentIndex := index,
        fragmentCount := message.count : FragmentSpec }) =
      (List.range message.count).map message.dataFragment := by
  apply List.ext_getElem (by simp)
  intro index inPieces _
  have inRange : index < message.pieces.length := by
    simpa using inPieces
  simp [dataFragment, List.getElem?_eq_getElem inRange]

theorem fragmentMessage_eq
    (message : Message) :
    fragmentMessage message.payload message.fragmentPayloadBytes
        message.fecEnabled =
      .ok message.fragments := by
  have fits : ¬ message.payload.length > maxMessageSize :=
    not_lt.mpr message.payloadFits
  have fewEnough : ¬ message.count > maxFragments := by
    have := message.count_le
    simp only [maxFragments]
    omega
  rw [count] at fewEnough
  have dataShape := message.mapIdx_pieces
  simp only [pieces, count] at dataShape
  simp only [fragmentMessage, message.sizeInRange, and_self,
    not_true_eq_false, ↓reduceIte, fits, fewEnough, dataShape]
  split
  · rename_i condition
    have withParity := hasParity_iff.mpr condition
    rw [fragments, if_pos withParity]
    rfl
  · rename_i condition
    have withoutParity := mt hasParity_iff.mp condition
    rw [fragments, if_neg withoutParity, List.append_nil]
    rfl

end Message

/-- `fragmentMessage` succeeds exactly within its limits. -/
theorem fragmentMessage_eq_ok_iff
    {payload : Bytes}
    {fragmentPayloadBytes : Nat}
    {fecEnabled : Bool}
    {specs : List FragmentSpec} :
    fragmentMessage payload fragmentPayloadBytes fecEnabled = .ok specs ↔
      ∃ message : Message,
        message.payload = payload ∧
          message.fragmentPayloadBytes = fragmentPayloadBytes ∧
          message.fecEnabled = fecEnabled ∧
          message.fragments = specs := by
  constructor
  · intro fragmented
    have checks := fragmented
    simp only [fragmentMessage, guard_eq_ok_iff, not_not,
      not_lt, gt_iff_lt] at checks
    let message : Message := {
      payload := payload
      fragmentPayloadBytes := fragmentPayloadBytes
      fecEnabled := fecEnabled
      sizeInRange := checks.1
      payloadFits := checks.2.1
    }
    refine ⟨message, rfl, rfl, rfl, ?_⟩
    exact Except.ok.inj
      (message.fragmentMessage_eq.symm.trans fragmented)
  · rintro ⟨message, rfl, rfl, rfl, rfl⟩
    exact message.fragmentMessage_eq

end H3ntun

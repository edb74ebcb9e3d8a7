import Mathlib.Data.List.Basic
import Mathlib.Data.List.Perm.Basic

/-!
# Fixed-size blocks with one parity block

A message is cut into blocks of one size, the last of which may be shorter.
The parity block is the columnwise combination of the zero-padded blocks
under an operation in which every element cancels itself, so it stands in
for any one missing block.
-/

namespace ErasureBlocks

variable {α : Type}

/-- Consecutive pieces of `size` elements; the last one may be shorter. -/
def blocks (size count : Nat) (message : List α) : List (List α) :=
  (List.range count).map fun index =>
    (message.drop (index * size)).take size

@[simp] theorem length_blocks
    (size count : Nat)
    (message : List α) :
    (blocks size count message).length = count := by
  simp [blocks]

theorem getElem?_blocks
    {size count index : Nat}
    (inRange : index < count)
    (message : List α) :
    (blocks size count message)[index]? =
      some ((message.drop (index * size)).take size) := by
  simp [blocks, inRange]

/-- Cutting off the first block leaves the blocks of the rest. -/
theorem blocks_succ
    (size count : Nat)
    (message : List α) :
    blocks size (count + 1) message =
      message.take size :: blocks size count (message.drop size) := by
  simp only [blocks, List.range_succ_eq_map, List.map_cons,
    List.map_map, Nat.zero_mul, List.drop_zero]
  congr 1
  apply List.map_congr_left
  intro index _
  simp only [Function.comp_apply, List.drop_drop, Nat.succ_mul,
    Nat.add_comm]

/-- Enough blocks concatenate to the whole message. -/
theorem flatten_blocks
    {size count : Nat}
    {message : List α}
    (covered : message.length ≤ size * count) :
    (blocks size count message).flatten = message := by
  induction count generalizing message with
  | zero =>
      have isEmpty : message = [] :=
        List.eq_nil_of_length_eq_zero (by omega)
      simp [blocks, isEmpty]
  | succ count inductionHypothesis =>
      have restCovered :
          (message.drop size).length ≤ size * count := by
        rw [List.length_drop]
        rw [Nat.mul_succ] at covered
        omega
      rw [blocks_succ, List.flatten_cons,
        inductionHypothesis restCovered, List.take_append_drop]

/-- A block is full unless the message ends in it. -/
theorem length_block
    {size count index : Nat}
    {message block : List α}
    (found : (blocks size count message)[index]? = some block) :
    block.length = min size (message.length - index * size) := by
  have inRange : index < count := by
    have bound := (List.getElem?_eq_some_iff.mp found).1
    simpa using bound
  rw [getElem?_blocks inRange] at found
  obtain rfl := Option.some.inj found
  simp

/--
A commutative operation in which every element cancels itself, such as
bitwise exclusive or.
-/
structure Cancelling (α : Type) where
  op : α → α → α
  zero : α
  comm : ∀ left right, op left right = op right left
  assoc :
    ∀ left middle right,
      op (op left middle) right = op left (op middle right)
  op_zero : ∀ element, op element zero = element
  op_self : ∀ element, op element element = zero

namespace Cancelling

variable (code : Cancelling α)

/-- Combine a block into the front of an accumulator of at least its size. -/
def combine : List α → List α → List α
  | [], _ => []
  | element :: accumulator, [] => element :: accumulator
  | element :: accumulator, value :: block =>
      code.op element value :: combine accumulator block

/-- Parity block of a list of blocks, zero-padded to `size`. -/
def parity (size : Nat) (pieces : List (List α)) : List α :=
  pieces.foldl code.combine (List.replicate size code.zero)

/-- Combination of one column of zero-padded blocks. -/
def column (index : Nat) (pieces : List (List α)) : α :=
  (pieces.map fun piece => piece.getD index code.zero).foldr
    code.op code.zero

@[simp] theorem length_combine
    (accumulator block : List α) :
    (code.combine accumulator block).length = accumulator.length := by
  induction accumulator generalizing block with
  | nil =>
      rfl
  | cons element accumulator inductionHypothesis =>
      cases block <;> simp [combine, inductionHypothesis]

@[simp] theorem length_foldl_combine
    (accumulator : List α)
    (pieces : List (List α)) :
    (pieces.foldl code.combine accumulator).length =
      accumulator.length := by
  induction pieces generalizing accumulator with
  | nil =>
      rfl
  | cons piece pieces inductionHypothesis =>
      simp [inductionHypothesis]

@[simp] theorem length_parity
    (size : Nat)
    (pieces : List (List α)) :
    (code.parity size pieces).length = size := by
  simp [parity]

theorem getElem?_combine
    (accumulator block : List α)
    (index : Nat) :
    (code.combine accumulator block)[index]? =
      accumulator[index]?.map fun element =>
        code.op element (block.getD index code.zero) := by
  induction accumulator generalizing block index with
  | nil =>
      simp [combine]
  | cons element accumulator inductionHypothesis =>
      cases block with
      | nil =>
          cases found : (element :: accumulator)[index]? <;>
            simp [combine, found, code.op_zero]
      | cons value block =>
          cases index with
          | zero =>
              simp [combine]
          | succ index =>
              simpa [combine] using inductionHypothesis block index

/-- Folding blocks into an accumulator adds their column everywhere. -/
theorem getElem?_foldl_combine
    (accumulator : List α)
    (pieces : List (List α))
    (index : Nat) :
    (pieces.foldl code.combine accumulator)[index]? =
      accumulator[index]?.map fun element =>
        code.op element (code.column index pieces) := by
  induction pieces generalizing accumulator with
  | nil =>
      simp [column, code.op_zero]
  | cons piece pieces inductionHypothesis =>
      rw [List.foldl_cons, inductionHypothesis, getElem?_combine,
        Option.map_map]
      congr 1
      funext element
      simp [column, code.assoc]

/-- A column does not depend on the order of the blocks. -/
theorem column_perm
    (index : Nat)
    {first second : List (List α)}
    (perm : first.Perm second) :
    code.column index first = code.column index second := by
  have : LeftCommutative code.op := ⟨by
    intro left middle right
    rw [← code.assoc, code.comm left middle, code.assoc]⟩
  exact (perm.map _).foldr_eq code.zero

/-- A column added to a head block and to itself leaves the head block. -/
theorem column_cancels
    (index : Nat)
    (missing : List α)
    (others : List (List α)) :
    code.op (code.column index (missing :: others))
        (code.column index others) =
      missing.getD index code.zero := by
  simp only [column, List.map_cons, List.foldr_cons]
  rw [code.assoc, code.op_self, code.op_zero]

/--
Folding all blocks but one into the parity block recovers the missing block,
followed by its zero padding.
-/
theorem recover
    {size : Nat}
    {pieces others : List (List α)}
    {missing : List α}
    (split : pieces.Perm (missing :: others))
    (missingFits : missing.length ≤ size) :
    (others.foldl code.combine (code.parity size pieces)).take
        missing.length =
      missing := by
  apply List.ext_getElem?
  intro index
  by_cases inside : index < missing.length
  · have padded :
        (List.replicate size code.zero)[index]? = some code.zero := by
      rw [List.getElem?_replicate, if_pos (by omega)]
    have stored : missing.getD index code.zero = missing[index] := by
      simp [List.getD_eq_getElem?_getD, inside]
    rw [List.getElem?_take_of_lt inside, getElem?_foldl_combine, parity,
      getElem?_foldl_combine, padded, code.column_perm index split]
    simp only [Option.map_some]
    rw [code.comm code.zero, code.op_zero, code.column_cancels, stored,
      List.getElem?_eq_getElem inside]
  · rw [List.getElem?_eq_none (by simp; omega),
      List.getElem?_eq_none (by omega)]

end Cancelling

end ErasureBlocks

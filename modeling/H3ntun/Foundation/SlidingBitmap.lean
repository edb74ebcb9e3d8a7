import Mathlib.Data.Nat.Bitwise
import Mathlib.Data.Set.Insert

/-!
# A set of positions seen through a sliding bitmap

A bitmap of `size` bits hangs below the largest position seen so far: bit
`distance` stands for the position `distance` below it.  The three updates
are a jump past the whole bitmap, a shift within it, and a late mark.
-/

namespace SlidingBitmap

/--
`bitmap` records, for the `size` positions ending at `highest`, which of them
belong to `seen`; no seen position lies above `highest`.
-/
structure Records
    (size : Nat)
    (seen : Set Int)
    (highest : Int)
    (bitmap : Nat) : Prop where
  bit :
    ∀ distance,
      bitmap.testBit distance = true ↔
        distance < size ∧ highest - distance ∈ seen
  bounded :
    ∀ position ∈ seen, position ≤ highest

/-- One seen position is recorded by the lowest bit alone. -/
theorem Records.single
    {size : Nat}
    (nonempty : 0 < size)
    (position : Int) :
    Records size {position} position 1 where
  bit := by
    intro distance
    rw [Nat.testBit_one_eq_true_iff_self_eq_zero,
      Set.mem_singleton_iff]
    omega
  bounded := by
    intro other member
    rw [Set.mem_singleton_iff] at member
    omega

/-- Moving past the whole bitmap leaves only the new position. -/
theorem Records.jump
    {size bitmap : Nat}
    {seen : Set Int}
    {highest position : Int}
    (records : Records size seen highest bitmap)
    (nonempty : 0 < size)
    (far : size ≤ (position - highest).toNat) :
    Records size (insert position seen) position 1 where
  bit := by
    intro distance
    rw [Nat.testBit_one_eq_true_iff_self_eq_zero, Set.mem_insert_iff]
    constructor
    · intro isZero
      exact ⟨by omega, Or.inl (by omega)⟩
    · rintro ⟨inside, isNew | old⟩
      · omega
      · have notAbove := records.bounded _ old
        omega
  bounded := by
    intro other member
    rcases Set.mem_insert_iff.mp member with isNew | old
    · omega
    · have notAbove := records.bounded other old
      omega

/-- Moving within the bitmap shifts it and drops what falls out. -/
theorem Records.shift
    {size bitmap : Nat}
    {seen : Set Int}
    {highest position : Int}
    (records : Records size seen highest bitmap)
    (ahead : highest < position) :
    Records size (insert position seen) position
      (((bitmap <<< (position - highest).toNat) ||| 1) &&&
        ((1 <<< size) - 1)) where
  bit := by
    intro distance
    have shifted :
        position - distance ∈ seen ↔
          (position - highest).toNat ≤ distance ∧
            highest -
                ((distance - (position - highest).toNat : Nat) : Int) ∈
              seen := by
      constructor
      · intro old
        have notAbove := records.bounded _ old
        have farEnough : (position - highest).toNat ≤ distance := by
          omega
        refine ⟨farEnough, ?_⟩
        have samePosition :
            highest -
                ((distance - (position - highest).toNat : Nat) : Int) =
              position - distance := by
          omega
        rwa [samePosition]
      · rintro ⟨farEnough, old⟩
        have samePosition :
            highest -
                ((distance - (position - highest).toNat : Nat) : Int) =
              position - distance := by
          omega
        rwa [← samePosition]
    have notBehind :
        (position - highest).toNat ≤ distance →
          distance < size →
          distance - (position - highest).toNat < size := by
      omega
    have isNew : position - distance = position ↔ distance = 0 := by
      omega
    rw [Nat.one_shiftLeft, Nat.and_two_pow_sub_one_eq_mod,
      Nat.testBit_mod_two_pow, Nat.testBit_or, Nat.testBit_shiftLeft,
      Bool.and_eq_true, decide_eq_true_eq, Bool.or_eq_true,
      Bool.and_eq_true, decide_eq_true_eq, records.bit,
      Nat.testBit_one_eq_true_iff_self_eq_zero, Set.mem_insert_iff,
      isNew, shifted]
    constructor
    · rintro ⟨inside, ⟨farEnough, _, old⟩ | isZero⟩
      · exact ⟨inside, Or.inr ⟨farEnough, old⟩⟩
      · exact ⟨inside, Or.inl isZero⟩
    · rintro ⟨inside, isZero | ⟨farEnough, old⟩⟩
      · exact ⟨inside, Or.inr isZero⟩
      · exact
          ⟨inside,
            Or.inl ⟨farEnough, notBehind farEnough inside, old⟩⟩
  bounded := by
    intro other member
    rcases Set.mem_insert_iff.mp member with isNew | old
    · omega
    · have notAbove := records.bounded other old
      omega

/-- A late position inside the bitmap sets its own bit. -/
theorem Records.mark
    {size bitmap : Nat}
    {seen : Set Int}
    {highest position : Int}
    (records : Records size seen highest bitmap)
    (behind : position ≤ highest)
    (inside : (highest - position).toNat < size) :
    Records size (insert position seen) highest
      (bitmap ||| (1 <<< (highest - position).toNat)) where
  bit := by
    intro distance
    have isNew :
        (highest - position).toNat = distance ↔
          highest - distance = position := by
      omega
    rw [Nat.testBit_or, Nat.one_shiftLeft, Nat.testBit_two_pow,
      Bool.or_eq_true, records.bit, decide_eq_true_eq, isNew,
      Set.mem_insert_iff]
    constructor
    · rintro (⟨within, old⟩ | same)
      · exact ⟨within, Or.inr old⟩
      · exact ⟨by omega, Or.inl same⟩
    · rintro ⟨within, same | old⟩
      · exact Or.inr same
      · exact Or.inl ⟨within, old⟩
  bounded := by
    intro other member
    rcases Set.mem_insert_iff.mp member with isNew | old
    · omega
    · exact records.bounded other old

/-- The code's membership test reads the bit of the position. -/
theorem Records.and_mask_ne_zero
    {size bitmap : Nat}
    {seen : Set Int}
    {highest position : Int}
    (records : Records size seen highest bitmap)
    (behind : position ≤ highest)
    (inside : (highest - position).toNat < size) :
    bitmap &&& (1 <<< (highest - position).toNat) ≠ 0 ↔
      position ∈ seen := by
  have samePosition :
      highest - ((highest - position).toNat : Int) = position := by
    omega
  have readBit :=
    records.bit (highest - position).toNat
  rw [samePosition] at readBit
  rw [Nat.one_shiftLeft, Nat.and_two_pow]
  constructor
  · intro nonzero
    apply (readBit.mp _).2
    by_contra clear
    rw [Bool.not_eq_true] at clear
    simp [clear] at nonzero
  · intro member
    have isSet := readBit.mpr ⟨inside, member⟩
    simp [isSet]

end SlidingBitmap

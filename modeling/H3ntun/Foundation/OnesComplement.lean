import Mathlib.Data.Nat.ModEq
import Mathlib.Algebra.BigOperators.Group.List.Basic

/-!
# One's-complement sums

Digits up to a largest digit `top` are added with the carry of every addition
added back in.  The sum of a list of digits is fixed by three facts: it is a
digit, it is congruent to the plain total modulo `top`, and it is zero for no
total but zero.  Folding the carries of the total back in keeps all three.
-/

namespace OnesComplement

/-- Addition of two digits, the carry added back in. -/
def add (top first second : Nat) : Nat :=
  if first + second ≤ top then
    first + second
  else
    first + second - top

/-- Sum of a list of digits, from left to right. -/
def sum (top : Nat) (digits : List Nat) : Nat :=
  digits.foldl (add top) 0

/-- A digit stands for a plain total. -/
structure StandsFor (top value total : Nat) : Prop where
  atMost : value ≤ top
  congruent : value ≡ total [MOD top]
  zero_iff : value = 0 ↔ total = 0

namespace StandsFor

variable {top value other total rest digit : Nat}

theorem refl
    (atMost : value ≤ top) :
    StandsFor top value value where
  atMost := atMost
  congruent := Nat.ModEq.refl value
  zero_iff := Iff.rfl

private theorem eq_of_le
    (stands : StandsFor top value total)
    (alsoStands : StandsFor top other total)
    (le : value ≤ other) :
    value = other := by
  by_cases isZero : total = 0
  · rw [stands.zero_iff.mpr isZero, alsoStands.zero_iff.mpr isZero]
  · have positive : value ≠ 0 := fun isNone =>
      isZero (stands.zero_iff.mp isNone)
    have divides : top ∣ other - value :=
      (Nat.modEq_iff_dvd' le).mp
        (stands.congruent.trans alsoStands.congruent.symm)
    have atMost := alsoStands.atMost
    have none : other - value = 0 :=
      Nat.eq_zero_of_dvd_of_lt divides (by omega)
    omega

/-- A total has at most one digit that stands for it. -/
theorem unique
    (stands : StandsFor top value total)
    (alsoStands : StandsFor top other total) :
    value = other := by
  rcases Nat.le_total value other with le | le
  · exact stands.eq_of_le alsoStands le
  · exact (alsoStands.eq_of_le stands le).symm

/-- Adding digits adds the totals they stand for. -/
theorem add
    (stands : StandsFor top value total)
    (alsoStands : StandsFor top other rest) :
    StandsFor top (OnesComplement.add top value other) (total + rest) := by
  have atMost := stands.atMost
  have otherAtMost := alsoStands.atMost
  have congruent : value + other ≡ total + rest [MOD top] :=
    stands.congruent.add alsoStands.congruent
  have zero_iff : value + other = 0 ↔ total + rest = 0 := by
    rw [Nat.add_eq_zero_iff, Nat.add_eq_zero_iff, stands.zero_iff,
      alsoStands.zero_iff]
  unfold OnesComplement.add
  split
  · rename_i noCarry
    exact ⟨noCarry, congruent, zero_iff⟩
  · rename_i carries
    have carried : value + other - top ≡ value + other [MOD top] := by
      rw [Nat.modEq_iff_dvd' (Nat.sub_le _ _)]
      have difference :
          value + other - (value + other - top) = top := by
        omega
      rw [difference]
    exact ⟨by omega, carried.trans congruent, by omega⟩

/-- Carries folded back in do not change what a digit stands for. -/
theorem of_folded
    (stands :
      StandsFor top value (total % (top + 1) + total / (top + 1))) :
    StandsFor top value total := by
  have split : total % (top + 1) + (top + 1) * (total / (top + 1)) =
      total :=
    Nat.mod_add_div total (top + 1)
  have congruent :
      total % (top + 1) + total / (top + 1) ≡ total [MOD top] := by
    have expanded :
        total % (top + 1) + total / (top + 1) +
            top * (total / (top + 1)) =
          total := by
      rw [Nat.add_mul, Nat.one_mul] at split
      omega
    conv => rhs; rw [← expanded]
    simp [Nat.ModEq]
  have zero_iff :
      total % (top + 1) + total / (top + 1) = 0 ↔ total = 0 := by
    constructor
    · intro isZero
      obtain ⟨noRemainder, noQuotient⟩ := Nat.add_eq_zero_iff.mp isZero
      rw [← split, noRemainder, noQuotient]
      simp
    · rintro rfl
      simp
  exact {
    atMost := stands.atMost
    congruent := stands.congruent.trans congruent
    zero_iff := stands.zero_iff.trans zero_iff
  }

/-- Adding a digit congruent to the complement fills every place. -/
theorem complement
    (stands : StandsFor top value total)
    (congruent : digit ≡ top - value [MOD top])
    (notZero : total + digit ≠ 0) :
    StandsFor top top (total + digit) := by
  have atMost := stands.atMost
  have filled : value + (top - value) = top := by omega
  have sum : top ≡ total + digit [MOD top] := by
    have added := stands.congruent.symm.add congruent
    rw [filled] at added
    exact added.symm
  refine ⟨le_refl top, sum, ?_⟩
  constructor
  · intro isZero
    -- With no digit but zero, both parts of the total are zero.
    subst top
    have noValue : value = 0 := by omega
    have noTotal := stands.zero_iff.mp noValue
    have noDigit : digit = 0 := by
      simpa [Nat.ModEq] using congruent
    omega
  · intro isZero
    exact absurd isZero notZero

end StandsFor

/-- The sum of digits stands for their plain total. -/
theorem standsFor_sum
    {top : Nat}
    {digits : List Nat}
    (areDigits : ∀ digit ∈ digits, digit ≤ top) :
    StandsFor top (sum top digits) digits.sum := by
  have general :
      ∀ (digits : List Nat) (value total : Nat),
        (∀ digit ∈ digits, digit ≤ top) →
        StandsFor top value total →
        StandsFor top (digits.foldl (add top) value)
          (total + digits.sum) := by
    intro digits
    induction digits with
    | nil =>
        intro value total _ stands
        simpa using stands
    | cons digit rest inductionHypothesis =>
        intro value total areDigits stands
        obtain ⟨isDigit, restDigits⟩ :=
          List.forall_mem_cons.mp areDigits
        have added := stands.add (StandsFor.refl isDigit)
        have after := inductionHypothesis _ _ restDigits added
        rwa [Nat.add_assoc, ← List.sum_cons] at after
  have whole :=
    general digits 0 0 areDigits (StandsFor.refl (Nat.zero_le top))
  rwa [Nat.zero_add] at whole

end OnesComplement

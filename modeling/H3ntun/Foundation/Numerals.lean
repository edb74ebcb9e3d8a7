import Mathlib.Data.Nat.Size
import Mathlib.Tactic.IntervalCases

/-!
# Numerals with underscores

Digits in bases up to thirty-six, read from left to right with single
underscores allowed between them.  What `Nat.toDigits` prints reads back.
-/

namespace Numerals

/-- Value of a character as a digit of a base. -/
def digitValue? (base : Nat) (char : Char) : Option Nat :=
  let code := char.toNat
  let value :=
    if 48 ≤ code ∧ code ≤ 57 then code - 48
    else if 97 ≤ code ∧ code ≤ 122 then code - 87
    else if 65 ≤ code ∧ code ≤ 90 then code - 55
    else base
  if value < base then some value else none

/--
Read digits after some have been read.  The flag says whether the last
character was a digit.
-/
def readDigits (base : Nat) : Nat → Bool → List Char → Option Nat
  | value, afterDigit, [] =>
      if afterDigit then some value else none
  | value, afterDigit, char :: rest =>
      if char = '_' then
        if afterDigit then readDigits base value false rest else none
      else
        match digitValue? base char with
        | some digit => readDigits base (value * base + digit) true rest
        | none => none

/-- One digit more. -/
theorem readDigits_append_digit
    {base digit : Nat}
    {char : Char}
    (notUnderscore : char ≠ '_')
    (isDigit : digitValue? base char = some digit)
    {text : List Char}
    {value result : Nat}
    {afterDigit : Bool}
    (reads : readDigits base value afterDigit text = some result) :
    readDigits base value afterDigit (text ++ [char]) =
      some (result * base + digit) := by
  induction text generalizing value afterDigit with
  | nil =>
      unfold readDigits at reads
      split at reads
      · rw [← Option.some.inj reads]
        simp [readDigits, notUnderscore, isDigit]
      · cases reads
  | cons first rest inductionHypothesis =>
      rw [List.cons_append]
      unfold readDigits at reads ⊢
      split at reads
      · rename_i isUnderscore
        rw [if_pos isUnderscore]
        split at reads
        · rename_i allowed
          rw [if_pos allowed]
          exact inductionHypothesis reads
        · cases reads
      · rename_i notSeparator
        rw [if_neg notSeparator]
        split at reads
        · exact inductionHypothesis reads
        · cases reads

theorem digitValue?_digitChar
    {base digit : Nat}
    (small : digit < base)
    (atMost : base ≤ 16) :
    digitValue? base (Nat.digitChar digit) = some digit := by
  have bound : digit < 16 := by omega
  interval_cases digit <;> simp [digitValue?, Nat.digitChar, small]

/-- The last digit, and those before it. -/
theorem toDigits_eq_append
    {base number : Nat}
    (two : 1 < base)
    (large : base ≤ number) :
    Nat.toDigits base number =
      Nat.toDigits base (number / base) ++
        [Nat.digitChar (number % base)] := by
  have positive : 0 < number / base :=
    Nat.div_pos large (by omega)
  have inRange := Nat.mod_lt number (Nat.lt_of_succ_lt two)
  rw [← Nat.toDigits_of_lt_base inRange,
    Nat.toDigits_append_toDigits two positive inRange,
    Nat.div_add_mod]

/-- The characters `Nat.toDigits` prints. -/
theorem mem_toDigits
    {base : Nat}
    (two : 1 < base)
    (number : Nat) :
    ∀ char ∈ Nat.toDigits base number,
      ∃ digit < base, char = Nat.digitChar digit := by
  induction number using Nat.strong_induction_on with
  | _ number inductionHypothesis =>
      intro char member
      by_cases single : number < base
      · rw [Nat.toDigits_of_lt_base single, List.mem_singleton] at member
        exact ⟨number, single, member⟩
      · rw [toDigits_eq_append two (not_lt.mp single), List.mem_append,
          List.mem_singleton] at member
        rcases member with leading | last
        · exact inductionHypothesis _
            (Nat.div_lt_self (by omega) two) char leading
        · exact ⟨_, Nat.mod_lt number (Nat.lt_of_succ_lt two), last⟩

/-- What `Nat.toDigits` prints reads back. -/
theorem readDigits_toDigits
    {base : Nat}
    (two : 1 < base)
    (atMost : base ≤ 16)
    (number : Nat) :
    readDigits base 0 false (Nat.toDigits base number) = some number := by
  have notUnderscore :
      ∀ digit < base, Nat.digitChar digit ≠ '_' := by
    intro digit small
    have bound : digit < 16 := by omega
    interval_cases digit <;> decide
  induction number using Nat.strong_induction_on with
  | _ number inductionHypothesis =>
      by_cases single : number < base
      · rw [Nat.toDigits_of_lt_base single]
        simp [readDigits, notUnderscore number single,
          digitValue?_digitChar single atMost]
      · have inRange := Nat.mod_lt number (Nat.lt_of_succ_lt two)
        have extended :=
          readDigits_append_digit (notUnderscore _ inRange)
            (digitValue?_digitChar inRange atMost)
            (inductionHypothesis _ (Nat.div_lt_self (by omega) two))
        rw [toDigits_eq_append two (not_lt.mp single), extended,
          Nat.mul_comm, Nat.div_add_mod]

end Numerals

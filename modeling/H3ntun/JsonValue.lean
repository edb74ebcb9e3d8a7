import H3ntun.Basic
import H3ntun.Foundation.Numerals

namespace H3ntun

/-!
# Values the `json` module reads

`json.loads` returns these values, infinities included, and `json.dump`
writes them back unchanged.  The conversions `int` and `str` raise the
exceptions of the language.
-/

/-- A value read by `json.loads`; of equal keys in an object the last counts. -/
inductive JsonValue where
  | null
  | bool (value : Bool)
  | int (value : Int)
  | float (value : Rat)
  | infinity (negative : Bool)
  | nan
  | string (value : String)
  | array (items : List JsonValue)
  | object (fields : List (String × JsonValue))

namespace JsonValue

/-- `value[key]` for a key that is a string. -/
def item (value : JsonValue) (key : String) : Except Failure JsonValue :=
  match value with
  | .object fields =>
      match fields.reverse.find? (·.1 = key) with
      | some field => .ok field.2
      | none => .error .keyError
  | _ => .error .typeError

/-- `value.get(key, default)`. -/
def get (value : JsonValue) (key : String) (default : JsonValue) :
    Except Failure JsonValue :=
  match value with
  | .object fields =>
      match fields.reverse.find? (·.1 = key) with
      | some field => .ok field.2
      | none => .ok default
  | _ => .error .attributeError

/-- What a loop over the value runs through. -/
def iterate : JsonValue → Except Failure (List JsonValue)
  | .array items => .ok items
  | .string value =>
      .ok (value.toList.map fun char => .string (String.singleton char))
  | .object fields => .ok (fields.map fun field => .string field.1)
  | _ => .error .typeError

/-- `value == 1`. -/
def equalsOne : JsonValue → Bool
  | .bool value => value
  | .int value => value = 1
  | .float value => value = 1
  | _ => false

/-- `value == text`. -/
def equalsText (text : String) : JsonValue → Bool
  | .string value => value = text
  | _ => false

end JsonValue

/-- Zeros of the decimal digits outside ASCII, from Unicode 14. -/
def decimalZeros : List Nat := [
  0x660, 0x6f0, 0x7c0, 0x966, 0x9e6, 0xa66, 0xae6, 0xb66, 0xbe6, 0xc66,
  0xce6, 0xd66, 0xde6, 0xe50, 0xed0, 0xf20, 0x1040, 0x1090, 0x17e0,
  0x1810, 0x1946, 0x19d0, 0x1a80, 0x1a90, 0x1b50, 0x1bb0, 0x1c40, 0x1c50,
  0xa620, 0xa8d0, 0xa900, 0xa9d0, 0xa9f0, 0xaa50, 0xabf0, 0xff10, 0x104a0,
  0x10d30, 0x11066, 0x110f0, 0x11136, 0x111d0, 0x112f0, 0x11450, 0x114d0,
  0x11650, 0x116c0, 0x11730, 0x118e0, 0x11950, 0x11c50, 0x11d50, 0x11da0,
  0x16a60, 0x16ac0, 0x16b50, 0x1d7ce, 0x1d7d8, 0x1d7e2, 0x1d7ec, 0x1d7f6,
  0x1e140, 0x1e2f0, 0x1e950, 0x1fbf0]

/-- White space outside ASCII. -/
def wideSpaces : List Nat := [
  0x85, 0xa0, 0x1680, 0x2000, 0x2001, 0x2002, 0x2003, 0x2004, 0x2005,
  0x2006, 0x2007, 0x2008, 0x2009, 0x200a, 0x2028, 0x2029, 0x202f, 0x205f,
  0x3000]

/-- `int` reads a numeral as ASCII, digits and white space translated. -/
def asciiOf (char : Char) : Char :=
  let code := char.toNat
  if code < 128 then
    char
  else if code ∈ wideSpaces then
    ' '
  else
    match decimalZeros.find? fun first =>
        first ≤ code ∧ code < first + 10 with
    | some first => Nat.digitChar (code - first)
    | none => '?'

/-- White space `int` skips at both ends. -/
def isSpace (char : Char) : Bool :=
  char.toNat = 32 ∨ (9 ≤ char.toNat ∧ char.toNat ≤ 13)

/-- The interpreter's limit on decimal digits. -/
def maxStrDigits : Nat := 4300

/-- Digits of a numeral, after its sign and the prefix of its base. -/
def readUnsigned (base : Nat) (text : List Char) : Option Nat :=
  if base = 10 ∧ text.countP (· ≠ '_') > maxStrDigits then
    none
  else
    Numerals.readDigits base 0 false text

/-- The prefix `0x` of a hexadecimal numeral, with an underscore after it. -/
def dropPrefix (base : Nat) (text : List Char) : List Char :=
  match text with
  | '0' :: mark :: rest =>
      if base = 16 ∧ (mark = 'x' ∨ mark = 'X') then
        match rest with
        | '_' :: digits => digits
        | digits => digits
      else
        text
  | _ => text

/-- `int(text, base)`. -/
def readInt (base : Nat) (text : List Char) : Except Failure Int :=
  let stripped := (((text.map asciiOf).dropWhile isSpace).reverse.dropWhile
    isSpace).reverse
  let number :=
    match stripped with
    | '-' :: rest =>
        (readUnsigned base (dropPrefix base rest)).map fun value =>
          -(value : Int)
    | '+' :: rest =>
        (readUnsigned base (dropPrefix base rest)).map Int.ofNat
    | _ => (readUnsigned base (dropPrefix base stripped)).map Int.ofNat
  match number with
  | some value => .ok value
  | none => .error (.valueError "invalid literal for int()")

/-- `str(number)`. -/
def writeInt (number : Int) : Except Failure (List Char) :=
  let digits := Nat.toDigits 10 number.natAbs
  if digits.length > maxStrDigits then
    .error (.valueError "Exceeds the limit for integer string conversion")
  else if number < 0 then
    .ok ('-' :: digits)
  else
    .ok digits

/-- `format(number, "x")`. -/
def formatHex (number : Nat) : String :=
  String.ofList (Nat.toDigits 16 number)

/-- Characters of a numeral that `int` reads digit by digit. -/
def IsPlainDigit (char : Char) : Prop :=
  asciiOf char = char ∧ isSpace char = false ∧
    char ≠ '-' ∧ char ≠ '+' ∧ char ≠ 'x' ∧ char ≠ 'X'

theorem isPlainDigit_digitChar
    {digit : Nat}
    (small : digit < 16) :
    IsPlainDigit (Nat.digitChar digit) := by
  unfold IsPlainDigit
  interval_cases digit <;> decide

theorem dropPrefix_of_plain
    {text : List Char}
    (plain : ∀ char ∈ text, IsPlainDigit char) :
    dropPrefix 16 text = text := by
  unfold dropPrefix
  split
  · rename_i mark rest
    have isPlain := plain mark (by simp)
    rw [if_neg]
    rintro ⟨_, lower | upper⟩
    · exact isPlain.2.2.2.2.1 lower
    · exact isPlain.2.2.2.2.2 upper
  · rfl

/-- Digits without sign, prefix and white space are read as they are. -/
theorem readInt_of_plain
    {text : List Char}
    {number : Nat}
    (plain : ∀ char ∈ text, IsPlainDigit char)
    (reads : Numerals.readDigits 16 0 false text = some number) :
    readInt 16 text = .ok number := by
  have translated : text.map asciiOf = text := by
    rw [List.map_congr_left fun char member => (plain char member).1]
    exact List.map_id _
  have noSpace :
      ∀ other : List Char,
        (∀ char ∈ other, IsPlainDigit char) →
        other.dropWhile isSpace = other := by
    intro other plain
    cases other with
    | nil => rfl
    | cons first rest =>
        have notSpace := (plain first List.mem_cons_self).2.1
        rw [List.dropWhile_cons_of_neg (Bool.eq_false_iff.mp notSpace)]
  have stripped :
      (((text.map asciiOf).dropWhile isSpace).reverse.dropWhile
        isSpace).reverse = text := by
    rw [translated, noSpace text plain, noSpace text.reverse,
      List.reverse_reverse]
    intro char member
    exact plain char (List.mem_reverse.mp member)
  have unsigned : readUnsigned 16 text = some number := by
    rw [readUnsigned, if_neg (by simp), reads]
  unfold readInt
  simp only [stripped]
  split
  · rename_i value shape
    split at shape
    · exact absurd rfl (plain '-' List.mem_cons_self).2.2.1
    · exact absurd rfl (plain '+' List.mem_cons_self).2.2.2.1
    · rw [dropPrefix_of_plain plain, unsigned] at shape
      rw [← Option.some.inj shape]
      rfl
  · rename_i shape
    split at shape
    · exact absurd rfl (plain '-' List.mem_cons_self).2.2.1
    · exact absurd rfl (plain '+' List.mem_cons_self).2.2.2.1
    · rw [dropPrefix_of_plain plain, unsigned] at shape
      cases shape

/-- What `format` writes in hexadecimal, `int` reads back. -/
theorem readInt_formatHex
    (number : Nat) :
    readInt 16 (formatHex number).toList = .ok number := by
  rw [formatHex, String.toList_ofList]
  refine readInt_of_plain ?_
    (Numerals.readDigits_toDigits (by decide) (le_refl 16) number)
  intro char member
  obtain ⟨digit, small, rfl⟩ :=
    Numerals.mem_toDigits (by decide) number char member
  exact isPlainDigit_digitChar small

namespace JsonValue

/-- `int(value)`. -/
def toInt : JsonValue → Except Failure Int
  | .bool value => .ok (if value then 1 else 0)
  | .int value => .ok value
  | .float value => .ok (value.num.tdiv value.den)
  | .infinity _ => .error .overflowError
  | .nan => .error (.valueError "cannot convert float NaN to integer")
  | .string value => readInt 10 value.toList
  | _ => .error .typeError

/--
`int(str(value), 16)`.  What `str` writes for other values than texts and
integers is never a hexadecimal numeral: it has a point, an exponent with a
sign, a bracket, or is `None`, `True`, `False`, `inf` or `nan`.
-/
def hexInt : JsonValue → Except Failure Int
  | .string value => readInt 16 value.toList
  | .int value =>
      match writeInt value with
      | .ok text => readInt 16 text
      | .error failure => .error failure
  | _ => .error (.valueError "invalid literal for int()")

end JsonValue

end H3ntun

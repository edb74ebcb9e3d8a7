import H3ntun.Basic
import H3ntun.Foundation.Numerals
import H3ntun.Foundation.StructPack

namespace H3ntun

open StructPack

/-!
# IPv4 addresses

The class `IPv4Address` of the module `ipaddress`: four octets, read from
dotted text, from four bytes or from an integer.
-/

/-- `ipaddress.IPv4Address`. -/
structure IPv4Address where
  first : UInt8
  second : UInt8
  third : UInt8
  fourth : UInt8
  deriving Repr, DecidableEq

namespace IPv4Address

/-- `address.packed`. -/
def packed (address : IPv4Address) : Bytes :=
  [address.first, address.second, address.third, address.fourth]

/-- The address of four bytes. -/
def ofPacked? : Bytes → Option IPv4Address
  | [first, second, third, fourth] =>
      some { first, second, third, fourth }
  | _ => none

/-- `int(address)`. -/
def number (address : IPv4Address) : Nat :=
  ofBigEndian address.packed

/-- The address of an integer. -/
def ofNumber? (number : Int) : Option IPv4Address :=
  if 0 ≤ number ∧ number < 2 ^ 32 then
    ofPacked? (bigEndian 4 number.toNat)
  else
    none

/-- Decimal text of one octet. -/
def octetText (octet : UInt8) : List Char :=
  Nat.toDigits 10 octet.toNat

/-- `str(address)`. -/
def text (address : IPv4Address) : String :=
  String.ofList (['.'].intercalate (address.packed.map octetText))

/-- One octet of dotted text: at most three digits and no leading zero. -/
def readOctet? (text : List Char) : Option UInt8 :=
  if text = [] ∨ ¬ text.all Char.isDigit then
    none
  else if 3 < text.length then
    none
  else if text ≠ ['0'] ∧ text.head? = some '0' then
    none
  else
    match Numerals.readDigits 10 0 false text with
    | some value => if 255 < value then none else some (UInt8.ofNat value)
    | none => none

/-- The address of dotted text. -/
def ofText? (text : String) : Option IPv4Address :=
  match text.toList.splitOn '.' with
  | [first, second, third, fourth] => do
      let first ← readOctet? first
      let second ← readOctet? second
      let third ← readOctet? third
      let fourth ← readOctet? fourth
      return { first, second, third, fourth }
  | _ => none

/-- `IPv4Address(text)`; an `AddressValueError` is a `ValueError`. -/
def ofText (text : String) : Except Failure IPv4Address :=
  match ofText? text with
  | some address => .ok address
  | none => .error (.valueError "not an IPv4 address")

/-- `IPv4Address(number)`. -/
def ofNumber (number : Int) : Except Failure IPv4Address :=
  match ofNumber? number with
  | some address => .ok address
  | none => .error (.valueError "not an IPv4 address")

@[simp] theorem length_packed
    (address : IPv4Address) :
    address.packed.length = 4 := by
  rfl

@[simp] theorem ofPacked?_packed
    (address : IPv4Address) :
    ofPacked? address.packed = some address := by
  rfl

theorem packed_of_ofPacked?
    {bytes : Bytes}
    {address : IPv4Address}
    (isAddress : ofPacked? bytes = some address) :
    address.packed = bytes := by
  unfold ofPacked? at isAddress
  split at isAddress
  · cases isAddress
    rfl
  · cases isAddress

theorem ofPacked?_of_length
    {bytes : Bytes}
    (four : bytes.length = 4) :
    ∃ address, ofPacked? bytes = some address := by
  obtain ⟨first, second, third, fourth, rfl⟩ :=
    List.length_eq_four.mp four
  exact ⟨_, rfl⟩

/-- An address is below two to the thirty-two. -/
theorem number_lt
    (address : IPv4Address) :
    address.number < 2 ^ 32 := by
  have bound := ofBigEndian_lt address.packed
  rwa [length_packed] at bound

theorem packed_eq_bigEndian
    (address : IPv4Address) :
    bigEndian 4 address.number = address.packed :=
  bigEndian_ofBigEndian address.packed

@[simp] theorem ofNumber?_number
    (address : IPv4Address) :
    ofNumber? address.number = some address := by
  have inRange :
      (0 : Int) ≤ address.number ∧ (address.number : Int) < 2 ^ 32 :=
    ⟨Int.natCast_nonneg _, by exact_mod_cast address.number_lt⟩
  rw [ofNumber?, if_pos inRange, Int.toNat_natCast, packed_eq_bigEndian,
    ofPacked?_packed]

/-- Every integer in range is the number of an address. -/
theorem ofNumber?_of_lt
    {number : Nat}
    (inRange : number < 2 ^ 32) :
    ∃ address, ofNumber? number = some address ∧
      address.number = number := by
  have bounds : (0 : Int) ≤ number ∧ (number : Int) < 2 ^ 32 :=
    ⟨Int.natCast_nonneg _, by exact_mod_cast inRange⟩
  obtain ⟨address, isAddress⟩ :=
    ofPacked?_of_length (length_bigEndian 4 number)
  refine ⟨address, ?_, ?_⟩
  · rw [ofNumber?, if_pos bounds, Int.toNat_natCast, isAddress]
  · rw [IPv4Address.number, packed_of_ofPacked? isAddress]
    exact ofBigEndian_bigEndian inRange

theorem number_injective :
    Function.Injective number := by
  intro first second same
  have sameAddress : some first = some second := by
    rw [← ofNumber?_number first, same, ofNumber?_number]
  exact Option.some.inj sameAddress

/-- An octet is read back from its decimal text. -/
@[simp] theorem readOctet?_octetText
    (octet : UInt8) :
    readOctet? (octetText octet) = some octet := by
  have each :
      ∀ value : Fin 256,
        readOctet? (octetText (UInt8.ofNat value)) =
          some (UInt8.ofNat value) := by
    decide +kernel
  have this := each ⟨octet.toNat, octet.toNat_lt⟩
  rwa [UInt8.ofNat_toNat] at this

theorem dot_not_mem_octetText
    (octet : UInt8) :
    '.' ∉ octetText octet := by
  intro isDot
  obtain ⟨digit, small, isDigit⟩ :=
    Numerals.mem_toDigits (by decide) _ _ isDot
  interval_cases digit <;> simp [Nat.digitChar] at isDigit

/-- An address is read back from its dotted text. -/
@[simp] theorem ofText?_text
    (address : IPv4Address) :
    ofText? address.text = some address := by
  have pieces :
      address.text.toList.splitOn '.' =
        [octetText address.first, octetText address.second,
          octetText address.third, octetText address.fourth] := by
    rw [text, String.toList_ofList]
    apply List.splitOn_intercalate
    · intro piece isPiece
      obtain ⟨octet, _, rfl⟩ := List.mem_map.mp isPiece
      exact dot_not_mem_octetText octet
    · simp [packed]
  simp [ofText?, pieces]

theorem exists_digit
    {char : Char}
    (isDigit : char.isDigit = true) :
    ∃ digit : Fin 10, digit.val.digitChar = char := by
  have bounds : 48 ≤ char.toNat ∧ char.toNat ≤ 57 := by
    simpa [Char.isDigit, UInt32.le_iff_toNat_le] using isDigit
  have shape := Char.ofNat_toNat char
  generalize char.toNat = code at bounds shape
  refine ⟨⟨code - 48, by omega⟩, ?_⟩
  obtain ⟨low, high⟩ := bounds
  rw [← shape]
  interval_cases code <;> rfl

/-- Text that is read as an octet is the text of that octet. -/
theorem octetText_of_readOctet?
    {text : List Char}
    {octet : UInt8}
    (read : readOctet? text = some octet) :
    octetText octet = text := by
  have each :
      ∀ first second third : Fin 10,
        let digits :=
          [first, second, third].map fun digit => digit.val.digitChar
        ∀ length : Fin 3,
          (readOctet? (digits.take (length + 1))).all
            (fun octet => octetText octet = digits.take (length + 1)) =
              true := by
    decide +kernel
  have shape := read
  simp only [readOctet?, Option.ite_none_left_eq_some, not_or,
    not_not] at shape
  obtain ⟨⟨notEmpty, digits⟩, short, _⟩ := shape
  rw [List.all_eq_true] at digits
  rcases text with _ | ⟨first, _ | ⟨second, _ | ⟨third, _ | _⟩⟩⟩
  · exact absurd rfl notEmpty
  · obtain ⟨a, rfl⟩ := exists_digit (digits first (by simp))
    have reads := each a 0 0 0
    simpa [read] using reads
  · obtain ⟨a, rfl⟩ := exists_digit (digits first (by simp))
    obtain ⟨b, rfl⟩ := exists_digit (digits second (by simp))
    have reads := each a b 0 1
    simpa [read] using reads
  · obtain ⟨a, rfl⟩ := exists_digit (digits first (by simp))
    obtain ⟨b, rfl⟩ := exists_digit (digits second (by simp))
    obtain ⟨c, rfl⟩ := exists_digit (digits third (by simp))
    have reads := each a b c 2
    simpa [read] using reads
  · simp only [List.length_cons] at short
    omega

/-- Dotted text is the text of the address it is read as. -/
theorem text_of_ofText?
    {text : String}
    {address : IPv4Address}
    (read : ofText? text = some address) :
    address.text = text := by
  unfold ofText? at read
  split at read
  · rename_i first second third fourth pieces
    simp only [Option.bind_eq_bind, Option.bind_eq_some_iff, Option.pure_def,
      Option.some.injEq] at read
    obtain ⟨firstOctet, readFirst, secondOctet, readSecond, thirdOctet,
      readThird, fourthOctet, readFourth, rfl⟩ := read
    have joined :
        ['.'].intercalate (text.toList.splitOn '.') = text.toList :=
      List.intercalate_splitOn '.'
    rw [pieces] at joined
    rw [IPv4Address.text, packed]
    simp only [List.map_cons, List.map_nil,
      octetText_of_readOctet? readFirst,
      octetText_of_readOctet? readSecond,
      octetText_of_readOctet? readThird,
      octetText_of_readOctet? readFourth, joined, String.ofList_toList]
  · cases read

/-- Different addresses print differently. -/
theorem text_injective :
    Function.Injective text := by
  intro first second same
  have sameAddress : some first = some second := by
    rw [← ofText?_text first, same, ofText?_text]
  exact Option.some.inj sameAddress

example : ofText? "127.0.0.1" = some ⟨127, 0, 0, 1⟩ := by decide

example : ofText? "127.0.0.01" = none := by decide

end IPv4Address

end H3ntun

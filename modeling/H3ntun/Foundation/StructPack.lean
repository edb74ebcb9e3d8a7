import Mathlib.Data.List.Forall2
import Mathlib.Data.List.Induction
import Mathlib.Tactic.Ring

namespace StructPack

/-!
# Network-order binary records

Fixed-width big-endian integers and byte strings, and records built from
them.  A format is a list of items; packing checks every value against its
item, and reading back is the exact inverse on the accepted values.
-/

/-- Big-endian digits of `value`, truncated to `width` bytes. -/
def bigEndian : Nat → Nat → List UInt8
  | 0, _ => []
  | width + 1, value =>
      bigEndian width (value / 256) ++ [UInt8.ofNat (value % 256)]

/-- Value of a big-endian digit string. -/
def ofBigEndian (bytes : List UInt8) : Nat :=
  bytes.foldl (fun value byte => value * 256 + byte.toNat) 0

@[simp] theorem length_bigEndian
    (width value : Nat) :
    (bigEndian width value).length = width := by
  induction width generalizing value with
  | zero =>
      rfl
  | succ width inductionHypothesis =>
      simp [bigEndian, inductionHypothesis]

@[simp] theorem ofBigEndian_append_singleton
    (bytes : List UInt8)
    (byte : UInt8) :
    ofBigEndian (bytes ++ [byte]) =
      ofBigEndian bytes * 256 + byte.toNat := by
  simp [ofBigEndian]

/-- Reading back the digits of a value that fits recovers the value. -/
theorem ofBigEndian_bigEndian
    {width value : Nat}
    (fits : value < 256 ^ width) :
    ofBigEndian (bigEndian width value) = value := by
  induction width generalizing value with
  | zero =>
      have isZero : value = 0 := by simpa using fits
      simp [bigEndian, ofBigEndian, isZero]
  | succ width inductionHypothesis =>
      have quotientFits : value / 256 < 256 ^ width := by
        apply Nat.div_lt_of_lt_mul
        rwa [pow_succ, Nat.mul_comm] at fits
      have digitFits : value % 256 < 256 :=
        Nat.mod_lt value (by decide)
      rw [bigEndian, ofBigEndian_append_singleton,
        inductionHypothesis quotientFits]
      simp only [UInt8.toNat_ofNat', Nat.reducePow,
        Nat.mod_eq_of_lt digitFits]
      omega

/-- A digit string is smaller than the power of its length. -/
theorem ofBigEndian_lt
    (bytes : List UInt8) :
    ofBigEndian bytes < 256 ^ bytes.length := by
  induction bytes using List.reverseRecOn with
  | nil =>
      simp [ofBigEndian]
  | append_singleton bytes byte inductionHypothesis =>
      have digitFits : byte.toNat < 256 := byte.toNat_lt
      simp only [ofBigEndian_append_singleton, List.length_append,
        List.length_singleton, pow_succ]
      omega

/-- Writing the value of a digit string recovers the digit string. -/
theorem bigEndian_ofBigEndian
    (bytes : List UInt8) :
    bigEndian bytes.length (ofBigEndian bytes) = bytes := by
  induction bytes using List.reverseRecOn with
  | nil =>
      rfl
  | append_singleton bytes byte inductionHypothesis =>
      have digitFits : byte.toNat < 256 := byte.toNat_lt
      have quotient :
          (ofBigEndian bytes * 256 + byte.toNat) / 256 =
            ofBigEndian bytes := by
        omega
      have remainder :
          (ofBigEndian bytes * 256 + byte.toNat) % 256 =
            byte.toNat := by
        omega
      simp only [List.length_append, List.length_singleton, bigEndian,
        ofBigEndian_append_singleton, quotient, remainder,
        inductionHypothesis, UInt8.ofNat_toNat]

/-- One item of a format: a fixed-width byte string or unsigned integer. -/
inductive Item where
  | bytes (width : Nat)
  | unsigned (width : Nat)
  deriving Repr, DecidableEq

/-- A value offered to, or read from, one item. -/
inductive Value where
  | bytes (content : List UInt8)
  | int (value : Int)
  deriving Repr, DecidableEq

namespace Item

/-- Number of bytes one item occupies. -/
def size : Item → Nat
  | .bytes width => width
  | .unsigned width => width

/--
Pack one value.  Byte strings are cut or zero-padded to their width; an
integer outside its unsigned range is refused.
-/
def pack : Item → Value → Option (List UInt8)
  | .bytes width, .bytes content =>
      some ((content ++ List.replicate width 0).take width)
  | .unsigned width, .int value =>
      if 0 ≤ value ∧ value < 256 ^ width then
        some (bigEndian width value.toNat)
      else
        none
  | _, _ => none

/-- Read one value from exactly `size` bytes. -/
def read : Item → List UInt8 → Value
  | .bytes _, content => .bytes content
  | .unsigned _, content => .int (ofBigEndian content)

/-- Values an item stores without loss. -/
def Fits : Item → Value → Prop
  | .bytes width, .bytes content => content.length = width
  | .unsigned width, .int value => 0 ≤ value ∧ value < 256 ^ width
  | _, _ => False

/-- A packed value has the size of its item. -/
theorem length_of_pack
    {item : Item}
    {value : Value}
    {packed : List UInt8}
    (accepted : item.pack value = some packed) :
    packed.length = item.size := by
  cases item <;> cases value <;>
    simp only [pack, Option.some.injEq, reduceCtorEq,
      Option.ite_none_right_eq_some] at accepted
  · subst packed
    simp [size]
  · obtain ⟨_, rfl⟩ := accepted
    simp [size]

/-- A fitting value is packed, and reading the bytes gives it back. -/
theorem read_of_fits
    {item : Item}
    {value : Value}
    (fits : item.Fits value) :
    ∃ packed,
      item.pack value = some packed ∧ item.read packed = value := by
  cases item <;> cases value <;> simp only [Fits] at fits
  case bytes.bytes width content =>
    refine ⟨content, ?_, rfl⟩
    subst fits
    simp [pack]
  case unsigned.int width value =>
    refine ⟨bigEndian width value.toNat, by simp [pack, fits], ?_⟩
    have natFits : value.toNat < 256 ^ width := by
      have castBound : (value.toNat : Int) < 256 ^ width := by
        rw [Int.toNat_of_nonneg fits.1]
        exact fits.2
      exact_mod_cast castBound
    simp [read, ofBigEndian_bigEndian natFits,
      Int.toNat_of_nonneg fits.1]

/-- An integer that fits is packed as its digits. -/
theorem pack_unsigned
    {width value : Nat}
    (fits : value < 256 ^ width) :
    (unsigned width).pack (.int value) = some (bigEndian width value) := by
  have inRange : (0 : Int) ≤ value ∧ (value : Int) < 256 ^ width :=
    ⟨Int.natCast_nonneg _, by exact_mod_cast fits⟩
  rw [pack, if_pos inRange, Int.toNat_natCast]

/-- A byte string of the right width is packed as it is. -/
theorem pack_bytes
    {width : Nat}
    {content : List UInt8}
    (sized : content.length = width) :
    (bytes width).pack (.bytes content) = some content := by
  subst sized
  simp [pack]

/-- Only an integer in the unsigned range passes an integer item. -/
theorem fits_of_pack_unsigned
    {width : Nat}
    {value : Int}
    {packed : List UInt8}
    (accepted :
      (Item.unsigned width).pack (.int value) = some packed) :
    (Item.unsigned width).Fits (.int value) := by
  simp only [pack, Option.ite_none_right_eq_some] at accepted
  exact accepted.1

/-- Values read from exactly the right number of bytes fit their item. -/
theorem fits_read
    {item : Item}
    {content : List UInt8}
    (sized : content.length = item.size) :
    item.Fits (item.read content) := by
  cases item with
  | bytes width =>
      exact sized
  | unsigned width =>
      have bound := ofBigEndian_lt content
      rw [sized] at bound
      refine ⟨Int.natCast_nonneg _, ?_⟩
      show ((ofBigEndian content : Nat) : Int) < 256 ^ width
      exact_mod_cast bound

/-- Packing what was read restores the bytes. -/
theorem pack_read
    {item : Item}
    {content : List UInt8}
    (sized : content.length = item.size) :
    item.pack (item.read content) = some content := by
  have fits := fits_read sized
  cases item with
  | bytes width =>
      have widthShape : content.length = width := sized
      subst widthShape
      simp [pack, read]
  | unsigned width =>
      have widthShape : content.length = width := sized
      subst widthShape
      simp only [Fits, read] at fits
      simp only [pack, read, fits, and_self, ↓reduceIte,
        Int.toNat_natCast, bigEndian_ofBigEndian]

end Item

/-- Total size of a format. -/
def size (format : List Item) : Nat :=
  (format.map Item.size).sum

/-- Pack a record; a wrong number, kind or range of values is refused. -/
def pack : List Item → List Value → Option (List UInt8)
  | [], [] => some []
  | item :: items, value :: values =>
      match item.pack value, pack items values with
      | some head, some tail => some (head ++ tail)
      | _, _ => none
  | _, _ => none

/-- Read a record from the front of a buffer that may be longer. -/
def unpackFrom : List Item → List UInt8 → Option (List Value)
  | [], _ => some []
  | item :: items, buffer =>
      if buffer.length < item.size then
        none
      else
        match unpackFrom items (buffer.drop item.size) with
        | some values => some (item.read (buffer.take item.size) :: values)
        | none => none

/-- Every value fits its item. -/
def Fits (format : List Item) (values : List Value) : Prop :=
  List.Forall₂ Item.Fits format values

@[simp] theorem size_cons
    (item : Item)
    (items : List Item) :
    size (item :: items) = item.size + size items := by
  simp [size]

theorem pack_nil :
    pack [] [] = some [] := by
  rfl

/-- A record is packed item by item. -/
theorem pack_cons
    {item : Item}
    {items : List Item}
    {value : Value}
    {values : List Value}
    {head tail : List UInt8}
    (headPacked : item.pack value = some head)
    (tailPacked : pack items values = some tail) :
    pack (item :: items) (value :: values) = some (head ++ tail) := by
  rw [pack, headPacked, tailPacked]

/-- A packed record starts with its first value. -/
theorem exists_of_pack_cons
    {item : Item}
    {items : List Item}
    {values : List Value}
    {packed : List UInt8}
    (accepted : pack (item :: items) values = some packed) :
    ∃ value rest head tail,
      values = value :: rest ∧ item.pack value = some head ∧
        pack items rest = some tail ∧ packed = head ++ tail := by
  cases values with
  | nil =>
      simp [pack] at accepted
  | cons value rest =>
      cases headShape : item.pack value with
      | none =>
          simp [pack, headShape] at accepted
      | some head =>
          cases tailShape : pack items rest with
          | none =>
              simp [pack, headShape, tailShape] at accepted
          | some tail =>
              simp only [pack, headShape, tailShape,
                Option.some.injEq] at accepted
              exact ⟨value, rest, head, tail, rfl, headShape, tailShape,
                accepted.symm⟩

/-- A packed record has the size of its format. -/
theorem length_of_pack
    {format : List Item}
    {values : List Value}
    {packed : List UInt8}
    (accepted : pack format values = some packed) :
    packed.length = size format := by
  induction format generalizing values packed with
  | nil =>
      cases values <;> simp_all [pack, size]
  | cons item items inductionHypothesis =>
      obtain ⟨value, rest, head, tail, rfl, headPacked, tailPacked, rfl⟩ :=
        exists_of_pack_cons accepted
      simp [Item.length_of_pack headPacked,
        inductionHypothesis tailPacked]

/-- One unsigned integer that fits is packed as its digits. -/
theorem pack_unsigned
    {width value : Nat}
    (fits : value < 256 ^ width) :
    pack [.unsigned width] [.int value] =
      some (bigEndian width value) := by
  simp only [pack, Item.pack_unsigned fits, List.append_nil]

/-- Every value of a packed record was accepted by its own item. -/
theorem accepted_of_pack
    {format : List Item}
    {values : List Value}
    {packed : List UInt8}
    (accepted : pack format values = some packed) :
    List.Forall₂ (fun item value => ∃ bytes, item.pack value = some bytes)
      format values := by
  induction format generalizing values packed with
  | nil =>
      cases values <;> simp_all [pack]
  | cons item items inductionHypothesis =>
      obtain ⟨value, rest, head, tail, rfl, headPacked, tailPacked, _⟩ :=
        exists_of_pack_cons accepted
      exact .cons ⟨head, headPacked⟩ (inductionHypothesis tailPacked)

/-- Fitting values are packed and read back, whatever follows them. -/
theorem unpackFrom_pack
    {format : List Item}
    {values : List Value}
    (fits : Fits format values)
    (rest : List UInt8) :
    ∃ packed,
      pack format values = some packed ∧
        unpackFrom format (packed ++ rest) = some values := by
  induction fits with
  | nil =>
      exact ⟨[], rfl, rfl⟩
  | @cons item value items values headFits _ inductionHypothesis =>
      obtain ⟨head, headPacked, headRead⟩ :=
        Item.read_of_fits headFits
      obtain ⟨tail, tailPacked, tailRead⟩ := inductionHypothesis
      have headLength := Item.length_of_pack headPacked
      refine ⟨head ++ tail, by simp [pack, headPacked, tailPacked], ?_⟩
      have longEnough :
          ¬ (head ++ tail ++ rest).length < item.size := by
        simp only [List.length_append]
        omega
      have dropped :
          (head ++ tail ++ rest).drop item.size = tail ++ rest := by
        rw [List.append_assoc, ← headLength, List.drop_left]
      have taken :
          (head ++ tail ++ rest).take item.size = head := by
        rw [List.append_assoc, ← headLength, List.take_left]
      simp only [unpackFrom, longEnough, ↓reduceIte, dropped, tailRead,
        taken, headRead]

/-- What was read fits, and packing it restores the front of the buffer. -/
theorem pack_unpackFrom
    {format : List Item}
    {buffer : List UInt8}
    {values : List Value}
    (read : unpackFrom format buffer = some values) :
    Fits format values ∧
      pack format values = some (buffer.take (size format)) := by
  induction format generalizing buffer values with
  | nil =>
      simp only [unpackFrom, Option.some.injEq] at read
      subst values
      exact ⟨.nil, by simp [pack, size]⟩
  | cons item items inductionHypothesis =>
      by_cases tooShort : buffer.length < item.size
      · simp [unpackFrom, tooShort] at read
      · cases tailShape : unpackFrom items (buffer.drop item.size) with
        | none =>
            simp [unpackFrom, tooShort, tailShape] at read
        | some tail =>
            simp only [unpackFrom, tooShort, ↓reduceIte, tailShape,
              Option.some.injEq] at read
            subst values
            obtain ⟨tailFits, tailPacked⟩ :=
              inductionHypothesis tailShape
            have sized :
                (buffer.take item.size).length = item.size := by
              rw [List.length_take]
              omega
            refine ⟨.cons (Item.fits_read sized) tailFits, ?_⟩
            simp only [pack, Item.pack_read sized, tailPacked,
              size_cons]
            rw [← List.take_add]

end StructPack

import H3ntun.JsonValue

namespace H3ntun

/-!
# Reading a stored value

`json.loads` returns the value a text stores, unless the interpreter gives up:
an integer of too many digits raises a `ValueError`, and containers nested too
deeply raise a `RecursionError`.  Neither of them is a `JSONDecodeError`.
-/

/-- The interpreter converts the numeral of an integer. -/
def HasFewDigits (number : Int) : Prop :=
  (Nat.toDigits 10 number.natAbs).length ≤ maxStrDigits

instance (number : Int) : Decidable (HasFewDigits number) := by
  unfold HasFewDigits
  infer_instance

namespace JsonValue

mutual

/--
`json.loads` on the text of a value, with room for so many containers inside
one another.
-/
def loads (room : Nat) : JsonValue → Except Failure JsonValue
  | .int number =>
      if HasFewDigits number then
        .ok (.int number)
      else
        .error (.valueError "Exceeds the limit for integer string conversion")
  | .array items =>
      match room with
      | 0 => .error .recursionError
      | room + 1 => (loadsItems room items).map .array
  | .object fields =>
      match room with
      | 0 => .error .recursionError
      | room + 1 => (loadsFields room fields).map .object
  | value => .ok value

/-- The items of an array, in order. -/
def loadsItems (room : Nat) :
    List JsonValue → Except Failure (List JsonValue)
  | [] => .ok []
  | item :: rest => do
      let item ← item.loads room
      let rest ← loadsItems room rest
      return item :: rest

/-- The fields of an object, in order. -/
def loadsFields (room : Nat) :
    List (String × JsonValue) → Except Failure (List (String × JsonValue))
  | [] => .ok []
  | (key, value) :: rest => do
      let value ← value.loads room
      let rest ← loadsFields room rest
      return (key, value) :: rest

end

mutual

/-- How many containers of a value are inside one another. -/
def nesting : JsonValue → Nat
  | .array items => nestingItems items + 1
  | .object fields => nestingFields fields + 1
  | _ => 0

/-- The most of any item. -/
def nestingItems : List JsonValue → Nat
  | [] => 0
  | item :: rest => max item.nesting (nestingItems rest)

/-- The most of any field. -/
def nestingFields : List (String × JsonValue) → Nat
  | [] => 0
  | (_, value) :: rest => max value.nesting (nestingFields rest)

end

mutual

/-- The integers in a value, in the order they are read. -/
def integers : JsonValue → List Int
  | .int number => [number]
  | .array items => integersOfItems items
  | .object fields => integersOfFields fields
  | _ => []

/-- The integers in the items of an array. -/
def integersOfItems : List JsonValue → List Int
  | [] => []
  | item :: rest => item.integers ++ integersOfItems rest

/-- The integers in the fields of an object. -/
def integersOfFields : List (String × JsonValue) → List Int
  | [] => []
  | (_, value) :: rest => value.integers ++ integersOfFields rest

end

/-- No integer has too many digits, and the containers have room. -/
structure Fits (room : Nat) (value : JsonValue) : Prop where
  shallow :
    value.nesting ≤ room
  short :
    ∀ number ∈ value.integers, HasFewDigits number

end JsonValue

/-- The result of reading something, by whether it fits. -/
structure ReadsIf
    {α : Type}
    (fits : Prop)
    (stored : α)
    (result : Except Failure α) : Prop where
  whole :
    fits → result = .ok stored
  refused :
    ¬ fits →
      result = .error .recursionError ∨
        ∃ message, result = .error (.valueError message)

namespace ReadsIf

variable {α β γ : Type}

/-- Two parts are read one after the other. -/
theorem pair
    {first second : Prop}
    {stored : α}
    {rest : β}
    {head : Except Failure α}
    {tail : Except Failure β}
    (readsHead : ReadsIf first stored head)
    (readsTail : ReadsIf second rest tail)
    (join : α → β → γ) :
    ReadsIf (first ∧ second) (join stored rest)
      (do
        let value ← head
        let others ← tail
        return join value others) where
  whole fits := by
    rw [readsHead.whole fits.1, readsTail.whole fits.2]
    rfl
  refused misfit := by
    by_cases headFits : first
    · rw [readsHead.whole headFits]
      obtain raised | ⟨message, raised⟩ :=
        readsTail.refused fun tailFits => misfit ⟨headFits, tailFits⟩
      · rw [raised]
        exact .inl rfl
      · rw [raised]
        exact .inr ⟨message, rfl⟩
    · obtain raised | ⟨message, raised⟩ := readsHead.refused headFits
      · rw [raised]
        exact .inl rfl
      · rw [raised]
        exact .inr ⟨message, rfl⟩

/-- A container is read as its content is. -/
theorem map
    {fits : Prop}
    {stored : α}
    {result : Except Failure α}
    (reads : ReadsIf fits stored result)
    (make : α → β) :
    ReadsIf fits (make stored) (result.map make) where
  whole isFit := by
    rw [reads.whole isFit]
    rfl
  refused misfit := by
    obtain raised | ⟨message, raised⟩ := reads.refused misfit
    · rw [raised]
      exact .inl rfl
    · rw [raised]
      exact .inr ⟨message, rfl⟩

/-- Fitting may be said in other words. -/
theorem congr
    {fits others : Prop}
    {stored : α}
    {result : Except Failure α}
    (reads : ReadsIf fits stored result)
    (same : others ↔ fits) :
    ReadsIf others stored result where
  whole isFit := reads.whole (same.mp isFit)
  refused misfit := reads.refused fun isFit => misfit (same.mpr isFit)

end ReadsIf

namespace JsonValue

/-- A list fits if its first element and the rest do. -/
theorem fits_cons_iff
    {room first rest : Nat}
    {numbers others : List Int} :
    (max first rest ≤ room ∧
        ∀ number ∈ numbers ++ others, HasFewDigits number) ↔
      (first ≤ room ∧ ∀ number ∈ numbers, HasFewDigits number) ∧
        rest ≤ room ∧ ∀ number ∈ others, HasFewDigits number := by
  rw [max_le_iff, List.forall_mem_append]
  tauto

/-- Both conditions in one. -/
theorem fits_iff
    {room : Nat}
    {value : JsonValue} :
    value.Fits room ↔
      value.nesting ≤ room ∧
        ∀ number ∈ value.integers, HasFewDigits number :=
  ⟨fun fits => ⟨fits.shallow, fits.short⟩,
    fun fits => ⟨fits.1, fits.2⟩⟩

mutual

/--
`json.loads` returns a stored value if it fits, and raises an exception that
is no `JSONDecodeError` if it does not.
-/
theorem reads_loads
    (room : Nat) :
    ∀ value : JsonValue,
      ReadsIf (value.Fits room) value (value.loads room)
  | .int number => {
      whole := fun fits => by
        rw [loads, if_pos (fits.short number (List.mem_singleton_self _))]
      refused := fun misfit => by
        rw [loads, if_neg]
        · exact .inr ⟨_, rfl⟩
        · intro short
          refine misfit ⟨Nat.zero_le _, fun other member => ?_⟩
          rw [List.mem_singleton.mp member]
          exact short }
  | .array items => by
      cases room with
      | zero =>
          exact {
            whole := fun fits => absurd fits.shallow (Nat.not_succ_le_zero _)
            refused := fun _ => .inl rfl }
      | succ room =>
          refine ((reads_loadsItems room items).map JsonValue.array).congr ?_
          rw [fits_iff, nesting, integers, Nat.add_le_add_iff_right]
  | .object fields => by
      cases room with
      | zero =>
          exact {
            whole := fun fits => absurd fits.shallow (Nat.not_succ_le_zero _)
            refused := fun _ => .inl rfl }
      | succ room =>
          refine ((reads_loadsFields room fields).map
            JsonValue.object).congr ?_
          rw [fits_iff, nesting, integers, Nat.add_le_add_iff_right]
  | .null | .bool _ | .float _ | .infinity _ | .nan | .string _ => {
      whole := fun _ => rfl
      refused := fun misfit =>
        absurd ⟨Nat.zero_le _, fun _ member => nomatch member⟩ misfit }

theorem reads_loadsItems
    (room : Nat) :
    ∀ items : List JsonValue,
      ReadsIf
        (nestingItems items ≤ room ∧
          ∀ number ∈ integersOfItems items, HasFewDigits number)
        items (loadsItems room items)
  | [] => {
      whole := fun _ => rfl
      refused := fun misfit =>
        absurd ⟨Nat.zero_le _, fun _ member => nomatch member⟩ misfit }
  | item :: rest => by
      refine ((reads_loads room item).pair (reads_loadsItems room rest)
        List.cons).congr ?_
      rw [nestingItems, integersOfItems, fits_cons_iff, fits_iff]

theorem reads_loadsFields
    (room : Nat) :
    ∀ fields : List (String × JsonValue),
      ReadsIf
        (nestingFields fields ≤ room ∧
          ∀ number ∈ integersOfFields fields, HasFewDigits number)
        fields (loadsFields room fields)
  | [] => {
      whole := fun _ => rfl
      refused := fun misfit =>
        absurd ⟨Nat.zero_le _, fun _ member => nomatch member⟩ misfit }
  | (key, value) :: rest => by
      refine ((reads_loads room value).pair (reads_loadsFields room rest)
        fun value rest => (key, value) :: rest).congr ?_
      rw [nestingFields, integersOfFields, fits_cons_iff, fits_iff]

end

end JsonValue

end H3ntun

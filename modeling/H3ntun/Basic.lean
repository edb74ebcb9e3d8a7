import H3ntun.Foundation.StructPack
import Mathlib.Data.Rat.Defs
import Mathlib.Algebra.Order.Ring.Rat

namespace H3ntun

/-!
# Values shared by all components

Byte strings are lists of bytes.  Readings of the monotonic clock are exact
rationals.  An exception of the program is a value of `Failure`.
-/

/-- A byte string. -/
abbrev Bytes := List UInt8

/-- A reading of the monotonic clock, in seconds. -/
abbrev Time := Rat

/-- Exceptions the modelled code raises, by class. -/
inductive Failure where
  | protocolError (message : String)
  | valueError (message : String)
  | structError
  | osError
  | keyError
  | stopIteration
  | typeError
  | attributeError
  | overflowError
  | jsonDecodeError (message : String)
  | recursionError
  | probeError (message : String)
  | runtimeError (message : String)
  deriving Repr, DecidableEq

/-- `struct.pack(format, *values)`. -/
def structPack
    (format : List StructPack.Item)
    (values : List StructPack.Value) :
    Except Failure Bytes :=
  match StructPack.pack format values with
  | some packed => .ok packed
  | none => .error .structError

theorem structPack_eq_ok
    {format : List StructPack.Item}
    {values : List StructPack.Value}
    {bytes : Bytes}
    (packed : StructPack.pack format values = some bytes) :
    structPack format values = .ok bytes := by
  rw [structPack, packed]

/-- A guarded block succeeds exactly if the guard does not fire. -/
theorem guard_eq_ok_iff
    {α : Type}
    {guard : Prop}
    [Decidable guard]
    {failure : Failure}
    {rest : Except Failure α}
    {value : α} :
    (if guard then .error failure else rest) = .ok value ↔
      ¬ guard ∧ rest = .ok value := by
  split <;> simp_all

/-- What holds of the failure of a guard and of those after it holds of all. -/
theorem forall_guard_error
    {α : Type}
    {P : Failure → Prop}
    {guard : Prop}
    [Decidable guard]
    {failure : Failure}
    {rest : Except Failure α}
    (here : P failure)
    (after : ∀ other, rest = .error other → P other) :
    ∀ other,
      (if guard then .error failure else rest) = .error other →
        P other := by
  intro other fails
  split at fails
  · cases fails
    exact here
  · exact after other fails

theorem ok_bind
    {α β : Type}
    (value : α)
    (rest : α → Except Failure β) :
    (Except.ok value >>= rest) = rest value := by
  rfl

theorem bind_eq_ok_iff
    {α β : Type}
    {first : Except Failure α}
    {rest : α → Except Failure β}
    {result : β} :
    (first >>= rest) = .ok result ↔
      ∃ value, first = .ok value ∧ rest value = .ok result := by
  cases first with
  | error failure => simp [bind, Except.bind]
  | ok value => simp [bind, Except.bind]

/-- A list is mapped successfully item by item. -/
theorem mapM_eq_ok_iff
    {α β : Type}
    {map : α → Except Failure β}
    {items : List α}
    {values : List β} :
    items.mapM map = .ok values ↔
      List.Forall₂ (fun item value => map item = .ok value)
        items values := by
  induction items generalizing values with
  | nil =>
      rw [List.mapM_nil, List.forall₂_nil_left_iff]
      exact ⟨fun same => (Except.ok.inj same).symm, fun same =>
        congrArg Except.ok same.symm⟩
  | cons item rest inductionHypothesis =>
      rw [List.mapM_cons, bind_eq_ok_iff, List.forall₂_cons_left_iff]
      constructor
      · rintro ⟨value, isValue, mapped⟩
        obtain ⟨later, isLater, isList⟩ := bind_eq_ok_iff.mp mapped
        exact ⟨value, later, isValue, inductionHypothesis.mp isLater,
          (Except.ok.inj isList).symm⟩
      · rintro ⟨value, later, isValue, isLater, rfl⟩
        exact ⟨value, isValue,
          bind_eq_ok_iff.mpr
            ⟨later, inductionHypothesis.mpr isLater, rfl⟩⟩

/-- The values of a mapped list are those of its items. -/
theorem mem_of_mapM
    {α β : Type}
    {map : α → Except Failure β}
    {items : List α}
    {values : List β}
    (mapped : items.mapM map = .ok values)
    (value : β) :
    value ∈ values ↔ ∃ item ∈ items, map item = .ok value := by
  rw [mapM_eq_ok_iff] at mapped
  induction mapped with
  | nil =>
      simp
  | cons isFirst _ inductionHypothesis =>
      simp [inductionHypothesis, isFirst, eq_comm]

theorem bind_eq_error_iff
    {α β : Type}
    {first : Except Failure α}
    {rest : α → Except Failure β}
    {failure : Failure} :
    (first >>= rest) = .error failure ↔
      first = .error failure ∨
        ∃ value, first = .ok value ∧ rest value = .error failure := by
  cases first with
  | error failure => simp [bind, Except.bind]
  | ok value => simp [bind, Except.bind]

/-- Checks made one after the other fail as the first that fails. -/
theorem forM_eq_first
    {α : Type}
    (check : α → Except Failure Unit)
    (items : List α) :
    forM items check =
      (items.find? fun item => !(check item).isOk).elim (.ok ())
        check := by
  induction items with
  | nil =>
      rfl
  | cons item rest inductionHypothesis =>
      rw [List.forM_cons, List.find?_cons]
      cases result : check item with
      | ok value =>
          exact inductionHypothesis
      | error failure =>
          exact result.symm

end H3ntun

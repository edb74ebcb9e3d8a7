import Mathlib.Data.List.Sort
import Mathlib.Data.Prod.Lex
import Mathlib.Order.Monotone.Basic

/-!
# Rankings

The entries of a list in their order, and the one that comes first.  What is
monotone in the entry depends, at the first entry, only on the set of its
values over the list.
-/

namespace Ranking

variable {Entry Key : Type} [LinearOrder Entry] [LinearOrder Key]

/-- The entry that sorts before all others. -/
def first? (entries : List Entry) : Option Entry :=
  (entries.insertionSort (· ≤ ·)).head?

theorem mem_of_first?
    {entries : List Entry}
    {entry : Entry}
    (isFirst : first? entries = some entry) :
    entry ∈ entries := by
  have inSorted := List.mem_of_mem_head? isFirst
  rwa [List.mem_insertionSort] at inSorted

/-- No entry sorts before the first one. -/
theorem le_of_first?
    {entries : List Entry}
    {entry : Entry}
    (isFirst : first? entries = some entry) :
    ∀ other ∈ entries, entry ≤ other := by
  intro other member
  have sorted := List.pairwise_insertionSort (· ≤ ·) entries
  have inSorted : other ∈ entries.insertionSort (· ≤ ·) := by
    rwa [List.mem_insertionSort]
  unfold first? at isFirst
  cases shape : entries.insertionSort (· ≤ ·) with
  | nil =>
      rw [shape] at isFirst
      cases isFirst
  | cons least rest =>
      rw [shape] at isFirst sorted inSorted
      obtain rfl := Option.some.inj isFirst
      rcases List.mem_cons.mp inSorted with isLeast | inRest
      · exact le_of_eq isLeast.symm
      · exact (List.pairwise_cons.mp sorted).1 other inRest

theorem first?_eq_none_iff
    {entries : List Entry} :
    first? entries = none ↔ entries = [] := by
  rw [first?, List.head?_eq_none_iff, ← List.length_eq_zero_iff,
    List.length_insertionSort, List.length_eq_zero_iff]

theorem exists_first?
    {entries : List Entry}
    {entry : Entry}
    (member : entry ∈ entries) :
    ∃ least, first? entries = some least := by
  cases isFirst : first? entries with
  | none =>
      rw [first?_eq_none_iff] at isFirst
      rw [isFirst] at member
      cases member
  | some least =>
      exact ⟨least, rfl⟩

/-- Lists with the same values of a monotone key agree on the first value. -/
theorem map_first?_eq
    {key : Entry → Key}
    (monotone : Monotone key)
    {entries others : List Entry}
    (same : ∀ value, value ∈ entries.map key ↔ value ∈ others.map key) :
    (first? entries).map key = (first? others).map key := by
  cases isFirst : first? entries with
  | none =>
      rw [first?_eq_none_iff] at isFirst
      have noOther : others = [] := by
        apply List.eq_nil_iff_forall_not_mem.mpr
        intro other member
        have value := (same _).mpr (List.mem_map_of_mem member)
        rw [isFirst] at value
        cases value
      rw [first?_eq_none_iff.mpr noOther]
  | some least =>
      have value :=
        (same _).mp (List.mem_map_of_mem (mem_of_first? isFirst))
      obtain ⟨partner, inOthers, samePartner⟩ := List.mem_map.mp value
      obtain ⟨otherLeast, isOtherFirst⟩ := exists_first? inOthers
      have otherValue :=
        (same _).mpr (List.mem_map_of_mem (mem_of_first? isOtherFirst))
      obtain ⟨otherPartner, inEntries, sameOtherPartner⟩ :=
        List.mem_map.mp otherValue
      have below := monotone (le_of_first? isOtherFirst _ inOthers)
      have above := monotone (le_of_first? isFirst _ inEntries)
      rw [samePartner] at below
      rw [sameOtherPartner] at above
      rw [isOtherFirst, Option.map_some, Option.map_some,
        le_antisymm above below]

/-- A monotone map of the later places is monotone in the tuple. -/
theorem monotone_lex
    {First : Type}
    [PartialOrder First]
    {key : Entry → Key}
    (monotone : Monotone key) :
    Monotone fun entry : First ×ₗ Entry =>
      (toLex (entry.1, key entry.2) : First ×ₗ Key) := by
  intro entry other le
  rw [Prod.Lex.le_iff] at le
  rw [Prod.Lex.toLex_le_toLex]
  rcases le with lower | ⟨same, later⟩
  · exact Or.inl lower
  · exact Or.inr ⟨same, monotone later⟩

end Ranking

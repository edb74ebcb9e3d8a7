import Mathlib.Data.Finset.Card
import Mathlib.Data.List.Perm.Subperm

/-!
# Samples without replacement

A sample of a list is what stands at distinct positions of it.  Repeated
values make the number of distinct values in a sample depend on the positions;
it is the same for all samples of a size exactly if nothing is repeated, or
every value is repeated so often that no sample misses it.
-/

namespace Sampling

/-- Distinct positions of a list, `count` of them. -/
structure IsSample (size count : Nat) (positions : List Nat) : Prop where
  length : positions.length = count
  nodup : positions.Nodup
  lt : ∀ position ∈ positions, position < size

variable {α : Type}

/-- What stands at some positions. -/
def pick (population : List α) (positions : List Nat) : List α :=
  positions.filterMap fun position => population[position]?

theorem mem_of_mem_pick
    {population : List α}
    {positions : List Nat}
    {value : α}
    (member : value ∈ pick population positions) :
    value ∈ population := by
  obtain ⟨position, _, isValue⟩ := List.mem_filterMap.mp member
  exact List.mem_of_getElem? isValue

/-- Positions inside the list pick one value each. -/
theorem length_pick
    {population : List α}
    {positions : List Nat}
    (inside : ∀ position ∈ positions, position < population.length) :
    (pick population positions).length = positions.length := by
  induction positions with
  | nil =>
      rfl
  | cons position rest inductionHypothesis =>
      obtain ⟨isInside, restInside⟩ := List.forall_mem_cons.mp inside
      have picked := inductionHypothesis restInside
      rw [pick] at picked ⊢
      rw [List.filterMap_cons_some (List.getElem?_eq_getElem isInside),
        List.length_cons, List.length_cons, picked]

/-- Distinct positions of a list without repetitions pick distinct values. -/
theorem nodup_pick
    {population : List α}
    (distinct : population.Nodup)
    {positions : List Nat}
    (nodup : positions.Nodup) :
    (pick population positions).Nodup := by
  apply nodup.filterMap
  intro first second value isFirst isSecond
  have firstInside : first < population.length :=
    (List.getElem?_eq_some_iff.mp isFirst).1
  exact (List.getElem?_inj firstInside distinct).mp
    (isFirst.trans isSecond.symm)

section Distinct

variable [DecidableEq α]

/-- Positions of a list that hold another value. -/
def otherPositions (population : List α) (value : α) : List Nat :=
  (List.range population.length).filter fun position =>
    population[position]? ≠ some value

theorem length_otherPositions
    (population : List α)
    (value : α) :
    (otherPositions population value).length =
      (population.filter (· ≠ value)).length := by
  induction population using List.reverseRecOn with
  | nil =>
      rfl
  | append_singleton population last inductionHypothesis =>
      have earlier :
          (List.range population.length).filter (fun position =>
              (population ++ [last])[position]? ≠ some value) =
            otherPositions population value := by
        apply List.filter_congr
        intro position member
        rw [List.getElem?_append_left (List.mem_range.mp member)]
      rw [otherPositions, List.length_append, List.length_singleton,
        List.range_succ, List.filter_append, earlier, List.length_append,
        inductionHypothesis, List.filter_append, List.length_append]
      congr 1
      by_cases same : last = value <;> simp [same]

/-- A sample larger than the other values cannot miss a value. -/
theorem mem_pick_of_few_others
    {population : List α}
    {count : Nat}
    {positions : List Nat}
    (isSample : IsSample population.length count positions)
    {value : α}
    (few : (population.filter (· ≠ value)).length < count) :
    value ∈ pick population positions := by
  by_contra missing
  have inOthers : positions ⊆ otherPositions population value := by
    intro position member
    refine List.mem_filter.mpr
      ⟨List.mem_range.mpr (isSample.lt position member), ?_⟩
    rw [decide_eq_true_eq]
    intro isValue
    exact missing (List.mem_filterMap.mpr ⟨position, member, isValue⟩)
  have atMost := (isSample.nodup.subperm inOthers).length_le
  rw [isSample.length, length_otherPositions] at atMost
  omega

/-- A sample that misses a value, where there are enough others. -/
theorem exists_sample_without
    {population : List α}
    {count : Nat}
    {value : α}
    (enough : count ≤ (population.filter (· ≠ value)).length) :
    ∃ positions,
      IsSample population.length count positions ∧
        value ∉ pick population positions := by
  have sublist :
      ((otherPositions population value).take count).Sublist
        (List.range population.length) :=
    (List.take_sublist _ _).trans List.filter_sublist
  refine ⟨(otherPositions population value).take count,
    ⟨?_, ?_, ?_⟩, ?_⟩
  · rw [List.length_take, length_otherPositions, min_eq_left enough]
  · exact sublist.nodup List.nodup_range
  · intro position member
    exact List.mem_range.mp (sublist.subset member)
  · intro member
    obtain ⟨position, inOthers, isValue⟩ := List.mem_filterMap.mp member
    have isOther :=
      (List.mem_filter.mp (List.mem_of_mem_take inOthers)).2
    rw [decide_eq_true_eq] at isOther
    exact isOther isValue

omit [DecidableEq α] in
/-- A sample that picks a repeated value twice. -/
theorem exists_sample_repeating
    {population : List α}
    {count : Nat}
    (two : 2 ≤ count)
    (atMost : count ≤ population.length)
    (repeats : ¬ population.Nodup) :
    ∃ positions,
      IsSample population.length count positions ∧
        ¬ (pick population positions).Nodup := by
  have twice :
      ∃ first second,
        first < second ∧ second < population.length ∧
          population[first]? = population[second]? := by
    by_contra none
    apply repeats
    rw [List.nodup_iff_pairwise_ne, List.pairwise_iff_getElem]
    intro first second firstInside secondInside before same
    refine none ⟨first, second, before, secondInside, ?_⟩
    rw [List.getElem?_eq_getElem firstInside,
      List.getElem?_eq_getElem secondInside, same]
  obtain ⟨first, second, before, inside, same⟩ := twice
  have firstInRange : first ∈ List.range population.length :=
    List.mem_range.mpr (by omega)
  have nodupRange : (List.range population.length).Nodup :=
    List.nodup_range
  have secondInRange :
      second ∈ (List.range population.length).erase first :=
    (nodupRange.mem_erase_iff).mpr
      ⟨by omega, List.mem_range.mpr inside⟩
  have nodupRest :=
    (nodupRange.erase first).erase second
  have restLength :
      (((List.range population.length).erase first).erase second).length =
        population.length - 2 := by
    rw [List.length_erase_of_mem secondInRange,
      List.length_erase_of_mem firstInRange, List.length_range]
    omega
  have mem_rest :
      ∀ position,
        position ∈
            (((List.range population.length).erase first).erase
              second).take (count - 2) →
        position ≠ second ∧ position ≠ first ∧
          position < population.length := by
    intro position member
    obtain ⟨notSecond, inErased⟩ :=
      ((nodupRange.erase first).mem_erase_iff).mp
        (List.mem_of_mem_take member)
    obtain ⟨notFirst, inRange⟩ :=
      (nodupRange.mem_erase_iff).mp inErased
    exact ⟨notSecond, notFirst, List.mem_range.mp inRange⟩
  refine ⟨first :: second ::
    (((List.range population.length).erase first).erase second).take
      (count - 2), ⟨?_, ?_, ?_⟩, ?_⟩
  · rw [List.length_cons, List.length_cons, List.length_take, restLength]
    omega
  · refine List.nodup_cons.mpr ⟨?_, List.nodup_cons.mpr ⟨?_, ?_⟩⟩
    · intro member
      rcases List.mem_cons.mp member with isSecond | inRest
      · omega
      · exact (mem_rest first inRest).2.1 rfl
    · intro member
      exact (mem_rest second member).1 rfl
    · exact nodupRest.sublist (List.take_sublist _ _)
  · intro position member
    rcases List.mem_cons.mp member with isFirst | later
    · omega
    · rcases List.mem_cons.mp later with isSecond | inRest
      · omega
      · exact (mem_rest position inRest).2.2
  · rw [List.getElem?_eq_getElem inside] at same
    rw [pick, List.filterMap_cons_some same,
      List.filterMap_cons_some (List.getElem?_eq_getElem inside),
      List.nodup_cons]
    intro distinct
    exact distinct.1 (List.mem_cons_self)

/--
All samples of more than one value have as many distinct values as there can
be, exactly if nothing is repeated or no sample misses a value.
-/
theorem card_pick_iff
    {population : List α}
    {count : Nat}
    (two : 2 ≤ count)
    (atMost : count ≤ population.length) :
    (∀ positions, IsSample population.length count positions →
        (pick population positions).toFinset.card =
          min count population.toFinset.card) ↔
      population.Nodup ∨
        ∀ value ∈ population,
          (population.filter (· ≠ value)).length < count := by
  constructor
  · intro all
    by_cases distinct : population.Nodup
    · exact Or.inl distinct
    · refine Or.inr ?_
      intro value member
      by_contra enough
      rw [not_lt] at enough
      -- With more values than fit, a repetition shows; else the lost value.
      rcases Nat.lt_or_ge count population.toFinset.card with many | few
      · obtain ⟨positions, isSample, repeats⟩ :=
          exists_sample_repeating two atMost distinct
        have counted := all positions isSample
        rw [min_eq_left (Nat.le_of_lt many)] at counted
        have noneLost :
            (pick population positions).toFinset.card =
              (pick population positions).length := by
          rw [counted, length_pick isSample.lt, isSample.length]
        exact repeats
          (Multiset.coe_nodup.mp
            (Multiset.toFinset_card_eq_card_iff_nodup.mp noneLost))
      · obtain ⟨positions, isSample, missing⟩ :=
          exists_sample_without enough
        have counted := all positions isSample
        rw [min_eq_right few] at counted
        have inErased :
            (pick population positions).toFinset ⊆
              population.toFinset.erase value := by
          intro other isPicked
          rw [List.mem_toFinset] at isPicked
          refine Finset.mem_erase.mpr ⟨?_,
            List.mem_toFinset.mpr (mem_of_mem_pick isPicked)⟩
          rintro rfl
          exact missing isPicked
        have fewer := Finset.card_le_card inErased
        have inPopulation : value ∈ population.toFinset :=
          List.mem_toFinset.mpr member
        rw [Finset.card_erase_of_mem inPopulation, counted] at fewer
        have positive := Finset.card_pos.mpr ⟨value, inPopulation⟩
        omega
  · rintro (distinct | few) positions isSample
    · rw [List.toFinset_card_of_nodup (nodup_pick distinct isSample.nodup),
        List.toFinset_card_of_nodup distinct, length_pick isSample.lt,
        isSample.length, min_eq_left atMost]
    · have same :
          (pick population positions).toFinset = population.toFinset := by
        ext value
        rw [List.mem_toFinset, List.mem_toFinset]
        exact ⟨mem_of_mem_pick, fun member =>
          mem_pick_of_few_others isSample (few value member)⟩
      have picked := List.toFinset_card_le (pick population positions)
      rw [length_pick isSample.lt, isSample.length, same] at picked
      rw [same, min_eq_right picked]

end Distinct

end Sampling

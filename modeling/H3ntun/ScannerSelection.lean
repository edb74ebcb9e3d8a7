import H3ntun.SourceScanner
import Mathlib.Order.Interval.Finset.Nat
import Mathlib.Tactic.Linarith

namespace H3ntun

/-!
# The selected candidate

The table is sorted by loss, and the threshold is applied to its first row
only.  A candidate that declared one or two probes and delivered them all has
no loss, so it comes before every qualifying candidate that lost a probe, and
the scan then selects nobody.
-/

namespace SourceStats

/-- What the receiver promises of the statistics it keeps. -/
structure InRange (values : SourceStats) : Prop where
  declaredNonneg : 0 ≤ values.declared
  sequenceInRange :
    ∀ sequence ∈ values.sequences,
      1 ≤ sequence ∧ sequence ≤ values.declared

/-- Share of the declared probes that did not arrive, in percent. -/
def lossPercent (values : SourceStats) : Rat :=
  ((values.declared - values.received : Int) : Rat) * 100 /
    (values.declared : Rat)

/-- The authenticated delivery threshold. -/
structure Qualifies (values : SourceStats) : Prop where
  received : 3 ≤ values.received
  declared : 3 ≤ values.declared
  loss : values.lossPercent ≤ 20

/-- One or two probes were declared and all of them arrived. -/
structure IsShort (values : SourceStats) : Prop where
  complete : values.received = values.declared
  positive : 1 ≤ values.declared
  few : values.declared ≤ 2

/-- Enough probes were declared and all of them arrived. -/
structure IsComplete (values : SourceStats) : Prop where
  complete : values.received = values.declared
  enough : 3 ≤ values.declared

theorem received_nonneg
    (values : SourceStats) :
    0 ≤ values.received :=
  Int.natCast_nonneg _

namespace InRange

variable {values : SourceStats}

/-- No more probes arrive than were declared. -/
theorem received_le
    (inRange : values.InRange) :
    values.received ≤ values.declared := by
  have inside : values.sequences ⊆ Finset.Icc 1 values.declared := by
    intro sequence member
    exact Finset.mem_Icc.mpr (inRange.sequenceInRange sequence member)
  have counted := Finset.card_le_card inside
  rw [Int.card_Icc] at counted
  have nonneg := inRange.declaredNonneg
  unfold received
  omega

theorem shownDeclared_eq
    (inRange : values.InRange) :
    values.shownDeclared = values.declared :=
  max_eq_left inRange.received_le

theorem lossPercent_nonneg
    (inRange : values.InRange) :
    0 ≤ values.lossPercent := by
  have missing : (0 : Rat) ≤ (values.declared - values.received : Int) := by
    have atMost := inRange.received_le
    exact_mod_cast (by omega : 0 ≤ values.declared - values.received)
  have nonneg : (0 : Rat) ≤ (values.declared : Rat) := by
    exact_mod_cast inRange.declaredNonneg
  exact div_nonneg (mul_nonneg missing (by norm_num)) nonneg

/-- With a declared total, the table shows the exact loss. -/
theorem loss_eq
    (inRange : values.InRange)
    (positive : values.declared ≠ 0) :
    values.loss = values.lossPercent := by
  rw [loss, inRange.shownDeclared_eq, if_pos positive]
  exact max_eq_right inRange.lossPercent_nonneg

theorem loss_of_declared_zero
    (inRange : values.InRange)
    (isZero : values.declared = 0) :
    values.loss = 100 := by
  rw [loss, inRange.shownDeclared_eq, if_neg (not_not.mpr isZero)]

/-- At most a fifth of the declared probes is missing. -/
theorem lossPercent_le_iff
    (inRange : values.InRange)
    (positive : values.declared ≠ 0) :
    values.lossPercent ≤ 20 ↔
      5 * (values.declared - values.received) ≤ values.declared := by
  have nonneg := inRange.declaredNonneg
  have castPositive : (0 : Rat) < (values.declared : Rat) := by
    exact_mod_cast (by omega : 0 < values.declared)
  rw [lossPercent, div_le_iff₀ castPositive]
  constructor
  · intro small
    have scaled :
        (values.declared - values.received) * 100 ≤
          20 * values.declared := by
      exact_mod_cast small
    omega
  · intro small
    have scaled :
        (values.declared - values.received) * 100 ≤
          20 * values.declared := by
      omega
    exact_mod_cast scaled

/-- A candidate that delivered everything has no loss. -/
theorem loss_of_complete
    (inRange : values.InRange)
    (positive : values.declared ≠ 0)
    (complete : values.received = values.declared) :
    values.loss = 0 := by
  rw [inRange.loss_eq positive, lossPercent, complete]
  simp

/-- A candidate without loss delivered everything. -/
theorem complete_of_loss
    (inRange : values.InRange)
    (none : values.loss ≤ 0) :
    values.declared ≠ 0 ∧ values.received = values.declared := by
  have positive : values.declared ≠ 0 := by
    intro isZero
    rw [inRange.loss_of_declared_zero isZero] at none
    norm_num at none
  refine ⟨positive, ?_⟩
  have nonneg := inRange.declaredNonneg
  have castPositive : (0 : Rat) < (values.declared : Rat) := by
    exact_mod_cast (by omega : 0 < values.declared)
  rw [inRange.loss_eq positive, lossPercent,
    div_le_iff₀ castPositive] at none
  have scaled : (values.declared - values.received) * 100 ≤ 0 := by
    rw [zero_mul] at none
    exact_mod_cast none
  have atMost := inRange.received_le
  omega

/-- The threshold of the source, as it is applied to a row. -/
theorem threshold_iff
    (inRange : values.InRange) :
    (values.received ≥ 3 ∧ values.loss ≤ 20 ∧
        values.shownDeclared ≥ 3) ↔
      values.Qualifies := by
  rw [inRange.shownDeclared_eq]
  constructor
  · rintro ⟨received, loss, declared⟩
    rw [inRange.loss_eq (by omega)] at loss
    exact ⟨received, declared, loss⟩
  · rintro ⟨received, declared, loss⟩
    rw [← inRange.loss_eq (by omega)] at loss
    exact ⟨received, loss, declared⟩

/-- Little loss without enough probes means that very few were declared. -/
theorem isShort_of_loss
    (inRange : values.InRange)
    (loss : values.loss ≤ 20)
    (notEnough : ¬ values.Qualifies) :
    values.IsShort := by
  have positive : values.declared ≠ 0 := by
    intro isZero
    rw [inRange.loss_of_declared_zero isZero] at loss
    norm_num at loss
  rw [inRange.loss_eq positive] at loss
  have share := (inRange.lossPercent_le_iff positive).mp loss
  have atMost := inRange.received_le
  have nonneg := inRange.declaredNonneg
  have fewReceived : values.received < 3 := by
    by_contra enough
    exact notEnough ⟨by omega, by omega, loss⟩
  exact ⟨by omega, by omega, by omega⟩

theorem qualifies_of_isComplete
    (inRange : values.InRange)
    (isComplete : values.IsComplete) :
    values.Qualifies := by
  obtain ⟨complete, enough⟩ := isComplete
  refine ⟨by omega, enough, ?_⟩
  rw [inRange.lossPercent_le_iff (by omega)]
  omega

end InRange

end SourceStats

/-- Rows compare by loss first and by received probes next. -/
theorem loss_le_of_rankedRow_le
    {entry other : String × SourceStats}
    (le : rankedRow entry ≤ rankedRow other) :
    entry.2.loss < other.2.loss ∨
      entry.2.loss = other.2.loss ∧
        other.2.received ≤ entry.2.received := by
  rw [rankedRow, rankedRow, Prod.Lex.toLex_le_toLex] at le
  rcases le with lower | ⟨same, later⟩
  · exact Or.inl lower
  · rw [Prod.Lex.toLex_le_toLex] at later
    simp only [neg_lt_neg_iff, neg_inj] at later
    refine Or.inr ⟨same, ?_⟩
    rcases later with more | ⟨equal, _⟩
    · exact le_of_lt more
    · exact le_of_eq equal.symm

/-- The threshold is applied to the first row. -/
theorem printReceiverTable_of_first?
    {stats : OrderedDict String SourceStats}
    {entry : String × SourceStats}
    (inRange : entry.2.InRange)
    (isFirst :
      Ranking.first? (stats.entries.map rankedRow) =
        some (rankedRow entry)) :
    (entry.2.Qualifies → printReceiverTable stats = some entry.1) ∧
      (¬ entry.2.Qualifies → printReceiverTable stats = none) := by
  have received :
      -(rankedRow entry).2.1 = entry.2.received :=
    neg_neg _
  constructor
  · intro qualifies
    have threshold := inRange.threshold_iff.mpr qualifies
    simp only [printReceiverTable, isFirst, received]
    exact if_pos threshold
  · intro notEnough
    have threshold := inRange.threshold_iff.not.mpr notEnough
    simp only [printReceiverTable, isFirst, received]
    exact if_neg threshold

/-- The candidate of the table is one of least loss among the qualifying. -/
structure PicksBest (stats : OrderedDict String SourceStats) : Prop where
  picks_iff :
    (∃ candidate, printReceiverTable stats = some candidate) ↔
      ∃ entry ∈ stats.entries, entry.2.Qualifies
  best :
    ∀ candidate, printReceiverTable stats = some candidate →
      ∃ values, (candidate, values) ∈ stats.entries ∧ values.Qualifies ∧
        ∀ other ∈ stats.entries, other.2.Qualifies →
          values.lossPercent < other.2.lossPercent ∨
            values.lossPercent = other.2.lossPercent ∧
              other.2.received ≤ values.received

section Selection

variable {stats : OrderedDict String SourceStats}

/-- Where the first row qualifies, it is the best one. -/
theorem picksBest_of_first_qualifies
    (inRange : ∀ entry ∈ stats.entries, entry.2.InRange)
    {entry : String × SourceStats}
    (member : entry ∈ stats.entries)
    (isFirst :
      Ranking.first? (stats.entries.map rankedRow) =
        some (rankedRow entry))
    (qualifies : entry.2.Qualifies) :
    PicksBest stats := by
  have picked :=
    (printReceiverTable_of_first? (inRange entry member) isFirst).1
      qualifies
  refine ⟨⟨fun _ => ⟨entry, member, qualifies⟩, fun _ =>
    ⟨entry.1, picked⟩⟩, ?_⟩
  intro candidate isPicked
  rw [picked] at isPicked
  obtain rfl := Option.some.inj isPicked
  refine ⟨entry.2, member, qualifies, ?_⟩
  intro other inTable otherQualifies
  have le :=
    Ranking.le_of_first? isFirst _ (List.mem_map_of_mem inTable)
  have declared := qualifies.declared
  have otherDeclared := otherQualifies.declared
  have order := loss_le_of_rankedRow_le le
  rwa [(inRange entry member).loss_eq (by omega),
    (inRange other inTable).loss_eq (by omega)] at order

/-- Where it does not, nobody is selected. -/
theorem picksBest_iff_of_first_fails
    (inRange : ∀ entry ∈ stats.entries, entry.2.InRange)
    {entry : String × SourceStats}
    (member : entry ∈ stats.entries)
    (isFirst :
      Ranking.first? (stats.entries.map rankedRow) =
        some (rankedRow entry))
    (fails : ¬ entry.2.Qualifies) :
    PicksBest stats ↔ ∀ other ∈ stats.entries, ¬ other.2.Qualifies := by
  have nobody :=
    (printReceiverTable_of_first? (inRange entry member) isFirst).2 fails
  constructor
  · intro picksBest other inTable qualifies
    obtain ⟨candidate, picked⟩ :=
      picksBest.picks_iff.mpr ⟨other, inTable, qualifies⟩
    rw [nobody] at picked
    cases picked
  · intro nobodyQualifies
    refine ⟨⟨?_, ?_⟩, ?_⟩
    · rintro ⟨candidate, picked⟩
      rw [nobody] at picked
      cases picked
    · rintro ⟨other, inTable, qualifies⟩
      exact absurd qualifies (nobodyQualifies other inTable)
    · intro candidate picked
      rw [nobody] at picked
      cases picked

end Selection

/--
The table yields the best qualifying candidate exactly if none qualifies, or
no candidate delivered all of only one or two declared probes, or some
candidate delivered all of at least three.
-/
theorem printReceiverTable_picksBest_iff
    {stats : OrderedDict String SourceStats}
    (inRange : ∀ entry ∈ stats.entries, entry.2.InRange) :
    PicksBest stats ↔
      (∀ entry ∈ stats.entries, ¬ entry.2.Qualifies) ∨
        (∀ entry ∈ stats.entries, ¬ entry.2.IsShort) ∨
          ∃ entry ∈ stats.entries, entry.2.IsComplete := by
  cases isFirst : Ranking.first? (stats.entries.map rankedRow) with
  | none =>
      have empty := Ranking.first?_eq_none_iff.mp isFirst
      rw [List.map_eq_nil_iff] at empty
      have nobody : printReceiverTable stats = none := by
        simp only [printReceiverTable, isFirst]
      constructor
      · intro _
        left
        simp [empty]
      · intro _
        exact ⟨by simp [nobody, empty], by simp [nobody]⟩
  | some row =>
      obtain ⟨entry, member, rfl⟩ :=
        List.mem_map.mp (Ranking.mem_of_first? isFirst)
      have before :
          ∀ other ∈ stats.entries,
            entry.2.loss < other.2.loss ∨
              entry.2.loss = other.2.loss ∧
                other.2.received ≤ entry.2.received := by
        intro other inTable
        exact loss_le_of_rankedRow_le
          (Ranking.le_of_first? isFirst _ (List.mem_map_of_mem inTable))
      by_cases qualifies : entry.2.Qualifies
      · have picksBest :=
          picksBest_of_first_qualifies inRange member isFirst qualifies
        refine ⟨fun _ => ?_, fun _ => picksBest⟩
        by_cases noShort : ∀ other ∈ stats.entries, ¬ other.2.IsShort
        · exact Or.inr (Or.inl noShort)
        · -- A complete short candidate leaves no loss to the first row.
          push Not at noShort
          obtain ⟨short, inTable, isShort⟩ := noShort
          have positive := isShort.positive
          have noLoss :=
            (inRange short inTable).loss_of_complete (by omega)
              isShort.complete
          have atMost : entry.2.loss ≤ 0 := by
            rcases before short inTable with lower | ⟨same, _⟩
            · exact le_of_lt (noLoss ▸ lower)
            · exact le_of_eq (same.trans noLoss)
          have complete :=
            (inRange entry member).complete_of_loss atMost
          exact Or.inr (Or.inr
            ⟨entry, member, complete.2, qualifies.declared⟩)
      · rw [picksBest_iff_of_first_fails inRange member isFirst qualifies]
        refine ⟨Or.inl, ?_⟩
        rintro (nobody | noShort | ⟨full, inTable, isComplete⟩)
        · exact nobody
        · intro other inTable otherQualifies
          have declared := otherQualifies.declared
          have otherLoss := otherQualifies.loss
          rw [← (inRange other inTable).loss_eq (by omega)] at otherLoss
          have loss : entry.2.loss ≤ 20 := by
            rcases before other inTable with lower | ⟨same, _⟩
            · exact le_of_lt (lt_of_lt_of_le lower otherLoss)
            · exact le_of_eq_of_le same otherLoss
          exact noShort entry member
            ((inRange entry member).isShort_of_loss loss qualifies)
        · -- The first row has no loss and at least as many probes.
          have enough := isComplete.enough
          have complete := isComplete.complete
          have noLoss :=
            (inRange full inTable).loss_of_complete (by omega) complete
          have nonneg : 0 ≤ entry.2.loss := by
            unfold SourceStats.loss
            split
            · exact le_max_left _ _
            · norm_num
          rcases before full inTable with lower | ⟨same, more⟩
          · rw [noLoss] at lower
            exact absurd lower (not_lt.mpr nonneg)
          · have own :=
              (inRange entry member).complete_of_loss
                (le_of_eq (same.trans noLoss))
            have isFull : entry.2.IsComplete :=
              ⟨own.2, by omega⟩
            exact absurd
              ((inRange entry member).qualifies_of_isComplete isFull)
              qualifies

/-- Statistics of probes `1` to `received` out of `declared`. -/
def SourceStats.ofCounts (received declared : Nat) : SourceStats where
  sequences :=
    ((List.range received).map fun offset : Nat =>
      (offset : Int) + 1).toFinset
  declared := declared

theorem SourceStats.inRange_ofCounts
    {received declared : Nat}
    (le : received ≤ declared) :
    (ofCounts received declared).InRange where
  declaredNonneg := Int.natCast_nonneg declared
  sequenceInRange := by
    intro sequence member
    obtain ⟨offset, isOffset, rfl⟩ :=
      List.mem_map.mp (List.mem_toFinset.mp member)
    have small := List.mem_range.mp isOffset
    have last : (offset : Int) + 1 ≤ declared := by omega
    exact ⟨by omega, last⟩

/-- All of three probes arrived from one address, one of one from another. -/
def completeTable : OrderedDict String SourceStats where
  entries := [
    ("127.0.0.1", SourceStats.ofCounts 1 1),
    ("127.0.0.2", SourceStats.ofCounts 3 3)]
  keysNodup := by decide

theorem printReceiverTable_picksBest_iff_complete :
    PicksBest completeTable ∧
      printReceiverTable completeTable = some "127.0.0.2" := by
  have inRange :
      ∀ entry ∈ completeTable.entries, entry.2.InRange := by
    intro entry member
    rcases List.mem_pair.mp member with rfl | rfl
    · exact SourceStats.inRange_ofCounts (by decide)
    · exact SourceStats.inRange_ofCounts (by decide)
  refine ⟨(printReceiverTable_picksBest_iff inRange).mpr ?_, ?_⟩
  · right
    right
    exact ⟨("127.0.0.2", SourceStats.ofCounts 3 3),
      List.mem_pair.mpr (Or.inr rfl), ⟨by decide, by decide⟩⟩
  · decide +kernel

/-- One of one probe arrived from one address, four of five from another. -/
def shortTable : OrderedDict String SourceStats where
  entries := [
    ("127.0.0.1", SourceStats.ofCounts 1 1),
    ("127.0.0.2", SourceStats.ofCounts 4 5)]
  keysNodup := by decide

/-- The single probe of the first address hides the second one. -/
theorem short_candidate_hides_qualifying :
    (∀ entry ∈ shortTable.entries, entry.2.InRange) ∧
      (∃ entry ∈ shortTable.entries, entry.2.Qualifies) ∧
      printReceiverTable shortTable = none ∧
      ¬ PicksBest shortTable := by
  have inRange :
      ∀ entry ∈ shortTable.entries, entry.2.InRange := by
    intro entry member
    rcases List.mem_pair.mp member with rfl | rfl
    · exact SourceStats.inRange_ofCounts (by decide)
    · exact SourceStats.inRange_ofCounts (by decide)
  have qualifies :
      ∃ entry ∈ shortTable.entries, entry.2.Qualifies :=
    ⟨("127.0.0.2", SourceStats.ofCounts 4 5),
      List.mem_pair.mpr (Or.inr rfl),
      ⟨by decide, by decide, by decide +kernel⟩⟩
  have nobody : printReceiverTable shortTable = none := by
    decide +kernel
  refine ⟨inRange, qualifies, nobody, ?_⟩
  intro picksBest
  obtain ⟨candidate, picked⟩ := picksBest.picks_iff.mpr qualifies
  rw [nobody] at picked
  cases picked

end H3ntun

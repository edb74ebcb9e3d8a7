import Mathlib.Data.List.Nodup
import Mathlib.Data.List.Sort
import Mathlib.Data.Prod.Lex

/-!
# Queues served by rank

A queue hands out the entry with the least key, and of equal keys the one that
came first.  An entry is overtaken only by entries with a lesser key, so what
comes in the order of the keys leaves in that order.
-/

/-- A value, the key it is ranked by, and its number among all arrivals. -/
structure RankedEntry (Key Value : Type) where
  key : Key
  ticket : Nat
  value : Value
  deriving Repr, DecidableEq

namespace RankedEntry

variable {Key Value : Type} [LinearOrder Key]

/-- What entries are served by. -/
def rank (entry : RankedEntry Key Value) : Key ×ₗ Nat :=
  toLex (entry.key, entry.ticket)

/-- Served before, or the same. -/
def Ahead (first second : RankedEntry Key Value) : Prop :=
  first.rank ≤ second.rank

instance : DecidableRel (@Ahead Key Value _) :=
  fun first second =>
    inferInstanceAs (Decidable (first.rank ≤ second.rank))

instance : Std.Total (@Ahead Key Value _) where
  total first second := le_total first.rank second.rank

instance : IsTrans (RankedEntry Key Value) Ahead where
  trans _ _ _ := le_trans

/-- Whoever came later has the lesser key. -/
def Fair (first second : RankedEntry Key Value) : Prop :=
  second.ticket < first.ticket → first.key < second.key

theorem fair_of_ahead
    {first second : RankedEntry Key Value}
    (ahead : first.Ahead second) :
    first.Fair second := by
  intro later
  rw [Ahead, rank, rank, Prod.Lex.toLex_le_toLex] at ahead
  rcases ahead with lesser | ⟨_, earlier⟩
  · exact lesser
  · omega

end RankedEntry

/-- The entries waiting, in the order they will be served. -/
structure RankedQueue (Key Value : Type) [LinearOrder Key] where
  waiting : List (RankedEntry Key Value)
  arrived : Nat
  sorted : waiting.Pairwise RankedEntry.Ahead

namespace RankedQueue

variable {Key Value : Type} [LinearOrder Key]

/-- Nobody has arrived yet. -/
def empty : RankedQueue Key Value where
  waiting := []
  arrived := 0
  sorted := .nil

/-- The entry that arrives next. -/
def ticketed
    (queue : RankedQueue Key Value)
    (key : Key)
    (value : Value) :
    RankedEntry Key Value where
  key := key
  ticket := queue.arrived + 1
  value := value

/-- Add a value under the next number. -/
def push
    (queue : RankedQueue Key Value)
    (key : Key)
    (value : Value) :
    RankedQueue Key Value where
  waiting :=
    queue.waiting.orderedInsert RankedEntry.Ahead
      (queue.ticketed key value)
  arrived := queue.arrived + 1
  sorted := queue.sorted.orderedInsert _ _

/-- The entry that is served next. -/
def first? (queue : RankedQueue Key Value) :
    Option (RankedEntry Key Value) :=
  queue.waiting.head?

/-- The queue without the entry that is served next. -/
def pop (queue : RankedQueue Key Value) : RankedQueue Key Value where
  waiting := queue.waiting.tail
  arrived := queue.arrived
  sorted := queue.sorted.tail

@[simp] theorem arrived_push
    (queue : RankedQueue Key Value)
    (key : Key)
    (value : Value) :
    (queue.push key value).arrived = queue.arrived + 1 :=
  rfl

theorem waiting_of_first?
    {queue : RankedQueue Key Value}
    {entry : RankedEntry Key Value}
    (isFirst : queue.first? = some entry) :
    queue.waiting = entry :: queue.pop.waiting :=
  (List.cons_head?_tail isFirst).symm

/-- What has been served, and what a queue still has to serve. -/
structure Serves
    (queue : RankedQueue Key Value)
    (history served : List (RankedEntry Key Value)) : Prop where
  numbered :
    history.map RankedEntry.ticket = List.range' 1 queue.arrived
  kept :
    (served ++ queue.waiting).Perm history
  fair :
    (served ++ queue.waiting).Pairwise RankedEntry.Fair

namespace Serves

variable
  {queue : RankedQueue Key Value}
  {history served : List (RankedEntry Key Value)}
  {first second entry : RankedEntry Key Value}

theorem empty :
    Serves (.empty : RankedQueue Key Value) [] [] where
  numbered := rfl
  kept := .nil
  fair := .nil

theorem ticket_le
    (serves : queue.Serves history served)
    (member : entry ∈ history) :
    entry.ticket ≤ queue.arrived := by
  have inRange : entry.ticket ∈ history.map RankedEntry.ticket :=
    List.mem_map_of_mem member
  rw [serves.numbered, List.mem_range'_1] at inRange
  omega

/-- Nobody arrives twice. -/
theorem eq_of_ticket_eq
    (serves : queue.Serves history served)
    (member : first ∈ history)
    (otherMember : second ∈ history)
    (same : first.ticket = second.ticket) :
    first = second := by
  have distinct : (history.map RankedEntry.ticket).Nodup := by
    rw [serves.numbered]
    exact List.nodup_range'
  exact List.inj_on_of_nodup_map distinct member otherMember same

theorem push
    (serves : queue.Serves history served)
    (key : Key)
    (value : Value) :
    (queue.push key value).Serves
      (history ++ [queue.ticketed key value]) served where
  numbered := by
    rw [List.map_append, serves.numbered, arrived_push,
      List.range'_1_concat, Nat.add_comm 1]
    rfl
  kept := by
    have inserted :
        (queue.push key value).waiting.Perm
          (queue.ticketed key value :: queue.waiting) :=
      List.perm_orderedInsert _ _ _
    have present :
        (served ++ (queue.push key value).waiting).Perm
          (queue.ticketed key value :: (served ++ queue.waiting)) :=
      (inserted.append_left served).trans List.perm_middle
    have counted :
        (queue.ticketed key value :: (served ++ queue.waiting)).Perm
          (history ++ [queue.ticketed key value]) :=
      (serves.kept.cons _).trans (List.perm_append_singleton _ _).symm
    exact present.trans counted
  fair := by
    obtain ⟨servedFair, _, across⟩ := List.pairwise_append.mp serves.fair
    refine List.pairwise_append.mpr ⟨servedFair, ?_, ?_⟩
    · exact (queue.push key value).sorted.imp RankedEntry.fair_of_ahead
    · intro old isServed other isWaiting
      rcases (List.mem_orderedInsert _).mp isWaiting with rfl | before
      · -- The new entry has the largest number.
        intro later
        have numbered :=
          serves.ticket_le
            (serves.kept.subset (List.mem_append_left _ isServed))
        change queue.arrived + 1 < old.ticket at later
        omega
      · exact across old isServed other before

theorem pop
    (serves : queue.Serves history served)
    (isFirst : queue.first? = some entry) :
    queue.pop.Serves history (served ++ [entry]) := by
  have shape := waiting_of_first? isFirst
  have same :
      served ++ [entry] ++ queue.pop.waiting = served ++ queue.waiting := by
    rw [shape, List.append_assoc]
    rfl
  exact {
    numbered := serves.numbered
    kept := same ▸ serves.kept
    fair := same ▸ serves.fair
  }

/-- An entry overtakes an earlier one only under a lesser key. -/
theorem before_of_key_le
    (serves : queue.Serves history served)
    (member : first ∈ history)
    (earlier : first.ticket < second.ticket)
    (keys : first.key ≤ second.key)
    {before after : List (RankedEntry Key Value)}
    (split : served = before ++ second :: after) :
    first ∈ before := by
  have present : first ∈ served ++ queue.waiting :=
    serves.kept.symm.subset member
  have fair := serves.fair
  rw [split, List.append_assoc, List.cons_append] at present fair
  rcases List.mem_append.mp present with isBefore | notBefore
  · exact isBefore
  · rcases List.mem_cons.mp notBefore with rfl | isAfter
    · omega
    · have fairTail := (List.pairwise_append.mp fair).2.1
      have overtaken :=
        (List.pairwise_cons.mp fairTail).1 first isAfter earlier
      exact absurd keys (not_le.mpr overtaken)

/-- Tickets grow in the order of arrival. -/
theorem pairwise_ticket
    (serves : queue.Serves history served) :
    history.Pairwise fun first second =>
      first.ticket < second.ticket := by
  rw [← List.pairwise_map (f := RankedEntry.ticket) (R := (· < ·)),
    serves.numbered]
  exact List.pairwise_lt_range'

/-- Entries that arrive in the order of their keys are served in turn. -/
theorem eq_history
    (serves : queue.Serves history served)
    (monotone :
      history.Pairwise fun first second => first.key ≤ second.key) :
    served ++ queue.waiting = history := by
  have numbered := serves.pairwise_ticket
  have keys :
      ∀ first ∈ history, ∀ second ∈ history,
        first.ticket < second.ticket → first.key ≤ second.key := by
    have forwards :
        history.Pairwise fun first second =>
          first.ticket < second.ticket → first.key ≤ second.key := by
      refine monotone.imp ?_
      intro first second ordered _
      exact ordered
    refine forwards.forall_of_forall_of_flip
      (fun entry _ earlier => absurd earlier (lt_irrefl _))
      (numbered.imp ?_)
    intro first second before after
    exact absurd after (lt_asymm before)
  have inTurn :
      (served ++ queue.waiting).Pairwise fun first second =>
        first.ticket ≤ second.ticket := by
    refine serves.fair.imp_of_mem ?_
    intro first second firstPresent secondPresent fair
    by_contra later
    have lesser := fair (not_le.mp later)
    have ordered :=
      keys second (serves.kept.subset secondPresent) first
        (serves.kept.subset firstPresent) (not_le.mp later)
    exact absurd ordered (not_le.mpr lesser)
  refine serves.kept.eq_of_pairwise ?_ inTurn
    (numbered.imp fun earlier => earlier.le)
  intro first second present otherMember le ge
  exact serves.eq_of_ticket_eq (serves.kept.subset present) otherMember
    (le_antisymm le ge)

end Serves

end RankedQueue

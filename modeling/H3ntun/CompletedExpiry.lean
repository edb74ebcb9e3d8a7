import H3ntun.ReassemblyExact
import Mathlib.Tactic.Linarith

namespace H3ntun

/-!
# Expiry of completed messages

`_purge` looks at the completed messages from the oldest place on and stops at
the first one that has not expired.  The places follow the completion times
until a duplicate of an earlier message gives that message the last place.
-/

namespace Reassembler

/-- The three operations of a reassembler. -/
inductive Call where
  | add (frame : Frame)
  | isCompleted (sessionId messageId : Nat)
  | cleanup
  deriving DecidableEq

/-- What the three operations return. -/
inductive Answer where
  | added (result : Except Failure ReassemblyResult)
  | completed (answer : Bool)
  | expired (count : Nat)
  deriving DecidableEq

/-- One operation, with the reading of the monotonic clock it makes. -/
def call
    (reassembler : Reassembler)
    (operation : Call)
    (now : Time) :
    Reassembler × Answer :=
  match operation with
  | .add frame =>
      let (after, result) := reassembler.add frame now
      (after, .added result)
  | .isCompleted sessionId messageId =>
      let (after, answer) :=
        reassembler.isCompleted sessionId messageId now
      (after, .completed answer)
  | .cleanup =>
      let (after, count) := reassembler.cleanup now
      (after, .expired count)

/-- The reassembler answering all its operations at given times. -/
def callMachine : Machine Reassembler (Call × Time) Answer where
  step reassembler input := reassembler.call input.1 input.2

/--
From a time on, purging keeps exactly those completed messages whose
completion is not older than the time to live.
-/
def ExpiresExactly (reassembler : Reassembler) (time : Time) : Prop :=
  ∀ now, time ≤ now →
    ∀ key completedAt,
      reassembler.completed.get? key = some completedAt →
      ((reassembler.purge now).completed.contains key = true ↔
        now - completedAt ≤ reassembler.completedTtlSeconds)

/--
A frame of a message that is still remembered arrives only while no message
completed later is remembered.
-/
def DuplicatesInOrder
    (reassembler : Reassembler)
    (input : Call × Time) : Prop :=
  match input.1 with
  | .add frame =>
      ∀ completedAt ∈ reassembler.completed.get? frame.key,
        input.2 - completedAt ≤ reassembler.completedTtlSeconds →
        ∀ entry ∈ reassembler.completed.entries, entry.2 ≤ completedAt
  | _ => True

instance (reassembler : Reassembler) (input : Call × Time) :
    Decidable (reassembler.DuplicatesInOrder input) := by
  unfold DuplicatesInOrder
  split <;> infer_instance

/-- The places of the completed messages follow their completion times. -/
structure InCompletionOrder
    (reassembler : Reassembler)
    (time : Time) : Prop where
  ordered :
    reassembler.completed.entries.Pairwise fun first second =>
      first.2 ≤ second.2
  past :
    ∀ entry ∈ reassembler.completed.entries, entry.2 ≤ time

variable {reassembler : Reassembler} {time now : Time}

/-- Purging changes neither the limits nor, in order, the entries. -/
theorem purge_completed_sublist
    (reassembler : Reassembler)
    (now : Time) :
    (reassembler.purge now).completed.entries.Sublist
      reassembler.completed.entries :=
  List.dropWhile_sublist _

/-- A table in order expires exactly. -/
theorem InCompletionOrder.expiresExactly
    (inOrder : reassembler.InCompletionOrder time) :
    reassembler.ExpiresExactly time := by
  intro now _ key completedAt found
  have dropsFirst :
      reassembler.completed.entries.Pairwise fun earlier later =>
        decide (¬ now - later.2 ≤ reassembler.completedTtlSeconds) =
            true →
          decide (¬ now - earlier.2 ≤ reassembler.completedTtlSeconds) =
            true := by
    refine inOrder.ordered.imp ?_
    intro earlier later before expired
    rw [decide_eq_true_eq] at expired ⊢
    linarith
  rw [OrderedDict.contains_iff, OrderedDict.mem_keys_iff]
  constructor
  · rintro ⟨kept, stillFound⟩
    have same : kept = completedAt :=
      Option.some.inj
        ((OrderedDict.get?_of_dropWhile stillFound).symm.trans found)
    rw [OrderedDict.get?_eq_some_iff, purge,
      OrderedDict.mem_entries_dropWhile dropsFirst, same] at stillFound
    simpa using stillFound.2
  · intro young
    refine ⟨completedAt, ?_⟩
    rw [OrderedDict.get?_eq_some_iff, purge,
      OrderedDict.mem_entries_dropWhile dropsFirst]
    exact ⟨OrderedDict.get?_eq_some_iff.mp found, by simpa using young⟩

/-- A table in order stays in order when entries are removed. -/
theorem InCompletionOrder.sublist
    {after : Reassembler}
    {later : Time}
    (inOrder : reassembler.InCompletionOrder time)
    (notEarlier : time ≤ later)
    (fewer :
      after.completed.entries.Sublist reassembler.completed.entries) :
    after.InCompletionOrder later where
  ordered := inOrder.ordered.sublist fewer
  past entry member :=
    (inOrder.past entry (fewer.subset member)).trans notEarlier

/-- A duplicate gives its message the last place. -/
theorem add_duplicate_moves
    {frame : Frame}
    {completedAt : Time}
    (found :
      (reassembler.purge now).completed.get? frame.key =
        some completedAt) :
    (reassembler.add frame now).1.completedTtlSeconds =
        reassembler.completedTtlSeconds ∧
      (reassembler.add frame now).1.completed.entries =
        ((reassembler.purge now).completed.erase frame.key).entries ++
          [(frame.key, completedAt)] := by
  have contained :
      (reassembler.purge now).completed.contains frame.key = true := by
    rw [OrderedDict.contains, found]
    rfl
  rcases add_cases reassembler frame now with
    ⟨_, shape⟩ | ⟨notContained, _⟩
  · rw [shape]
    exact ⟨rfl, OrderedDict.entries_moveToEnd found⟩
  · rw [contained] at notContained
    cases notContained

/-- What `add` makes of the completed messages. -/
theorem completed_add_cases
    (reassembler : Reassembler)
    (frame : Frame)
    (now : Time) :
    (∃ completedAt,
      (reassembler.purge now).completed.get? frame.key =
          some completedAt ∧
        (reassembler.add frame now).1.completed.entries =
          ((reassembler.purge now).completed.erase frame.key).entries ++
            [(frame.key, completedAt)]) ∨
      (reassembler.add frame now).1.completed =
        (reassembler.purge now).completed ∨
      (∃ payload recovered,
        (reassembler.add frame now).2 =
          .ok { payload := some payload, recoveredByFec := recovered }) ∧
        (reassembler.add frame now).1.completed.entries.Sublist
          ((reassembler.purge now).completed.entries ++
            [(frame.key, now)]) := by
  have sameCompleted :=
    ((reassembler.purge now).openAssembly_fst frame now).1
  rcases add_cases reassembler frame now with
    ⟨contained, _⟩ |
      ⟨notContained, _, rfl, ⟨_, _, shape⟩ | ⟨assembly, _, shape⟩⟩
  · obtain ⟨completedAt, found⟩ :=
      Option.isSome_iff_exists.mp contained
    exact .inl ⟨completedAt, found, (add_duplicate_moves found).2⟩
  · rw [shape]
    exact .inr (.inl sameCompleted)
  · refine .inr ?_
    rw [shape]
    simp only [addTo]
    split
    · exact .inl sameCompleted
    · exact .inl sameCompleted
    · refine .inr ⟨⟨_, _, rfl⟩, ?_⟩
      simp only [complete, sameCompleted, OrderedDict.keepLast]
      refine (List.drop_sublist _ _).trans ?_
      rw [OrderedDict.entries_moveToEnd
        (OrderedDict.get?_set_same _ _ _)]
      simp only [OrderedDict.erase, OrderedDict.filter, OrderedDict.set,
        notContained, Bool.false_eq_true, ↓reduceIte,
        List.filter_append]
      refine List.Sublist.append ?_ (List.Sublist.refl _)
      simp

/-- The last message stays while one in front of it has not expired. -/
theorem contains_purge_of_kept_before
    {front : List ((Nat × Nat) × Time)}
    {key : Nat × Nat}
    {completedAt : Time}
    {entry : (Nat × Nat) × Time}
    (shape :
      reassembler.completed.entries = front ++ [(key, completedAt)])
    (inFront : entry ∈ front) :
    (reassembler.purge
      (entry.2 + reassembler.completedTtlSeconds)).completed.contains
        key = true := by
  rw [OrderedDict.contains_iff]
  refine List.mem_map.mpr ⟨(key, completedAt), ?_, rfl⟩
  refine OrderedDict.mem_entries_dropWhile_of_kept shape inFront ?_
    (List.mem_singleton_self _)
  simp

/-- A message found in a table in order is still there after purging. -/
theorem InCompletionOrder.get?_purge_iff
    (inOrder : reassembler.InCompletionOrder time)
    (notEarlier : time ≤ now)
    {key : Nat × Nat}
    {completedAt : Time} :
    (reassembler.purge now).completed.get? key = some completedAt ↔
      reassembler.completed.get? key = some completedAt ∧
        now - completedAt ≤ reassembler.completedTtlSeconds := by
  constructor
  · intro found
    have before := OrderedDict.get?_of_dropWhile found
    refine ⟨before, (inOrder.expiresExactly now notEarlier key completedAt
      before).mp ?_⟩
    rw [OrderedDict.contains, found]
    rfl
  · rintro ⟨before, young⟩
    have contained :=
      (inOrder.expiresExactly now notEarlier key completedAt before).mpr
        young
    obtain ⟨kept, found⟩ := Option.isSome_iff_exists.mp contained
    rw [found, ← before]
    exact (OrderedDict.get?_of_dropWhile found).symm

/-- A step whose duplicate is in order keeps the completed ones in order. -/
theorem InCompletionOrder.step
    {input : Call × Time}
    (inOrder : reassembler.InCompletionOrder time)
    (notEarlier : time ≤ input.2)
    (duplicates : reassembler.DuplicatesInOrder input) :
    (callMachine.step reassembler input).1.InCompletionOrder input.2 := by
  have purged :
      (reassembler.purge input.2).InCompletionOrder input.2 :=
    inOrder.sublist notEarlier (purge_completed_sublist _ _)
  obtain ⟨operation, now⟩ := input
  cases operation with
  | isCompleted sessionId messageId =>
      exact purged
  | cleanup =>
      exact purged
  | add frame =>
      rcases completed_add_cases reassembler frame now with
        ⟨completedAt, found, shape⟩ | unchanged | ⟨_, fewer⟩
      · obtain ⟨before, young⟩ :=
          (inOrder.get?_purge_iff notEarlier).mp found
        have latest :=
          duplicates completedAt before young
        have fewer :
            ((reassembler.purge now).completed.erase
              frame.key).entries.Sublist
              (reassembler.purge now).completed.entries :=
          List.filter_sublist
        refine ⟨?_, ?_⟩
        · simp only [callMachine, call, shape]
          refine List.pairwise_append.mpr
            ⟨purged.ordered.sublist fewer, List.pairwise_singleton _ _,
              ?_⟩
          intro entry member last isLast
          rw [List.mem_singleton.mp isLast]
          exact latest entry
            ((purge_completed_sublist _ _).subset (fewer.subset member))
        · intro entry member
          simp only [callMachine, call, shape] at member
          rcases List.mem_append.mp member with earlier | isLast
          · exact purged.past entry (fewer.subset earlier)
          · rw [List.mem_singleton.mp isLast]
            exact (inOrder.past _
              (OrderedDict.get?_eq_some_iff.mp before)).trans notEarlier
      · exact purged.sublist le_rfl (by
          simp only [callMachine, call, unchanged]
          exact List.Sublist.refl _)
      · have extended :
            ((reassembler.purge now).completed.entries ++
              [(frame.key, now)]).Pairwise fun first second =>
                first.2 ≤ second.2 := by
          refine List.pairwise_append.mpr
            ⟨purged.ordered, List.pairwise_singleton _ _, ?_⟩
          intro entry member last isLast
          rw [List.mem_singleton.mp isLast]
          exact purged.past entry member
        refine ⟨extended.sublist fewer, ?_⟩
        intro entry member
        rcases List.mem_append.mp (fewer.subset member) with
          earlier | isLast
        · exact purged.past entry earlier
        · rw [List.mem_singleton.mp isLast]

/--
The duplicate of a message moves it behind one completed later, which hides
its expiry.
-/
theorem InCompletionOrder.duplicatesInOrder
    {input : Call × Time}
    (inOrder : reassembler.InCompletionOrder time)
    (notEarlier : time ≤ input.2)
    (exactly :
      (callMachine.step reassembler input).1.ExpiresExactly input.2) :
    reassembler.DuplicatesInOrder input := by
  obtain ⟨operation, now⟩ := input
  cases operation with
  | isCompleted sessionId messageId =>
      exact trivial
  | cleanup =>
      exact trivial
  | add frame =>
      intro completedAt found young entry member
      simp only at notEarlier young
      by_contra notLatest
      rw [not_le] at notLatest
      have foundPurged :=
        (inOrder.get?_purge_iff notEarlier).mpr ⟨found, young⟩
      -- The later completion is still remembered, in front of the duplicate.
      have entryPurged :
          (reassembler.purge now).completed.get? entry.1 = some entry.2 :=
        (inOrder.get?_purge_iff notEarlier).mpr
          ⟨OrderedDict.get?_eq_some_iff.mpr member, by linarith⟩
      have different : entry.1 ≠ frame.key := by
        intro same
        rw [same, foundPurged, Option.some.injEq] at entryPurged
        exact absurd entryPurged notLatest.ne
      have inFront :
          entry ∈
            ((reassembler.purge now).completed.erase frame.key).entries :=
        OrderedDict.mem_entries_erase.mpr
          ⟨OrderedDict.get?_eq_some_iff.mp entryPurged, different⟩
      have later :
          now ≤ entry.2 + reassembler.completedTtlSeconds := by
        linarith
      obtain ⟨sameTtl, moved⟩ := add_duplicate_moves foundPurged
      have hidden := contains_purge_of_kept_before moved inFront
      rw [sameTtl] at hidden
      have foundAfter :
          (reassembler.add frame now).1.completed.get? frame.key =
            some completedAt := by
        rw [OrderedDict.get?_eq_some_iff, moved]
        exact List.mem_append_right _ (List.mem_singleton_self _)
      have remembered :=
        (exactly _ later frame.key completedAt foundAfter).mp hidden
      have bound :
          entry.2 + reassembler.completedTtlSeconds - completedAt ≤
            reassembler.completedTtlSeconds :=
        remembered.trans (le_of_eq sameTtl)
      linarith

/-- Along a run in order, exactness and duplicates in order coincide. -/
theorem InCompletionOrder.everyStep_iff
    {calls : List (Call × Time)}
    (inOrder : reassembler.InCompletionOrder time)
    (nondecreasing : (time :: calls.map Prod.snd).Pairwise (· ≤ ·)) :
    callMachine.EveryStep
        (fun before input =>
          (callMachine.step before input).1.ExpiresExactly input.2)
        reassembler calls ↔
      callMachine.EveryStep DuplicatesInOrder reassembler calls := by
  induction calls generalizing reassembler time with
  | nil =>
      exact Iff.rfl
  | cons input rest inductionHypothesis =>
      obtain ⟨fromStart, restNondecreasing⟩ :=
        List.pairwise_cons.mp nondecreasing
      have notEarlier : time ≤ input.2 :=
        fromStart input.2 List.mem_cons_self
      constructor
      · rintro ⟨exactly, restExactly⟩
        have duplicates :=
          inOrder.duplicatesInOrder notEarlier exactly
        exact ⟨duplicates,
          (inductionHypothesis (inOrder.step notEarlier duplicates)
            restNondecreasing).mp restExactly⟩
      · rintro ⟨duplicates, restDuplicates⟩
        have after := inOrder.step notEarlier duplicates
        exact ⟨after.expiresExactly,
          (inductionHypothesis after restNondecreasing).mpr
            restDuplicates⟩

/-- A call stores a completion time only when it returns a payload. -/
theorem completed_of_call
    {operation : Call}
    {key : Nat × Nat}
    {completedAt : Time}
    (found :
      (reassembler.call operation now).1.completed.get? key =
        some completedAt) :
    reassembler.completed.get? key = some completedAt ∨
      completedAt = now ∧
        ∃ frame payload recovered,
          operation = .add frame ∧
            frame.key = key ∧
            (reassembler.call operation now).2 =
              .added (.ok {
                payload := some payload
                recoveredByFec := recovered }) := by
  cases operation with
  | isCompleted sessionId messageId =>
      exact .inl (OrderedDict.get?_of_dropWhile found)
  | cleanup =>
      exact .inl (OrderedDict.get?_of_dropWhile found)
  | add frame =>
      simp only [call] at found ⊢
      rw [OrderedDict.get?_eq_some_iff] at found
      rcases completed_add_cases reassembler frame now with
        ⟨movedAt, moved, shape⟩ | unchanged |
          ⟨⟨payload, recovered, answer⟩, fewer⟩
      · left
        rw [shape] at found
        apply OrderedDict.get?_of_dropWhile
        rcases List.mem_append.mp found with others | isMoved
        · exact OrderedDict.get?_eq_some_iff.mpr
            (OrderedDict.mem_entries_erase.mp others).1
        · obtain ⟨rfl, rfl⟩ :=
            Prod.mk.inj (List.mem_singleton.mp isMoved)
          exact moved
      · left
        rw [unchanged] at found
        exact OrderedDict.get?_of_dropWhile
          (OrderedDict.get?_eq_some_iff.mpr found)
      · rcases List.mem_append.mp (fewer.subset found) with
          others | isNew
        · exact .inl (OrderedDict.get?_of_dropWhile
            (OrderedDict.get?_eq_some_iff.mpr others))
        · obtain ⟨rfl, rfl⟩ :=
            Prod.mk.inj (List.mem_singleton.mp isNew)
          exact .inr ⟨rfl, frame, payload, recovered, rfl, rfl,
            congrArg Answer.added answer⟩

/--
The time stored for a completed message is the time of a call that returned
its payload.
-/
theorem completed_of_run
    {calls : List (Call × Time)}
    {key : Nat × Nat}
    {completedAt : Time}
    (fresh : reassembler.completed = .empty)
    (found :
      (callMachine.run reassembler calls).completed.get? key =
        some completedAt) :
    ∃ earlier frame later payload recovered,
      calls = earlier ++ (.add frame, completedAt) :: later ∧
        frame.key = key ∧
        ((callMachine.run reassembler earlier).call (.add frame)
          completedAt).2 =
            .added (.ok {
              payload := some payload, recoveredByFec := recovered }) := by
  induction calls using List.reverseRecOn with
  | nil =>
      rw [Machine.run, fresh] at found
      cases found
  | append_singleton earlier input inductionHypothesis =>
      rw [Machine.run_concat] at found
      obtain ⟨operation, now⟩ := input
      rcases completed_of_call found with
        stored | ⟨rfl, frame, payload, recovered, rfl, own, answer⟩
      · obtain ⟨earliest, frame, later, payload, recovered, shape, rest⟩ :=
          inductionHypothesis stored
        refine ⟨earliest, frame, later ++ [(operation, now)], payload,
          recovered, ?_, rest⟩
        rw [shape, List.append_assoc, List.cons_append]
      · exact ⟨earlier, frame, [], payload, recovered, rfl, own, answer⟩

/-- A reassembler just constructed has empty tables and the limit given. -/
theorem init_eq_ok
    {timeoutSeconds completedTtlSeconds : Rat}
    {maxMessages : Int}
    (created :
      init timeoutSeconds maxMessages completedTtlSeconds =
        .ok reassembler) :
    reassembler.assemblies = .empty ∧
      reassembler.completed = .empty ∧
      (reassembler.maxMessages : Int) = maxMessages := by
  unfold init at created
  split at created
  · cases created
  · rename_i valid
    rw [← Except.ok.inj created]
    simp only [not_or, not_lt] at valid
    exact ⟨rfl, rfl, Int.toNat_of_nonneg (by omega)⟩

/--
Completed messages expire exactly after every call of a run if and only if
every frame of a remembered message arrives while no message completed later
is remembered.
-/
theorem completed_expire_exactly_iff
    {timeoutSeconds completedTtlSeconds : Rat}
    {maxMessages : Int}
    (created :
      init timeoutSeconds maxMessages completedTtlSeconds =
        .ok reassembler)
    (calls : List (Call × Time))
    (nondecreasing : (calls.map Prod.snd).Pairwise (· ≤ ·)) :
    (∀ start, reassembler.ExpiresExactly start) ∧
      (callMachine.EveryStep
          (fun before input =>
            (callMachine.step before input).1.ExpiresExactly input.2)
          reassembler calls ↔
        callMachine.EveryStep DuplicatesInOrder reassembler calls) := by
  obtain ⟨_, empty, _⟩ := init_eq_ok created
  have inOrder :
      ∀ start, reassembler.InCompletionOrder start := by
    intro start
    refine ⟨?_, ?_⟩
    · rw [empty]
      exact List.Pairwise.nil
    · rw [empty]
      intro entry member
      cases member
  refine ⟨fun start => (inOrder start).expiresExactly, ?_⟩
  cases calls with
  | nil =>
      exact Iff.rfl
  | cons first rest =>
      refine (inOrder first.2).everyStep_iff
        (List.pairwise_cons.mpr ⟨?_, nondecreasing⟩)
      intro later member
      rcases List.mem_cons.mp member with rfl | inRest
      · exact le_rfl
      · exact (List.pairwise_cons.mp nondecreasing).1 later inRest

/-- A message of one fragment. -/
def singleMessage : Message :=
  { Message.short with fecEnabled := false }

/-- Two copies of a message, and a clean-up after its time to live. -/
def repeatedCalls : List (Call × Time) :=
  [(.add ((singleMessage.dataFragment 0).frame 3 1 1), 0),
    (.add ((singleMessage.dataFragment 0).frame 3 1 2), 60),
    (.cleanup, 121)]

/-- A message repeated with no other one completed expires exactly. -/
theorem completed_expire_exactly_iff_repeated :
    callMachine.EveryStep
      (fun before input =>
        (callMachine.step before input).1.ExpiresExactly input.2)
      fresh repeatedCalls :=
  (completed_expire_exactly_iff init_fresh repeatedCalls
    (by decide +kernel)).2.mpr (by decide +kernel)

/-- A message repeated after another one was completed. -/
def overtakenCalls : List (Call × Time) :=
  [(.add ((singleMessage.dataFragment 0).frame 3 1 1), 0),
    (.add ((singleMessage.dataFragment 0).frame 3 2 2), 50),
    (.add ((singleMessage.dataFragment 0).frame 3 1 3), 60)]

/-- The repeated message is kept one second beyond its time to live. -/
theorem repeated_message_outlives_ttl :
    (overtakenCalls.map Prod.snd).Pairwise (· ≤ ·) ∧
      (callMachine.run fresh overtakenCalls).completedTtlSeconds = 120 ∧
      (callMachine.run fresh overtakenCalls).completed.get? (3, 1) =
        some 0 ∧
      ((callMachine.run fresh overtakenCalls).purge
        121).completed.contains (3, 1) = true ∧
      ¬ (callMachine.run fresh overtakenCalls).ExpiresExactly 60 := by
  have found :
      (callMachine.run fresh overtakenCalls).completed.get? (3, 1) =
        some 0 := by
    decide +kernel
  have ttl :
      (callMachine.run fresh overtakenCalls).completedTtlSeconds =
        120 := by
    decide +kernel
  have kept :
      ((callMachine.run fresh overtakenCalls).purge
        121).completed.contains (3, 1) = true := by
    decide +kernel
  refine ⟨by decide +kernel, ttl, found, kept, ?_⟩
  intro exactly
  have young :=
    (exactly 121 (by decide +kernel) (3, 1) 0 found).mp kept
  rw [ttl] at young
  exact absurd young (by decide +kernel)

end Reassembler

end H3ntun

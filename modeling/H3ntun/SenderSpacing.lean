import H3ntun.SenderBounds

namespace H3ntun

/-!
# Times between the transmissions of a message

What a sender keeps of a message in flight is the number of its transmissions
and the time of the last one, so the delays between them are those of the
exponential backoff.
-/

open Lifecycle

namespace ReliableSender

/-- What happens in a call, in order. -/
def happenings
    (sender : ReliableSender)
    (operation : Call)
    (now : Time) : List Happening :=
  match operation with
  | .enqueue messageId packets =>
      if (sender.enqueue messageId packets now).2 = .ok true then
        [.accepted messageId packets]
      else
        []
  | .acknowledge messageId =>
      if (sender.acknowledge messageId now).2.1 then
        [.acknowledged messageId]
      else
        []
  | .pump => sender.pumpHappenings now

/-- What happens in a run, and when. -/
def timeline :
    ReliableSender → List (Call × Time) → List (Time × Happening)
  | _, [] => []
  | sender, (operation, now) :: rest =>
      (sender.happenings operation now).map (Prod.mk now) ++
        timeline (sender.call operation now).1 rest

/-- Time a message waits for its ACK after some transmissions. -/
def backoff (timeoutSeconds : Rat) (transmissions : Nat) : Rat :=
  timeoutSeconds * (min (2 ^ (transmissions - 1)) 16 : Nat)

/-- What the backoff allows to happen next, at this time. -/
def InTurn
    (timeoutSeconds : Rat)
    (limit : Nat)
    (before : List (Time × Happening))
    (event : Time × Happening) : Prop :=
  match event.2 with
  | .attempted messageId _ _ =>
      ∀ last ∈ (attemptTimes messageId before).getLast?,
        last + backoff timeoutSeconds
          (attemptTimes messageId before).length ≤ event.1
  | .exhausted messageId =>
      (attemptTimes messageId before).length = limit ∧
        ∀ last ∈ (attemptTimes messageId before).getLast?,
          last + backoff timeoutSeconds limit ≤ event.1
  | _ => True

/-- The first loop makes at most one thing happen to a message. -/
theorem subject_timeoutHappening
    {sender : ReliableSender}
    {now : Time}
    {entry : Nat × Transmission}
    {event : Happening}
    (happens : sender.timeoutHappening now entry = some event) :
    event.subject = entry.1 := by
  unfold timeoutHappening at happens
  split at happens
  · split at happens <;> cases happens <;> rfl
  · cases happens

/-- What happens in a call of `pump` happens to different messages. -/
theorem nodup_pumpHappenings
    {sender : ReliableSender}
    (distinct : sender.Distinct)
    (now : Time) :
    ((sender.pumpHappenings now).map Event.subject).Nodup := by
  have resent :
      ∀ entries : List (Nat × Transmission),
        ((entries.filterMap (sender.timeoutHappening now)).map
          Event.subject).Sublist (entries.map Prod.fst) := by
    intro entries
    induction entries with
    | nil =>
        exact .slnil
    | cons entry rest inductionHypothesis =>
        cases happens : sender.timeoutHappening now entry with
        | none =>
            rw [List.filterMap_cons_none happens]
            exact inductionHypothesis.cons _
        | some event =>
            rw [List.filterMap_cons_some happens, List.map_cons,
              List.map_cons, subject_timeoutHappening happens]
            exact inductionHypothesis.cons_cons _
  have begun :
      ((sender.started now).map Transmission.messageId).Sublist
        sender.queuedIds :=
    (List.take_sublist _ _).map _
  rw [pumpHappenings, List.map_append, List.map_map]
  exact List.perm_append_comm.nodup_iff.mp
    ((begun.append (resent _)).nodup distinct.nodup)

/-- In a call of `pump` nothing is accepted or acknowledged. -/
theorem pumpHappenings_cases
    {sender : ReliableSender}
    {now : Time}
    {event : Happening}
    (member : event ∈ sender.pumpHappenings now) :
    (∃ entry ∈ sender.pending.entries,
      sender.timeoutHappening now entry = some event) ∨
      ∃ transmission ∈ sender.started now,
        event =
          .attempted transmission.messageId transmission.packets false := by
  rcases List.mem_append.mp member with resent | begun
  · exact .inl (List.mem_filterMap.mp resent)
  · obtain ⟨transmission, isStarted, rfl⟩ := List.mem_map.mp begun
    exact .inr ⟨transmission, isStarted, rfl⟩

/-- A happening of `pump` is a transmission or an exhaustion. -/
theorem attempted_or_exhausted
    {sender : ReliableSender}
    {now : Time}
    {event : Happening}
    (member : event ∈ sender.pumpHappenings now) :
    (∃ packets again, event = .attempted event.subject packets again) ∨
      event = .exhausted event.subject := by
  rcases pumpHappenings_cases member with
    ⟨entry, _, happens⟩ | ⟨transmission, _, rfl⟩
  · unfold timeoutHappening at happens
    split at happens
    · split at happens
      · cases happens
        exact .inr rfl
      · cases happens
        exact .inl ⟨_, _, rfl⟩
    · cases happens
  · exact .inl ⟨_, _, rfl⟩

/-- The happenings of a call are what its answer tells. -/
theorem explains_happenings
    {sender : ReliableSender}
    (distinct : sender.Distinct)
    (operation : Call)
    (now : Time) :
    Explains (operation, (sender.call operation now).2)
      (sender.happenings operation now) := by
  cases operation with
  | enqueue messageId packets =>
      simp only [happenings, call]
      split
      · rename_i isAccepted
        rw [isAccepted]
        exact .accepted messageId packets
      · rename_i notAccepted
        exact .refused messageId packets _ notAccepted
  | acknowledge messageId =>
      simp only [happenings, call]
      cases known : (sender.acknowledge messageId now).2.1 with
      | true =>
          exact .known messageId _
      | false =>
          exact .unknown messageId _
  | pump =>
      have pumps := sender.pumps distinct now
      refine .pumped _ _ ?_ ?_ pumps.packets pumps.exhaustions
      all_goals
        refine List.filterMap_eq_nil_iff.mpr ?_
        intro event member
        rcases attempted_or_exhausted member with
          ⟨packets, again, shape⟩ | shape <;> rw [shape]

/-- One more call adds its happenings. -/
theorem timeline_concat
    (sender : ReliableSender)
    (calls : List (Call × Time))
    (operation : Call)
    (now : Time) :
    sender.timeline (calls ++ [(operation, now)]) =
      sender.timeline calls ++
        ((callMachine.run sender calls).happenings operation now).map
          (Prod.mk now) := by
  induction calls generalizing sender with
  | nil =>
      simp [timeline, Machine.run]
  | cons first rest inductionHypothesis =>
      simp only [List.cons_append, timeline, Machine.run,
        inductionHypothesis, List.append_assoc]
      rfl

/-- What a sender remembers of the transmissions of its messages. -/
structure Remembers
    (sender : ReliableSender)
    (trace : List (Time × Happening)) : Prop where
  distinct :
    sender.Distinct
  inFlight :
    ∀ entry ∈ sender.pending.entries,
      ∃ last,
        entry.2.lastSentAt = some last ∧
          (attemptTimes entry.1 trace).getLast? = some last ∧
          entry.2.attempts = (attemptTimes entry.1 trace).length ∧
          entry.2.attempts ≤ sender.maxAttempts
  queued :
    ∀ messageId ∈ sender.queuedIds, attemptTimes messageId trace = []

namespace Remembers

variable
  {sender : ReliableSender}
  {trace : List (Time × Happening)}

theorem of_empty
    (queue : sender.queue = [])
    (pending : sender.pending = .empty) :
    sender.Remembers [] where
  distinct := .of_empty queue pending
  inFlight entry member := by
    rw [pending] at member
    cases member
  queued messageId member := by
    rw [queuedIds, queue] at member
    cases member

theorem enqueue
    (remembers : sender.Remembers trace)
    (messageId : Nat)
    (packets : List Bytes)
    (now : Time) :
    (sender.enqueue messageId packets now).1.Remembers
      (trace ++
        (sender.happenings (.enqueue messageId packets) now).map
          (Prod.mk now)) := by
  have distinct := remembers.distinct.enqueue messageId packets now
  rcases sender.enqueue_cases messageId packets now with
    ⟨same, notAccepted⟩ | ⟨_, isNew, shape⟩
  · simp only [happenings, notAccepted, ↓reduceIte, List.map_nil,
      List.append_nil, same]
    exact remembers
  · have happens :
        (sender.happenings (.enqueue messageId packets) now).map
            (Prod.mk now) =
          [(now, .accepted messageId packets)] := by
      simp [happenings, shape]
    rw [happens]
    have others :
        ∀ other, other ≠ messageId →
          attemptTimes other
              (trace ++ [(now, .accepted messageId packets)]) =
            attemptTimes other trace := by
      intro other different
      refine attemptTimes_append_other trace ?_
      intro event member same
      rw [List.mem_singleton.mp member] at same
      exact different same.symm
    have own :
        attemptTimes messageId
            (trace ++ [(now, .accepted messageId packets)]) = [] := by
      simp [attemptTimes, noteAttempt]
    rw [shape] at distinct ⊢
    rw [List.mem_append, not_or] at isNew
    refine ⟨distinct, ?_, ?_⟩
    · intro entry member
      rw [others entry.1 fun same => isNew.2
        (same ▸ List.mem_map_of_mem member)]
      exact remembers.inFlight entry member
    · intro other member
      by_cases same : other = messageId
      · rw [same]
        exact own
      · rw [others other same]
        simp only [queuedIds, List.map_append, List.mem_append] at member
        rcases member with queued | isOwn
        · exact remembers.queued other queued
        · exact absurd (List.mem_singleton.mp isOwn) same

theorem acknowledge
    (remembers : sender.Remembers trace)
    (messageId : Nat)
    (now : Time) :
    (sender.acknowledge messageId now).1.Remembers
      (trace ++
        (sender.happenings (.acknowledge messageId) now).map
          (Prod.mk now)) := by
  have distinct := remembers.distinct.acknowledge messageId now
  have unchanged :
      ∀ other,
        attemptTimes other
            (trace ++
              (sender.happenings (.acknowledge messageId) now).map
                (Prod.mk now)) =
          attemptTimes other trace := by
    intro other
    simp only [happenings]
    split
    · simp [attemptTimes, noteAttempt]
    · simp
  rcases sender.acknowledge_cases messageId now with
    ⟨_, shape⟩ | ⟨_, _, shape⟩
  · rw [shape] at distinct ⊢
    refine ⟨distinct, ?_, ?_⟩
    · intro entry member
      rw [unchanged]
      exact remembers.inFlight entry member
    · intro other member
      rw [unchanged]
      exact remembers.queued other member
  · rw [shape] at distinct ⊢
    refine ⟨distinct, ?_, ?_⟩
    · intro entry member
      rw [unchanged]
      exact remembers.inFlight entry
        (OrderedDict.mem_entries_erase.mp member).1
    · intro other member
      rw [unchanged]
      exact remembers.queued other member

/-- The stamped happenings of `pump` are about different messages. -/
theorem nodup_stamped
    (remembers : sender.Remembers trace)
    (now : Time) :
    (((sender.pumpHappenings now).map (Prod.mk now)).map
      fun event => event.2.subject).Nodup := by
  rw [List.map_map]
  exact nodup_pumpHappenings remembers.distinct now

/-- What `pump` makes happen to a message counts for it. -/
theorem attemptTimes_of_mem
    (remembers : sender.Remembers trace)
    {now : Time}
    {event : Happening}
    (member : event ∈ sender.pumpHappenings now) :
    attemptTimes event.subject
        (trace ++ (sender.pumpHappenings now).map (Prod.mk now)) =
      noteAttempt event.subject (attemptTimes event.subject trace)
        (now, event) :=
  attemptTimes_append_once trace (remembers.nodup_stamped now)
    (List.mem_map_of_mem member)

/-- A message that nothing happens to is transmitted no more. -/
theorem attemptTimes_of_not_mem
    (trace : List (Time × Happening))
    {now : Time}
    {messageId : Nat}
    (absent :
      ∀ event ∈ sender.pumpHappenings now, event.subject ≠ messageId) :
    attemptTimes messageId
        (trace ++ (sender.pumpHappenings now).map (Prod.mk now)) =
      attemptTimes messageId trace := by
  refine attemptTimes_append_other trace ?_
  intro event member
  obtain ⟨happening, isHappening, rfl⟩ := List.mem_map.mp member
  exact absent happening isHappening

/-- Queued messages are not in flight. -/
theorem not_inFlight
    (remembers : sender.Remembers trace)
    {messageId : Nat}
    (queued : messageId ∈ sender.queuedIds) :
    messageId ∉ sender.inFlightIds :=
  fun inFlight =>
    (List.nodup_append.mp remembers.distinct.nodup).2.2 _ queued _ inFlight
      rfl

theorem mem_queuedIds_of_started
    {now : Time}
    {transmission : Transmission}
    (isStarted : transmission ∈ sender.started now) :
    transmission.messageId ∈ sender.queuedIds :=
  List.mem_map_of_mem (List.mem_of_mem_take isStarted)

theorem pump
    (remembers : sender.Remembers trace)
    (now : Time) :
    (sender.pump now).1.Remembers
      (trace ++ (sender.pumpHappenings now).map (Prod.mk now)) := by
  have pumps := sender.pumps remembers.distinct now
  refine ⟨remembers.distinct.pump now, ?_, ?_⟩
  · rw [pumps.pending]
    intro entry member
    rcases List.mem_append.mp member with left | begun
    · obtain ⟨before, inPending, kept⟩ := List.mem_filterMap.mp left
      obtain ⟨last, sentAt, isLast, count, withinLimit⟩ :=
        remembers.inFlight before inPending
      by_cases isDue : sender.isDue now before.2 = true
      · by_cases isSpent : sender.isSpent before.2 = true
        · simp [afterTimeout, isDue, isSpent] at kept
        · have happens :
              .attempted before.1 before.2.packets true ∈
                sender.pumpHappenings now := by
            refine List.mem_append_left _ (List.mem_filterMap.mpr
              ⟨before, inPending, ?_⟩)
            simp [timeoutHappening, isDue, isSpent]
          have times := remembers.attemptTimes_of_mem happens
          simp only [Event.subject, noteAttempt, ↓reduceIte] at times
          simp only [afterTimeout, isDue, isSpent, ↓reduceIte,
            Bool.false_eq_true, Option.some.injEq] at kept
          subst kept
          rw [times, pumps.limits.maxAttempts]
          refine ⟨now, rfl, List.getLast?_concat, ?_, ?_⟩
          · rw [List.length_append, ← count]
            rfl
          · have notSpent : ¬ sender.maxAttempts ≤ before.2.attempts := by
              simpa [ReliableSender.isSpent] using isSpent
            dsimp only
            omega
      · have absent :
            ∀ event ∈ sender.pumpHappenings now,
              event.subject ≠ before.1 := by
          intro event happens same
          rcases pumpHappenings_cases happens with
            ⟨other, inOther, made⟩ | ⟨transmission, isStarted, rfl⟩
          · rw [subject_timeoutHappening made] at same
            obtain ⟨key, value⟩ := other
            cases same
            have sameValue :=
              sender.pending.eq_of_key_eq inOther inPending
            simp [timeoutHappening, sameValue, isDue] at made
          · have sameId : transmission.messageId = before.1 := same
            have queued := mem_queuedIds_of_started isStarted
            rw [sameId] at queued
            exact remembers.not_inFlight queued
              (List.mem_map_of_mem inPending)
        simp only [afterTimeout, isDue, Bool.false_eq_true, ↓reduceIte,
          Option.some.injEq] at kept
        subst kept
        rw [attemptTimes_of_not_mem trace absent, pumps.limits.maxAttempts]
        exact ⟨last, sentAt, isLast, count, withinLimit⟩
    · obtain ⟨transmission, isStarted, rfl⟩ := List.mem_map.mp begun
      have happens :
          .attempted transmission.messageId transmission.packets false ∈
            sender.pumpHappenings now :=
        List.mem_append_right _ (List.mem_map_of_mem isStarted)
      have times := remembers.attemptTimes_of_mem happens
      simp only [Event.subject, noteAttempt, ↓reduceIte,
        remembers.queued _ (mem_queuedIds_of_started isStarted)] at times
      simp only [firstAttempt, times]
      refine ⟨now, rfl, rfl, rfl, ?_⟩
      rw [pumps.limits.maxAttempts]
      exact sender.maxAttemptsPositive
  · intro messageId waiting
    have ids :
        sender.queuedIds =
          (sender.started now).map Transmission.messageId ++
            (sender.pump now).1.queuedIds := by
      rw [queuedIds, pumps.queue]
      exact List.map_append
    have queued : messageId ∈ sender.queuedIds := by
      rw [ids]
      exact List.mem_append_right _ waiting
    have absent :
        ∀ event ∈ sender.pumpHappenings now,
          event.subject ≠ messageId := by
      intro event happens same
      rcases pumpHappenings_cases happens with
        ⟨entry, inPending, made⟩ | ⟨transmission, isStarted, rfl⟩
      · rw [subject_timeoutHappening made] at same
        exact remembers.not_inFlight queued
          (same ▸ List.mem_map_of_mem inPending)
      · have nodup := (List.nodup_append.mp remembers.distinct.nodup).1
        rw [ids] at nodup
        exact (List.nodup_append.mp nodup).2.2 _
          (List.mem_map_of_mem isStarted) _ waiting same
    rw [attemptTimes_of_not_mem trace absent]
    exact remembers.queued messageId queued

/-- Every call leaves the sender remembering what happened. -/
theorem call
    (remembers : sender.Remembers trace)
    (operation : Call)
    (now : Time) :
    (sender.call operation now).1.Remembers
      (trace ++ (sender.happenings operation now).map (Prod.mk now)) := by
  cases operation with
  | enqueue messageId packets =>
      exact remembers.enqueue messageId packets now
  | acknowledge messageId =>
      exact remembers.acknowledge messageId now
  | pump =>
      exact remembers.pump now

/-- The timeout that is tested is the backoff. -/
theorem isDue_iff
    (remembers : sender.Remembers trace)
    {now : Time}
    {entry : Nat × Transmission}
    (inPending : entry ∈ sender.pending.entries)
    {last : Time}
    (isLast : (attemptTimes entry.1 trace).getLast? = some last) :
    sender.isDue now entry.2 = true ↔
      last + backoff sender.retransmitTimeoutSeconds
        (attemptTimes entry.1 trace).length ≤ now := by
  obtain ⟨stored, sentAt, isStored, count, _⟩ :=
    remembers.inFlight entry inPending
  rw [isLast, Option.some.injEq] at isStored
  subst isStored
  simp only [isDue, sentAt, timeout, count, decide_eq_true_eq]
  rw [← backoff, le_sub_iff_add_le']

/-- What happens to a message in a call of `pump` is its turn. -/
theorem inTurn_of_mem
    (remembers : sender.Remembers trace)
    {now : Time}
    {event : Happening}
    (member : event ∈ sender.pumpHappenings now) :
    InTurn sender.retransmitTimeoutSeconds sender.maxAttempts trace
      (now, event) := by
  rcases pumpHappenings_cases member with
    ⟨entry, inPending, made⟩ | ⟨transmission, isStarted, rfl⟩
  · obtain ⟨last, _, isLast, count, withinLimit⟩ :=
      remembers.inFlight entry inPending
    unfold timeoutHappening at made
    split at made
    · rename_i isDue
      have inTime := (remembers.isDue_iff inPending isLast).mp isDue
      split at made
      · rename_i isSpent
        cases made
        have spent : sender.maxAttempts ≤ entry.2.attempts :=
          of_decide_eq_true isSpent
        have allMade :
            (attemptTimes entry.1 trace).length = sender.maxAttempts := by
          omega
        refine ⟨allMade, ?_⟩
        intro other isOther
        rw [isLast] at isOther
        cases isOther
        rw [← allMade]
        exact inTime
      · cases made
        intro other isOther
        rw [isLast] at isOther
        cases isOther
        exact inTime
    · cases made
  · intro last isLast
    rw [remembers.queued _ (mem_queuedIds_of_started isStarted)] at isLast
    cases isLast

end Remembers

/-- Only the transmissions of its own message count for an event. -/
theorem inTurn_congr
    {timeoutSeconds : Rat}
    {limit : Nat}
    {trace other : List (Time × Happening)}
    {event : Time × Happening}
    (same :
      attemptTimes event.2.subject other =
        attemptTimes event.2.subject trace)
    (inTurn : InTurn timeoutSeconds limit trace event) :
    InTurn timeoutSeconds limit other event := by
  obtain ⟨time, event⟩ := event
  cases event with
  | attempted messageId packets again =>
      simp only [InTurn, Event.subject] at same inTurn ⊢
      rw [same]
      exact inTurn
  | exhausted messageId =>
      simp only [InTurn, Event.subject] at same inTurn ⊢
      rw [same]
      exact inTurn
  | accepted messageId packets =>
      exact trivial
  | acknowledged messageId =>
      exact trivial

/-- All that happens in a call is its turn. -/
theorem everyEvent_call
    {sender : ReliableSender}
    {trace : List (Time × Happening)}
    (remembers : sender.Remembers trace)
    (every :
      EveryEvent
        (InTurn sender.retransmitTimeoutSeconds sender.maxAttempts) trace)
    (operation : Call)
    (now : Time) :
    EveryEvent
      (InTurn sender.retransmitTimeoutSeconds sender.maxAttempts)
      (trace ++ (sender.happenings operation now).map (Prod.mk now)) := by
  refine every.append ?_
  intro before event rest shape
  have member :
      event ∈ (sender.happenings operation now).map (Prod.mk now) := by
    rw [shape]
    exact List.mem_append_right _ List.mem_cons_self
  obtain ⟨happening, isHappening, rfl⟩ := List.mem_map.mp member
  cases operation with
  | enqueue messageId packets =>
      simp only [happenings] at isHappening
      split at isHappening
      · rw [List.mem_singleton.mp isHappening]
        exact trivial
      · cases isHappening
  | acknowledge messageId =>
      simp only [happenings] at isHappening
      split at isHappening
      · rw [List.mem_singleton.mp isHappening]
        exact trivial
      · cases isHappening
  | pump =>
      refine inTurn_congr ?_ (remembers.inTurn_of_mem isHappening)
      refine attemptTimes_append_other trace ?_
      have distinct := remembers.nodup_stamped now
      simp only [happenings] at shape
      rw [shape, List.map_append, List.map_cons] at distinct
      intro other inBefore same
      exact (List.nodup_append.mp distinct).2.2 _
        (List.mem_map_of_mem inBefore) _ List.mem_cons_self same

/-- A sender remembers what happened in its run, all in turn. -/
theorem run_remembers
    {sender : ReliableSender}
    (queue : sender.queue = [])
    (pending : sender.pending = .empty)
    (calls : List (Call × Time)) :
    (callMachine.run sender calls).Remembers (sender.timeline calls) ∧
      (callMachine.run sender calls).SameLimits sender ∧
      EveryEvent
        (InTurn sender.retransmitTimeoutSeconds sender.maxAttempts)
        (sender.timeline calls) := by
  induction calls using List.reverseRecOn with
  | nil =>
      refine ⟨.of_empty queue pending, .refl sender, ?_⟩
      intro before event later shape
      exact absurd shape.symm (by simp [timeline])
  | append_singleton earlier last inductionHypothesis =>
      obtain ⟨operation, now⟩ := last
      obtain ⟨remembers, limits, every⟩ := inductionHypothesis
      rw [timeline_concat, Machine.run_concat]
      refine ⟨remembers.call operation now,
        (sameLimits_call remembers.distinct operation now).trans limits,
        ?_⟩
      rw [← limits.timeoutSeconds, ← limits.maxAttempts] at every ⊢
      exact everyEvent_call remembers every operation now

/--
For every run: what happens is what the answers of the calls tell.  The next
transmission of a message comes after the backoff from the last one, a message
is exhausted after the last backoff from the last of all its transmissions,
and once a backoff is over the next call of `pump` transmits the message again
or exhausts it.
-/
theorem transmissions_back_off
    {timeoutSeconds : Rat}
    {maxRetries maxPendingMessages initialWindow maxWindow : Int}
    {sender : ReliableSender}
    (created :
      init timeoutSeconds maxRetries maxPendingMessages initialWindow
        maxWindow = .ok sender)
    (calls : List (Call × Time)) :
    callMachine.EveryStep
        (fun sender input =>
          Explains (input.1, (sender.call input.1 input.2).2)
            (sender.happenings input.1 input.2))
        sender calls ∧
      EveryEvent (InTurn timeoutSeconds (maxRetries + 1).toNat)
        (sender.timeline calls) ∧
      ∀ messageId ∈ (callMachine.run sender calls).inFlightIds,
        ∃ last,
          (attemptTimes messageId (sender.timeline calls)).getLast? =
              some last ∧
            ∀ now,
              last + backoff timeoutSeconds
                  (attemptTimes messageId (sender.timeline calls)).length ≤
                now →
              ((attemptTimes messageId (sender.timeline calls)).length <
                  maxRetries + 1 →
                ∃ packets,
                  .attempted messageId packets true ∈
                    (callMachine.run sender calls).happenings .pump now) ∧
              (¬ (attemptTimes messageId
                    (sender.timeline calls)).length < maxRetries + 1 →
                .exhausted messageId ∈
                  (callMachine.run sender calls).happenings .pump now) := by
  obtain ⟨⟨_, limits, _⟩, timeout, attempts, _, _, _, queue, pending⟩ :=
    init_eq_ok_iff.mp created
  obtain ⟨remembers, sameLimits, every⟩ :=
    run_remembers queue pending calls
  have sameTimeout := sameLimits.timeoutSeconds.trans timeout
  have sameAttempts := sameLimits.maxAttempts.trans attempts
  rw [timeout, attempts] at every
  refine ⟨?_, every, ?_⟩
  · refine Machine.EveryStep.of_invariant Distinct
      (fun sender input distinct => distinct.call input.1 input.2) ?_
      (.of_empty queue pending) calls
    exact fun sender input distinct =>
      explains_happenings distinct input.1 input.2
  · intro messageId isInFlight
    obtain ⟨entry, inPending, rfl⟩ := List.mem_map.mp isInFlight
    obtain ⟨last, _, isLast, count, withinLimit⟩ :=
      remembers.inFlight entry inPending
    refine ⟨last, isLast, ?_⟩
    intro now inTime
    rw [← sameTimeout] at inTime
    have isDue := (remembers.isDue_iff inPending isLast).mpr inTime
    constructor
    · intro notSpent
      have isSpent :
          ¬ (callMachine.run sender calls).isSpent entry.2 = true := by
        rw [isSpent, decide_eq_true_eq]
        omega
      refine ⟨entry.2.packets, List.mem_append_left _
        (List.mem_filterMap.mpr ⟨entry, inPending, ?_⟩)⟩
      simp [timeoutHappening, isDue, isSpent]
    · intro spent
      have isSpent :
          (callMachine.run sender calls).isSpent entry.2 = true := by
        rw [isSpent, decide_eq_true_eq]
        omega
      refine List.mem_append_left _
        (List.mem_filterMap.mpr ⟨entry, inPending, ?_⟩)
      simp [timeoutHappening, isDue, isSpent]

/-- The message still in flight is transmitted again after its timeout. -/
theorem transmissions_back_off_of_two :
    EveryEvent (InTurn (1 / 2) 9) (fresh.timeline lifecycleCalls) ∧
      ∃ packets,
        .attempted 2 packets true ∈
          (callMachine.run fresh lifecycleCalls).happenings .pump 4 := by
  obtain ⟨_, every, next⟩ :=
    transmissions_back_off init_fresh lifecycleCalls
  obtain ⟨last, isLast, transmits⟩ := next 2 (by decide +kernel)
  have times :
      attemptTimes 2 (fresh.timeline lifecycleCalls) = [1, 3] := by
    decide +kernel
  rw [times] at isLast transmits
  cases isLast
  exact ⟨every, (transmits 4 (by decide +kernel)).1 (by decide)⟩

end ReliableSender

end H3ntun

import H3ntun.SenderSteps

namespace H3ntun

/-!
# Bounds of the sender

The queue, the messages in flight and the congestion window stay inside the
limits of the constructor, whatever is called and when.
-/

namespace ReliableSender

namespace Distinct

variable {sender : ReliableSender}

theorem of_empty
    (queue : sender.queue = [])
    (pending : sender.pending = .empty) :
    sender.Distinct where
  keyed entry member := by
    rw [pending] at member
    cases member
  nodup := by
    rw [queuedIds, inFlightIds, queue, pending]
    exact .nil

theorem enqueue
    (distinct : sender.Distinct)
    (messageId : Nat)
    (packets : List Bytes)
    (now : Time) :
    (sender.enqueue messageId packets now).1.Distinct := by
  rcases sender.enqueue_cases messageId packets now with
    ⟨same, _⟩ | ⟨_, isNew, shape⟩
  · rw [same]
    exact distinct
  · rw [shape]
    refine ⟨distinct.keyed, ?_⟩
    have ids :
        (sender.queuedIds ++ [messageId] ++ sender.inFlightIds).Perm
          (messageId :: (sender.queuedIds ++ sender.inFlightIds)) := by
      rw [List.append_assoc]
      exact List.perm_middle
    simp only [queuedIds, List.map_append]
    exact ids.nodup_iff.mpr (List.nodup_cons.mpr ⟨isNew, distinct.nodup⟩)

theorem acknowledge
    (distinct : sender.Distinct)
    (messageId : Nat)
    (now : Time) :
    (sender.acknowledge messageId now).1.Distinct := by
  rcases sender.acknowledge_cases messageId now with
    ⟨_, shape⟩ | ⟨present, _, shape⟩
  · rw [shape]
    exact distinct
  · rw [shape]
    refine ⟨?_, ?_⟩
    · intro entry member
      exact distinct.keyed entry (OrderedDict.mem_entries_erase.mp member).1
    · have fewer :
          (sender.pending.erase messageId).keys.Sublist
            sender.inFlightIds :=
        List.filter_sublist.map Prod.fst
      exact ((List.Sublist.refl _).append fewer).nodup distinct.nodup

/-- Keys of the messages left in flight are message ids. -/
theorem keyed_leftInFlight
    (distinct : sender.Distinct)
    (now : Time) :
    ∀ entry ∈ sender.leftInFlight now, entry.2.messageId = entry.1 := by
  intro entry member
  obtain ⟨before, inPending, left⟩ := List.mem_filterMap.mp member
  have keyed := distinct.keyed before inPending
  unfold afterTimeout at left
  split at left
  · split at left
    · cases left
    · cases left
      exact keyed
  · cases left
    exact keyed

end Distinct

/-- Message ids in flight after `pump`. -/
theorem Pumps.inFlightIds
    {sender after : ReliableSender}
    {now : Time}
    {result : PumpResult}
    (pumps : sender.Pumps now after result) :
    after.inFlightIds =
      (sender.leftInFlight now).map Prod.fst ++
        (sender.started now).map Transmission.messageId := by
  rw [ReliableSender.inFlightIds, OrderedDict.keys, pumps.pending,
    List.map_append, List.map_map]
  rfl

theorem Distinct.pump
    {sender : ReliableSender}
    (distinct : sender.Distinct)
    (now : Time) :
    (sender.pump now).1.Distinct := by
  have pumps := sender.pumps distinct now
  refine ⟨?_, ?_⟩
  · rw [pumps.pending]
    intro entry member
    rcases List.mem_append.mp member with left | isStarted
    · exact distinct.keyed_leftInFlight now entry left
    · obtain ⟨transmission, _, rfl⟩ := List.mem_map.mp isStarted
      rfl
  · have nodup := distinct.nodup
    have ids :
        sender.queuedIds =
          (sender.started now).map Transmission.messageId ++
            (sender.pump now).1.queuedIds := by
      rw [queuedIds, pumps.queue]
      exact List.map_append
    rw [ids] at nodup
    have fewer :=
      ((List.Sublist.refl _).append
        (keys_leftInFlight sender now)).nodup nodup
    rw [pumps.inFlightIds]
    refine (List.Perm.nodup_iff ?_).mp fewer
    rw [List.append_assoc]
    exact List.perm_append_comm.trans
      (List.append_assoc _ _ _ ▸ .refl _)

theorem Distinct.call
    {sender : ReliableSender}
    (distinct : sender.Distinct)
    (operation : Call)
    (now : Time) :
    (sender.call operation now).1.Distinct := by
  cases operation with
  | enqueue messageId packets =>
      exact distinct.enqueue messageId packets now
  | acknowledge messageId =>
      exact distinct.acknowledge messageId now
  | pump =>
      exact distinct.pump now

/-- What no sequence of calls exceeds. -/
structure Bounded (sender : ReliableSender) : Prop where
  room :
    sender.queue.length + sender.pending.length ≤
      sender.maxPendingMessages
  cwnd :
    1 ≤ sender.cwnd ∧ sender.cwnd ≤ sender.maxWindow
  inFlight :
    (sender.pending.length : Rat) ≤ sender.maxWindow
  distinct :
    sender.Distinct

/-- The window as `pump` computes it. -/
theorem cast_window
    (sender : ReliableSender) :
    (sender.window : Int) = max 1 sender.cwnd.floor := by
  rw [window, Nat.cast_max, Nat.cast_one]
  omega

/-- The window is inside the limit of the constructor. -/
theorem window_le
    {sender : ReliableSender}
    (cwnd : 1 ≤ sender.cwnd ∧ sender.cwnd ≤ sender.maxWindow) :
    (sender.window : Rat) ≤ sender.maxWindow := by
  have sameWindow : (sender.window : Rat) = max 1 (sender.cwnd.floor : Rat) := by
    exact_mod_cast sender.cast_window
  have floor : (sender.cwnd.floor : Rat) ≤ sender.cwnd :=
    Int.floor_le sender.cwnd
  rw [sameWindow]
  exact max_le sender.maxWindowAtLeastOne (floor.trans cwnd.2)

/--
What a call of `pump` starts: the front of the queue, one message after the
other while there is room in the window the call itself leaves, and never too
few.
-/
structure StartsInWindow (sender after : ReliableSender) : Prop where
  starts :
    ∃ left started,
      left.Sublist sender.inFlightIds ∧
        after.inFlightIds = left ++ started.map Transmission.messageId ∧
        sender.queue = started ++ after.queue ∧
        ∀ earlier transmission later,
          started = earlier ++ transmission :: later →
          ((left.length + earlier.length : Nat) : Int) <
            max 1 after.cwnd.floor
  notAbove :
    sender.queue ≠ after.queue →
      (after.pending.length : Int) ≤ max 1 after.cwnd.floor
  notBelow :
    after.queue = [] ∨ max 1 after.cwnd.floor ≤ after.pending.length

/-- Messages in flight after `pump`, counted. -/
theorem Pumps.length_pending
    {sender after : ReliableSender}
    {now : Time}
    {result : PumpResult}
    (pumps : sender.Pumps now after result) :
    after.pending.length =
      (sender.leftInFlight now).length + (sender.started now).length := by
  rw [OrderedDict.length, pumps.pending, List.length_append,
    List.length_map]

theorem Pumps.startsInWindow
    {sender after : ReliableSender}
    {now : Time}
    {result : PumpResult}
    (pumps : sender.Pumps now after result) :
    sender.StartsInWindow after := by
  have length := pumps.length_pending
  have room := pumps.room
  have window := after.cast_window
  have queue := congrArg List.length pumps.queue
  rw [List.length_append] at queue
  refine ⟨⟨(sender.leftInFlight now).map Prod.fst, sender.started now,
    keys_leftInFlight sender now, pumps.inFlightIds, pumps.queue, ?_⟩,
    ?_, ?_⟩
  · intro earlier transmission later shape
    have count := congrArg List.length shape
    rw [List.length_append, List.length_cons] at count
    rw [List.length_map]
    omega
  · intro someStarted
    have notNone : (sender.started now).length ≠ 0 := by
      intro none
      apply someStarted
      rw [pumps.queue, List.eq_nil_of_length_eq_zero none]
      rfl
    omega
  · by_cases empty : after.queue.length = 0
    · exact .inl (List.eq_nil_of_length_eq_zero empty)
    · exact .inr (by omega)

namespace Bounded

variable {sender : ReliableSender}

theorem enqueue
    (bounded : sender.Bounded)
    (messageId : Nat)
    (packets : List Bytes)
    (now : Time) :
    (sender.enqueue messageId packets now).1.Bounded := by
  have distinct := bounded.distinct.enqueue messageId packets now
  rcases sender.enqueue_cases messageId packets now with
    ⟨same, _⟩ | ⟨hasRoom, _, shape⟩
  · rw [same]
    exact bounded
  · rw [shape] at distinct ⊢
    refine ⟨?_, bounded.cwnd, bounded.inFlight, distinct⟩
    dsimp only
    rw [List.length_append, List.length_singleton]
    omega

theorem acknowledge
    (bounded : sender.Bounded)
    (messageId : Nat)
    (now : Time) :
    (sender.acknowledge messageId now).1.Bounded := by
  have distinct := bounded.distinct.acknowledge messageId now
  rcases sender.acknowledge_cases messageId now with
    ⟨_, shape⟩ | ⟨_, _, shape⟩
  · rw [shape]
    exact bounded
  · rw [shape] at distinct ⊢
    have fewer :
        (sender.pending.erase messageId).length ≤ sender.pending.length :=
      List.length_filter_le _ _
    have fewerRat :
        ((sender.pending.erase messageId).length : Rat) ≤
          sender.pending.length := by
      exact_mod_cast fewer
    have grows : 0 < 1 / max 1 sender.cwnd :=
      one_div_pos.mpr (lt_max_of_lt_left one_pos)
    refine ⟨?_, ⟨?_, min_le_left _ _⟩, fewerRat.trans bounded.inFlight,
      distinct⟩
    · have room := bounded.room
      dsimp only
      omega
    · refine le_min sender.maxWindowAtLeastOne ?_
      linarith [bounded.cwnd.1]

theorem pump
    (bounded : sender.Bounded)
    (now : Time) :
    (sender.pump now).1.Bounded := by
  have pumps := sender.pumps bounded.distinct now
  have length := pumps.length_pending
  have cwnd := pumps.cwnd bounded.cwnd
  have queue := congrArg List.length pumps.queue
  rw [List.length_append] at queue
  have fewer := (keys_leftInFlight sender now).length_le
  rw [List.length_map, inFlightIds, OrderedDict.length_keys] at fewer
  refine ⟨?_, ?_, ?_, bounded.distinct.pump now⟩
  · have room := bounded.room
    rw [pumps.limits.maxPendingMessages]
    omega
  · rw [pumps.limits.maxWindow]
    exact cwnd
  · rw [pumps.limits.maxWindow]
    have inWindow : ((sender.pump now).1.window : Rat) ≤ sender.maxWindow := by
      rw [← pumps.limits.maxWindow] at cwnd ⊢
      exact window_le cwnd
    have room := pumps.room
    have notAbove :
        (sender.pump now).1.pending.length ≤ sender.pending.length ∨
          (sender.pump now).1.pending.length ≤
            (sender.pump now).1.window := by
      omega
    rcases notAbove with asBefore | asWindow
    · have atMost :
          ((sender.pump now).1.pending.length : Rat) ≤
            sender.pending.length := by
        exact_mod_cast asBefore
      exact atMost.trans bounded.inFlight
    · have atMost :
          ((sender.pump now).1.pending.length : Rat) ≤
            (sender.pump now).1.window := by
        exact_mod_cast asWindow
      exact atMost.trans inWindow

/-- Every call keeps the bounds. -/
theorem call
    (bounded : sender.Bounded)
    (operation : Call)
    (now : Time) :
    (sender.call operation now).1.Bounded := by
  cases operation with
  | enqueue messageId packets =>
      exact bounded.enqueue messageId packets now
  | acknowledge messageId =>
      exact bounded.acknowledge messageId now
  | pump =>
      exact bounded.pump now

end Bounded

/-- The limits of the constructor stay as they are. -/
theorem sameLimits_call
    {sender : ReliableSender}
    (distinct : sender.Distinct)
    (operation : Call)
    (now : Time) :
    (sender.call operation now).1.SameLimits sender := by
  cases operation with
  | enqueue messageId packets =>
      rcases sender.enqueue_cases messageId packets now with
        ⟨same, _⟩ | ⟨_, _, shape⟩
      · simp only [call, same]
        exact .refl sender
      · simp only [call, shape]
        exact ⟨rfl, rfl, rfl, rfl⟩
  | acknowledge messageId =>
      rcases sender.acknowledge_cases messageId now with
        ⟨_, shape⟩ | ⟨_, _, shape⟩
      · simp only [call, shape]
        exact .refl sender
      · simp only [call, shape]
        exact ⟨rfl, rfl, rfl, rfl⟩
  | pump =>
      exact (sender.pumps distinct now).limits

/--
For every sender that can be constructed and every sequence of calls at any
times: the sender has room for all its messages, the congestion window and the
messages in flight are inside their limits, no message id occurs twice, and a
call of `pump` starts messages as far as its window goes.
-/
theorem sender_stays_bounded
    {timeoutSeconds : Rat}
    {maxRetries maxPendingMessages initialWindow maxWindow : Int}
    {sender : ReliableSender}
    (created :
      init timeoutSeconds maxRetries maxPendingMessages initialWindow
        maxWindow = .ok sender)
    (calls : List (Call × Time)) :
    (((callMachine.run sender calls).queue.length +
        (callMachine.run sender calls).pending.length : Nat) : Int) ≤
        maxPendingMessages ∧
      1 ≤ (callMachine.run sender calls).cwnd ∧
      (callMachine.run sender calls).cwnd ≤ maxWindow ∧
      ((callMachine.run sender calls).pending.length : Int) ≤ maxWindow ∧
      ((callMachine.run sender calls).queuedIds ++
        (callMachine.run sender calls).inFlightIds).Nodup ∧
      ∀ now,
        (callMachine.run sender calls).StartsInWindow
          ((callMachine.run sender calls).pump now).1 := by
  obtain ⟨⟨_, limits, window⟩, _, _, capacity, largest, cwnd, queue,
    pending⟩ := init_eq_ok_iff.mp created
  have start : sender.Bounded ∧ sender.SameLimits sender := by
    refine ⟨⟨?_, ?_, ?_, .of_empty queue pending⟩, .refl sender⟩
    · rw [queue, pending]
      exact Nat.zero_le _
    · rw [cwnd, largest]
      exact_mod_cast window
    · rw [pending]
      exact zero_le_one.trans sender.maxWindowAtLeastOne
  obtain ⟨bounded, sameLimits⟩ :=
    callMachine.run_invariant
      (fun after => after.Bounded ∧ after.SameLimits sender)
      (fun after input holds =>
        ⟨holds.1.call input.1 input.2,
          (sameLimits_call holds.1.distinct input.1 input.2).trans
            holds.2⟩)
      start calls
  have sameCapacity := sameLimits.maxPendingMessages
  have sameLargest := sameLimits.maxWindow
  rw [capacity] at sameCapacity
  rw [largest] at sameLargest
  refine ⟨?_, bounded.cwnd.1, ?_, ?_, bounded.distinct.nodup, ?_⟩
  · have room := bounded.room
    omega
  · rw [← sameLargest]
    exact bounded.cwnd.2
  · have inFlight := bounded.inFlight
    rw [sameLargest] at inFlight
    exact_mod_cast inFlight
  · intro now
    exact ((callMachine.run sender calls).pumps bounded.distinct
      now).startsInWindow

/-- Two messages stay in the bounds of the default limits. -/
theorem sender_stays_bounded_of_two :
    (((callMachine.run fresh lifecycleCalls).queue.length +
        (callMachine.run fresh lifecycleCalls).pending.length : Nat) :
          Int) ≤ 2048 ∧
      (callMachine.run fresh lifecycleCalls).StartsInWindow
        ((callMachine.run fresh lifecycleCalls).pump 4).1 := by
  obtain ⟨room, _, _, _, _, starts⟩ :=
    sender_stays_bounded init_fresh lifecycleCalls
  exact ⟨room, starts 4⟩

end ReliableSender

end H3ntun

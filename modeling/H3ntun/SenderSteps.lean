import H3ntun.SenderLifecycle

namespace H3ntun

/-!
# What one call on the sender does

The first loop of `pump` decides about each message in flight on its own: it
waits, it is sent again or it is given up.  The second loop moves the front of
the queue behind the messages left in flight.
-/

open Lifecycle

namespace ReliableSender

/-- `enqueue` refuses a message, or there is room and its id is new. -/
theorem enqueue_cases
    (sender : ReliableSender)
    (messageId : Nat)
    (packets : List Bytes)
    (now : Time) :
    ((sender.enqueue messageId packets now).1 = sender ∧
        (sender.enqueue messageId packets now).2 ≠ .ok true) ∨
      (sender.queue.length + sender.pending.length <
          sender.maxPendingMessages ∧
        messageId ∉ sender.queuedIds ++ sender.inFlightIds ∧
        sender.enqueue messageId packets now =
          ({ sender with
              queue := sender.queue ++
                [{ messageId := messageId, packets := packets,
                   queuedAt := now }] },
            .ok true)) := by
  unfold enqueue
  split
  · exact .inl ⟨rfl, by simp⟩
  · split
    · exact .inl ⟨rfl, by simp⟩
    · rename_i hasRoom
      split
      · exact .inl ⟨rfl, by simp⟩
      · rename_i isNew
        refine .inr ⟨not_le.mp hasRoom, ?_, rfl⟩
        rw [not_or, OrderedDict.contains_iff] at isNew
        intro member
        rcases List.mem_append.mp member with queued | inFlight
        · obtain ⟨transmission, inQueue, same⟩ := List.mem_map.mp queued
          exact isNew.2 (List.any_eq_true.mpr
            ⟨transmission, inQueue, decide_eq_true same⟩)
        · exact isNew.1 inFlight

/-- `acknowledge` knows the message, or it changes nothing. -/
theorem acknowledge_cases
    (sender : ReliableSender)
    (messageId : Nat)
    (now : Time) :
    (messageId ∉ sender.inFlightIds ∧
        sender.acknowledge messageId now = (sender, false, none)) ∨
      (messageId ∈ sender.inFlightIds ∧
        ∃ latency,
          sender.acknowledge messageId now =
            ({ sender with
                pending := sender.pending.erase messageId
                cwnd := min sender.maxWindow
                  (sender.cwnd + 1 / max 1 sender.cwnd) },
              true, latency)) := by
  unfold acknowledge
  cases found : sender.pending.get? messageId with
  | none =>
      exact .inl ⟨OrderedDict.get?_eq_none_iff.mp found, rfl⟩
  | some transmission =>
      exact .inr ⟨OrderedDict.mem_keys_iff.mpr ⟨transmission, found⟩,
        _, rfl⟩

/-- The timeout of a message in flight is over. -/
def isDue
    (sender : ReliableSender)
    (now : Time)
    (transmission : Transmission) : Bool :=
  match transmission.lastSentAt with
  | none => false
  | some lastSentAt => sender.timeout transmission ≤ now - lastSentAt

/-- All attempts of a message in flight are made. -/
def isSpent
    (sender : ReliableSender)
    (transmission : Transmission) : Bool :=
  sender.maxAttempts ≤ transmission.attempts

/-- One turn of the first loop, in terms of its two tests. -/
theorem resend_eq
    (now : Time)
    (sender : ReliableSender)
    (result : PumpResult)
    (transmission : Transmission) :
    resend now (sender, result) transmission =
      if sender.isDue now transmission then
        if sender.isSpent transmission then
          ({ sender with
              pending := sender.pending.erase transmission.messageId
              cwnd := max 1 (sender.cwnd / 2) },
            { result with
              exhaustedMessages := result.exhaustedMessages + 1 })
        else
          ({ sender with
              pending := sender.pending.set transmission.messageId
                { transmission with
                  attempts := transmission.attempts + 1
                  lastSentAt := some now }
              cwnd := max 1 (sender.cwnd / 2) },
            { result with
              packets := result.packets ++
                transmission.packets.map fun packet =>
                  { payload := packet, retransmission := true } })
      else
        (sender, result) := by
  unfold resend isDue isSpent
  cases transmission.lastSentAt with
  | none =>
      rfl
  | some lastSentAt =>
      by_cases early : now - lastSentAt < sender.timeout transmission
      · simp [early, not_le.mpr early]
      · simp [early, not_lt.mp early]

/-- What the first loop leaves of a message in flight. -/
def afterTimeout
    (sender : ReliableSender)
    (now : Time)
    (entry : Nat × Transmission) : Option (Nat × Transmission) :=
  if sender.isDue now entry.2 then
    if sender.isSpent entry.2 then
      none
    else
      some (entry.1, { entry.2 with
        attempts := entry.2.attempts + 1
        lastSentAt := some now })
  else
    some entry

/-- What the first loop makes happen to a message in flight. -/
def timeoutHappening
    (sender : ReliableSender)
    (now : Time)
    (entry : Nat × Transmission) : Option Happening :=
  if sender.isDue now entry.2 then
    if sender.isSpent entry.2 then
      some (.exhausted entry.1)
    else
      some (.attempted entry.1 entry.2.packets true)
  else
    none

/-- Messages in flight after the first loop. -/
def leftInFlight
    (sender : ReliableSender)
    (now : Time) : List (Nat × Transmission) :=
  sender.pending.entries.filterMap (sender.afterTimeout now)

/-- Messages that may be in flight before `pump` starts another one. -/
def window (sender : ReliableSender) : Nat :=
  max 1 sender.cwnd.floor.toNat

/-- Messages the second loop starts. -/
def started (sender : ReliableSender) (now : Time) : List Transmission :=
  sender.queue.take
    ((sender.pump now).1.window - (sender.leftInFlight now).length)

/-- A message transmitted for the first time. -/
def firstAttempt
    (now : Time)
    (transmission : Transmission) : Nat × Transmission :=
  (transmission.messageId, { transmission with
    attempts := 1
    firstSentAt := some now
    lastSentAt := some now })

/-- What happens in a call of `pump`, in order. -/
def pumpHappenings
    (sender : ReliableSender)
    (now : Time) : List Happening :=
  sender.pending.entries.filterMap (sender.timeoutHappening now) ++
    (sender.started now).map fun transmission =>
      .attempted transmission.messageId transmission.packets false

/-- Message ids of a sender are distinct, and entries stand under them. -/
structure Distinct (sender : ReliableSender) : Prop where
  keyed :
    ∀ entry ∈ sender.pending.entries, entry.2.messageId = entry.1
  nodup :
    (sender.queuedIds ++ sender.inFlightIds).Nodup

/-- The limits of a sender stay as they are. -/
structure SameLimits (after before : ReliableSender) : Prop where
  timeoutSeconds :
    after.retransmitTimeoutSeconds = before.retransmitTimeoutSeconds
  maxAttempts :
    after.maxAttempts = before.maxAttempts
  maxPendingMessages :
    after.maxPendingMessages = before.maxPendingMessages
  maxWindow :
    after.maxWindow = before.maxWindow

namespace SameLimits

variable {after before start : ReliableSender}

theorem refl (sender : ReliableSender) :
    sender.SameLimits sender :=
  ⟨rfl, rfl, rfl, rfl⟩

theorem trans
    (second : after.SameLimits before)
    (first : before.SameLimits start) :
    after.SameLimits start :=
  ⟨second.timeoutSeconds.trans first.timeoutSeconds,
    second.maxAttempts.trans first.maxAttempts,
    second.maxPendingMessages.trans first.maxPendingMessages,
    second.maxWindow.trans first.maxWindow⟩

theorem isDue
    (same : after.SameLimits before)
    (now : Time)
    (transmission : Transmission) :
    after.isDue now transmission = before.isDue now transmission := by
  unfold ReliableSender.isDue timeout
  rw [same.timeoutSeconds]

theorem isSpent
    (same : after.SameLimits before)
    (transmission : Transmission) :
    after.isSpent transmission = before.isSpent transmission := by
  unfold ReliableSender.isSpent
  rw [same.maxAttempts]

end SameLimits

/-- The first loop of `pump`, some way through the messages in flight. -/
structure AfterTimeouts
    (sender : ReliableSender)
    (now : Time)
    (processed remaining : List (Nat × Transmission))
    (progress : ReliableSender × PumpResult) : Prop where
  limits :
    progress.1.SameLimits sender
  queue :
    progress.1.queue = sender.queue
  pending :
    progress.1.pending.entries =
      processed.filterMap (sender.afterTimeout now) ++ remaining
  packets :
    progress.2.packets =
      (processed.filterMap (sender.timeoutHappening now)).flatMap outbound
  exhaustions :
    progress.2.exhaustedMessages =
      (exhausted
        (processed.filterMap (sender.timeoutHappening now))).length
  cwnd :
    1 ≤ sender.cwnd ∧ sender.cwnd ≤ sender.maxWindow →
      1 ≤ progress.1.cwnd ∧ progress.1.cwnd ≤ sender.maxWindow

namespace AfterTimeouts

variable
  {sender : ReliableSender}
  {now : Time}
  {processed remaining : List (Nat × Transmission)}
  {progress : ReliableSender × PumpResult}

/-- Halving keeps the congestion window between its limits. -/
theorem halved
    {cwnd : Rat}
    (inside : 1 ≤ cwnd ∧ cwnd ≤ sender.maxWindow) :
    1 ≤ max 1 (cwnd / 2) ∧ max 1 (cwnd / 2) ≤ sender.maxWindow := by
  refine ⟨le_max_left _ _, max_le sender.maxWindowAtLeastOne ?_⟩
  linarith [inside.1, inside.2]

/-- One turn of the first loop. -/
theorem resend
    {entry : Nat × Transmission}
    (soFar :
      AfterTimeouts sender now processed (entry :: remaining) progress)
    (keyed : entry.2.messageId = entry.1) :
    AfterTimeouts sender now (processed ++ [entry]) remaining
      (ReliableSender.resend now progress entry.2) := by
  obtain ⟨messageId, transmission⟩ := entry
  obtain ⟨before, result⟩ := progress
  obtain ⟨limits, queue, pending, packets, exhaustions, cwnd⟩ := soFar
  dsimp only at limits queue pending packets exhaustions cwnd keyed
  subst keyed
  rw [resend_eq, limits.isDue, limits.isSpent]
  by_cases isDue : sender.isDue now transmission = true
  · by_cases isSpent : sender.isSpent transmission = true
    · rw [if_pos isDue, if_pos isSpent]
      have left :
          [(transmission.messageId, transmission)].filterMap (sender.afterTimeout now) =
            [] := by
        simp [afterTimeout, isDue, isSpent]
      have happens :
          [(transmission.messageId, transmission)].filterMap
              (sender.timeoutHappening now) =
            [.exhausted transmission.messageId] := by
        simp [timeoutHappening, isDue, isSpent]
      refine ⟨⟨limits.1, limits.2, limits.3, limits.4⟩, queue, ?_, ?_, ?_,
        fun inside => halved (cwnd inside)⟩
      · rw [OrderedDict.entries_erase_of_entries pending,
          List.filterMap_append, left, List.append_nil]
      · rw [List.filterMap_append, happens, List.flatMap_append, ← packets]
        exact (List.append_nil _).symm
      · rw [List.filterMap_append, happens, exhausted_append,
          List.length_append, ← exhaustions]
        rfl
    · rw [if_pos isDue, if_neg isSpent]
      have left :
          [(transmission.messageId, transmission)].filterMap (sender.afterTimeout now) =
            [(transmission.messageId, { transmission with
              attempts := transmission.attempts + 1
              lastSentAt := some now })] := by
        simp [afterTimeout, isDue, isSpent]
      have happens :
          [(transmission.messageId, transmission)].filterMap
              (sender.timeoutHappening now) =
            [.attempted transmission.messageId transmission.packets true] := by
        simp [timeoutHappening, isDue, isSpent]
      refine ⟨⟨limits.1, limits.2, limits.3, limits.4⟩, queue, ?_, ?_, ?_,
        fun inside => halved (cwnd inside)⟩
      · rw [OrderedDict.entries_set_of_entries pending,
          List.filterMap_append, left, List.append_assoc]
        rfl
      · rw [List.filterMap_append, happens, List.flatMap_append, ← packets,
          List.flatMap_singleton]
        rfl
      · rw [List.filterMap_append, happens, exhausted_append,
          List.length_append, ← exhaustions]
        rfl
  · rw [if_neg isDue]
    have left :
        [(transmission.messageId, transmission)].filterMap (sender.afterTimeout now) =
          [(transmission.messageId, transmission)] := by
      simp [afterTimeout, isDue]
    have happens :
        [(transmission.messageId, transmission)].filterMap
            (sender.timeoutHappening now) = [] := by
      simp [timeoutHappening, isDue]
    refine ⟨limits, queue, ?_, ?_, ?_, cwnd⟩
    · rw [List.filterMap_append, left, List.append_assoc]
      exact pending
    · rw [List.filterMap_append, happens, List.append_nil]
      exact packets
    · rw [List.filterMap_append, happens, List.append_nil]
      exact exhaustions

/-- The first loop. -/
theorem resend_all
    {entries : List (Nat × Transmission)}
    (soFar : AfterTimeouts sender now processed entries progress)
    (keyed : ∀ entry ∈ entries, entry.2.messageId = entry.1) :
    AfterTimeouts sender now (processed ++ entries) []
      ((entries.map Prod.snd).foldl (ReliableSender.resend now)
        progress) := by
  induction entries generalizing processed progress with
  | nil =>
      rw [List.append_nil]
      exact soFar
  | cons entry rest inductionHypothesis =>
      have next := soFar.resend (keyed entry List.mem_cons_self)
      have last := inductionHypothesis next fun other member =>
        keyed other (List.mem_cons_of_mem _ member)
      rw [List.append_assoc] at last
      exact last

end AfterTimeouts

/-- What the second loop does, from the messages left in flight on. -/
structure AfterStarts
    (now : Time)
    (window : Nat)
    (waiting : List Transmission)
    (before : ReliableSender × PumpResult)
    (progress : ReliableSender × PumpResult) : Prop where
  limits :
    progress.1.SameLimits before.1
  cwnd :
    progress.1.cwnd = before.1.cwnd
  queue :
    progress.1.queue = waiting.drop (window - before.1.pending.length)
  pending :
    progress.1.pending.entries =
      before.1.pending.entries ++
        (waiting.take (window - before.1.pending.length)).map
          (firstAttempt now)
  packets :
    progress.2.packets =
      before.2.packets ++
        (waiting.take (window - before.1.pending.length)).flatMap
          fun transmission => transmission.packets.map fun packet =>
            { payload := packet, retransmission := false }
  exhaustions :
    progress.2.exhaustedMessages = before.2.exhaustedMessages

/-- The second loop. -/
theorem startQueued_shape
    (now : Time)
    (window : Nat)
    {queue : List Transmission}
    (sender : ReliableSender)
    (result : PumpResult)
    (distinct :
      (queue.map Transmission.messageId ++ sender.pending.keys).Nodup) :
    AfterStarts now window queue (sender, result)
      (startQueued now window queue (sender, result)) := by
  induction queue generalizing sender result with
  | nil =>
      exact ⟨⟨rfl, rfl, rfl, rfl⟩, rfl, by simp [startQueued],
        by simp [startQueued], by simp [startQueued], rfl⟩
  | cons transmission rest inductionHypothesis =>
      unfold startQueued
      split
      · rename_i hasRoom
        have absent : transmission.messageId ∉ sender.pending.keys :=
          fun present => (List.nodup_append.mp distinct).2.2 _
            List.mem_cons_self _ present rfl
        have entries := OrderedDict.entries_set_of_not_mem absent
          (firstAttempt now transmission).2
        have keys := OrderedDict.keys_set_of_not_mem absent
          (firstAttempt now transmission).2
        have grows := OrderedDict.length_set_of_not_mem absent
          (firstAttempt now transmission).2
        have stillDistinct :
            (rest.map Transmission.messageId ++
              (sender.pending.set transmission.messageId
                (firstAttempt now transmission).2).keys).Nodup := by
          rw [keys, ← List.append_assoc]
          rw [List.map_cons, List.cons_append] at distinct
          exact (List.perm_append_singleton _ _).nodup_iff.mpr distinct
        have fewer :
            window - sender.pending.length =
              window - (sender.pending.length + 1) + 1 := by
          omega
        have next := inductionHypothesis
          { sender with
            pending := sender.pending.set transmission.messageId
              (firstAttempt now transmission).2 }
          { result with
            packets := result.packets ++
              transmission.packets.map fun packet =>
                { payload := packet, retransmission := false } }
          stillDistinct
        obtain ⟨limits, cwnd, waiting, pending, packets, exhaustions⟩ :=
          next
        dsimp only at limits cwnd waiting pending packets exhaustions
        rw [grows] at waiting pending packets
        refine ⟨⟨limits.1, limits.2, limits.3, limits.4⟩, cwnd, ?_, ?_, ?_,
          exhaustions⟩
        · rw [fewer, List.drop_succ_cons]
          exact waiting
        · rw [fewer, List.take_succ_cons, List.map_cons]
          refine pending.trans ?_
          rw [entries, List.append_assoc]
          rfl
        · rw [fewer, List.take_succ_cons, List.flatMap_cons,
            ← List.append_assoc]
          exact packets
      · rename_i full
        have noRoom : window - sender.pending.length = 0 := by
          omega
        exact ⟨⟨rfl, rfl, rfl, rfl⟩, rfl, by simp [noRoom],
          by simp [noRoom], by simp [noRoom], rfl⟩

/-- What one call of `pump` does to a sender and returns. -/
structure Pumps
    (sender : ReliableSender)
    (now : Time)
    (after : ReliableSender)
    (result : PumpResult) : Prop where
  limits :
    after.SameLimits sender
  queue :
    sender.queue = sender.started now ++ after.queue
  room :
    (sender.started now).length =
      min (after.window - (sender.leftInFlight now).length)
        sender.queue.length
  pending :
    after.pending.entries =
      sender.leftInFlight now ++
        (sender.started now).map (firstAttempt now)
  packets :
    result.packets = (sender.pumpHappenings now).flatMap outbound
  exhaustions :
    result.exhaustedMessages =
      (exhausted (sender.pumpHappenings now)).length
  cwnd :
    1 ≤ sender.cwnd ∧ sender.cwnd ≤ sender.maxWindow →
      1 ≤ after.cwnd ∧ after.cwnd ≤ sender.maxWindow

/-- The first loop starts no message. -/
theorem keys_leftInFlight
    (sender : ReliableSender)
    (now : Time) :
    ((sender.leftInFlight now).map Prod.fst).Sublist
      sender.inFlightIds := by
  unfold leftInFlight inFlightIds OrderedDict.keys
  induction sender.pending.entries with
  | nil =>
      exact .slnil
  | cons entry rest inductionHypothesis =>
      cases left : sender.afterTimeout now entry with
      | none =>
          rw [List.filterMap_cons_none left]
          exact inductionHypothesis.cons _
      | some kept =>
          have sameKey : kept.1 = entry.1 := by
            unfold afterTimeout at left
            split at left
            · split at left
              · cases left
              · cases left
                rfl
            · cases left
              rfl
          rw [List.filterMap_cons_some left, List.map_cons, List.map_cons,
            sameKey]
          exact inductionHypothesis.cons_cons _

/-- Every call of `pump` does this. -/
theorem pumps
    (sender : ReliableSender)
    (distinct : sender.Distinct)
    (now : Time) :
    sender.Pumps now (sender.pump now).1 (sender.pump now).2 := by
  have begins :
      AfterTimeouts sender now [] sender.pending.entries
        (sender, { packets := [], exhaustedMessages := 0 }) :=
    ⟨⟨rfl, rfl, rfl, rfl⟩, rfl, rfl, rfl, rfl, id⟩
  have resent := begins.resend_all distinct.keyed
  have pumped :
      sender.pump now =
        let progress :=
          sender.pending.values.foldl (resend now)
            (sender, { packets := [], exhaustedMessages := 0 })
        startQueued now progress.1.window progress.1.queue progress :=
    rfl
  unfold OrderedDict.values at pumped
  generalize (sender.pending.entries.map Prod.snd).foldl (resend now)
    (sender, { packets := [], exhaustedMessages := 0 }) = progress
    at pumped resent
  obtain ⟨middle, result⟩ := progress
  obtain ⟨limits, queue, pending, packets, exhaustions, cwnd⟩ := resent
  dsimp only at limits queue pending packets exhaustions cwnd pumped
  rw [List.append_nil] at pending
  have fewerKeys : middle.pending.keys.Sublist sender.inFlightIds := by
    rw [OrderedDict.keys, pending]
    exact keys_leftInFlight sender now
  have stillDistinct :
      (middle.queue.map Transmission.messageId ++
        middle.pending.keys).Nodup := by
    rw [queue]
    exact ((List.Sublist.refl _).append fewerKeys).nodup distinct.nodup
  have shape :=
    startQueued_shape now middle.window middle result stillDistinct
  have sameLength :
      middle.pending.length = (sender.leftInFlight now).length :=
    congrArg List.length pending
  rw [← pumped] at shape
  obtain ⟨laterLimits, sameCwnd, left, moved, more, sameExhaustions⟩ :=
    shape
  dsimp only at laterLimits sameCwnd left moved more sameExhaustions
  have sameWindow : middle.window = (sender.pump now).1.window := by
    rw [window, window, sameCwnd]
  rw [sameLength, sameWindow, queue] at left moved more
  have happenings :
      sender.pumpHappenings now =
        sender.pending.entries.filterMap (sender.timeoutHappening now) ++
          (sender.started now).map fun transmission =>
            .attempted transmission.messageId transmission.packets false :=
    rfl
  refine ⟨laterLimits.trans limits, ?_, List.length_take, ?_, ?_, ?_, ?_⟩
  · rw [left]
    exact (List.take_append_drop _ _).symm
  · rw [moved, pending]
    rfl
  · rw [more, packets, happenings, List.flatMap_append, List.flatMap_map]
    rfl
  · have noneExhausted :
        exhausted ((sender.started now).map fun transmission =>
          (.attempted transmission.messageId transmission.packets false :
            Happening)) = [] := by
      simp [exhausted]
    rw [sameExhaustions, exhaustions, happenings, exhausted_append,
      noneExhausted, List.append_nil]
    rfl
  · intro inside
    rw [sameCwnd]
    exact cwnd inside

end ReliableSender

end H3ntun

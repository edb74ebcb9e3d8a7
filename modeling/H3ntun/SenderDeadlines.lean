import H3ntun.SenderQueues
import Mathlib.Algebra.BigOperators.Intervals
import Mathlib.Tactic.Linarith
import Mathlib.Tactic.Positivity

namespace H3ntun

/-!
# How long a message stays in the sender

Where calls of `pump` are at most a gap apart, each attempt waits for its
timeout and one gap, and a queued message waits for the whole life of each
message in front of it.
-/

/-- Settings of a sender, and the longest gap between two calls of `pump`. -/
structure Pace where
  timeoutSeconds : Rat
  limit : Nat
  capacity : Nat
  gap : Rat
  timeoutPositive : 0 < timeoutSeconds
  limitPositive : 1 ≤ limit
  gapNonnegative : 0 ≤ gap

namespace Pace

/-- Time a message waits for its ACK after a number of attempts. -/
def backoff (pace : Pace) (attempts : Nat) : Rat :=
  pace.timeoutSeconds * (min (2 ^ (attempts - 1)) 16 : Nat)

/-- Longest time from the first attempt to the end of some attempts. -/
def patience (pace : Pace) (attempts : Nat) : Rat :=
  ∑ count ∈ Finset.range attempts, (pace.backoff (count + 1) + pace.gap)

/-- Longest time from the first attempt until the message is given up. -/
def lifetime (pace : Pace) : Rat :=
  pace.patience pace.limit

/-- Longest time a message waits for its first attempt. -/
def queueing (pace : Pace) : Rat :=
  pace.gap + (pace.capacity - 1) * pace.lifetime

/-- Longest time from `enqueue` to the last attempt. -/
def longest (pace : Pace) : Rat :=
  pace.queueing + pace.patience (pace.limit - 1)

variable (pace : Pace)

theorem backoff_pos
    (attempts : Nat) :
    0 < pace.backoff attempts := by
  have positive : 0 < min (2 ^ (attempts - 1)) 16 := by
    simp
  exact mul_pos pace.timeoutPositive (by exact_mod_cast positive)

theorem patience_succ
    (attempts : Nat) :
    pace.patience (attempts + 1) =
      pace.patience attempts + pace.backoff (attempts + 1) + pace.gap := by
  rw [patience, Finset.sum_range_succ, patience, add_assoc]

theorem patience_mono
    {fewer more : Nat}
    (inOrder : fewer ≤ more) :
    pace.patience fewer ≤ pace.patience more := by
  refine Finset.sum_le_sum_of_subset_of_nonneg
    (Finset.range_subset_range.mpr inOrder) ?_
  intro count _ _
  have positive := pace.backoff_pos (count + 1)
  have gap := pace.gapNonnegative
  linarith

theorem lifetime_nonneg :
    0 ≤ pace.lifetime :=
  pace.patience_mono (Nat.zero_le pace.limit)

/-- Waiting for fewer messages than there is room for. -/
theorem le_queueing
    {count : Nat}
    (few : count < pace.capacity) :
    pace.gap + count * pace.lifetime ≤ pace.queueing := by
  have fewer : (count : Rat) ≤ pace.capacity - 1 := by
    have atMost : (count : Rat) + 1 ≤ pace.capacity := by
      exact_mod_cast few
    linarith
  have lives :=
    mul_le_mul_of_nonneg_right fewer pace.lifetime_nonneg
  rw [queueing]
  linarith

end Pace

/-- Where a message in flight stands at the time of the last `pump`. -/
structure Transmission.Flight
    (pace : Pace)
    (pumpedAt : Time)
    (transmission : Transmission)
    (first last : Time) : Prop where
  firstSentAt :
    transmission.firstSentAt = some first
  lastSentAt :
    transmission.lastSentAt = some last
  attempted :
    1 ≤ transmission.attempts
  withinLimit :
    transmission.attempts ≤ pace.limit
  started :
    first ≤ pumpedAt
  resent :
    last ≤ first + pace.patience (transmission.attempts - 1)
  notOverdue :
    pumpedAt < last + pace.backoff transmission.attempts
  inTime :
    first ≤ transmission.queuedAt + pace.queueing

namespace Transmission.Flight

variable
  {pace : Pace}
  {pumpedAt now first last : Time}
  {transmission : Transmission}

/-- The timeout ends at most a gap before the next `pump`. -/
theorem le_patience
    (flight : transmission.Flight pace pumpedAt first last)
    (soon : now ≤ pumpedAt + pace.gap) :
    now ≤ first + pace.patience transmission.attempts := by
  have attempted := flight.attempted
  have grows := pace.patience_succ (transmission.attempts - 1)
  rw [Nat.sub_add_cancel attempted] at grows
  have resent := flight.resent
  have notOverdue := flight.notOverdue
  linarith

/-- The next `pump` comes before the life of the message ends. -/
theorem le_lifetime
    (flight : transmission.Flight pace pumpedAt first last)
    (soon : now ≤ pumpedAt + pace.gap) :
    now ≤ first + pace.lifetime := by
  have grows := pace.patience_mono flight.withinLimit
  have patient := flight.le_patience soon
  rw [Pace.lifetime]
  linarith

/-- A message that is not due stays where it is. -/
theorem wait
    (flight : transmission.Flight pace pumpedAt first last)
    (later : pumpedAt ≤ now)
    (notDue : now - last < pace.backoff transmission.attempts) :
    transmission.Flight pace now first last where
  firstSentAt := flight.firstSentAt
  lastSentAt := flight.lastSentAt
  attempted := flight.attempted
  withinLimit := flight.withinLimit
  started := flight.started.trans later
  resent := flight.resent
  notOverdue := by linarith
  inTime := flight.inTime

/-- A message that is due is attempted again. -/
theorem resend
    (flight : transmission.Flight pace pumpedAt first last)
    (later : pumpedAt ≤ now)
    (soon : now ≤ pumpedAt + pace.gap)
    (notSpent : transmission.attempts < pace.limit) :
    Transmission.Flight pace now
      { transmission with
        attempts := transmission.attempts + 1
        lastSentAt := some now }
      first now where
  firstSentAt := flight.firstSentAt
  lastSentAt := rfl
  attempted := Nat.le_add_left 1 _
  withinLimit := notSpent
  started := flight.started.trans later
  resent := by
    simpa using flight.le_patience soon
  notOverdue := by
    have positive := pace.backoff_pos (transmission.attempts + 1)
    dsimp only
    linarith
  inTime := flight.inTime

/-- An attempt that is due is made before the longest time is over. -/
theorem resent_in_time
    (flight : transmission.Flight pace pumpedAt first last)
    (soon : now ≤ pumpedAt + pace.gap)
    (notSpent : transmission.attempts < pace.limit) :
    now ≤ transmission.queuedAt + pace.longest := by
  have patient := flight.le_patience soon
  have grows := pace.patience_mono (Nat.le_sub_one_of_lt notSpent)
  have inTime := flight.inTime
  rw [Pace.longest]
  linarith

/-- A message attempted for the first time. -/
theorem start
    (inTime : now ≤ transmission.queuedAt + pace.queueing) :
    Transmission.Flight pace now
      { transmission with
        attempts := 1
        firstSentAt := some now
        lastSentAt := some now }
      now now where
  firstSentAt := rfl
  lastSentAt := rfl
  attempted := le_rfl
  withinLimit := pace.limitPositive
  started := le_rfl
  resent := by simp [Pace.patience]
  notOverdue := by
    have positive := pace.backoff_pos 1
    dsimp only
    linarith
  inTime := inTime

end Transmission.Flight

/-- From a time on, queued messages start one after the other in time. -/
def Pace.Soon (pace : Pace) : List Transmission → Time → Prop
  | [], _ => True
  | transmission :: rest, time =>
      time ≤ transmission.queuedAt + pace.queueing ∧
        pace.Soon rest (time + pace.lifetime)

namespace Pace.Soon

variable {pace : Pace} {queue : List Transmission} {time earlier : Time}

theorem mono
    (soon : pace.Soon queue time)
    (inOrder : earlier ≤ time) :
    pace.Soon queue earlier := by
  induction queue generalizing time earlier with
  | nil =>
      exact trivial
  | cons transmission rest inductionHypothesis =>
      exact ⟨inOrder.trans soon.1,
        inductionHypothesis soon.2 (by linarith)⟩

/-- A message joins the queue behind all others. -/
theorem concat
    (soon : pace.Soon queue time)
    {transmission : Transmission}
    (last :
      time + queue.length * pace.lifetime ≤
        transmission.queuedAt + pace.queueing) :
    pace.Soon (queue ++ [transmission]) time := by
  induction queue generalizing time with
  | nil =>
      refine ⟨?_, trivial⟩
      simpa using last
  | cons first rest inductionHypothesis =>
      refine ⟨soon.1, inductionHypothesis soon.2 ?_⟩
      rw [List.length_cons, Nat.cast_add, Nat.cast_one] at last
      linarith

end Pace.Soon

/-- What `stamp` says of the packets of a message and its `queued_at`. -/
def Transmission.Stamped
    (stamp : Bytes → Time → Prop)
    (transmission : Transmission) : Prop :=
  ∀ packet ∈ transmission.packets, stamp packet transmission.queuedAt

/-- A message in flight is on time, and so are those queued behind it. -/
structure Transmission.OnTime
    (pace : Pace)
    (stamp : Bytes → Time → Prop)
    (queue : List Transmission)
    (pumpedAt : Time)
    (transmission : Transmission) : Prop where
  stamped :
    transmission.Stamped stamp
  flight :
    ∃ first last,
      transmission.Flight pace pumpedAt first last ∧
        pace.Soon queue (first + pace.lifetime)

namespace ReliableSender

/-- A sender with the settings of a pace. -/
structure HasPace (sender : ReliableSender) (pace : Pace) : Prop where
  timeoutSeconds :
    sender.retransmitTimeoutSeconds = pace.timeoutSeconds
  limit :
    sender.maxAttempts = pace.limit
  capacity :
    sender.maxPendingMessages = pace.capacity

/-- All messages of a sender are on time after the last `pump`. -/
structure OnTime
    (pace : Pace)
    (stamp : Bytes → Time → Prop)
    (pumpedAt : Time)
    (sender : ReliableSender) : Prop where
  keeps :
    sender.HasPace pace
  keyed :
    ∀ entry ∈ sender.pending.entries, entry.2.messageId = entry.1
  queued :
    ∀ transmission ∈ sender.queue, transmission.Stamped stamp
  inFlight :
    ∀ transmission ∈ sender.pending.values,
      transmission.OnTime pace stamp sender.queue pumpedAt
  idle :
    sender.pending.length = 0 →
      pace.Soon sender.queue (pumpedAt + pace.gap)

namespace OnTime

variable
  {pace : Pace}
  {stamp : Bytes → Time → Prop}
  {pumpedAt now : Time}
  {sender : ReliableSender}

/-- A sender that keeps nothing is on time. -/
theorem of_empty
    (keeps : sender.HasPace pace)
    (queue : sender.queue = [])
    (pending : sender.pending = .empty) :
    sender.OnTime pace stamp pumpedAt where
  keeps := keeps
  keyed entry member := by
    rw [pending] at member
    cases member
  queued transmission member := by
    rw [queue] at member
    cases member
  inFlight transmission member := by
    rw [pending] at member
    cases member
  idle _ := by
    rw [queue]
    exact trivial

/-- A new message waits at most for all others the sender has room for. -/
theorem enqueue
    (onTime : sender.OnTime pace stamp pumpedAt)
    (later : pumpedAt ≤ now)
    {packets : List Bytes}
    (stamped : ∀ packet ∈ packets, stamp packet now)
    (messageId : Nat) :
    (sender.enqueue messageId packets now).1.OnTime pace stamp
      pumpedAt := by
  unfold ReliableSender.enqueue
  split
  · exact onTime
  · split
    · exact onTime
    · split
      · exact onTime
      · rename_i hasRoom _
        have capacity := onTime.keeps.capacity
        have gap := pace.gapNonnegative
        refine ⟨⟨onTime.keeps.timeoutSeconds, onTime.keeps.limit,
          capacity⟩, onTime.keyed, ?_, ?_, ?_⟩
        · intro transmission member
          rcases List.mem_append.mp member with earlier | isNew
          · exact onTime.queued transmission earlier
          · rw [List.mem_singleton.mp isNew]
            exact stamped
        · intro transmission member
          obtain ⟨ownStamps, first, last, flight, soon⟩ :=
            onTime.inFlight transmission member
          refine ⟨ownStamps, first, last, flight, soon.concat ?_⟩
          have occupied : 0 < sender.pending.values.length :=
            List.length_pos_of_mem member
          rw [OrderedDict.values, List.length_map] at occupied
          have few : sender.queue.length + 1 < pace.capacity := by
            rw [OrderedDict.length] at hasRoom
            omega
          have waits := pace.le_queueing few
          have started := flight.started
          rw [Nat.cast_add, Nat.cast_one] at waits
          dsimp only
          linarith
        · intro isIdle
          refine (onTime.idle isIdle).concat ?_
          have waits :=
            pace.le_queueing (by omega :
              sender.queue.length < pace.capacity)
          dsimp only
          linarith

/-- Once no message is in flight, the queue starts at the next `pump`. -/
theorem acknowledge
    (onTime : sender.OnTime pace stamp pumpedAt)
    (messageId : Nat)
    (time : Time) :
    (sender.acknowledge messageId time).1.OnTime pace stamp
      pumpedAt := by
  unfold ReliableSender.acknowledge
  split
  · exact onTime
  · rename_i acknowledged found
    refine ⟨⟨onTime.keeps.timeoutSeconds, onTime.keeps.limit,
      onTime.keeps.capacity⟩, ?_, onTime.queued, ?_, ?_⟩
    · intro entry member
      exact onTime.keyed entry (OrderedDict.mem_entries_erase.mp member).1
    · exact OrderedDict.forall_values_erase onTime.inFlight
    · intro _
      have member : acknowledged ∈ sender.pending.values :=
        List.mem_map_of_mem (OrderedDict.get?_eq_some_iff.mp found)
      obtain ⟨_, first, last, flight, soon⟩ :=
        onTime.inFlight acknowledged member
      exact soon.mono (flight.le_lifetime le_rfl)

end OnTime

/-- An emitted packet is stamped, and emitted before its longest time. -/
def InTime
    (pace : Pace)
    (stamp : Bytes → Time → Prop)
    (now : Time)
    (packet : OutboundPacket) : Prop :=
  ∃ queuedAt, stamp packet.payload queuedAt ∧ now ≤ queuedAt + pace.longest

/-- Packets of a stamped message are emitted in time. -/
theorem inTime_append
    {pace : Pace}
    {stamp : Bytes → Time → Prop}
    {now : Time}
    {packets : List OutboundPacket}
    (earlier : ∀ packet ∈ packets, InTime pace stamp now packet)
    {transmission : Transmission}
    (stamped : transmission.Stamped stamp)
    (inTime : now ≤ transmission.queuedAt + pace.longest)
    (again : Bool) :
    ∀ packet ∈
        packets ++ transmission.packets.map fun packet =>
          { payload := packet, retransmission := again },
      InTime pace stamp now packet := by
  intro packet member
  rcases List.mem_append.mp member with old | isNew
  · exact earlier packet old
  · obtain ⟨source, inPackets, rfl⟩ := List.mem_map.mp isNew
    exact ⟨transmission.queuedAt, stamped source inPackets, inTime⟩

/--
In the first loop of `pump` a message in flight is on time now, or it is one
of those that remain and were on time at the last `pump`.
-/
structure Resending
    (pace : Pace)
    (stamp : Bytes → Time → Prop)
    (pumpedAt now : Time)
    (remaining : List Transmission)
    (progress : ReliableSender × PumpResult) : Prop where
  keeps :
    progress.1.HasPace pace
  keyed :
    ∀ entry ∈ progress.1.pending.entries, entry.2.messageId = entry.1
  queued :
    ∀ transmission ∈ progress.1.queue, transmission.Stamped stamp
  unprocessed :
    ∀ transmission ∈ remaining,
      transmission.OnTime pace stamp progress.1.queue pumpedAt
  inFlight :
    ∀ transmission ∈ progress.1.pending.values,
      transmission.OnTime pace stamp progress.1.queue now ∨
        transmission ∈ remaining
  soon :
    pace.Soon progress.1.queue now
  sent :
    ∀ packet ∈ progress.2.packets, InTime pace stamp now packet

namespace Resending

variable
  {pace : Pace}
  {stamp : Bytes → Time → Prop}
  {pumpedAt now : Time}
  {transmission : Transmission}
  {rest : List Transmission}
  {progress : ReliableSender × PumpResult}

/-- One turn of the first loop. -/
theorem resend
    (resending :
      Resending pace stamp pumpedAt now (transmission :: rest) progress)
    (later : pumpedAt ≤ now)
    (soon : now ≤ pumpedAt + pace.gap) :
    Resending pace stamp pumpedAt now rest
      (ReliableSender.resend now progress transmission) := by
  obtain ⟨sender, result⟩ := progress
  obtain ⟨keeps, keyed, queued, remaining, inFlight, waiting, sent⟩ :=
    resending
  obtain ⟨stamped, first, last, flight, behind⟩ :=
    remaining transmission List.mem_cons_self
  have others :
      ∀ other ∈ rest,
        other.OnTime pace stamp sender.queue pumpedAt :=
    fun other member => remaining other (List.mem_cons_of_mem _ member)
  have sameTimeout :
      sender.timeout transmission =
        pace.backoff transmission.attempts := by
    rw [timeout, keeps.timeoutSeconds, Pace.backoff]
  -- Under another key there is another message.
  have otherKey :
      ∀ entry ∈ sender.pending.entries,
        entry.1 ≠ transmission.messageId →
        entry.2.OnTime pace stamp sender.queue now ∨ entry.2 ∈ rest := by
    intro entry member different
    rcases inFlight entry.2 (List.mem_map_of_mem member) with
      onTime | isRemaining
    · exact .inl onTime
    · refine .inr ((List.mem_cons.mp isRemaining).resolve_left ?_)
      intro same
      rw [← keyed entry member, same] at different
      exact different rfl
  unfold ReliableSender.resend
  simp only [flight.lastSentAt, sameTimeout]
  split
  · rename_i notDue
    refine ⟨keeps, keyed, queued, others, ?_, waiting, sent⟩
    intro other member
    rcases inFlight other member with onTime | isRemaining
    · exact .inl onTime
    · rcases List.mem_cons.mp isRemaining with rfl | inRest
      · exact .inl ⟨stamped, first, last, flight.wait later notDue, behind⟩
      · exact .inr inRest
  · split
    · refine ⟨⟨keeps.timeoutSeconds, keeps.limit, keeps.capacity⟩, ?_,
        queued, others, ?_, waiting, sent⟩
      · intro entry member
        exact keyed entry (OrderedDict.mem_entries_erase.mp member).1
      · intro other member
        obtain ⟨entry, inEntries, rfl⟩ := List.mem_map.mp member
        obtain ⟨inOld, different⟩ :=
          OrderedDict.mem_entries_erase.mp inEntries
        exact otherKey entry inOld different
    · rename_i notSpent
      have below : transmission.attempts < pace.limit := by
        rw [keeps.limit] at notSpent
        omega
      refine ⟨⟨keeps.timeoutSeconds, keeps.limit, keeps.capacity⟩, ?_,
        queued, others, ?_, waiting, ?_⟩
      · intro entry member
        rcases OrderedDict.mem_entries_set.mp member with
          ⟨sameKey, sameValue⟩ | ⟨_, inOld⟩
        · rw [sameKey, sameValue]
        · exact keyed entry inOld
      · intro other member
        obtain ⟨entry, inEntries, rfl⟩ := List.mem_map.mp member
        rcases OrderedDict.mem_entries_set.mp inEntries with
          ⟨_, sameValue⟩ | ⟨different, inOld⟩
        · rw [sameValue]
          exact .inl ⟨stamped, first, now,
            flight.resend later soon below, behind⟩
        · exact otherKey entry inOld different
      · exact inTime_append sent stamped
          (flight.resent_in_time soon below) true

/-- The first loop. -/
theorem resend_all
    {transmissions : List Transmission}
    (resending :
      Resending pace stamp pumpedAt now transmissions progress)
    (later : pumpedAt ≤ now)
    (soon : now ≤ pumpedAt + pace.gap) :
    Resending pace stamp pumpedAt now []
      (transmissions.foldl (ReliableSender.resend now) progress) := by
  induction transmissions generalizing progress with
  | nil =>
      exact resending
  | cons transmission rest inductionHypothesis =>
      exact inductionHypothesis (resending.resend later soon)

end Resending

/-- In the second loop of `pump` the rest of the queue is in time. -/
structure Starting
    (pace : Pace)
    (stamp : Bytes → Time → Prop)
    (now : Time)
    (queue : List Transmission)
    (progress : ReliableSender × PumpResult) : Prop where
  keeps :
    progress.1.HasPace pace
  keyed :
    ∀ entry ∈ progress.1.pending.entries, entry.2.messageId = entry.1
  queued :
    ∀ transmission ∈ queue, transmission.Stamped stamp
  inFlight :
    ∀ transmission ∈ progress.1.pending.values,
      transmission.OnTime pace stamp queue now
  soon :
    pace.Soon queue now
  sent :
    ∀ packet ∈ progress.2.packets, InTime pace stamp now packet

namespace Starting

variable
  {pace : Pace}
  {stamp : Bytes → Time → Prop}
  {now : Time}
  {transmission : Transmission}
  {rest queue : List Transmission}
  {sender : ReliableSender}
  {result : PumpResult}

/-- One turn of the second loop. -/
theorem start
    (starting :
      Starting pace stamp now (transmission :: rest) (sender, result)) :
    Starting pace stamp now rest
      ({ sender with
          pending := sender.pending.set transmission.messageId
            { transmission with
              attempts := 1
              firstSentAt := some now
              lastSentAt := some now } },
        { result with
          packets := result.packets ++
            transmission.packets.map fun packet =>
              { payload := packet, retransmission := false } }) := by
  obtain ⟨keeps, keyed, queued, inFlight, soon, sent⟩ := starting
  have stamped := queued transmission List.mem_cons_self
  have lifetime := pace.lifetime_nonneg
  have patience := pace.patience_mono (Nat.zero_le (pace.limit - 1))
  have notLate := soon.1
  refine ⟨⟨keeps.timeoutSeconds, keeps.limit, keeps.capacity⟩, ?_, ?_,
    ?_, ?_, ?_⟩
  · intro entry member
    rcases OrderedDict.mem_entries_set.mp member with
      ⟨sameKey, sameValue⟩ | ⟨_, inOld⟩
    · rw [sameKey, sameValue]
    · exact keyed entry inOld
  · exact fun other member => queued other (List.mem_cons_of_mem _ member)
  · apply OrderedDict.forall_values_set
    · intro other member
      obtain ⟨ownStamps, first, last, flight, behind⟩ :=
        inFlight other member
      exact ⟨ownStamps, first, last, flight, behind.2.mono (by linarith)⟩
    · exact ⟨stamped, now, now, .start notLate, soon.2⟩
  · exact soon.2.mono (by linarith)
  · refine inTime_append sent stamped ?_ false
    rw [Pace.patience, Finset.sum_range_zero] at patience
    rw [Pace.longest]
    linarith

/-- The second loop. -/
theorem startQueued
    (starting : Starting pace stamp now queue (sender, result))
    {window : Nat}
    (positive : 1 ≤ window) :
    (ReliableSender.startQueued now window queue
        (sender, result)).1.OnTime pace stamp now ∧
      ∀ packet ∈
          (ReliableSender.startQueued now window queue
            (sender, result)).2.packets,
        InTime pace stamp now packet := by
  induction queue generalizing sender result with
  | nil =>
      obtain ⟨keeps, keyed, queued, inFlight, _, sent⟩ := starting
      exact ⟨⟨⟨keeps.timeoutSeconds, keeps.limit, keeps.capacity⟩, keyed,
        queued, inFlight, fun _ => trivial⟩, sent⟩
  | cons transmission rest inductionHypothesis =>
      unfold ReliableSender.startQueued
      split
      · exact inductionHypothesis starting.start
      · rename_i full
        obtain ⟨keeps, keyed, queued, inFlight, _, sent⟩ := starting
        refine ⟨⟨⟨keeps.timeoutSeconds, keeps.limit, keeps.capacity⟩,
          keyed, queued, inFlight, ?_⟩, sent⟩
        intro isIdle
        dsimp only at isIdle
        omega

end Starting

/-- `pump` keeps all messages on time, and emits packets in time. -/
theorem OnTime.pump
    {pace : Pace}
    {stamp : Bytes → Time → Prop}
    {pumpedAt now : Time}
    {sender : ReliableSender}
    (onTime : sender.OnTime pace stamp pumpedAt)
    (later : pumpedAt ≤ now)
    (soon : now ≤ pumpedAt + pace.gap) :
    (sender.pump now).1.OnTime pace stamp now ∧
      ∀ packet ∈ (sender.pump now).2.packets,
        InTime pace stamp now packet := by
  have queueSoon : pace.Soon sender.queue now := by
    cases values : sender.pending.values with
    | nil =>
        refine (onTime.idle ?_).mono soon
        rw [OrderedDict.length, ← List.length_map Prod.snd]
        exact congrArg List.length values
    | cons transmission rest =>
        obtain ⟨_, first, last, flight, behind⟩ :=
          onTime.inFlight transmission
            (by rw [values]; exact List.mem_cons_self)
        exact behind.mono (flight.le_lifetime soon)
  have resending :
      Resending pace stamp pumpedAt now sender.pending.values
        (sender, { packets := [], exhaustedMessages := 0 }) :=
    ⟨onTime.keeps, onTime.keyed, onTime.queued, onTime.inFlight,
      fun _ member => .inr member, queueSoon,
      fun packet member => by cases member⟩
  have resent := resending.resend_all later soon
  have starting :
      Starting pace stamp now
        (sender.pending.values.foldl (ReliableSender.resend now)
          (sender, { packets := [], exhaustedMessages := 0 })).1.queue
        (sender.pending.values.foldl (ReliableSender.resend now)
          (sender, { packets := [], exhaustedMessages := 0 })) :=
    ⟨resent.keeps, resent.keyed, resent.queued,
      fun transmission member =>
        (resent.inFlight transmission member).resolve_right
          List.not_mem_nil,
      resent.soon, resent.sent⟩
  exact starting.startQueued (le_max_left _ _)

/-- What is known of the packets may grow. -/
theorem OnTime.mono
    {pace : Pace}
    {stamp more : Bytes → Time → Prop}
    {pumpedAt : Time}
    {sender : ReliableSender}
    (onTime : sender.OnTime pace stamp pumpedAt)
    (weaker : ∀ packet time, stamp packet time → more packet time) :
    sender.OnTime pace more pumpedAt where
  keeps := onTime.keeps
  keyed := onTime.keyed
  queued transmission member packet inPackets :=
    weaker _ _ (onTime.queued transmission member packet inPackets)
  inFlight transmission member := by
    obtain ⟨stamped, flight⟩ := onTime.inFlight transmission member
    exact ⟨fun packet inPackets => weaker _ _ (stamped packet inPackets),
      flight⟩
  idle := onTime.idle

end ReliableSender

end H3ntun

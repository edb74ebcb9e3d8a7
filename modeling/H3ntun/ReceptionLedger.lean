import H3ntun.MessageFlow
import H3ntun.MetricsLedger

namespace H3ntun

/-!
# How what is read is counted

Every packet a receive loop reads and every datagram an inner loop reads is
counted once, under the counter that says what became of it.
-/

/-- Metric calls that raise no counters but those allowed. -/
structure WritesOnly
    (allowed : Counter → Bool)
    (calls : List MetricCall) : Prop where
  entries :
    ∀ call ∈ calls, ∀ entry ∈ call.entries, allowed entry.1 = true

namespace WritesOnly

variable {allowed : Counter → Bool} {rest : List MetricCall}

theorem total_eq_zero
    {calls : List MetricCall}
    (writes : WritesOnly allowed calls)
    {counter : Counter}
    (notAllowed : allowed counter = false) :
    MetricCall.total counter calls = 0 := by
  apply Ledger.total_eq_zero
  rintro entry member rfl
  obtain ⟨call, inCalls, inEntries⟩ := List.mem_flatMap.mp member
  rw [writes.entries call inCalls entry inEntries] at notAllowed
  cases notAllowed

theorem mono
    {calls : List MetricCall}
    (writes : WritesOnly allowed calls)
    {more : Counter → Bool}
    (weaker : ∀ counter, allowed counter = true → more counter = true) :
    WritesOnly more calls :=
  ⟨fun call inCalls entry inEntries =>
    weaker _ (writes.entries call inCalls entry inEntries)⟩

theorem nil : WritesOnly allowed [] :=
  ⟨fun _ member => by cases member⟩

theorem append
    {first later : List MetricCall}
    (firstWrites : WritesOnly allowed first)
    (laterWrites : WritesOnly allowed later) :
    WritesOnly allowed (first ++ later) where
  entries call member := by
    rcases List.mem_append.mp member with inFirst | inLater
    · exact firstWrites.entries call inFirst
    · exact laterWrites.entries call inLater

theorem cons
    {call : MetricCall}
    (entries : ∀ entry ∈ call.entries, allowed entry.1 = true)
    (restWrites : WritesOnly allowed rest) :
    WritesOnly allowed (call :: rest) :=
  ⟨List.forall_mem_cons.mpr ⟨entries, restWrites.entries⟩⟩

theorem increment
    {counter : Counter}
    {amount : Nat}
    (isAllowed : allowed counter = true)
    (restWrites : WritesOnly allowed rest) :
    WritesOnly allowed (.increment counter amount :: rest) :=
  .cons (by simp [isAllowed]) restWrites

theorem add
    {traffic : Traffic}
    {byteCount : Nat}
    (packets : allowed (.packets traffic) = true)
    (bytes : allowed (.bytes traffic) = true)
    (restWrites : WritesOnly allowed rest) :
    WritesOnly allowed (.add traffic byteCount :: rest) :=
  .cons (by simp [packets, bytes]) restWrites

theorem set
    {settings : List Setting}
    (restWrites : WritesOnly allowed rest) :
    WritesOnly allowed (.set settings :: rest) :=
  .cons (by simp) restWrites

theorem transportCalls
    (side : Side)
    (packet : Bytes)
    (retransmission : Bool)
    (sentAt : Time) :
    WritesOnly Side.isTransport
      (side.transportCalls packet retransmission sentAt) := by
  cases retransmission
  · exact .add rfl rfl (.increment rfl (.set .nil))
  · exact .add rfl rfl (.increment rfl (.increment rfl (.set .nil)))

theorem transports
    {Sent : Type}
    (side : Side)
    (packet : Sent → Bytes)
    (retransmission : Sent → Bool)
    (sentAt : Time)
    (items : List Sent) :
    WritesOnly Side.isTransport (items.flatMap fun item =>
      side.transportCalls (packet item) (retransmission item)
        sentAt) := by
  induction items with
  | nil =>
      exact .nil
  | cons item rest inductionHypothesis =>
      rw [List.flatMap_cons]
      exact .append (.transportCalls ..) inductionHypothesis

end WritesOnly

namespace Counter

/-- Counters the `try` block of a receive loop can raise. -/
def isReply : Counter → Bool
  | .acksTx => true
  | .acksRx => true
  | .ackedMessages => true
  | .staleAckDrops => true
  | .unknownAckDrops => true
  | .fragmentsReceived => true
  | .duplicateMessages => true
  | .fecRecoveries => true
  | counter => Side.isTransport counter

/-- Counters a step that reads nothing can raise. -/
def isInternal : Counter → Bool
  | .oversizeDrops => true
  | .fragmentMessages => true
  | .fragmentsCreated => true
  | .queueDrops => true
  | .retryExhausted => true
  | .reassemblyTimeouts => true
  | counter => Side.isTransport counter

theorem isReply_of_isTransport
    (counter : Counter)
    (isTransport : Side.isTransport counter = true) :
    counter.isReply = true := by
  cases counter <;> first | rfl | cases isTransport

theorem isInternal_of_isTransport
    (counter : Counter)
    (isTransport : Side.isTransport counter = true) :
    counter.isInternal = true := by
  cases counter <;> first | rfl | cases isTransport

end Counter

/-- Counters a receive loop can raise. -/
def Counter.isReception : Counter → Bool
  | .sourceMismatchDrops => true
  | .authFailures => true
  | .replayDrops => true
  | .encryptedFramesRx => true
  | counter => counter.isReply

theorem Counter.isReception_of_isReply
    (counter : Counter)
    (isReply : counter.isReply = true) :
    counter.isReception = true := by
  cases counter <;> first | rfl | cases isReply

theorem TransmitCalls.writesOnly_of_nil
    {side : Side}
    {sentAt : Time}
    {calls : List MetricCall}
    (transmits : TransmitCalls side sentAt [] calls) :
    WritesOnly Side.isTransport calls := by
  cases transmits with
  | failed =>
      exact .nil
  | sent packet retransmission =>
      exact .append (.transportCalls ..) .nil

theorem TransmitCalls.writesOnly
    {side : Side}
    {sentAt : Time}
    {last calls : List MetricCall}
    (transmits : TransmitCalls side sentAt last calls)
    (isLast : last = [] ∨ last = [.increment .acksTx 1]) :
    WritesOnly Counter.isReply calls := by
  cases transmits with
  | failed =>
      exact .nil
  | sent packet retransmission =>
      refine .append ((WritesOnly.transportCalls ..).mono
        Counter.isReply_of_isTransport) ?_
      rcases isLast with rfl | rfl
      · exact .nil
      · exact .increment rfl .nil

namespace Agent

theorem writesOnly_fragmentCalls
    (result : ReassemblyResult) :
    WritesOnly Counter.isReply (fragmentCalls result) := by
  unfold fragmentCalls
  refine .increment rfl (.append ?_ ?_)
  · split
    · exact .increment rfl .nil
    · exact .nil
  · split
    · exact .increment rfl .nil
    · exact .nil

theorem Dispatches.writesOnly
    {agent : Agent}
    {frame : Frame}
    {surroundings : Surroundings}
    {readings : Readings}
    {counted : Counted}
    (dispatched :
      agent.Dispatches frame surroundings readings counted) :
    WritesOnly Counter.isReply counted.calls := by
  cases dispatched with
  | ignored | rejected =>
      exact .nil
  | pong =>
      exact .set .nil
  | staleAck | unknownAck =>
      exact .increment rfl (.increment rfl .nil)
  | acknowledged messageId inFlight latency =>
      cases latency with
      | none =>
          exact .increment rfl (.increment rfl .nil)
      | some milliseconds =>
          exact .increment rfl (.set (.increment rfl .nil))
  | answered isForeign isPing calls transmits =>
      exact transmits.writesOnly (.inl rfl)
  | stored isData result | kept isData result =>
      exact writesOnly_fragmentCalls result
  | delivered isData result answer payload hasPayload acked isAck calls
      transmits =>
      refine .append (writesOnly_fragmentCalls result)
        (.add rfl rfl (.append ?_ (transmits.writesOnly (.inr rfl))))
      cases agent.role.side with
      | iran =>
          exact .nil
      | foreign =>
          exact .set .nil

theorem Arrives.writesOnly
    {agent : Agent}
    {packet : Bytes}
    {source : Address}
    {surroundings : Surroundings}
    {readings : Readings}
    {counted : Counted}
    (arrives :
      agent.Arrives packet source surroundings readings counted) :
    WritesOnly Counter.isReception counted.calls := by
  cases arrives with
  | mismatched | undecoded | replayed =>
      exact .increment rfl .nil
  | repeated listens frame decoded refuses calls transmits =>
      exact .increment rfl
        ((transmits.writesOnly (.inr rfl)).mono
          Counter.isReception_of_isReply)
  | accepted listens frame decoded accepts inner dispatched =>
      exact .add rfl rfl (.increment rfl (.set
        (dispatched.writesOnly.mono Counter.isReception_of_isReply)))

/-- What the steps write that read nothing. -/
theorem writesOnly_calls
    (agent : Agent)
    (readings : Readings)
    {action : Action}
    (notReceive : action.isReceive = false)
    (notDatagram : action.isInnerDatagram = false) :
    WritesOnly Counter.isInternal
      (agent.countedAct readings action).calls := by
  have transports
      {Sent : Type}
      (packet : Sent → Bytes)
      (retransmission : Sent → Bool)
      (items : List Sent) :
      WritesOnly Counter.isInternal (items.flatMap fun item =>
        agent.role.side.transportCalls (packet item)
          (retransmission item) readings.sentAt) :=
    (WritesOnly.transports ..).mono Counter.isInternal_of_isTransport
  cases action with
  | innerDatagram payload source =>
      cases notDatagram
  | buildPacket messageId clockMs =>
      simp only [countedAct, countedBuildPacket]
      split
      · exact .increment rfl .nil
      · exact .nil
  | finishSend messageId now failing =>
      simp only [countedAct, countedFinishSend]
      split
      · refine .increment rfl (.increment rfl ?_)
        split
        · split
          · exact .increment rfl .nil
          · exact .nil
        · exact transports ..
      · exact .nil
  | keepalive surroundings =>
      have transmits :=
        agent.transmitCalls_sendControl surroundings readings none
      simp only [countedAct, countedKeepalive]
      split
      · exact transmits.writesOnly_of_nil.mono
          Counter.isInternal_of_isTransport
      · exact .nil
  | pump now =>
      simp only [countedAct, countedPump]
      split
      · refine .append (transports ..) ?_
        split
        · exact .nil
        · exact .increment rfl .nil
      · exact .nil
  | cleanup now =>
      simp only [countedAct, countedCleanup]
      split
      · refine .append ?_ (.set .nil)
        split
        · exact .nil
        · exact .increment rfl .nil
      · exact .nil
  | receive packet source surroundings =>
      cases notReceive

end Agent

/-- Counters that show what became of what a loop read. -/
def sortingCounters : List Counter := [
  .sourceMismatchDrops,
  .authFailures,
  .replayDrops,
  .encryptedFramesRx,
  .innerSourceMismatchDrops,
  .packets .innerRx]

/-- Replying sorts nothing that was read. -/
theorem WritesOnly.sortsNothing
    {calls : List MetricCall}
    (writes : WritesOnly Counter.isReply calls) :
    MetricCall.total .sourceMismatchDrops calls = 0 ∧
      MetricCall.total .authFailures calls = 0 ∧
      MetricCall.total .replayDrops calls = 0 ∧
      MetricCall.total .encryptedFramesRx calls = 0 ∧
      MetricCall.total .innerSourceMismatchDrops calls = 0 :=
  ⟨writes.total_eq_zero rfl, writes.total_eq_zero rfl,
    writes.total_eq_zero rfl, writes.total_eq_zero rfl,
    writes.total_eq_zero rfl⟩

namespace Agent

/-- What becomes of what an action reads, as the counter that shows it. -/
def sorts (agent : Agent) : Action → Option Counter
  | .receive packet source surroundings =>
      if agent.role.listens source then
        match agent.codec.decode packet surroundings.nowMs with
        | .error _ => some .authFailures
        | .ok frame =>
            if (agent.replay.accept frame.sequence frame.sessionId).2 then
              some .encryptedFramesRx
            else
              some .replayDrops
      else
        some .sourceMismatchDrops
  | .innerDatagram _ source =>
      if agent.role.ignores source then
        some .innerSourceMismatchDrops
      else
        some (.packets .innerRx)
  | _ => none

theorem sorts_mem
    {agent : Agent}
    {action : Action}
    {counter : Counter}
    (sorted : agent.sorts action = some counter) :
    counter ∈ sortingCounters := by
  unfold sorts at sorted
  split at sorted
  · split at sorted
    · split at sorted
      · cases sorted
        decide
      · split at sorted <;> cases sorted <;> decide
    · cases sorted
      decide
  · split at sorted <;> cases sorted <;> decide
  · cases sorted

theorem total_sorts_receive
    {agent : Agent}
    {packet : Bytes}
    {source : Address}
    {surroundings : Surroundings}
    {readings : Readings}
    {counted : Counted}
    (arrives :
      agent.Arrives packet source surroundings readings counted)
    (noDatagram : MetricCall.total (.packets .innerRx) counted.calls = 0)
    {counter : Counter}
    (sorting : counter ∈ sortingCounters) :
    MetricCall.total counter counted.calls =
      if agent.sorts (.receive packet source surroundings) =
          some counter then
        1
      else
        0 := by
  have isOne :
      counter = .sourceMismatchDrops ∨ counter = .authFailures ∨
        counter = .replayDrops ∨ counter = .encryptedFramesRx ∨
        counter = .innerSourceMismatchDrops ∨
        counter = .packets .innerRx := by
    simpa [sortingCounters] using sorting
  unfold sorts
  cases arrives with
  | mismatched ignored =>
      rcases isOne with rfl | rfl | rfl | rfl | rfl | rfl <;>
        simp [ignored]
  | undecoded listens message refused =>
      rcases isOne with rfl | rfl | rfl | rfl | rfl | rfl <;>
        simp [listens, refused]
  | replayed listens frame decoded refuses =>
      rcases isOne with rfl | rfl | rfl | rfl | rfl | rfl <;>
        simp [listens, decoded, refuses]
  | repeated listens frame decoded refuses calls transmits =>
      obtain ⟨noMismatch, noFailure, noReplay, noFrame, noInner⟩ :=
        (transmits.writesOnly (.inr rfl)).sortsNothing
      rcases isOne with rfl | rfl | rfl | rfl | rfl | rfl
      case inr.inr.inr.inr.inr =>
        simp [listens, decoded, refuses, noDatagram]
      all_goals
        simp [listens, decoded, refuses, noMismatch, noFailure, noReplay,
          noFrame, noInner]
  | accepted listens frame decoded accepts inner dispatched =>
      obtain ⟨noMismatch, noFailure, noReplay, noFrame, noInner⟩ :=
        dispatched.writesOnly.sortsNothing
      rcases isOne with rfl | rfl | rfl | rfl | rfl | rfl
      case inr.inr.inr.inr.inr =>
        rw [noDatagram]
        simp [listens, decoded, accepts]
      all_goals
        simp [listens, decoded, accepts, noMismatch, noFailure, noReplay,
          noFrame, noInner]

/-- A datagram is counted as ignored or as taken. -/
theorem total_sorts_innerDatagram
    (agent : Agent)
    (readings : Readings)
    (payload : Bytes)
    (source : Address)
    {counter : Counter}
    (sorting : counter ∈ sortingCounters) :
    MetricCall.total counter
        (agent.countedInnerLoop payload source readings).calls =
      if agent.sorts (.innerDatagram payload source) = some counter then
        1
      else
        0 := by
  have isOne :
      counter = .sourceMismatchDrops ∨ counter = .authFailures ∨
        counter = .replayDrops ∨ counter = .encryptedFramesRx ∨
        counter = .innerSourceMismatchDrops ∨
        counter = .packets .innerRx := by
    simpa [sortingCounters] using sorting
  have taken
      (beginning : Agent)
      (counter : Counter)
      (sorting : counter ≠ .oversizeDrops) :
      MetricCall.total counter
          ((beginning.countedBeginSend payload).after [
            .add .innerRx payload.length,
            .set [.lastInnerAt readings.wall]]).calls =
        MetricCall.total counter [.add .innerRx payload.length] := by
    simp only [Counted.after, countedBeginSend]
    split <;> simp [Ne.symm sorting]
  have ignores
      (ignored : agent.role.ignores source = true) :
      MetricCall.total counter
          [.increment .innerSourceMismatchDrops 1] =
        if agent.sorts (.innerDatagram payload source) =
            some counter then
          1
        else
          0 := by
    rcases isOne with rfl | rfl | rfl | rfl | rfl | rfl <;>
      simp [sorts, ignored]
  have takes
      (beginning : Agent)
      (notIgnored : agent.role.ignores source = false) :
      MetricCall.total counter
          ((beginning.countedBeginSend payload).after [
            .add .innerRx payload.length,
            .set [.lastInnerAt readings.wall]]).calls =
        if agent.sorts (.innerDatagram payload source) =
            some counter then
          1
        else
          0 := by
    rw [taken]
    · rcases isOne with rfl | rfl | rfl | rfl | rfl | rfl <;>
        simp [sorts, notIgnored]
    · rcases isOne with rfl | rfl | rfl | rfl | rfl | rfl <;> decide
  unfold countedInnerLoop
  dsimp only
  split
  · rename_i innerPeer expectedPeer expectedSource roleShape
    have reads :
        agent.role.ignores source = expectedPeer.any (· ≠ source) := by
      rw [roleShape]
      rfl
    split
    · rename_i ignored
      exact ignores (reads.trans ignored)
    · rename_i notIgnored
      exact takes _ (reads.trans (Bool.eq_false_iff.mpr notIgnored))
  · rename_i innerPeerAddress roleShape
    have reads :
        agent.role.ignores source = decide (source ≠ innerPeerAddress) := by
      rw [roleShape]
      rfl
    split
    · rename_i ignored
      exact ignores (reads.trans (decide_eq_true ignored))
    · rename_i notIgnored
      exact takes _ (reads.trans (decide_eq_false notIgnored))

/-- What an action reads raises its own counter, by one, and no other. -/
theorem total_sorts
    (agent : Agent)
    (readings : Readings)
    (action : Action)
    {counter : Counter}
    (sorting : counter ∈ sortingCounters) :
    MetricCall.total counter (agent.countedAct readings action).calls =
      if agent.sorts action = some counter then 1 else 0 := by
  have internal
      (notReceive : action.isReceive = false)
      (notDatagram : action.isInnerDatagram = false) :
      MetricCall.total counter (agent.countedAct readings action).calls =
        0 := by
    have idle := agent.idle_act notReceive notDatagram
    have booked := agent.isBooked_countedAct readings action
    have writes := agent.writesOnly_calls readings notReceive notDatagram
    have noFrame := booked.framesReceived
    have noDatagram := booked.datagramsTaken
    rw [Effect.accepted_doings, effect_countedAct, idle.accepted]
      at noFrame
    rw [Effect.begun_doings, effect_countedAct, idle.begun] at noDatagram
    have isOne :
        counter = .sourceMismatchDrops ∨ counter = .authFailures ∨
          counter = .replayDrops ∨ counter = .encryptedFramesRx ∨
          counter = .innerSourceMismatchDrops ∨
          counter = .packets .innerRx := by
      simpa [sortingCounters] using sorting
    rcases isOne with rfl | rfl | rfl | rfl | rfl | rfl
    · exact writes.total_eq_zero rfl
    · exact writes.total_eq_zero rfl
    · exact writes.total_eq_zero rfl
    · exact noFrame
    · exact writes.total_eq_zero rfl
    · exact noDatagram
  cases action with
  | innerDatagram payload source =>
      exact agent.total_sorts_innerDatagram readings payload source sorting
  | receive packet source surroundings =>
      have booked :=
        (agent.isBooked_countedAct readings
          (.receive packet source surroundings)).datagramsTaken
      have frees :
          (agent.act (.receive packet source surroundings)).Frees agent :=
        agent.frees_act rfl
      rw [Effect.begun_doings, effect_countedAct, frees.begun] at booked
      exact total_sorts_receive
        (agent.countedReceiveLoop_cases surroundings readings packet
          source) booked sorting
  | buildPacket | finishSend | keepalive | pump | cleanup =>
      exact internal rfl rfl

end Agent

namespace Station

/-- What became of what a run reads, in order. -/
def sorted
    (station : Station)
    (inputs : List (Action × Readings)) : List Counter :=
  machine.labels
    (fun before input => before.party.agent.sorts input.1) station inputs

/--
In every run each packet a receive loop reads is counted once, as coming from
a wrong source, as not authentic, as replayed or as received, according to
what the agent made of it at that time; and so is each datagram an inner loop
reads.
-/
theorem everything_read_counted_as_sorted
    (station : Station)
    (inputs : List (Action × Readings)) :
    ∀ counter ∈ sortingCounters,
      (machine.run station inputs).metrics.counts counter =
        station.metrics.counts counter +
          (station.sorted inputs).count counter := by
  intro counter sorting
  refine machine.count_labels_run _ counter
    (fun state => state.metrics.counts counter) ?_ station inputs
  intro before input
  have step := before.party.agent.total_sorts input.2 input.1 sorting
  rw [← step]
  exact counts_act before input.1 input.2 counter

theorem everything_read_counted_as_sorted_exchange :
    (plain .foreign).sorted exchange =
        [.packets .innerRx, .encryptedFramesRx, .encryptedFramesRx,
          .replayDrops, .authFailures, .innerSourceMismatchDrops] ∧
      (machine.run (plain .foreign) exchange).metrics.counts
        .encryptedFramesRx = 2 ∧
      (machine.run (plain .foreign) exchange).metrics.counts
        .replayDrops = 1 := by
  have sorted :
      (plain .foreign).sorted exchange =
        [.packets .innerRx, .encryptedFramesRx, .encryptedFramesRx,
          .replayDrops, .authFailures, .innerSourceMismatchDrops] := by
    decide +kernel
  refine ⟨sorted, ?_, ?_⟩
  · rw [everything_read_counted_as_sorted _ _ _ (by decide), sorted]
    rfl
  · rw [everything_read_counted_as_sorted _ _ _ (by decide), sorted]
    rfl

end Station

end H3ntun

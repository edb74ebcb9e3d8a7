import H3ntun.ReceptionLedger

namespace H3ntun

/-!
# Where every message ends up

A datagram the inner loop takes is refused, dropped, unfinished, queued, in
flight, acknowledged or given up, and the counters say how many of each.
-/

/-- A `send_data` call ended by an exception its loop does not catch. -/
def Action.abandons (action : Action) (effect : Effect) : Bool :=
  match action with
  | .buildPacket .. =>
      effect.raised.any fun failure => !failure.isProtocolError
  | _ => false

/-- What a step does with messages and what it writes about them. -/
structure Counted.Settles
    (before : Agent)
    (action : Action)
    (counted : Counted) : Prop where
  calls :
    counted.effect.begun.toList.length + before.sending.length =
      MetricCall.total .oversizeDrops counted.calls +
        MetricCall.total .fragmentMessages counted.calls +
        counted.effect.agent.sending.length +
        if action.abandons counted.effect then 1 else 0
  messages :
    before.reliable = true →
    MetricCall.total .fragmentMessages counted.calls +
        before.sender.held =
      MetricCall.total .queueDrops counted.calls +
        MetricCall.total .ackedMessages counted.calls +
        MetricCall.total .retryExhausted counted.calls +
        counted.effect.agent.sender.held
  mode :
    counted.effect.agent.reliable = before.reliable

namespace Agent

/-- A message freed is held no longer. -/
theorem held_of_frees
    {agent : Agent}
    {effect : Effect}
    (frees : effect.Frees agent) :
    effect.acknowledged.toList.length + effect.agent.sender.held =
      agent.sender.held := by
  rcases frees.sender with
    ⟨noneFreed, sameSender⟩ | ⟨messageId, inFlight, now, freed, sender⟩
  · rw [noneFreed, sameSender]
    exact Nat.zero_add _
  · have fewer := agent.sender.held_acknowledge inFlight now
    rw [freed, sender]
    simp only [Option.toList_some, List.length_singleton]
    omega

/-- A step that frees at most one message, and writes down if so. -/
theorem settles_of_frees
    (agent : Agent)
    (readings : Readings)
    {action : Action}
    (isReply : action.isReply = true)
    {allowed : Counter → Bool}
    (writes : WritesOnly allowed (agent.countedAct readings action).calls)
    (quiet :
      allowed .oversizeDrops = false ∧
        allowed .fragmentMessages = false ∧
        allowed .queueDrops = false ∧
        allowed .retryExhausted = false) :
    (agent.countedAct readings action).Settles agent action := by
  have frees := agent.frees_act isReply
  have held := held_of_frees frees
  have written := (agent.isBooked_countedAct readings action).acknowledged
  have abandonsNothing :
      action.abandons (agent.act action) = false := by
    cases action <;> first | rfl | cases isReply
  rw [Effect.acknowledged_doings] at written
  constructor
  · rw [agent.effect_countedAct, frees.begun, frees.sending,
      writes.total_eq_zero quiet.1, writes.total_eq_zero quiet.2.1,
      abandonsNothing]
    simp
  · intro _
    rw [written, agent.effect_countedAct,
      writes.total_eq_zero quiet.2.1, writes.total_eq_zero quiet.2.2.1,
      writes.total_eq_zero quiet.2.2.2]
    omega
  · rw [agent.effect_countedAct]
    exact frees.mode

/-- Transmissions leave the books of messages alone. -/
theorem settlesNothing
    {calls : List MetricCall}
    (quiet : WritesOnly Side.isTransport calls) :
    MetricCall.total .oversizeDrops calls = 0 ∧
      MetricCall.total .fragmentMessages calls = 0 ∧
      MetricCall.total .queueDrops calls = 0 ∧
      MetricCall.total .ackedMessages calls = 0 ∧
      MetricCall.total .retryExhausted calls = 0 :=
  ⟨quiet.total_eq_zero rfl, quiet.total_eq_zero rfl,
    quiet.total_eq_zero rfl, quiet.total_eq_zero rfl,
    quiet.total_eq_zero rfl⟩

/-- Cutting up a message fails with a protocol error, if it fails. -/
theorem isProtocolError_of_fragmentMessage
    {payload : Bytes}
    {fragmentPayloadBytes : Nat}
    {fecEnabled : Bool}
    {failure : Failure}
    (refused :
      fragmentMessage payload fragmentPayloadBytes fecEnabled =
        .error failure) :
    failure.isProtocolError = true := by
  unfold fragmentMessage at refused
  dsimp only at refused
  split at refused
  · cases refused
    rfl
  · split at refused
    · cases refused
      rfl
    · split at refused
      · cases refused
        rfl
      · split at refused <;> cases refused

theorem settles_beginSend
    {agent : Agent}
    {settled : List Nat}
    (orderly : agent.Orderly settled)
    (payload : Bytes)
    (source : Address)
    (received : List MetricCall)
    (quiet : WritesOnly Side.isTransport received) :
    ((agent.countedBeginSend payload).after received).Settles agent
      (.innerDatagram payload source) := by
  obtain ⟨noRefusal, noMessage, noDrop, noAck, noExhaustion⟩ :=
    settlesNothing quiet
  unfold countedBeginSend beginSend
  dsimp only
  cases fragmented : fragmentMessage payload agent.fragmentPayloadBytes
      agent.fecEnabled with
  | error failure =>
      have isProtocol := isProtocolError_of_fragmentMessage fragmented
      refine ⟨?_, fun _ => ?_, ?_⟩ <;>
        simp [Counted.after, Effect.catching, isProtocol,
          Action.abandons, noRefusal, noMessage, noDrop, noAck,
          noExhaustion]
  | ok fragments =>
      have isNew : agent.messageId + 1 ∉ agent.sending.keys := by
        intro member
        have drawn := orderly.drawn _ (.inr (.inl member))
        omega
      have longer :=
        OrderedDict.length_set_of_not_mem isNew
          ({ remaining := fragments } : SendJob)
      refine ⟨?_, fun _ => ?_, ?_⟩ <;>
        simp [Counted.after, Effect.catching, Action.abandons, longer,
          noRefusal, noMessage, noDrop, noAck, noExhaustion]
      omega

theorem settles_innerLoop
    {agent : Agent}
    {settled : List Nat}
    (orderly : agent.Orderly settled)
    (readings : Readings)
    (payload : Bytes)
    (source : Address) :
    (agent.countedInnerLoop payload source readings).Settles agent
      (.innerDatagram payload source) := by
  have quiet :
      WritesOnly Side.isTransport [
        .add .innerRx payload.length,
        .set [.lastInnerAt readings.wall]] :=
    .add rfl rfl (.set .nil)
  have ignored :
      Counted.Settles agent (.innerDatagram payload source) {
        effect := { agent := agent }
        calls := [.increment .innerSourceMismatchDrops 1] } := by
    refine ⟨?_, fun _ => ?_, rfl⟩ <;> simp [Action.abandons]
  unfold countedInnerLoop
  dsimp only
  split
  · rename_i innerPeer expectedPeer expectedSource roleShape
    split
    · exact ignored
    · have withRole :
          Agent.Orderly { agent with
            role := .iran (some source) expectedPeer expectedSource }
            settled :=
        orderly.of_fewer orderly.distinct (List.Subset.refl _)
          (fun _ _ found => found) le_rfl
      obtain ⟨calls, messages, mode⟩ :=
        settles_beginSend withRole payload source _ quiet
      exact ⟨calls, messages, mode⟩
  · split
    · exact ignored
    · exact settles_beginSend orderly payload source _ quiet

theorem settles_buildPacket
    (agent : Agent)
    (messageId : Nat)
    (clockMs : Int) :
    (agent.countedBuildPacket messageId clockMs).Settles agent
      (.buildPacket messageId clockMs) := by
  unfold countedBuildPacket
  rcases agent.buildPacket_cases messageId clockMs with
    shape | ⟨present, ⟨failure, shape⟩ | ⟨job, packet, _, shape⟩⟩
  · rw [shape]
    refine ⟨?_, fun _ => ?_, rfl⟩ <;> simp [Action.abandons]
  · have shorter := OrderedDict.length_erase_of_mem present
    rw [shape]
    cases isProtocol : failure.isProtocolError <;>
      refine ⟨?_, fun _ => ?_, rfl⟩ <;>
        simp [Action.abandons, isProtocol] <;> omega
  · have sameLength := OrderedDict.length_set_of_mem present job
    rw [shape]
    refine ⟨?_, fun _ => ?_, rfl⟩ <;>
      simp [Action.abandons, sameLength]

theorem settles_finishSend
    {agent : Agent}
    {settled : List Nat}
    (orderly : agent.Orderly settled)
    (readings : Readings)
    (messageId : Nat)
    (now : Time)
    (failing : Option Nat) :
    (agent.countedFinishSend messageId now failing readings).Settles agent
      (.finishSend messageId now failing) := by
  have nothing :
      Counted.Settles agent (.finishSend messageId now failing)
        { effect := { agent := agent } } := by
    refine ⟨?_, fun _ => ?_, rfl⟩ <;> simp [Action.abandons]
  unfold countedFinishSend finishSend
  cases built : agent.sending.get? messageId with
  | none =>
      exact nothing
  | some job =>
      obtain ⟨_ | ⟨fragment, rest⟩, packets⟩ := job
      case cons =>
        exact nothing
      have present : messageId ∈ agent.sending.keys :=
        OrderedDict.mem_keys_iff.mpr ⟨_, built⟩
      have shorter := OrderedDict.length_erase_of_mem present
      have quiet (items : List Bytes) :=
        settlesNothing (WritesOnly.transports agent.role.side id
          (fun _ => false) readings.sentAt items)
      simp only [id_eq] at quiet
      dsimp only
      by_cases reliable : agent.reliable = true
      · have isNew := (orderly.apart messageId present).1
        have notEmpty := orderly.unfinished messageId _ built rfl
        rw [if_pos reliable, if_pos reliable]
        rcases agent.sender.enqueue_of_new notEmpty isNew now with
          ⟨dropped, same⟩ | ⟨queued, more⟩
        · refine ⟨?_, fun _ => ?_, rfl⟩
          · simp [Action.abandons, dropped]
            omega
          · simp [dropped, same]
        · refine ⟨?_, fun _ => ?_, rfl⟩
          · simp [Action.abandons, queued]
            omega
          · simp [queued, more]
            omega
      · rw [if_neg reliable, if_neg reliable]
        refine ⟨?_, fun isReliable => absurd isReliable reliable, ?_⟩
        · split
          · simp [Action.abandons, quiet]
            omega
          · split <;> simp [Action.abandons, quiet] <;> omega
        · split
          · rfl
          · split <;> rfl

/-- Every step agrees with what it writes about messages. -/
theorem settles_countedAct
    {agent : Agent}
    {settled : List Nat}
    (orderly : agent.Orderly settled)
    (readings : Readings)
    (action : Action) :
    (agent.countedAct readings action).Settles agent action := by
  cases action with
  | innerDatagram payload source =>
      exact settles_innerLoop orderly readings payload source
  | buildPacket messageId clockMs =>
      exact agent.settles_buildPacket messageId clockMs
  | finishSend messageId now failing =>
      exact settles_finishSend orderly readings messageId now failing
  | receive packet source surroundings =>
      have arrives :=
        agent.countedReceiveLoop_cases surroundings readings packet source
      exact agent.settles_of_frees readings rfl arrives.writesOnly
        ⟨rfl, rfl, rfl, rfl⟩
  | keepalive surroundings =>
      have writes :
          WritesOnly Side.isTransport
            (agent.countedKeepalive surroundings readings).calls := by
        unfold countedKeepalive
        split
        · exact (agent.transmitCalls_sendControl surroundings readings
            none).writesOnly_of_nil
        · exact .nil
      exact agent.settles_of_frees readings rfl writes
        ⟨rfl, rfl, rfl, rfl⟩
  | cleanup now =>
      have writes :
          WritesOnly (fun counter => counter = .reassemblyTimeouts)
            (agent.countedCleanup now).calls := by
        unfold countedCleanup
        split
        · refine .append ?_ (.set .nil)
          split
          · exact .nil
          · exact .increment rfl .nil
        · exact .nil
      exact agent.settles_of_frees readings rfl writes
        ⟨rfl, rfl, rfl, rfl⟩
  | pump now =>
      simp only [countedAct, countedPump, Agent.pump]
      by_cases reliable : agent.reliable = true
      · have left := agent.sender.held_pump orderly.distinct now
        obtain ⟨noRefusal, noMessage, noDrop, noAck, noExhaustion⟩ :=
          settlesNothing (WritesOnly.transports agent.role.side
            OutboundPacket.payload OutboundPacket.retransmission
            readings.sentAt
            (transmitted readings.fails (agent.sender.pump now).2.packets))
        rw [if_pos reliable, if_pos reliable]
        by_cases noneLost :
            (agent.sender.pump now).2.exhaustedMessages = 0
        · rw [noneLost] at left
          refine ⟨?_, fun _ => ?_, rfl⟩ <;>
            simp [Action.abandons, noneLost, noRefusal, noMessage, noDrop,
              noAck, noExhaustion]
          omega
        · refine ⟨?_, fun _ => ?_, rfl⟩ <;>
            simp [Action.abandons, noneLost, noRefusal, noMessage, noDrop,
              noAck, noExhaustion]
          omega
      · rw [if_neg reliable, if_neg reliable]
        refine ⟨?_, fun _ => ?_, rfl⟩ <;> simp [Action.abandons]

end Agent

namespace Station

/-- Message identifiers of a station are in order. -/
def Orderly (station : Station) : Prop :=
  station.party.agent.Orderly station.party.journal.acknowledged

theorem Started.orderly
    {station : Station}
    (started : station.Started) :
    station.Orderly := by
  unfold Orderly
  rw [started.journal]
  exact .of_started started.queue started.pending started.sending

theorem agent_act
    (station : Station)
    (action : Action)
    (readings : Readings) :
    (station.act action readings).party.agent =
      (station.party.agent.act action).agent :=
  congrArg Party.agent (party_act station action readings)

theorem orderly_act
    {station : Station}
    (orderly : station.Orderly)
    (action : Action)
    (readings : Readings) :
    (station.act action readings).Orderly := by
  unfold Orderly
  rw [party_act]
  exact Agent.Orderly.act orderly action

/-- Calls of `send_data` that have not become messages. -/
def unsent (station : Station) : Nat :=
  station.metrics.counts .oversizeDrops + station.party.agent.sending.length

/-- What has become of the messages handed to the sender. -/
def settled (station : Station) : Nat :=
  station.metrics.counts .queueDrops + station.party.agent.sender.held +
    station.metrics.counts .ackedMessages +
    station.metrics.counts .retryExhausted

/-- One step adds to the datagrams taken what it adds to their fates. -/
theorem taken_act
    {station : Station}
    (orderly : station.Orderly)
    (action : Action)
    (readings : Readings) :
    (station.act action readings).metrics.counts (.packets .innerRx) +
        (station.metrics.counts .fragmentMessages + station.unsent) =
      station.metrics.counts (.packets .innerRx) +
        ((station.act action readings).metrics.counts .fragmentMessages +
          (station.act action readings).unsent) +
        if action.abandons (station.party.agent.act action) then
          1
        else
          0 := by
  have step :=
    (Agent.settles_countedAct orderly readings action).calls
  have taken :=
    (station.party.agent.isBooked_countedAct readings
      action).datagramsTaken
  rw [Effect.begun_doings] at taken
  rw [← taken, Agent.effect_countedAct] at step
  simp only [unsent, agent_act, counts_act]
  omega

/-- One step adds to the messages what it adds to their fates. -/
theorem messages_act
    {station : Station}
    (orderly : station.Orderly)
    (reliable : station.party.agent.reliable = true)
    (action : Action)
    (readings : Readings) :
    (station.act action readings).metrics.counts .fragmentMessages +
        station.settled =
      station.metrics.counts .fragmentMessages +
        (station.act action readings).settled := by
  have step :=
    (Agent.settles_countedAct orderly readings action).messages reliable
  rw [Agent.effect_countedAct] at step
  simp only [settled, agent_act, counts_act]
  omega

theorem reliable_act
    {station : Station}
    (orderly : station.Orderly)
    (action : Action)
    (readings : Readings) :
    (station.act action readings).party.agent.reliable =
      station.party.agent.reliable :=
  (Agent.settles_countedAct orderly readings action).mode

/-- Calls of `send_data` that an uncaught exception ended. -/
def abandoned
    (station : Station)
    (inputs : List (Action × Readings)) : Nat :=
  (inputs.zip (machine.answers station inputs)).countP fun turn =>
    turn.1.1.abandons turn.2

/--
After every run of a process just started, each datagram it took is refused,
unfinished, lost to an exception or made into a message; and in reliable mode
each message is dropped, queued, in flight, acknowledged or given up.
-/
theorem every_message_accounted_for
    {station : Station}
    (started : station.Started)
    (inputs : List (Action × Readings)) :
    let later := machine.run station inputs
    (later.metrics.counts (.packets .innerRx) =
        later.metrics.counts .fragmentMessages +
          (later.metrics.counts .oversizeDrops +
            later.party.agent.sending.length) +
          station.abandoned inputs) ∧
      (station.party.agent.reliable = true →
        later.metrics.counts .fragmentMessages =
          later.metrics.counts .queueDrops +
            (later.party.agent.sender.queue.length +
              later.party.agent.sender.pending.length) +
            later.metrics.counts .ackedMessages +
            later.metrics.counts .retryExhausted) := by
  have zeroed (counter : Counter) : station.metrics.counts counter = 0 := by
    rw [started.counts]
    rfl
  constructor
  · have noneUnsent : station.unsent = 0 := by
      rw [unsent, zeroed, started.sending]
      rfl
    have keeps
        (before : Station)
        (input : Action × Readings)
        (orderly : before.Orderly) :
        (machine.step before input).1.Orderly :=
      orderly_act orderly input.1 input.2
    have balance :=
      machine.balance_run keeps
        (fun state => state.metrics.counts (.packets .innerRx))
        (fun state =>
          state.metrics.counts .fragmentMessages + state.unsent)
        (fun input effect => input.1.abandons effect)
        (fun before input orderly => taken_act orderly input.1 input.2)
        started.orderly inputs
    simp only [zeroed, noneUnsent, Nat.zero_add, Nat.add_zero] at balance
    exact balance
  · intro reliable
    have noneSettled : station.settled = 0 := by
      rw [settled, zeroed, zeroed, zeroed, ReliableSender.held,
        started.queue, started.pending]
      rfl
    have keeps
        (before : Station)
        (input : Action × Readings)
        (holds :
          before.Orderly ∧
            before.party.agent.reliable = true) :
        (machine.step before input).1.Orderly ∧
          (machine.step before input).1.party.agent.reliable = true :=
      ⟨orderly_act holds.1 input.1 input.2,
        (reliable_act holds.1 input.1 input.2).trans holds.2⟩
    have balance :=
      machine.balance_run keeps
        (fun state => state.metrics.counts .fragmentMessages)
        settled
        (fun _ _ => false)
        (fun before input holds =>
          messages_act holds.1 holds.2 input.1 input.2)
        ⟨started.orderly, reliable⟩ inputs
    simp only [zeroed, noneSettled, Nat.zero_add, Nat.add_zero,
      List.countP_false] at balance
    exact balance

theorem every_message_accounted_for_one_in_flight :
    (machine.run (plain .foreign)
          sendReliably).party.agent.sender.pending.length = 1 ∧
      (machine.run (plain .foreign) sendReliably).metrics.counts
          .fragmentMessages =
        (machine.run (plain .foreign) sendReliably).metrics.counts
            .queueDrops +
          ((machine.run (plain .foreign)
              sendReliably).party.agent.sender.queue.length +
            (machine.run (plain .foreign)
              sendReliably).party.agent.sender.pending.length) +
          (machine.run (plain .foreign) sendReliably).metrics.counts
            .ackedMessages +
          (machine.run (plain .foreign) sendReliably).metrics.counts
            .retryExhausted :=
  ⟨by decide +kernel,
    (every_message_accounted_for (plain_started .foreign)
      sendReliably).2 rfl⟩

end Station

end H3ntun

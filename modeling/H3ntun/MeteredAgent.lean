import H3ntun.Metrics
import H3ntun.World

namespace H3ntun

/-!
# Agents that keep metrics

The steps of an agent once more, with the calls of its metrics in the order
of the source.  A call that follows a failed `sendto` is never reached.
Without the calls each step is the step of the plain agent.
-/

/-- Wall clock readings and failed sends of one step. -/
structure Readings where
  /-- Wall clock in the loop, in seconds. -/
  wall : Time
  /-- Wall clock in `_transport_send`; of several readings the last. -/
  sentAt : Time
  /-- Positions of the packets of `pump` that `_transport_send` raises on. -/
  fails : Nat → Bool := fun _ => false

/-- What a step does, with the metric calls it makes. -/
structure Counted where
  effect : Effect
  calls : List MetricCall := []

namespace Counted

/-- `except` for the failures a predicate selects. -/
def catching (counted : Counted) (caught : Failure → Bool) : Counted :=
  { counted with effect := counted.effect.catching caught }

/-- Metric calls made before. -/
def after (calls : List MetricCall) (counted : Counted) : Counted :=
  { counted with calls := calls ++ counted.calls }

end Counted

namespace Side

/-- Prefix of the packets an agent sends to its peer. -/
def transmits : Side → Traffic
  | .iran => .uplinkTx
  | .foreign => .downlinkTx

/-- Prefix of the packets an agent receives from its peer. -/
def receives : Side → Traffic
  | .iran => .downlinkRx
  | .foreign => .uplinkRx

/-- What `_transport_send` sets. -/
def sentSetting (side : Side) (time : Time) : Setting :=
  match side with
  | .iran => .lastUplinkAt time
  | .foreign => .lastDownlinkAt time

/-- What a receive loop sets for an accepted frame. -/
def receivedSettings (side : Side) (source : Address) (time : Time) :
    List Setting :=
  match side with
  | .iran => [.lastDownlinkSource source.host, .lastDownlinkAt time]
  | .foreign => [
      .lastUplinkPeer (source.host ++ ":" ++ toString source.port),
      .lastUplinkAt time]

/-- What a receive loop sets once a payload has been handed over. -/
def handedOverSettings (side : Side) (time : Time) : List MetricCall :=
  match side with
  | .iran => []
  | .foreign => [.set [.lastInnerAt time]]

/-- Metric calls of a `_transport_send` that returns. -/
def transportCalls
    (side : Side)
    (packet : Bytes)
    (retransmission : Bool)
    (sentAt : Time) : List MetricCall :=
  [.add side.transmits packet.length, .increment .encryptedFramesTx 1] ++
    (if retransmission then [.increment .retransmittedFrames 1] else []) ++
      [.set [side.sentSetting sentAt]]

end Side

/-- A reading rounded to three decimals. -/
def roundThousandths (value : Rat) : Rat :=
  Binary64.roundToEven (value * 1000) / 1000

namespace ReliableSender

/-- What `snapshot` passes to `set`. -/
def snapshot (sender : ReliableSender) : Setting :=
  .sender sender.queue.length sender.pending.length
    (roundThousandths sender.cwnd)

end ReliableSender

namespace Agent

/-- A transmission with the metric calls that follow a successful one. -/
def countedTransmit
    (agent : Agent)
    (effect : Effect)
    (readings : Readings)
    (last : List MetricCall) : Counted where
  effect := effect
  calls :=
    match effect.raised with
    | some _ => []
    | none =>
        (effect.sent.flatMap fun packet =>
          agent.role.side.transportCalls packet false readings.sentAt) ++
            last

/-- `send_control` with its metric calls. -/
def countedSendControl
    (agent : Agent)
    (timestampMs : Option Int)
    (surroundings : Surroundings)
    (readings : Readings) : Counted :=
  agent.countedTransmit (agent.sendControl timestampMs surroundings)
    readings []

/-- `send_ack_down` and `send_ack_up` with their metric calls. -/
def countedSendAck
    (agent : Agent)
    (frame : Frame)
    (surroundings : Surroundings)
    (readings : Readings) : Counted :=
  agent.countedTransmit (agent.sendAck frame surroundings) readings
    [.increment .acksTx 1]

/-- `handle_ack`; `none` where it returns `False`. -/
def countedHandleAck
    (agent : Agent)
    (frame : Frame)
    (surroundings : Surroundings) : Option Counted :=
  if frame.kind ≠ agent.role.side.kinds.expectedAck then
    none
  else
    match FrameCodec.decodeAck frame with
    | .error failure =>
        some { effect := { agent := agent, raised := some failure } }
    | .ok (acknowledgedSession, messageId) =>
        if acknowledgedSession ≠ agent.codec.sessionId then
          some {
            effect := { agent := agent }
            calls := [
              .increment .staleAckDrops 1, .increment .acksRx 1] }
        else
          let (sender, accepted, latency) :=
            agent.sender.acknowledge messageId surroundings.now
          some {
            effect := {
              agent := { agent with sender := sender }
              acknowledged := if accepted then some messageId else none }
            calls :=
              (if accepted then
                .increment .ackedMessages 1 ::
                  latency.toList.map fun seconds =>
                    .set [.lastAckRttMs (roundThousandths
                      (seconds * 1000))]
              else
                [.increment .unknownAckDrops 1]) ++
                [.increment .acksRx 1] }

/-- Reaction to the control frame of a loop. -/
def countedHandleControl
    (agent : Agent)
    (frame : Frame)
    (surroundings : Surroundings)
    (readings : Readings) : Counted :=
  match agent.role with
  | .iran .. =>
      { effect := { agent := agent }
        calls := [
          .set [
            .lastPongAt readings.wall,
            .lastRttMs (max 0
              (⌊readings.wall * 1000⌋ - frame.timestampMs))]] }
  | .foreign _ =>
      agent.countedSendControl (some frame.timestampMs) surroundings
        readings

/-- Hand a completed payload over and acknowledge its message. -/
def countedForward
    (agent : Agent)
    (frame : Frame)
    (payload : Bytes)
    (surroundings : Surroundings)
    (readings : Readings) : Counted :=
  match agent.role.localPeer with
  | none => { effect := { agent := agent } }
  | some _ =>
      if surroundings.innerFails then
        { effect := {
            agent := agent
            handedOver := some {
              key := frame.key, payload := payload, delivered := false }
            raised := some .osError } }
      else
        let acked :=
          if agent.reliable then
            agent.countedSendAck frame surroundings readings
          else
            { effect := { agent := agent } }
        { effect := { acked.effect with
            handedOver := some {
              key := frame.key, payload := payload, delivered := true } }
          calls :=
            .add .innerTx payload.length ::
              agent.role.side.handedOverSettings readings.wall ++
                acked.calls }

/-- Metric calls of `accept_fragment`, once `add` has returned. -/
def fragmentCalls (result : ReassemblyResult) : List MetricCall :=
  .increment .fragmentsReceived 1 ::
    (if result.duplicate then [.increment .duplicateMessages 1] else []) ++
      if result.recoveredByFec then [.increment .fecRecoveries 1] else []

/-- `accept_fragment` and what follows it. -/
def countedAcceptFragment
    (agent : Agent)
    (frame : Frame)
    (surroundings : Surroundings)
    (readings : Readings) : Counted :=
  let (reassembler, answer) :=
    agent.reassembler.add frame surroundings.now
  let updated := { agent with reassembler := reassembler }
  match answer with
  | .error failure =>
      { effect := { agent := updated, raised := some failure } }
  | .ok result =>
      match result.payload with
      | none =>
          { effect := { agent := updated }, calls := fragmentCalls result }
      | some payload =>
          let forwarded :=
            updated.countedForward frame payload surroundings readings
          { effect := { forwarded.effect with
              completed := some (frame.key, payload) }
            calls := fragmentCalls result ++ forwarded.calls }

/-- The `try` block of a receive loop. -/
def countedDispatch
    (agent : Agent)
    (frame : Frame)
    (surroundings : Surroundings)
    (readings : Readings) : Counted :=
  match agent.countedHandleAck frame surroundings with
  | some counted => counted
  | none =>
      if frame.kind = agent.role.side.kinds.control then
        agent.countedHandleControl frame surroundings readings
      else if frame.kind ≠ agent.role.side.kinds.data then
        { effect := { agent := agent } }
      else
        agent.countedAcceptFragment frame surroundings readings

/-- Treatment of a frame that the replay window refused. -/
def countedReceiveReplayed
    (agent : Agent)
    (frame : Frame)
    (surroundings : Surroundings)
    (readings : Readings) : Counted :=
  if frame.kind ≠ agent.role.side.kinds.data then
    { effect := { agent := agent } }
  else
    let (reassembler, isCompleted) :=
      agent.reassembler.isCompleted frame.sessionId frame.messageId
        surroundings.now
    let updated := { agent with reassembler := reassembler }
    if isCompleted then
      (updated.countedSendAck frame surroundings readings).catching
        Failure.isOsError
    else
      { effect := { agent := updated } }

/-- The body of a receive loop, from `decode` on. -/
def countedReceive
    (agent : Agent)
    (packet : Bytes)
    (source : Address)
    (surroundings : Surroundings)
    (readings : Readings) : Counted :=
  match agent.codec.decode packet surroundings.nowMs with
  | .error failure =>
      { effect := Effect.catching
          { agent := agent, raised := some failure }
          Failure.isProtocolError
        calls :=
          if failure.isProtocolError then
            [.increment .authFailures 1]
          else
            [] }
  | .ok frame =>
      let (replay, accepted) :=
        agent.replay.accept frame.sequence frame.sessionId
      let recorded := { agent with replay := replay }
      if accepted then
        let dispatched :=
          recorded.countedDispatch frame surroundings readings
        { effect := { dispatched.effect.catching fun failure =>
              failure.isOsError || failure.isProtocolError with
            accepted := some frame }
          calls := [
              .add agent.role.side.receives packet.length,
              .increment .encryptedFramesRx 1,
              .set (agent.role.side.receivedSettings source
                readings.wall)] ++ dispatched.calls }
      else
        Counted.after [.increment .replayDrops 1]
          (recorded.countedReceiveReplayed frame surroundings readings)

/-- One iteration of the receive loop of an agent. -/
def countedReceiveLoop
    (agent : Agent)
    (packet : Bytes)
    (source : Address)
    (surroundings : Surroundings)
    (readings : Readings) : Counted :=
  match agent.role with
  | .iran _ _ expectedDownlinkSource =>
      if Role.sourceMismatch expectedDownlinkSource source then
        { effect := { agent := agent }
          calls := [.increment .sourceMismatchDrops 1] }
      else
        agent.countedReceive packet source surroundings readings
  | .foreign _ =>
      agent.countedReceive packet source surroundings readings

/-- `send_data` in the `try` block of `inner_loop`, up to the packets. -/
def countedBeginSend (agent : Agent) (payload : Bytes) : Counted :=
  let begun := agent.beginSend payload
  { effect := begun.catching Failure.isProtocolError
    calls :=
      if begun.raised.any Failure.isProtocolError then
        [.increment .oversizeDrops 1]
      else
        [] }

/-- One iteration of `inner_loop`, up to the first packet. -/
def countedInnerLoop
    (agent : Agent)
    (payload : Bytes)
    (source : Address)
    (readings : Readings) : Counted :=
  let received := [
    MetricCall.add .innerRx payload.length,
    .set [.lastInnerAt readings.wall]]
  match agent.role with
  | .iran _ expectedInnerPeer expectedDownlinkSource =>
      if expectedInnerPeer.any (· ≠ source) then
        { effect := { agent := agent }
          calls := [.increment .innerSourceMismatchDrops 1] }
      else
        (countedBeginSend { agent with
          role := .iran (some source) expectedInnerPeer
            expectedDownlinkSource } payload).after received
  | .foreign innerPeerAddress =>
      if source ≠ innerPeerAddress then
        { effect := { agent := agent }
          calls := [.increment .innerSourceMismatchDrops 1] }
      else
        (agent.countedBeginSend payload).after received

/-- One turn of the list comprehension of `build_data_packets`. -/
def countedBuildPacket
    (agent : Agent)
    (messageId : Nat)
    (clockMs : Int) : Counted :=
  let built := agent.buildPacket messageId clockMs
  { effect := built
    calls :=
      if built.raised.any Failure.isProtocolError then
        [.increment .oversizeDrops 1]
      else
        [] }

/-- The rest of `send_data`, once all packets are built. -/
def countedFinishSend
    (agent : Agent)
    (messageId : Nat)
    (now : Time)
    (failing : Option Nat)
    (readings : Readings) : Counted where
  effect := agent.finishSend messageId now failing
  calls :=
    match agent.sending.get? messageId with
    | some { remaining := [], packets } =>
        [.increment .fragmentMessages 1,
          .increment .fragmentsCreated packets.length] ++
          if agent.reliable then
            match (agent.sender.enqueue messageId packets now).2 with
            | .ok false => [.increment .queueDrops 1]
            | _ => []
          else
            (packets.take (failing.getD packets.length)).flatMap
              fun packet =>
                agent.role.side.transportCalls packet false
                  readings.sentAt
    | _ => []

/-- One iteration of `keepalive_loop`, which only one agent runs. -/
def countedKeepalive
    (agent : Agent)
    (surroundings : Surroundings)
    (readings : Readings) : Counted :=
  match agent.role with
  | .iran .. =>
      (agent.countedSendControl none surroundings readings).catching
        fun failure => failure.isOsError || failure.isProtocolError
  | .foreign _ => { effect := { agent := agent } }

/-- The packets of a `pump` that `_transport_send` did not raise on. -/
def transmitted
    (fails : Nat → Bool)
    (packets : List OutboundPacket) : List OutboundPacket :=
  (packets.zipIdx.filter fun entry => !fails entry.2).map Prod.fst

/-- `reliability_loop` up to `cleanup`. -/
def countedPump
    (agent : Agent)
    (now : Time)
    (readings : Readings) : Counted where
  effect := agent.pump now
  calls :=
    if agent.reliable then
      let result := (agent.sender.pump now).2
      ((transmitted readings.fails result.packets).flatMap fun packet =>
        agent.role.side.transportCalls packet.payload
          packet.retransmission readings.sentAt) ++
        if result.exhaustedMessages = 0 then
          []
        else
          [.increment .retryExhausted result.exhaustedMessages]
    else
      []

/-- The rest of one iteration of `reliability_loop`. -/
def countedCleanup (agent : Agent) (now : Time) : Counted where
  effect := agent.cleanup now
  calls :=
    if agent.reliable then
      let expired := (agent.reassembler.cleanup now).2
      (if expired = 0 then
        []
      else
        [.increment .reassemblyTimeouts expired]) ++
        [.set [agent.sender.snapshot]]
    else
      []

/-- Each action with its metric calls. -/
def countedAct (agent : Agent) (readings : Readings) :
    Action → Counted
  | .innerDatagram payload source =>
      agent.countedInnerLoop payload source readings
  | .buildPacket messageId clockMs =>
      agent.countedBuildPacket messageId clockMs
  | .finishSend messageId now failing =>
      agent.countedFinishSend messageId now failing readings
  | .keepalive surroundings =>
      agent.countedKeepalive surroundings readings
  | .pump now => agent.countedPump now readings
  | .cleanup now => agent.countedCleanup now
  | .receive packet source surroundings =>
      agent.countedReceiveLoop packet source surroundings readings

section Erasure

variable
  (agent : Agent)
  (frame : Frame)
  (surroundings : Surroundings)
  (readings : Readings)

@[simp] theorem effect_countedSendControl
    (timestampMs : Option Int) :
    (agent.countedSendControl timestampMs surroundings readings).effect =
      agent.sendControl timestampMs surroundings :=
  rfl

@[simp] theorem effect_countedSendAck :
    (agent.countedSendAck frame surroundings readings).effect =
      agent.sendAck frame surroundings :=
  rfl

theorem effect_countedHandleAck :
    (agent.countedHandleAck frame surroundings).map Counted.effect =
      agent.handleAck frame surroundings := by
  unfold countedHandleAck handleAck
  by_cases isOther : frame.kind ≠ agent.role.side.kinds.expectedAck
  · rw [if_pos isOther, if_pos isOther]
    rfl
  · rw [if_neg isOther, if_neg isOther]
    cases FrameCodec.decodeAck frame with
    | error failure =>
        rfl
    | ok decoded =>
        dsimp only
        split <;> rfl

theorem effect_countedHandleControl :
    (agent.countedHandleControl frame surroundings readings).effect =
      agent.handleControl frame surroundings := by
  unfold countedHandleControl handleControl
  cases agent.role <;> rfl

theorem effect_countedForward
    (payload : Bytes) :
    (agent.countedForward frame payload surroundings readings).effect =
      agent.forward frame payload surroundings := by
  unfold countedForward forward
  cases agent.role.localPeer with
  | none =>
      rfl
  | some peer =>
      dsimp only
      split
      · rfl
      · split <;> rfl

theorem effect_countedAcceptFragment :
    (agent.countedAcceptFragment frame surroundings readings).effect =
      agent.acceptFragment frame surroundings := by
  unfold countedAcceptFragment acceptFragment
  dsimp only
  cases (agent.reassembler.add frame surroundings.now).2 with
  | error failure =>
      rfl
  | ok result =>
      rcases result with ⟨_ | payload, duplicate, recoveredByFec⟩
      · rfl
      · simp only [effect_countedForward]

theorem effect_countedDispatch :
    (agent.countedDispatch frame surroundings readings).effect =
      agent.dispatch frame surroundings := by
  have handled := agent.effect_countedHandleAck frame surroundings
  unfold countedDispatch dispatch
  rw [← handled]
  cases agent.countedHandleAck frame surroundings with
  | some counted =>
      rfl
  | none =>
      simp only [Option.map_none]
      split
      · exact effect_countedHandleControl ..
      · split
        · rfl
        · exact effect_countedAcceptFragment ..

theorem effect_countedReceiveReplayed :
    (agent.countedReceiveReplayed frame surroundings readings).effect =
      agent.receiveReplayed frame surroundings := by
  unfold countedReceiveReplayed receiveReplayed
  split
  · rfl
  · dsimp only
    split <;> rfl

theorem effect_countedReceive
    (packet : Bytes)
    (source : Address) :
    (agent.countedReceive packet source surroundings readings).effect =
      agent.receive packet surroundings := by
  unfold countedReceive receive
  cases agent.codec.decode packet surroundings.nowMs with
  | error failure =>
      rfl
  | ok frame =>
      dsimp only
      split
      · simp only [effect_countedDispatch]
      · exact effect_countedReceiveReplayed ..

theorem effect_countedInnerLoop
    (payload : Bytes)
    (source : Address) :
    (agent.countedInnerLoop payload source readings).effect =
      agent.innerLoop payload source := by
  unfold countedInnerLoop innerLoop
  dsimp only
  cases agent.role with
  | iran innerPeer expectedInnerPeer expectedDownlinkSource =>
      dsimp only
      split <;> rfl
  | foreign innerPeerAddress =>
      dsimp only
      split <;> rfl

/-- Without its metric calls a step is the step of the plain agent. -/
theorem effect_countedAct
    (action : Action) :
    (agent.countedAct readings action).effect = agent.act action := by
  cases action with
  | innerDatagram payload source =>
      exact agent.effect_countedInnerLoop readings payload source
  | buildPacket messageId clockMs =>
      rfl
  | finishSend messageId now failing =>
      rfl
  | keepalive surroundings =>
      simp only [countedAct, countedKeepalive, act, keepalive]
      cases agent.role <;> rfl
  | pump now =>
      rfl
  | cleanup now =>
      rfl
  | receive packet source surroundings =>
      simp only [countedAct, countedReceiveLoop, act, receiveLoop,
        iranDownlinkLoop, foreignUplinkLoop]
      cases agent.role with
      | iran innerPeer expectedInnerPeer expectedDownlinkSource =>
          dsimp only
          split
          · rfl
          · exact effect_countedReceive ..
      | foreign innerPeerAddress =>
          exact effect_countedReceive ..

end Erasure

end Agent

/-- An agent with its journal and its metrics. -/
structure Station where
  party : Party
  metrics : Metrics

namespace Station

/-- An action and the metric calls it makes. -/
def act
    (station : Station)
    (action : Action)
    (readings : Readings) : Station :=
  let counted := station.party.agent.countedAct readings action
  { party := {
      agent := counted.effect.agent
      journal := station.party.journal.record counted.effect }
    metrics := station.metrics.performAll counted.calls }

/-- A step of a station is the step of its party. -/
@[simp] theorem party_act
    (station : Station)
    (action : Action)
    (readings : Readings) :
    (station.act action readings).party = station.party.act action := by
  simp only [act, Agent.effect_countedAct]
  rfl

theorem metrics_act
    (station : Station)
    (action : Action)
    (readings : Readings) :
    (station.act action readings).metrics =
      station.metrics.performAll
        (station.party.agent.countedAct readings action).calls :=
  rfl

/-- A station taking one step after the other. -/
def machine : Machine Station (Action × Readings) Effect where
  step station input :=
    (station.act input.1 input.2, station.party.agent.act input.1)

end Station

/-- Both stations of a tunnel. -/
abbrev MeteredWorld :=
  Side → Station

namespace MeteredWorld

/-- The world without its metrics. -/
def parties (world : MeteredWorld) : World :=
  fun side => (world side).party

/-- Both processes just started, with metrics of their own role. -/
structure Started (tunnel : Tunnel) (world : MeteredWorld) : Prop where
  parties :
    world.parties.Started tunnel
  metrics :
    ∀ side, (world side).metrics = { role := side }

/-- One station acts. -/
def after
    (world : MeteredWorld)
    (side : Side)
    (action : Action)
    (readings : Readings) : MeteredWorld :=
  Function.update world side ((world side).act action readings)

/-- All runs of two stations over an adversarial network. -/
def system (tunnel : Tunnel) :
    TransitionSystem MeteredWorld (Side × Action × Readings) where
  initial world := world.Started tunnel
  step world move later :=
    world.parties.Possible move.1 move.2.1 ∧
      later = world.after move.1 move.2.1 move.2.2

theorem parties_after
    (world : MeteredWorld)
    (side : Side)
    (action : Action)
    (readings : Readings) :
    (world.after side action readings).parties =
      world.parties.after side action := by
  funext other
  by_cases same : other = side
  · subst same
    simp only [parties, after, World.after, Function.update_self,
      Station.party_act]
  · simp only [parties, after, World.after, Function.update_of_ne same]

/-- Forgetting the metrics of a run leaves a run of the tunnel. -/
theorem reachable_parties
    {tunnel : Tunnel}
    {world : MeteredWorld}
    (reached : (system tunnel).Reachable world) :
    (World.system tunnel).Reachable world.parties := by
  refine TransitionSystem.Reachable.project parties
    (fun _ (started : MeteredWorld.Started tunnel _) => started.parties) ?_ reached
  rintro before move _ ⟨possible, rfl⟩
  exact ⟨(move.1, move.2.1), possible, parties_after ..⟩

/-- Runs with a condition on steps that does not concern the metrics. -/
def restricted
    (tunnel : Tunnel)
    (condition : World → Side × Action → Prop) :
    TransitionSystem MeteredWorld (Side × Action × Readings) :=
  (system tunnel).restrict fun world move =>
    condition world.parties (move.1, move.2.1)

theorem reachable_parties_of_restricted
    {tunnel : Tunnel}
    {condition : World → Side × Action → Prop}
    {world : MeteredWorld}
    (reached : (restricted tunnel condition).Reachable world) :
    ((World.system tunnel).restrict condition).Reachable
      world.parties := by
  refine TransitionSystem.Reachable.project parties
    (fun _ (started : MeteredWorld.Started tunnel _) => started.parties) ?_ reached
  rintro before move _ ⟨⟨possible, rfl⟩, admissible⟩
  exact ⟨(move.1, move.2.1), ⟨possible, parties_after ..⟩, admissible⟩

theorem after_same
    (world : MeteredWorld)
    (side : Side)
    (action : Action)
    (readings : Readings) :
    world.after side action readings side =
      (world side).act action readings :=
  Function.update_self ..

theorem after_other
    (world : MeteredWorld)
    {side other : Side}
    (different : other ≠ side)
    (action : Action)
    (readings : Readings) :
    world.after side action readings other = world other :=
  Function.update_of_ne different ..

end MeteredWorld

end H3ntun

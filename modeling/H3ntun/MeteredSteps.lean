import H3ntun.MeteredAgent
import H3ntun.SenderSteps

namespace H3ntun

/-!
# What one step writes into the metrics

Every step of a station, with its metric calls, in a few cases.  The laws of
the counters are proved from these cases and from nothing else.
-/

namespace Side

/-- Every packet passed on is one frame sent. -/
@[simp] theorem total_transportCalls_framesTx
    (side : Side)
    (packet : Bytes)
    (retransmission : Bool)
    (sentAt : Time) :
    MetricCall.total .encryptedFramesTx
      (side.transportCalls packet retransmission sentAt) = 1 := by
  cases retransmission <;> simp [transportCalls]

/-- It is counted in the direction the side sends. -/
@[simp] theorem total_transportCalls_packets
    (side : Side)
    (traffic : Traffic)
    (packet : Bytes)
    (retransmission : Bool)
    (sentAt : Time) :
    MetricCall.total (.packets traffic)
        (side.transportCalls packet retransmission sentAt) =
      if traffic = side.transmits then 1 else 0 := by
  cases retransmission <;> simp [transportCalls, eq_comm]

/-- And so are its bytes. -/
@[simp] theorem total_transportCalls_bytes
    (side : Side)
    (traffic : Traffic)
    (packet : Bytes)
    (retransmission : Bool)
    (sentAt : Time) :
    MetricCall.total (.bytes traffic)
        (side.transportCalls packet retransmission sentAt) =
      if traffic = side.transmits then packet.length else 0 := by
  cases retransmission <;> simp [transportCalls, eq_comm]

/-- Counters of a transmission. -/
def isTransport : Counter → Bool
  | .packets _ => true
  | .bytes _ => true
  | .encryptedFramesTx => true
  | .retransmittedFrames => true
  | _ => false

/-- Passing a packet on raises no other counter. -/
theorem total_transportCalls_other
    {counter : Counter}
    (other : isTransport counter = false)
    (side : Side)
    (packet : Bytes)
    (retransmission : Bool)
    (sentAt : Time) :
    MetricCall.total counter
      (side.transportCalls packet retransmission sentAt) = 0 := by
  have notPackets : Counter.packets side.transmits ≠ counter := by
    rintro rfl
    cases other
  have notBytes : Counter.bytes side.transmits ≠ counter := by
    rintro rfl
    cases other
  have notFrames : Counter.encryptedFramesTx ≠ counter := by
    rintro rfl
    cases other
  have notAgain : Counter.retransmittedFrames ≠ counter := by
    rintro rfl
    cases other
  cases retransmission <;>
    simp [transportCalls, notPackets, notBytes, notFrames, notAgain]

/-- Handing a payload over sets gauges only. -/
@[simp] theorem total_handedOverSettings
    (side : Side)
    (time : Time)
    (counter : Counter) :
    MetricCall.total counter (side.handedOverSettings time) = 0 := by
  cases side <;> rfl

end Side

/-- What a transmission writes: nothing if it raised. -/
inductive TransmitCalls
    (side : Side)
    (sentAt : Time)
    (last : List MetricCall) : List MetricCall → Prop
  | failed : TransmitCalls side sentAt last []
  | sent
      (packet : Bytes)
      (retransmission : Bool) :
      TransmitCalls side sentAt last
        (side.transportCalls packet retransmission sentAt ++ last)

namespace Agent

variable
  (agent : Agent)
  (frame : Frame)
  (surroundings : Surroundings)
  (readings : Readings)

/-- Transmitting makes the calls of one packet, or none. -/
theorem transmitCalls_countedTransmit
    (encode : Nat → Except Failure Bytes)
    (last : List MetricCall) :
    TransmitCalls agent.role.side readings.sentAt last
      (agent.countedTransmit (agent.transmit encode surroundings) readings
        last).calls := by
  unfold countedTransmit transmit
  dsimp only
  cases encode (agent.sequence + 1) with
  | error failure =>
      exact .failed
  | ok packet =>
      cases surroundings.outerFails with
      | true =>
          exact .failed
      | false =>
          have sent :
              TransmitCalls agent.role.side readings.sentAt last _ :=
            .sent packet false
          simpa using sent

/-- So does sending a control frame. -/
theorem transmitCalls_sendControl
    (timestampMs : Option Int) :
    TransmitCalls agent.role.side readings.sentAt []
      (agent.countedSendControl timestampMs surroundings
        readings).calls :=
  agent.transmitCalls_countedTransmit surroundings readings _ []

/-- And an acknowledgement, which is counted as one. -/
theorem transmitCalls_sendAck :
    TransmitCalls agent.role.side readings.sentAt
      [.increment .acksTx 1]
      (agent.countedSendAck frame surroundings readings).calls :=
  agent.transmitCalls_countedTransmit surroundings readings _ _

/-- What the `try` block of a receive loop does and writes. -/
inductive Dispatches
    (agent : Agent)
    (frame : Frame)
    (surroundings : Surroundings)
    (readings : Readings) : Counted → Prop
  | ignored
      (raised : Option Failure) :
      Dispatches agent frame surroundings readings
        { effect := { agent := agent, raised := raised } }
  | staleAck :
      Dispatches agent frame surroundings readings {
        effect := { agent := agent }
        calls := [
          .increment .staleAckDrops 1, .increment .acksRx 1] }
  | unknownAck :
      Dispatches agent frame surroundings readings {
        effect := { agent := agent }
        calls := [
          .increment .unknownAckDrops 1, .increment .acksRx 1] }
  | acknowledged
      (messageId : Nat)
      (inFlight : messageId ∈ agent.sender.inFlightIds)
      (latency : Option Rat) :
      Dispatches agent frame surroundings readings {
        effect := {
          agent := { agent with
            sender :=
              (agent.sender.acknowledge messageId
                surroundings.now).1 }
          acknowledged := some messageId }
        calls :=
          .increment .ackedMessages 1 ::
            (latency.toList.map fun milliseconds =>
              .set [.lastAckRttMs milliseconds]) ++
              [.increment .acksRx 1] }
  | pong
      (isIran : agent.role.side = .iran)
      (isPong : frame.kind = .pong) :
      Dispatches agent frame surroundings readings {
        effect := { agent := agent }
        calls := [
          .set [
            .lastPongAt readings.wall,
            .lastRttMs (max 0
              (⌊readings.wall * 1000⌋ - frame.timestampMs))]] }
  | answered
      (isForeign : agent.role.side = .foreign)
      (isPing : frame.kind = .ping)
      (calls : List MetricCall)
      (transmits :
        TransmitCalls agent.role.side readings.sentAt [] calls) :
      Dispatches agent frame surroundings readings {
        effect := agent.sendControl (some frame.timestampMs) surroundings
        calls := calls }
  | rejected
      (isData : frame.kind = agent.role.side.kinds.data)
      (failure : Failure)
      (answer :
        (agent.reassembler.add frame surroundings.now).2 =
          .error failure) :
      Dispatches agent frame surroundings readings {
        effect := {
          agent := { agent with
            reassembler :=
              (agent.reassembler.add frame surroundings.now).1 }
          raised := some failure } }
  | stored
      (isData : frame.kind = agent.role.side.kinds.data)
      (result : ReassemblyResult)
      (answer :
        (agent.reassembler.add frame surroundings.now).2 = .ok result)
      (noPayload : result.payload = none) :
      Dispatches agent frame surroundings readings {
        effect := {
          agent := { agent with
            reassembler :=
              (agent.reassembler.add frame surroundings.now).1 } }
        calls := fragmentCalls result }
  | kept
      (isData : frame.kind = agent.role.side.kinds.data)
      (result : ReassemblyResult)
      (answer :
        (agent.reassembler.add frame surroundings.now).2 = .ok result)
      (payload : Bytes)
      (hasPayload : result.payload = some payload)
      (handedOver : Option Handover)
      (undelivered : ∀ handover ∈ handedOver, handover.delivered = false)
      (raised : Option Failure) :
      Dispatches agent frame surroundings readings {
        effect := {
          agent := { agent with
            reassembler :=
              (agent.reassembler.add frame surroundings.now).1 }
          completed := some (frame.key, payload)
          handedOver := handedOver
          raised := raised }
        calls := fragmentCalls result }
  | delivered
      (isData : frame.kind = agent.role.side.kinds.data)
      (result : ReassemblyResult)
      (answer :
        (agent.reassembler.add frame surroundings.now).2 = .ok result)
      (payload : Bytes)
      (hasPayload : result.payload = some payload)
      (acked : Effect)
      (isAck :
        acked = { agent := { agent with
            reassembler :=
              (agent.reassembler.add frame surroundings.now).1 } } ∨
          acked = sendAck { agent with
            reassembler :=
              (agent.reassembler.add frame surroundings.now).1 }
            frame surroundings)
      (calls : List MetricCall)
      (transmits :
        TransmitCalls agent.role.side readings.sentAt
          [.increment .acksTx 1] calls) :
      Dispatches agent frame surroundings readings {
        effect := { acked with
          completed := some (frame.key, payload)
          handedOver := some {
            key := frame.key, payload := payload, delivered := true } }
        calls :=
          fragmentCalls result ++
            (.add .innerTx payload.length ::
              agent.role.side.handedOverSettings readings.wall ++
                calls) }

/-- What a data frame comes to, call by call. -/
theorem countedAcceptFragment_cases
    (isData : frame.kind = agent.role.side.kinds.data) :
    agent.Dispatches frame surroundings readings
      (agent.countedAcceptFragment frame surroundings readings) := by
  unfold countedAcceptFragment
  dsimp only
  cases answer : (agent.reassembler.add frame surroundings.now).2 with
  | error failure =>
      exact .rejected isData failure answer
  | ok result =>
      cases hasPayload : result.payload with
      | none =>
          simp only [hasPayload]
          exact .stored isData result answer hasPayload
      | some payload =>
          simp only [hasPayload, countedForward]
          cases agent.role.localPeer with
          | none =>
              simp only [List.append_nil]
              exact .kept isData result answer payload hasPayload none
                (fun _ member => by cases member) none
          | some peer =>
              dsimp only
              cases surroundings.innerFails with
              | true =>
                  simp only [↓reduceIte, List.append_nil]
                  exact .kept isData result answer payload hasPayload
                    (some {
                      key := frame.key
                      payload := payload
                      delivered := false })
                    (fun _ member => by cases member; rfl)
                    (some .osError)
              | false =>
                  rw [if_neg Bool.false_ne_true]
                  by_cases reliable : agent.reliable = true
                  · rw [if_pos reliable]
                    exact .delivered isData result answer payload
                      hasPayload _ (.inr rfl) _
                      (transmitCalls_sendAck { agent with
                        reassembler :=
                          (agent.reassembler.add frame
                            surroundings.now).1 }
                        frame surroundings readings)
                  · rw [if_neg reliable]
                    exact .delivered isData result answer payload
                      hasPayload _ (.inl rfl) [] .failed

/-- What any accepted frame comes to, call by call. -/
theorem countedDispatch_cases :
    agent.Dispatches frame surroundings readings
      (agent.countedDispatch frame surroundings readings) := by
  unfold countedDispatch countedHandleAck
  by_cases isAck : frame.kind = agent.role.side.kinds.expectedAck
  · rw [if_neg (not_not.mpr isAck)]
    cases FrameCodec.decodeAck frame with
    | error failure =>
        exact .ignored _
    | ok decoded =>
        dsimp only
        split
        · rename_i counted handled
          split at handled
          · cases handled
            exact .staleAck
          · cases handled
            rcases agent.sender.acknowledge_cases decoded.2
                surroundings.now with
              ⟨_, shape⟩ | ⟨inFlight, latency, shape⟩
            · rw [shape]
              exact .unknownAck
            · have acked :
                  agent.Dispatches frame surroundings readings _ :=
                .acknowledged decoded.2 inFlight
                  (latency.map fun seconds =>
                    roundThousandths (seconds * 1000))
              rw [shape] at acked ⊢
              cases latency <;> exact acked
        · rename_i handled
          split at handled <;> cases handled
  · rw [if_pos isAck]
    dsimp only
    split
    · rename_i isControl
      unfold countedHandleControl
      split
      · rename_i roleShape
        rw [roleShape] at isControl
        exact .pong (by rw [roleShape]; rfl) isControl
      · rename_i roleShape
        rw [roleShape] at isControl
        exact .answered (by rw [roleShape]; rfl) isControl _
          (transmitCalls_sendControl ..)
    · split
      · exact .ignored none
      · rename_i isData
        exact agent.countedAcceptFragment_cases frame surroundings
          readings (not_not.mp isData)

/-- What an iteration of a receive loop does and writes. -/
inductive Arrives
    (agent : Agent)
    (packet : Bytes)
    (source : Address)
    (surroundings : Surroundings)
    (readings : Readings) : Counted → Prop
  | mismatched
      (ignored : agent.role.listens source = false) :
      Arrives agent packet source surroundings readings {
        effect := { agent := agent }
        calls := [.increment .sourceMismatchDrops 1] }
  | undecoded
      (listens : agent.role.listens source = true)
      (message : String)
      (refused :
        agent.codec.decode packet surroundings.nowMs =
          .error (.protocolError message)) :
      Arrives agent packet source surroundings readings {
        effect := { agent := agent }
        calls := [.increment .authFailures 1] }
  | replayed
      (listens : agent.role.listens source = true)
      (frame : Frame)
      (decoded :
        agent.codec.decode packet surroundings.nowMs = .ok frame)
      (refuses :
        (agent.replay.accept frame.sequence frame.sessionId).2 = false)
      (reassembler : Reassembler) :
      Arrives agent packet source surroundings readings {
        effect := {
          agent := { agent with
            replay :=
              (agent.replay.accept frame.sequence frame.sessionId).1
            reassembler := reassembler } }
        calls := [.increment .replayDrops 1] }
  | repeated
      (listens : agent.role.listens source = true)
      (frame : Frame)
      (decoded :
        agent.codec.decode packet surroundings.nowMs = .ok frame)
      (refuses :
        (agent.replay.accept frame.sequence frame.sessionId).2 = false)
      (calls : List MetricCall)
      (transmits :
        TransmitCalls agent.role.side readings.sentAt
          [.increment .acksTx 1] calls) :
      Arrives agent packet source surroundings readings {
        effect :=
          (sendAck { agent with
            replay :=
              (agent.replay.accept frame.sequence frame.sessionId).1
            reassembler :=
              (agent.reassembler.isCompleted frame.sessionId
                frame.messageId surroundings.now).1 }
            frame surroundings).catching Failure.isOsError
        calls := .increment .replayDrops 1 :: calls }
  | accepted
      (listens : agent.role.listens source = true)
      (frame : Frame)
      (decoded :
        agent.codec.decode packet surroundings.nowMs = .ok frame)
      (accepts :
        (agent.replay.accept frame.sequence frame.sessionId).2 = true)
      (counted : Counted)
      (dispatched :
        Dispatches { agent with
          replay :=
            (agent.replay.accept frame.sequence frame.sessionId).1 }
          frame surroundings readings counted)
      (isDispatch :
        counted =
          countedDispatch { agent with
            replay :=
              (agent.replay.accept frame.sequence frame.sessionId).1 }
            frame surroundings readings) :
      Arrives agent packet source surroundings readings {
        effect := { counted.effect.catching fun failure =>
            failure.isOsError || failure.isProtocolError with
          accepted := some frame }
        calls := [
            .add agent.role.side.receives packet.length,
            .increment .encryptedFramesRx 1,
            .set (agent.role.side.receivedSettings source
              readings.wall)] ++ counted.calls }

/-- What a packet from the right source comes to. -/
theorem countedReceive_cases
    {packet : Bytes}
    {source : Address}
    (listens : agent.role.listens source = true) :
    agent.Arrives packet source surroundings readings
      (agent.countedReceive packet source surroundings readings) := by
  unfold countedReceive
  rcases FrameCodec.decode_total agent.codec packet surroundings.nowMs with
    ⟨frame, decoded⟩ | ⟨message, refused⟩
  · rw [decoded]
    dsimp only
    split
    · rename_i accepts
      exact .accepted listens frame decoded accepts _
        (countedDispatch_cases _ frame surroundings readings) rfl
    · rename_i refuses
      rw [Bool.not_eq_true] at refuses
      unfold countedReceiveReplayed
      split
      · exact .replayed listens frame decoded refuses agent.reassembler
      · dsimp only
        split
        · exact .repeated listens frame decoded refuses _
            (transmitCalls_sendAck { agent with
              replay :=
                (agent.replay.accept frame.sequence frame.sessionId).1
              reassembler :=
                (agent.reassembler.isCompleted frame.sessionId
                  frame.messageId surroundings.now).1 }
              frame surroundings readings)
        · exact .replayed listens frame decoded refuses _
  · rw [refused]
    exact .undecoded listens message refused

/-- What a packet read comes to. -/
theorem countedReceiveLoop_cases
    (packet : Bytes)
    (source : Address) :
    agent.Arrives packet source surroundings readings
      (agent.countedReceiveLoop packet source surroundings readings) := by
  unfold countedReceiveLoop
  split
  · rename_i roleShape
    split
    · rename_i mismatch
      refine .mismatched ?_
      rw [roleShape, Role.listens, mismatch]
      rfl
    · rename_i matching
      refine agent.countedReceive_cases surroundings readings ?_
      rw [roleShape, Role.listens, Bool.eq_false_iff.mpr matching]
      rfl
  · rename_i roleShape
    refine agent.countedReceive_cases surroundings readings ?_
    rw [roleShape]
    rfl

/-- What an iteration of the inner loop does and writes. -/
inductive Takes
    (agent : Agent)
    (payload : Bytes)
    (readings : Readings) : Counted → Prop
  | ignored :
      Takes agent payload readings {
        effect := { agent := agent }
        calls := [.increment .innerSourceMismatchDrops 1] }
  | taken
      (role : Role)
      (sameSide : role.side = agent.role.side)
      (refusal : List MetricCall)
      (isRefusal :
        refusal = [] ∨ refusal = [.increment .oversizeDrops 1]) :
      Takes agent payload readings {
        effect :=
          (beginSend { agent with role := role } payload).catching
            Failure.isProtocolError
        calls := [
            .add .innerRx payload.length,
            .set [.lastInnerAt readings.wall]] ++ refusal }

/-- What a datagram read comes to. -/
theorem countedInnerLoop_cases
    (payload : Bytes)
    (source : Address) :
    agent.Takes payload readings
      (agent.countedInnerLoop payload source readings) := by
  have refusal
      (raised : Option Failure) :
      (if raised.any Failure.isProtocolError then
          [MetricCall.increment .oversizeDrops 1]
        else
          []) = [] ∨
        (if raised.any Failure.isProtocolError then
          [MetricCall.increment .oversizeDrops 1]
        else
          []) = [.increment .oversizeDrops 1] := by
    split
    · exact .inr rfl
    · exact .inl rfl
  unfold countedInnerLoop
  dsimp only
  split
  · rename_i innerPeer expectedPeer expectedSource roleShape
    split
    · exact .ignored
    · exact .taken (.iran (some source) expectedPeer expectedSource)
        (by rw [roleShape]; rfl) _ (refusal _)
  · split
    · exact .ignored
    · exact .taken agent.role rfl _ (refusal _)

end Agent

end H3ntun

import H3ntun.MeteredSteps

namespace H3ntun

/-!
# Laws of the counters

What the counters say agrees with what the agent did, over every run of an
agent and against any network.
-/

namespace Action

/-- A receive loop reads a packet. -/
def isReceive : Action → Bool
  | .receive .. => true
  | _ => false

/-- An inner loop reads a datagram. -/
def isInnerDatagram : Action → Bool
  | .innerDatagram .. => true
  | _ => false

end Action

/-- Size of the packet of a frame. -/
def Frame.wireLength (frame : Frame) : Nat :=
  frameOverhead + frame.payload.length

/-- A packet is as long as the frame it decodes to says. -/
theorem FrameCodec.length_of_decode
    {codec : FrameCodec}
    {packet : Bytes}
    {nowMs : Int}
    {frame : Frame}
    (decoded : codec.decode packet nowMs = .ok frame) :
    packet.length = frame.wireLength := by
  rcases codec.readable_or_refused packet with
    ⟨header, kind, readable⟩ | ⟨message, refused⟩
  · rw [decode_of_readable readable] at decoded
    obtain ⟨_, _, _, _, length⟩ :=
      Header.decodeChecks_eq_ok_iff.mp readable.checks
    obtain ⟨derived, nonceShape⟩ := readable.nonce_isOk codec.primitives
    simp only [decrypt, nonceShape] at decoded
    split at decoded
    · cases decoded
    · rename_i payload opened
      simp only [guard_eq_ok_iff, not_not, Except.ok.injEq] at decoded
      obtain ⟨payloadLen, _, rfl⟩ := decoded
      simp only [Frame.wireLength, frameOverhead, frameOf]
      omega
  · rw [refused] at decoded
    cases decoded

/-- Counters agree with what an agent of one side has done. -/
structure Booked
    (side : Side)
    (journal : Journal)
    (counts : Ledger Counter) : Prop where
  framesReceived :
    counts .encryptedFramesRx = journal.accepted.length
  packetsReceived :
    counts (.packets side.receives) = journal.accepted.length
  bytesReceived :
    counts (.bytes side.receives) =
      (journal.accepted.map Frame.wireLength).sum
  payloadsHandedOver :
    counts (.packets .innerTx) =
      (journal.handedOver.filter Handover.delivered).length
  bytesHandedOver :
    counts (.bytes .innerTx) =
      ((journal.handedOver.filter Handover.delivered).map
        fun handover => handover.payload.length).sum
  datagramsTaken :
    counts (.packets .innerRx) = journal.begun.length
  bytesTaken :
    counts (.bytes .innerRx) =
      (journal.begun.map fun call => call.2.length).sum
  acknowledged :
    counts .ackedMessages = journal.acknowledged.length
  acksReceived :
    counts .acksRx =
      counts .staleAckDrops + counts .unknownAckDrops +
        counts .ackedMessages
  transmissions :
    counts .encryptedFramesTx = counts (.packets side.transmits)

/-- Everything one step has done. -/
def Effect.doings (effect : Effect) : Journal :=
  ({} : Journal).record effect

namespace Effect

variable (effect : Effect)

@[simp] theorem accepted_doings :
    effect.doings.accepted = effect.accepted.toList :=
  List.append_nil _

@[simp] theorem handedOver_doings :
    effect.doings.handedOver = effect.handedOver.toList :=
  List.append_nil _

@[simp] theorem begun_doings :
    effect.doings.begun = effect.begun.toList :=
  List.append_nil _

@[simp] theorem acknowledged_doings :
    effect.doings.acknowledged = effect.acknowledged.toList :=
  List.append_nil _

end Effect

/-- The metric calls of a step say what it does. -/
def Counted.IsBooked (side : Side) (counted : Counted) : Prop :=
  Booked side counted.effect.doings fun counter =>
    MetricCall.total counter counted.calls

namespace Booked

variable {side : Side} {journal : Journal} {counts : Ledger Counter}

/-- One step more keeps the counters and the journal in agreement. -/
theorem record
    (booked : Booked side journal counts)
    {counted : Counted}
    (step : counted.IsBooked side)
    {later : Ledger Counter}
    (added :
      ∀ counter,
        later counter =
          counts counter + MetricCall.total counter counted.calls) :
    Booked side (journal.record counted.effect) later where
  framesReceived := by
    rw [added, booked.framesReceived, step.framesReceived]
    simp [Journal.record, Effect.doings, Nat.add_comm]
  packetsReceived := by
    rw [added, booked.packetsReceived, step.packetsReceived]
    simp [Journal.record, Effect.doings, Nat.add_comm]
  bytesReceived := by
    rw [added, booked.bytesReceived, step.bytesReceived]
    simp [Journal.record, Effect.doings, Nat.add_comm]
  payloadsHandedOver := by
    rw [added, booked.payloadsHandedOver, step.payloadsHandedOver]
    simp [Journal.record, Effect.doings, Nat.add_comm]
  bytesHandedOver := by
    rw [added, booked.bytesHandedOver, step.bytesHandedOver]
    simp [Journal.record, Effect.doings, Nat.add_comm]
  datagramsTaken := by
    rw [added, booked.datagramsTaken, step.datagramsTaken]
    simp [Journal.record, Effect.doings, Nat.add_comm]
  bytesTaken := by
    rw [added, booked.bytesTaken, step.bytesTaken]
    simp [Journal.record, Effect.doings, Nat.add_comm]
  acknowledged := by
    rw [added, booked.acknowledged, step.acknowledged]
    simp [Journal.record, Effect.doings, Nat.add_comm]
  acksReceived := by
    have before := booked.acksReceived
    have now := step.acksReceived
    simp only [added]
    omega
  transmissions := by
    have before := booked.transmissions
    have now := step.transmissions
    simp only [added]
    omega

end Booked

namespace Side

@[simp] theorem receives_ne_transmits
    (side : Side) :
    side.receives ≠ side.transmits := by
  cases side <;> decide

@[simp] theorem innerTx_ne_transmits
    (side : Side) :
    Traffic.innerTx ≠ side.transmits := by
  cases side <;> decide

@[simp] theorem innerRx_ne_transmits
    (side : Side) :
    Traffic.innerRx ≠ side.transmits := by
  cases side <;> decide

@[simp] theorem innerTx_ne_receives
    (side : Side) :
    Traffic.innerTx ≠ side.receives := by
  cases side <;> decide

@[simp] theorem innerRx_ne_receives
    (side : Side) :
    Traffic.innerRx ≠ side.receives := by
  cases side <;> decide

@[simp] theorem receives_ne_innerTx
    (side : Side) :
    side.receives ≠ Traffic.innerTx := by
  cases side <;> decide

@[simp] theorem receives_ne_innerRx
    (side : Side) :
    side.receives ≠ Traffic.innerRx := by
  cases side <;> decide

end Side

namespace TransmitCalls

variable
  {side : Side}
  {sentAt : Time}
  {last calls : List MetricCall}

/-- A transmission writes nothing else into other counters. -/
theorem total_of_other
    (transmits : TransmitCalls side sentAt last calls)
    {counter : Counter}
    (other : Side.isTransport counter = false)
    (notLast : MetricCall.total counter last = 0) :
    MetricCall.total counter calls = 0 := by
  cases transmits with
  | failed =>
      rfl
  | sent packet retransmission =>
      rw [MetricCall.total_append, Side.total_transportCalls_other other,
        notLast]

/-- A transmission is no doing the journal knows. -/
theorem booked
    (transmits : TransmitCalls side sentAt last calls)
    (isLast : last = [] ∨ last = [.increment .acksTx 1]) :
    Booked side {} fun counter => MetricCall.total counter calls := by
  have quiet
      {counter : Counter}
      (other : Side.isTransport counter = false)
      (notAck : counter ≠ .acksTx) :
      MetricCall.total counter calls = 0 := by
    apply transmits.total_of_other other
    rcases isLast with rfl | rfl <;> simp [Ne.symm notAck]
  have noTraffic :
      ∀ traffic, traffic ≠ side.transmits →
        MetricCall.total (.packets traffic) calls = 0 ∧
          MetricCall.total (.bytes traffic) calls = 0 := by
    intro traffic other
    cases transmits with
    | failed =>
        exact ⟨rfl, rfl⟩
    | sent packet retransmission =>
        rcases isLast with rfl | rfl <;> simp [other]
  have inner := noTraffic .innerTx side.innerTx_ne_transmits
  have taken := noTraffic .innerRx side.innerRx_ne_transmits
  have received := noTraffic _ side.receives_ne_transmits
  refine ⟨quiet rfl (by decide), received.1, received.2, inner.1, inner.2,
    taken.1, taken.2, quiet rfl (by decide), ?_, ?_⟩
  · rw [quiet rfl (by decide), quiet rfl (by decide),
      quiet rfl (by decide), quiet rfl (by decide)]
  · cases transmits with
    | failed =>
        rfl
    | sent packet retransmission =>
        rcases isLast with rfl | rfl <;> simp

end TransmitCalls

/-- A step that does nothing the journal of the counters records. -/
structure Effect.Idle (effect : Effect) : Prop where
  begun :
    effect.begun = none
  accepted :
    effect.accepted = none
  handedOver :
    effect.handedOver = none
  acknowledged :
    effect.acknowledged = none

theorem Effect.Idle.catching
    {effect : Effect}
    (idle : effect.Idle)
    (caught : Failure → Bool) :
    (effect.catching caught).Idle := by
  obtain ⟨_, begun, _, _, accepted, _, handedOver, acknowledged⟩ :=
    Agent.catching_fields effect caught
  exact ⟨begun.trans idle.begun, accepted.trans idle.accepted,
    handedOver.trans idle.handedOver,
    acknowledged.trans idle.acknowledged⟩

namespace Booked

variable {side : Side} {counts : Ledger Counter}

theorem of_idle
    (booked : Booked side {} counts)
    {effect : Effect}
    (idle : effect.Idle) :
    Booked side effect.doings counts := by
  obtain ⟨noBegun, noAccepted, noHandedOver, noAcknowledged⟩ := idle
  unfold Effect.doings Journal.record
  rw [noBegun, noAccepted, noHandedOver, noAcknowledged]
  exact ⟨booked.framesReceived, booked.packetsReceived,
    booked.bytesReceived, booked.payloadsHandedOver,
    booked.bytesHandedOver, booked.datagramsTaken, booked.bytesTaken,
    booked.acknowledged, booked.acksReceived, booked.transmissions⟩

/-- Counters that a step leaves alone. -/
theorem of_quiet
    {calls : List MetricCall}
    (quiet :
      ∀ counter,
        counter = .encryptedFramesRx ∨
          counter = .encryptedFramesTx ∨
          counter = .ackedMessages ∨
          counter = .acksRx ∨
          counter = .staleAckDrops ∨
          counter = .unknownAckDrops ∨
          (∃ traffic, counter = .packets traffic) ∨
          (∃ traffic, counter = .bytes traffic) →
        MetricCall.total counter calls = 0) :
    Booked side {} fun counter => MetricCall.total counter calls := by
  constructor
  all_goals simp [quiet]

/-- Calls that are no doings, one after the other. -/
theorem append
    {first later : List MetricCall}
    (bookedFirst :
      Booked side {} fun counter => MetricCall.total counter first)
    (bookedLater :
      Booked side {} fun counter => MetricCall.total counter later) :
    Booked side {} fun counter =>
      MetricCall.total counter (first ++ later) := by
  have firstAcks := bookedFirst.acksReceived
  have laterAcks := bookedLater.acksReceived
  have firstSent := bookedFirst.transmissions
  have laterSent := bookedLater.transmissions
  refine ⟨?_, ?_, ?_, ?_, ?_, ?_, ?_, ?_, ?_, ?_⟩
  case refine_9 | refine_10 =>
    simp only [MetricCall.total_append]
    omega
  all_goals
    simp [bookedFirst.framesReceived, bookedFirst.packetsReceived,
      bookedFirst.bytesReceived, bookedFirst.payloadsHandedOver,
      bookedFirst.bytesHandedOver, bookedFirst.datagramsTaken,
      bookedFirst.bytesTaken, bookedFirst.acknowledged,
      bookedLater.framesReceived, bookedLater.packetsReceived,
      bookedLater.bytesReceived, bookedLater.payloadsHandedOver,
      bookedLater.bytesHandedOver, bookedLater.datagramsTaken,
      bookedLater.bytesTaken, bookedLater.acknowledged]

theorem of_nil :
    Booked side {} fun counter => MetricCall.total counter [] :=
  .of_quiet fun _ _ => rfl

end Booked

namespace Agent

theorem idle_transmit
    (agent : Agent)
    (encode : Nat → Except Failure Bytes)
    (surroundings : Surroundings) :
    (agent.transmit encode surroundings).Idle := by
  obtain ⟨_, begun, _, _, accepted, _, handedOver, acknowledged⟩ :=
    agent.transmit_fields encode surroundings
  exact ⟨begun, accepted, handedOver, acknowledged⟩

theorem booked_fragmentCalls
    (side : Side)
    (result : ReassemblyResult) :
    Booked side {} fun counter =>
      MetricCall.total counter (fragmentCalls result) := by
  apply Booked.of_quiet
  intro counter tracked
  unfold fragmentCalls
  rcases tracked with rfl | rfl | rfl | rfl | rfl | rfl | ⟨_, rfl⟩ |
      ⟨_, rfl⟩ <;>
    cases result.duplicate <;> cases result.recoveredByFec <;> rfl

/-- What a receive loop does with a frame is booked. -/
theorem Dispatches.isBooked
    {agent : Agent}
    {frame : Frame}
    {surroundings : Surroundings}
    {readings : Readings}
    {counted : Counted}
    (dispatched :
      agent.Dispatches frame surroundings readings counted) :
    counted.IsBooked agent.role.side ∧
      counted.effect.accepted = none ∧
      counted.effect.begun = none := by
  cases dispatched with
  | ignored | pong | rejected =>
      refine ⟨?_, rfl, rfl⟩
      constructor <;> rfl
  | staleAck | unknownAck =>
      refine ⟨?_, rfl, rfl⟩
      constructor <;> simp
  | acknowledged messageId inFlight latency =>
      refine ⟨?_, rfl, rfl⟩
      cases latency <;>
        constructor <;> simp
  | answered isForeign isPing calls transmits =>
      have idle :=
        agent.idle_transmit (fun sequence =>
          agent.codec.encode surroundings.clockMs {
            kind := agent.role.side.sentControl.code
            sequence := sequence
            timestampMs := some frame.timestampMs }) surroundings
      exact ⟨(transmits.booked (.inl rfl)).of_idle idle, idle.accepted,
        idle.begun⟩
  | stored isData result =>
      exact ⟨(booked_fragmentCalls _ result).of_idle ⟨rfl, rfl, rfl, rfl⟩,
        rfl, rfl⟩
  | kept isData result answer payload hasPayload handedOver undelivered =>
      refine ⟨?_, rfl, rfl⟩
      have booked := booked_fragmentCalls agent.role.side result
      have noneDelivered :
          handedOver.toList.filter Handover.delivered = [] := by
        cases handedOver with
        | none =>
            rfl
        | some handover =>
            simp [undelivered handover rfl]
      refine ⟨booked.framesReceived, booked.packetsReceived,
        booked.bytesReceived, ?_, ?_, booked.datagramsTaken,
        booked.bytesTaken, booked.acknowledged, booked.acksReceived,
        booked.transmissions⟩
      · simp only [Effect.doings, Journal.record, List.append_nil,
          noneDelivered]
        exact booked.payloadsHandedOver
      · simp only [Effect.doings, Journal.record, List.append_nil,
          noneDelivered]
        exact booked.bytesHandedOver
  | delivered isData result answer payload hasPayload acked isAck calls
      transmits =>
      have idle : acked.Idle := by
        rcases isAck with rfl | rfl
        · exact ⟨rfl, rfl, rfl, rfl⟩
        · exact idle_transmit _ _ surroundings
      have fragments := booked_fragmentCalls agent.role.side result
      have transmission := transmits.booked (.inr rfl)
      refine ⟨?_, idle.accepted, idle.begun⟩
      constructor
      all_goals
        simp [idle.begun, idle.accepted,
          idle.acknowledged, fragments.framesReceived,
          fragments.packetsReceived, fragments.bytesReceived,
          fragments.payloadsHandedOver, fragments.bytesHandedOver,
          fragments.datagramsTaken, fragments.bytesTaken,
          fragments.acknowledged, fragments.acksReceived,
          fragments.transmissions, transmission.framesReceived,
          transmission.packetsReceived, transmission.bytesReceived,
          transmission.payloadsHandedOver, transmission.bytesHandedOver,
          transmission.datagramsTaken, transmission.bytesTaken,
          transmission.acknowledged, transmission.acksReceived,
          transmission.transmissions]
      omega

/-- What a receive loop does with a packet is booked. -/
theorem Arrives.isBooked
    {agent : Agent}
    {packet : Bytes}
    {source : Address}
    {surroundings : Surroundings}
    {readings : Readings}
    {counted : Counted}
    (arrives :
      agent.Arrives packet source surroundings readings counted) :
    counted.IsBooked agent.role.side := by
  cases arrives with
  | mismatched | undecoded | replayed =>
      constructor <;> simp
  | repeated listens frame decoded refuses calls transmits =>
      have idle :=
        idle_transmit { agent with
          replay :=
            (agent.replay.accept frame.sequence frame.sessionId).1
          reassembler :=
            (agent.reassembler.isCompleted frame.sessionId
              frame.messageId surroundings.now).1 }
          (fun sequence =>
            agent.codec.encodeAck surroundings.clockMs
              agent.role.side.kinds.sentAck sequence frame.sessionId
              frame.messageId) surroundings
      have booked :
          Booked agent.role.side {} fun counter =>
            MetricCall.total counter
              (.increment .replayDrops 1 :: calls) := by
        have transmission := transmits.booked (.inr rfl)
        constructor
        all_goals
          simp [transmission.framesReceived,
            transmission.packetsReceived, transmission.bytesReceived,
            transmission.payloadsHandedOver, transmission.bytesHandedOver,
            transmission.datagramsTaken, transmission.bytesTaken,
            transmission.acknowledged, transmission.acksReceived,
            transmission.transmissions]
      exact booked.of_idle (idle.catching Failure.isOsError)
  | accepted listens frame decoded accepts inner dispatched =>
      have booked : inner.IsBooked agent.role.side :=
        dispatched.isBooked.1
      have notAccepted := dispatched.isBooked.2.1
      obtain ⟨_, sameBegun, _, _, _, _, sameHandedOver,
        sameAcknowledged⟩ :=
        catching_fields inner.effect fun failure =>
          failure.isOsError || failure.isProtocolError
      have length := FrameCodec.length_of_decode decoded
      constructor
      all_goals
        simp [notAccepted, sameBegun, sameHandedOver, sameAcknowledged,
          length, booked.framesReceived, booked.packetsReceived,
          booked.bytesReceived, booked.payloadsHandedOver,
          booked.bytesHandedOver, booked.datagramsTaken,
          booked.bytesTaken, booked.acknowledged, booked.acksReceived,
          booked.transmissions]

/-- Transmissions one after the other are no doings. -/
theorem booked_transports
    {Sent : Type}
    (side : Side)
    (packet : Sent → Bytes)
    (retransmission : Sent → Bool)
    (sentAt : Time)
    (items : List Sent) :
    Booked side {} fun counter =>
      MetricCall.total counter (items.flatMap fun item =>
        side.transportCalls (packet item) (retransmission item)
          sentAt) := by
  induction items with
  | nil =>
      exact .of_nil
  | cons item rest inductionHypothesis =>
      have sent :
          TransmitCalls side sentAt [] _ :=
        .sent (packet item) (retransmission item)
      rw [List.append_nil] at sent
      rw [List.flatMap_cons]
      exact (sent.booked (.inl rfl)).append inductionHypothesis

/-- A call of `send_data` begins, and does nothing else of note. -/
theorem beginSend_doings
    (agent : Agent)
    (payload : Bytes) :
    (agent.beginSend payload).begun =
        some (agent.messageId + 1, payload) ∧
      (agent.beginSend payload).accepted = none ∧
      (agent.beginSend payload).handedOver = none ∧
      (agent.beginSend payload).acknowledged = none := by
  unfold beginSend
  dsimp only
  split <;> exact ⟨rfl, rfl, rfl, rfl⟩

theorem Takes.isBooked
    {agent : Agent}
    {payload : Bytes}
    {readings : Readings}
    {counted : Counted}
    (takes : agent.Takes payload readings counted) :
    counted.IsBooked agent.role.side := by
  cases takes with
  | ignored =>
      constructor <;> simp
  | taken role sameSide refusal isRefusal =>
      obtain ⟨begun, accepted, handedOver, acknowledged⟩ :=
        beginSend_doings { agent with role := role } payload
      obtain ⟨_, sameBegun, _, _, sameAccepted, _, sameHandedOver,
        sameAcknowledged⟩ :=
        catching_fields (beginSend { agent with role := role } payload)
          Failure.isProtocolError
      rcases isRefusal with rfl | rfl <;>
        constructor <;>
          simp [sameBegun, sameAccepted, sameHandedOver, sameAcknowledged,
            begun, accepted, handedOver, acknowledged]

/-- Steps that read no packet and no datagram are no doings. -/
theorem idle_act
    (agent : Agent)
    {action : Action}
    (notReceive : action.isReceive = false)
    (notDatagram : action.isInnerDatagram = false) :
    (agent.act action).Idle := by
  cases action with
  | innerDatagram payload source =>
      cases notDatagram
  | buildPacket messageId clockMs =>
      simp only [act, buildPacket]
      split
      · split <;> exact ⟨rfl, rfl, rfl, rfl⟩
      · exact ⟨rfl, rfl, rfl, rfl⟩
  | finishSend messageId now failing =>
      simp only [act, finishSend]
      split
      · split
        · exact ⟨rfl, rfl, rfl, rfl⟩
        · split
          · exact ⟨rfl, rfl, rfl, rfl⟩
          · split <;> exact ⟨rfl, rfl, rfl, rfl⟩
      · exact ⟨rfl, rfl, rfl, rfl⟩
  | keepalive surroundings =>
      simp only [act, keepalive]
      split
      · exact (agent.idle_transmit _ surroundings).catching _
      · exact ⟨rfl, rfl, rfl, rfl⟩
  | pump now =>
      simp only [act, pump]
      split <;> exact ⟨rfl, rfl, rfl, rfl⟩
  | cleanup now =>
      simp only [act, cleanup]
      split <;> exact ⟨rfl, rfl, rfl, rfl⟩
  | receive packet source surroundings =>
      cases notReceive

theorem booked_calls
    (agent : Agent)
    (readings : Readings)
    {action : Action}
    (notReceive : action.isReceive = false)
    (notDatagram : action.isInnerDatagram = false) :
    Booked agent.role.side {} fun counter =>
      MetricCall.total counter (agent.countedAct readings action).calls := by
  cases action with
  | innerDatagram payload source =>
      cases notDatagram
  | buildPacket messageId clockMs =>
      simp only [countedAct, countedBuildPacket]
      split
      · constructor <;> simp
      · exact .of_nil
  | finishSend messageId now failing =>
      simp only [countedAct, countedFinishSend]
      split
      · refine .append ?_ ?_
        · constructor <;> simp
        · split
          · split
            · constructor <;> simp
            · exact .of_nil
          · exact booked_transports ..
      · exact .of_nil
  | keepalive surroundings =>
      simp only [countedAct, countedKeepalive]
      split
      · exact (agent.transmitCalls_sendControl surroundings readings
          none).booked (.inl rfl)
      · exact .of_nil
  | pump now =>
      simp only [countedAct, countedPump]
      split
      · refine .append (booked_transports ..) ?_
        split
        · exact .of_nil
        · constructor <;> simp
      · exact .of_nil
  | cleanup now =>
      simp only [countedAct, countedCleanup]
      split
      · refine .append ?_ ?_
        · split
          · exact .of_nil
          · constructor <;> simp
        · constructor <;> simp
      · exact .of_nil
  | receive packet source surroundings =>
      cases notReceive

/-- Every step of an agent is booked. -/
theorem isBooked_countedAct
    (agent : Agent)
    (readings : Readings)
    (action : Action) :
    (agent.countedAct readings action).IsBooked agent.role.side := by
  cases action with
  | innerDatagram payload source =>
      exact (agent.countedInnerLoop_cases readings payload source).isBooked
  | receive packet source surroundings =>
      exact (agent.countedReceiveLoop_cases surroundings readings packet
        source).isBooked
  | buildPacket | finishSend | keepalive | pump | cleanup =>
      refine (agent.booked_calls readings rfl rfl).of_idle ?_
      rw [effect_countedAct]
      exact agent.idle_act rfl rfl

end Agent

namespace Station

theorem counts_act
    (station : Station)
    (action : Action)
    (readings : Readings)
    (counter : Counter) :
    (station.act action readings).metrics.counts counter =
      station.metrics.counts counter +
        MetricCall.total counter
          (station.party.agent.countedAct readings action).calls := by
  rw [metrics_act]
  exact Metrics.counts_performAll ..

/-- The metrics of a station agree with what its agent has done. -/
def Balanced (station : Station) : Prop :=
  Booked station.party.agent.role.side station.party.journal
    station.metrics.counts

theorem side_act
    (station : Station)
    (action : Action)
    (readings : Readings) :
    (station.act action readings).party.agent.role.side =
      station.party.agent.role.side := by
  rw [party_act]
  exact (station.party.agent.sends_act action).sameSide

theorem Balanced.act
    {station : Station}
    (balanced : station.Balanced)
    (action : Action)
    (readings : Readings) :
    (station.act action readings).Balanced := by
  unfold Balanced at balanced ⊢
  rw [side_act]
  exact balanced.record
    (station.party.agent.isBooked_countedAct readings action)
    (counts_act station action readings)

/-- A process just started: nothing done, counted or left to send. -/
structure Started (station : Station) : Prop where
  journal :
    station.party.journal =
      { admitted := station.party.journal.admitted }
  counts :
    station.metrics.counts = .zero
  queue :
    station.party.agent.sender.queue = []
  pending :
    station.party.agent.sender.pending = .empty
  sending :
    station.party.agent.sending = .empty

theorem Started.balanced
    {station : Station}
    (started : station.Started) :
    station.Balanced := by
  unfold Balanced
  rw [started.journal, started.counts]
  constructor <;> rfl

/--
After every run of a process just started, its metrics say what it did: the
frames it accepted and their bytes, the payloads it handed over without an
error and theirs, the datagrams it took and theirs, the messages it saw
acknowledged, one outcome for every acknowledgement it received.
-/
theorem metrics_agree_with_journal
    {station : Station}
    (started : station.Started)
    (inputs : List (Action × Readings)) :
    Booked station.party.agent.role.side
      (machine.run station inputs).party.journal
      (machine.run station inputs).metrics.counts := by
  have holds :=
    machine.run_invariant
      (fun later =>
        later.party.agent.role.side = station.party.agent.role.side ∧
          later.Balanced)
      (fun before input holds =>
        ⟨(side_act before input.1 input.2).trans holds.1,
          holds.2.act input.1 input.2⟩)
      ⟨rfl, started.balanced⟩ inputs
  rw [← holds.1]
  exact holds.2

/-- A station just started over the stand-in libraries. -/
def plain (side : Side) : Station where
  party := World.plain side
  metrics := { role := side }

theorem plain_started (side : Side) : (plain side).Started where
  journal := rfl
  counts := rfl
  queue := by cases side <;> rfl
  pending := by cases side <;> rfl
  sending := by cases side <;> rfl

/-- The foreign agent sends the payload 1, 2, 3 reliably. -/
def sendReliably : List (Action × Readings) :=
  [ .innerDatagram [1, 2, 3] { host := "127.0.0.1", port := 51820 },
    .buildPacket 1 1000,
    .finishSend 1 0 none,
    .pump 0].map fun action => (action, { wall := 0, sentAt := 0 })

/--
What the Iran agent sends when the message reaches it: a message of its own,
and before it the acknowledgement.
-/
def answers : List Bytes :=
  let sending := World.machine.run World.plain [
    (.foreign, .innerDatagram [1, 2, 3]
      { host := "127.0.0.1", port := 51820 }),
    (.foreign, .buildPacket 1 1000)]
  ((World.machine.run sending [
    (.iran, .innerDatagram [9] { host := "10.0.0.2", port := 4000 }),
    (.iran, .receive (sending .foreign).journal.sealed.headI
      { host := "192.0.2.1", port := 443 }
      { nowMs := 1100, clockMs := 1100, now := 1 }),
    (.iran, .buildPacket 1 1100)]) .iran).journal.sealed

/-- A packet reaches the foreign agent. -/
def reachForeign (packet : Bytes) : Action × Readings :=
  (.receive packet { host := "192.0.2.2", port := 443 }
      { nowMs := 1200, clockMs := 1200, now := 2 },
    { wall := 2, sentAt := 1 })

/--
The foreign agent sends a message and sees it acknowledged.  A message for it
arrives twice, and then a packet that is no frame and a datagram from a host
that is not the local application's.
-/
def exchange : List (Action × Readings) :=
  sendReliably ++ [
    reachForeign (answers.getD 1 []),
    reachForeign (answers.getD 0 []),
    reachForeign (answers.getD 0 []),
    reachForeign [0],
    (.innerDatagram [7] { host := "192.0.2.9", port := 51820 },
      { wall := 2, sentAt := 1 })]

theorem metrics_agree_with_journal_exchange :
    (machine.run (plain .foreign) exchange).party.journal.begun =
        [(1, [1, 2, 3])] ∧
      (machine.run (plain .foreign)
          exchange).party.journal.acknowledged = [1] ∧
      (machine.run (plain .foreign)
          exchange).party.journal.accepted.length = 2 ∧
      (machine.run (plain .foreign)
          exchange).party.journal.handedOver.map Handover.payload =
        [[9]] ∧
      Booked .foreign
        (machine.run (plain .foreign) exchange).party.journal
        (machine.run (plain .foreign) exchange).metrics.counts :=
  ⟨by decide +kernel, by decide +kernel, by decide +kernel,
    by decide +kernel,
    metrics_agree_with_journal (plain_started .foreign) exchange⟩

end Station

end H3ntun

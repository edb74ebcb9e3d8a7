import H3ntun.Acknowledgement
import H3ntun.Retransmission

namespace H3ntun

/-!
# Frames of delivered messages

A frame of a message that was delivered is acknowledged again where the window
refuses it and the reassembler still remembers the message.  Where the window
accepts it, the reassembler reports a duplicate and nothing is sent.
-/

namespace FrameCodec

/-- The frame an acknowledgement payload is encoded as. -/
def ackFrame
    (codec : FrameCodec)
    (clockMs : Int)
    (kind : FrameKind)
    (sequence : Nat)
    (payload : Bytes) : Frame where
  kind := kind
  flags := 0
  tunnelId := codec.tunnelId
  sessionId := codec.sessionId
  sequence := sequence
  timestampMs := clockMs.toNat
  messageId := 0
  messageLen := payload.length
  fragmentIndex := 0
  fragmentCount := 1
  payload := payload

variable {codec : FrameCodec} {kind : FrameKind} {clockMs : Int}

theorem ackFrame_valid
    {sequence : Nat}
    {payload : Bytes}
    (sixteen : payload.length = 16)
    (clockFits : clockMs < 2 ^ 64)
    (sequenceFits : sequence < 2 ^ 64) :
    (codec.ackFrame clockMs kind sequence payload).Valid where
  rules := {
    known := FrameKind.ofCode?_code kind
    flags := .inl rfl
    payloadLen := by
      simp only [ackFrame, Frame.header, sixteen, maxFragmentPayload]
      omega
    messageLen := by
      simp only [ackFrame, Frame.header, sixteen, maxMessageSize]
      omega
    fragmentCount := by
      simp only [ackFrame, Frame.header, maxFragments]
      omega
    parity := fun isParity => by cases isParity
    data := fun _ => by
      simp only [ackFrame, Frame.header]
      omega
    control := fun _ => ⟨rfl, rfl, rfl, rfl, rfl⟩ }
  tunnelId := codec.tunnelIdLength
  sessionId := codec.sessionIdFits
  sequence := sequenceFits
  timestampMs := by
    simp only [ackFrame]
    omega
  messageId := by
    simp only [ackFrame]
    omega

/-- An acknowledgement is encoded while clock and counter fit their fields. -/
theorem encodeAck_succeeds_iff
    {sequence session message : Nat}
    (isAck : kind.isAck = true)
    (sessionFits : session < 2 ^ 64)
    (messageFits : message < 2 ^ 64) :
    (∃ packet,
      codec.encodeAck clockMs kind sequence session message =
        .ok packet) ↔
      0 ≤ clockMs ∧ clockMs < 2 ^ 64 ∧ sequence < 2 ^ 64 := by
  constructor
  · rintro ⟨packet, encoded⟩
    obtain ⟨payload, _, sealed⟩ := encodeAck_eq_ok encoded
    obtain ⟨frame, valid, sameHeader, _, _⟩ := encode_eq_ok_iff.mp sealed
    have sameTime : (frame.timestampMs : Int) = clockMs :=
      congrArg Header.timestampMs sameHeader
    have sameSequence : (frame.sequence : Int) = sequence :=
      congrArg Header.sequence sameHeader
    have timeFits := valid.timestampMs
    have sequenceFits := valid.sequence
    omega
  · rintro ⟨nonnegative, clockFits, sequenceFits⟩
    have fits :
        StructPack.Fits ackFormat [.int session, .int message] :=
      .cons ⟨Int.natCast_nonneg _, by exact_mod_cast sessionFits⟩
        (.cons ⟨Int.natCast_nonneg _, by exact_mod_cast messageFits⟩ .nil)
    obtain ⟨payload, packed, _⟩ := StructPack.unpackFrom_pack fits []
    have sixteen : payload.length = 16 :=
      StructPack.length_of_pack packed
    have notOther : ¬ (kind ≠ .ackUp ∧ kind ≠ .ackDown) := by
      revert isAck
      cases kind <;> decide
    refine ⟨(codec.ackFrame clockMs kind sequence payload).wire
      codec.primitives codec.aead, ?_⟩
    rw [encodeAck, if_neg notOther, packed]
    refine encode_of_header
      (ackFrame_valid sixteen clockFits sequenceFits) ?_ rfl
    simp only [Frame.header, requestHeader, ackFrame, Option.getD_none,
      Int.toNat_of_nonneg nonnegative]
    rfl

end FrameCodec

/-- An acknowledgement of a message is passed to `_transport_send`. -/
def Effect.SendsAck
    (effect : Effect)
    (tunnel : Tunnel)
    (ack : FrameKind)
    (key : Nat × Nat) : Prop :=
  ∃ frame : Frame,
    frame.Valid ∧
      frame.kind = ack ∧
      FrameCodec.decodeAck frame = .ok key ∧
      tunnel.wire frame ∈ effect.sent

namespace Agent

variable {agent : Agent} {frame : Frame} {surroundings : Surroundings}

theorem sent_catching
    (effect : Effect)
    (caught : Failure → Bool) :
    (effect.catching caught).sent = effect.sent := by
  unfold Effect.catching
  split <;> rfl

theorem sent_transmit
    (encode : Nat → Except Failure Bytes) :
    (agent.transmit encode surroundings).sent =
      (encode (agent.sequence + 1)).toOption.toList := by
  simp only [transmit]
  split <;> rename_i shape <;> simp [shape, Except.toOption]

/-- A refused data frame is answered if its message is remembered. -/
theorem sent_of_refused
    {packet : Bytes}
    (decoded :
      agent.codec.decode packet surroundings.nowMs = .ok frame)
    (refuses :
      (agent.replay.accept frame.sequence frame.sessionId).2 = false)
    (isData : frame.kind = agent.role.side.kinds.data) :
    (agent.receive packet surroundings).sent =
      if (agent.reassembler.isCompleted frame.sessionId frame.messageId
          surroundings.now).2 then
        (agent.codec.encodeAck surroundings.clockMs
          agent.role.side.kinds.sentAck (agent.sequence + 1 : Nat)
          frame.sessionId frame.messageId).toOption.toList
      else
        [] := by
  simp only [receive, decoded, refuses, Bool.false_eq_true, ↓reduceIte,
    receiveReplayed, isData, ne_eq, not_true_eq_false]
  split
  · rw [sent_catching, sendAck, sent_transmit]
  · rfl

/-- A fragment that completes nothing is not answered. -/
theorem sent_acceptFragment
    (completesNothing :
      (agent.acceptFragment frame surroundings).completed = none) :
    (agent.acceptFragment frame surroundings).sent = [] := by
  simp only [acceptFragment] at completesNothing ⊢
  split
  · rfl
  · rename_i result answer
    rw [answer] at completesNothing
    dsimp only at completesNothing
    split
    · rfl
    · rename_i payload hasPayload
      rw [hasPayload] at completesNothing
      cases completesNothing

/-- An accepted data frame that completes nothing is not answered. -/
theorem sent_of_accepted
    {packet : Bytes}
    (decoded :
      agent.codec.decode packet surroundings.nowMs = .ok frame)
    (accepts :
      (agent.replay.accept frame.sequence frame.sessionId).2 = true)
    (isData : frame.kind = agent.role.side.kinds.data)
    (completesNothing :
      (agent.receive packet surroundings).completed = none) :
    (agent.receive packet surroundings).sent = [] := by
  have handled :=
    dispatch_of_data { agent with
      replay :=
        (agent.replay.accept frame.sequence frame.sessionId).1 }
      frame surroundings isData
  simp only [receive, decoded, accepts, ↓reduceIte,
    (catching_fields _ _).2.2.2.2.2.1, handled] at completesNothing
  simp only [receive, decoded, accepts, ↓reduceIte, sent_catching,
    handled]
  exact sent_acceptFragment completesNothing

/--
An agent still knows a frame it has seen, remembers its message, and can
encode an acknowledgement.
-/
structure Remembers
    (agent : Agent)
    (frame : Frame)
    (surroundings : Surroundings) : Prop where
  refused :
    (agent.replay.accept frame.sequence frame.sessionId).2 = false
  completed :
    (agent.reassembler.isCompleted frame.sessionId frame.messageId
      surroundings.now).2 = true
  clock :
    0 ≤ surroundings.clockMs ∧ surroundings.clockMs < 2 ^ 64
  counter :
    agent.sequence + 1 < 2 ^ 64

theorem remembers_iff :
    agent.Remembers frame surroundings ↔
      (agent.replay.accept frame.sequence frame.sessionId).2 = false ∧
        (agent.reassembler.isCompleted frame.sessionId frame.messageId
          surroundings.now).2 = true ∧
        (0 ≤ surroundings.clockMs ∧ surroundings.clockMs < 2 ^ 64) ∧
        agent.sequence + 1 < 2 ^ 64 :=
  ⟨fun remembers => ⟨remembers.refused, remembers.completed,
      remembers.clock, remembers.counter⟩,
    fun facts => ⟨facts.1, facts.2.1, facts.2.2.1, facts.2.2.2⟩⟩

instance : Decidable (agent.Remembers frame surroundings) :=
  decidable_of_iff _ remembers_iff.symm

end Agent

/-- The frame an action makes an agent receive, if it delivered its message. -/
def Party.lateFrame?
    (party : Party) :
    Action → Option (Frame × Surroundings)
  | .receive packet source surroundings =>
      if party.agent.role.listens source then
        match party.agent.codec.decode packet surroundings.nowMs with
        | .error _ => none
        | .ok frame =>
            if frame.kind = party.agent.role.side.kinds.data ∧
                party.Delivered frame.key then
              some (frame, surroundings)
            else
              none
      else
        none
  | _ => none

namespace World

/-- Every frame of a delivered message is acknowledged once more. -/
def Reacknowledges
    (tunnel : Tunnel)
    (world : World)
    (move : Side × Action) : Prop :=
  ∀ late ∈ (world move.1).lateFrame? move.2,
    ((world move.1).agent.act move.2).SendsAck tunnel
      move.1.kinds.sentAck late.1.key

/-- Every frame of a delivered message is one the agent remembers. -/
def RemembersDelivered (world : World) (move : Side × Action) : Prop :=
  ∀ late ∈ (world move.1).lateFrame? move.2,
    (world move.1).agent.Remembers late.1 late.2

instance (world : World) (move : Side × Action) :
    Decidable (world.RemembersDelivered move) :=
  inferInstanceAs (Decidable (∀ late ∈ (world move.1).lateFrame? _, _))

namespace Sound

variable
  {tunnel : Tunnel}
  {world : World}
  {actor : Side}
  {action : Action}

/-- A delivered message is not completed again. -/
theorem completes_other
    (sound : world.Sound tunnel)
    (possible : world.Possible actor action)
    {key : Nat × Nat}
    (delivered : (world actor).Delivered key)
    (payload : Bytes) :
    ((world actor).agent.act action).completed ≠
      some (key, payload) := by
  intro completes
  have completedBefore :
      key ∈ (world actor).journal.completed.map Prod.fst := by
    obtain ⟨handover, member, sameKey, _⟩ := delivered
    have isCompleted :=
      (sound.receivers actor).handedOver.subset
        (List.mem_map_of_mem member)
    exact List.mem_map.mpr ⟨_, isCompleted, sameKey⟩
  have distinct := (sound.after possible).nodup_completed actor
  rw [after_same] at distinct
  simp only [Party.act, Journal.record, completes, Option.toList_some,
    List.singleton_append, List.map_cons, List.nodup_cons] at distinct
  exact distinct.1 completedBefore

/-- A refused frame is acknowledged if its message is remembered. -/
theorem sendsAck_of_refused_iff
    (sound : world.Sound tunnel)
    {packet : Bytes}
    {surroundings : Surroundings}
    {frame : Frame}
    (decoded :
      (world actor).agent.codec.decode packet surroundings.nowMs =
        .ok frame)
    (isData : frame.kind = (world actor).agent.role.side.kinds.data)
    (refuses :
      ((world actor).agent.replay.accept frame.sequence
        frame.sessionId).2 = false) :
    ((world actor).agent.receive packet surroundings).SendsAck tunnel
        actor.kinds.sentAck frame.key ↔
      (world actor).agent.Remembers frame surroundings := by
  have sameSide : (world actor).agent.role.side = actor :=
    sound.senders.side actor
  have valid :=
    ((FrameCodec.decode_eq_ok_iff (sound.lawful actor)).mp decoded).1
  have sentAck : actor.kinds.sentAck.isAck = true := by
    cases actor <;> rfl
  have succeeds :
      (∃ packet,
        (world actor).agent.codec.encodeAck surroundings.clockMs
          actor.kinds.sentAck ((world actor).agent.sequence + 1 : Nat)
          frame.sessionId frame.messageId = .ok packet) ↔
        0 ≤ surroundings.clockMs ∧ surroundings.clockMs < 2 ^ 64 ∧
          (world actor).agent.sequence + 1 < 2 ^ 64 :=
    FrameCodec.encodeAck_succeeds_iff sentAck valid.sessionId
      valid.messageId
  rw [Effect.SendsAck, Agent.sent_of_refused decoded refuses isData,
    sameSide]
  constructor
  · rintro ⟨ack, _, _, _, member⟩
    split at member
    · rename_i isCompleted
      cases encoded :
          (world actor).agent.codec.encodeAck surroundings.clockMs
            actor.kinds.sentAck ((world actor).agent.sequence + 1 : Nat)
            frame.sessionId frame.messageId with
      | error failure =>
          rw [encoded] at member
          cases member
      | ok packet =>
          obtain ⟨nonnegative, clockFits, counter⟩ :=
            succeeds.mp ⟨packet, encoded⟩
          exact ⟨refuses, isCompleted, ⟨nonnegative, clockFits⟩, counter⟩
    · cases member
  · intro remembers
    obtain ⟨packet, encoded⟩ :=
      succeeds.mpr ⟨remembers.clock.1, remembers.clock.2,
        remembers.counter⟩
    obtain ⟨ack, ackValid, sameKind, packetShape, decodes⟩ :=
      FrameCodec.frame_of_encodeAck sentAck encoded
    refine ⟨ack, ackValid, sameKind, decodes, ?_⟩
    rw [if_pos remembers.completed, encoded, packetShape,
      sound.wire_eq actor]
    exact List.mem_singleton_self _

/-- A late frame is acknowledged if and only if it is remembered. -/
theorem reacknowledges_iff
    (sound : world.Sound tunnel)
    {move : Side × Action}
    (possible : world.Possible move.1 move.2) :
    world.Reacknowledges tunnel move ↔ world.RemembersDelivered move := by
  obtain ⟨side, action⟩ := move
  unfold Reacknowledges RemembersDelivered
  refine forall₂_congr fun late isLate => ?_
  obtain ⟨frame, surroundings⟩ := late
  cases action with
  | receive packet source others =>
      simp only [Party.lateFrame?] at isLate
      split at isLate
      · rename_i listens
        split at isLate
        · cases isLate
        · rename_i received decoded
          split at isLate
          · rename_i facts
            cases isLate
            obtain ⟨isData, delivered⟩ := facts
            have received := Agent.act_receive listens packet surroundings
            cases verdict :
                ((world side).agent.replay.accept frame.sequence
                  frame.sessionId).2 with
            | false =>
                dsimp only
                rw [received]
                exact sound.sendsAck_of_refused_iff decoded isData verdict
            | true =>
                obtain ⟨_, _, completes, _⟩ :=
                  Agent.receive_of_data _ _ surroundings decoded verdict
                    isData
                have completesNothing :
                    ((world side).agent.receive packet
                      surroundings).completed = none := by
                  rw [← received]
                  rw [← received] at completes
                  exact Option.eq_none_iff_forall_ne_some.mpr
                    fun entry shape =>
                      sound.completes_other possible delivered entry.2
                        (shape.trans (congrArg some (Prod.ext
                          ((completes entry.1 entry.2).mp shape).1 rfl)))
                constructor
                · rintro ⟨ack, _, _, _, member⟩
                  dsimp only at member
                  rw [received,
                    Agent.sent_of_accepted decoded verdict isData
                      completesNothing] at member
                  cases member
                · intro remembers
                  have refused := remembers.refused
                  rw [verdict] at refused
                  cases refused
          · cases isLate
      · cases isLate
  | innerDatagram | buildPacket | finishSend | keepalive | pump
  | cleanup =>
      cases isLate

end Sound

/--
Along every run of two agents over an adversarial network, all frames of
delivered messages are acknowledged once more if and only if each of them is
remembered when it arrives.
-/
theorem delivered_frames_reacknowledged_iff
    {tunnel : Tunnel}
    {world : World}
    (started : world.Started tunnel)
    (moves : List (Side × Action))
    (possible :
      machine.EveryStep (fun world move => world.Possible move.1 move.2)
        world moves) :
    machine.EveryStep (fun world move => world.Reacknowledges tunnel move)
        world moves ↔
      machine.EveryStep RemembersDelivered world moves :=
  Machine.everyStep_iff (Sound tunnel)
    (fun _ _ sound isPossible => sound.reacknowledges_iff isPossible)
    (fun _ _ sound isPossible _ => sound.after isPossible)
    (Sound.of_started started) possible

/-- The Iran agent delivers a message and receives its packet once more. -/
def deliverAndRepeat : List (Side × Action) :=
  deliverOnce ++ [reachIran 100 onePacket]

/-- The packet received once more is acknowledged once more. -/
theorem delivered_frames_reacknowledged_iff_repeated_packet :
    machine.EveryStep
      (fun world move => world.Reacknowledges .plain move) plain
      deliverAndRepeat := by
  have relays : machine.EveryStep Relays plain deliverAndRepeat := by
    decide +kernel
  have possible :
      machine.EveryStep (fun world move => world.Possible move.1 move.2)
        plain deliverAndRepeat :=
    relays.imp fun _ _ isRelay => (step_of_relays .plain isRelay).1
  exact (delivered_frames_reacknowledged_iff plain_started
    deliverAndRepeat possible).mpr (by decide +kernel)

/-- A fragment and the parity deliver a message before its other fragment. -/
def deliverByParity : List (Side × Action) :=
  sendThree ++ [
    (.iran, .innerDatagram [9] { host := "10.0.0.2", port := 4000 }),
    reachIran 0 (threePackets.getD 0 []),
    reachIran 1 (threePackets.getD 2 [])]

/-- The other fragment is an authentic one, but it is not acknowledged. -/
theorem late_fragment_not_acknowledged :
    (system .plain).Reachable (machine.run plain deliverByParity) ∧
      ((machine.run plain deliverByParity) .iran).Delivered (2, 1) ∧
      (machine.run plain deliverByParity).Relays
        (reachIran 2 (threePackets.getD 1 [])) ∧
      (((machine.run plain deliverByParity) .iran).agent.act
        (reachIran 2 (threePackets.getD 1 [])).2).sent = [] ∧
      ¬ (machine.run plain deliverByParity).Reacknowledges .plain
        (reachIran 2 (threePackets.getD 1 [])) := by
  have relays : machine.EveryStep Relays plain deliverByParity := by
    decide +kernel
  have isLate :
      (((machine.run plain deliverByParity) .iran).lateFrame?
        (reachIran 2 (threePackets.getD 1 [])).2).isSome = true := by
    decide +kernel
  have nothingSent :
      (((machine.run plain deliverByParity) .iran).agent.act
        (reachIran 2 (threePackets.getD 1 [])).2).sent = [] := by
    decide +kernel
  refine ⟨TransitionSystem.Reachable.run
      (fun _ _ => step_of_relays .plain) (.start plain_started) relays,
    by decide +kernel, by decide +kernel, nothingSent, ?_⟩
  intro reacknowledges
  obtain ⟨late, member⟩ := Option.isSome_iff_exists.mp isLate
  obtain ⟨ack, _, _, _, sent⟩ := reacknowledges late member
  dsimp only [reachIran] at sent nothingSent
  rw [nothingSent] at sent
  cases sent

end World

end H3ntun

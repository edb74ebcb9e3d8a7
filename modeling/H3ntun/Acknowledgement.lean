import H3ntun.Delivery

namespace H3ntun

/-!
# What an acknowledgement means

An agent acknowledges a message on two paths: after handing its payload over,
and when the window refuses a fragment of a message the reassembler has
completed.  On the second path nothing says that the payload was ever handed
over.
-/

/-- Kinds of acknowledgements, of both directions. -/
def FrameKind.isAck : FrameKind → Bool
  | .ackUp | .ackDown => true
  | _ => false

namespace FrameCodec

/-- An acknowledgement names the session and the message it was packed for. -/
theorem frame_of_encodeAck
    {codec : FrameCodec}
    {clockMs sequence : Int}
    {session message : Nat}
    {kind : FrameKind}
    {packet : Bytes}
    (isAck : kind.isAck = true)
    (encoded :
      codec.encodeAck clockMs kind sequence session message =
        .ok packet) :
    ∃ frame : Frame,
      frame.Valid ∧
        frame.kind = kind ∧
        packet = frame.wire codec.primitives codec.aead ∧
        decodeAck frame = .ok (session, message) := by
  obtain ⟨payload, packed, sealed⟩ := encodeAck_eq_ok encoded
  obtain ⟨frame, valid, sameHeader, samePayload, packetShape⟩ :=
    encode_eq_ok_iff.mp sealed
  have sameKind : frame.kind = kind := by
    have known := valid.rules.known
    rw [sameHeader] at known
    exact Option.some.inj
      (known.symm.trans (FrameKind.ofCode?_code kind))
  have members := StructPack.accepted_of_pack packed
  simp only [ackFormat, List.forall₂_cons,
    List.forall₂_nil_right_iff] at members
  obtain ⟨⟨_, sessionPacked⟩, ⟨_, messagePacked⟩, _⟩ := members
  have fits :
      StructPack.Fits ackFormat [.int session, .int message] :=
    .cons (StructPack.Item.fits_of_pack_unsigned sessionPacked)
      (.cons (StructPack.Item.fits_of_pack_unsigned messagePacked) .nil)
  obtain ⟨other, otherPacked, reads⟩ := StructPack.unpackFrom_pack fits []
  have sameBytes : frame.payload = other := by
    rw [samePayload]
    exact Option.some.inj (packed.symm.trans otherPacked)
  have sameLength :
      frame.payload.length = StructPack.size ackFormat := by
    rw [sameBytes]
    exact StructPack.length_of_pack otherPacked
  have isAckFrame :
      ¬ ((frame.kind ≠ .ackUp ∧ frame.kind ≠ .ackDown) ∨
        frame.payload.length ≠ StructPack.size ackFormat) := by
    rw [sameKind, sameLength]
    revert isAck
    cases kind <;> decide
  refine ⟨frame, valid, sameKind, packetShape, ?_⟩
  rw [List.append_nil, ← sameBytes] at reads
  rw [decodeAck, if_neg isAckFrame, reads]
  rfl

end FrameCodec

/-- The payload of a message reached the local peer without an error. -/
def Party.Delivered (party : Party) (key : Nat × Nat) : Prop :=
  ∃ handover ∈ party.journal.handedOver,
    handover.key = key ∧ handover.delivered = true

instance (party : Party) (key : Nat × Nat) :
    Decidable (party.Delivered key) :=
  inferInstanceAs (Decidable (∃ handover ∈ party.journal.handedOver, _))

/-- Whether a refused frame is acknowledged once more. -/
def Agent.repeats
    (agent : Agent)
    (frame : Frame)
    (surroundings : Surroundings) : Bool :=
  !(agent.replay.accept frame.sequence frame.sessionId).2 &&
    frame.kind = agent.role.side.kinds.data &&
    (agent.reassembler.isCompleted frame.sessionId frame.messageId
      surroundings.now).2

/-- The frame an action acknowledges because its message is completed. -/
def Action.repeated? (action : Action) (agent : Agent) : Option Frame :=
  match action with
  | .receive packet source surroundings =>
      if agent.role.listens source then
        match agent.codec.decode packet surroundings.nowMs with
        | .error _ => none
        | .ok frame =>
            if agent.repeats frame surroundings then some frame else none
      else
        none
  | _ => none

namespace Effect

/-- The payload of a message reaches the local peer in this step. -/
def Delivered (effect : Effect) (key : Nat × Nat) : Prop :=
  ∃ handover ∈ effect.handedOver,
    handover.key = key ∧ handover.delivered = true

/--
A packet sealed in this step is no acknowledgement, or it acknowledges a
message delivered in this step or one that is repeated.
-/
def Acks
    (effect : Effect)
    (codec : FrameCodec)
    (ack : FrameKind)
    (repeats : Frame → Prop) : Prop :=
  ∀ packet ∈ effect.sealed,
    (∃ clockMs request, ∃ kind : FrameKind,
      codec.encode clockMs request = .ok packet ∧
        request.kind = kind.code ∧ kind.isAck = false) ∨
    ∃ clockMs sequence, ∃ frame : Frame,
      codec.encodeAck clockMs ack sequence frame.sessionId
          frame.messageId = .ok packet ∧
        (effect.Delivered frame.key ∨ repeats frame)

variable
  {effect : Effect}
  {codec : FrameCodec}
  {ack : FrameKind}
  {repeats : Frame → Prop}

theorem acks_nothing
    (notSealed : effect.sealed = none) :
    effect.Acks codec ack repeats := by
  intro packet member
  rw [notSealed] at member
  cases member

theorem Acks.catching
    (acks : effect.Acks codec ack repeats)
    (caught : Failure → Bool) :
    (effect.catching caught).Acks codec ack repeats := by
  obtain ⟨_, _, sameSealed, _, _, _, sameHandedOver, _⟩ :=
    Agent.catching_fields effect caught
  rw [Acks, sameSealed]
  simp only [Delivered, sameHandedOver]
  exact acks

end Effect

namespace Agent

variable
  (agent : Agent)
  (frame : Frame)
  (surroundings : Surroundings)
  {repeats : Frame → Prop}

theorem acks_sendControl
    (timestampMs : Option Int) :
    (agent.sendControl timestampMs surroundings).Acks agent.codec
      agent.role.side.kinds.sentAck repeats := by
  intro packet member
  have encoded := sealed_transmit member
  refine .inl ⟨_, _, agent.role.side.sentControl, encoded, rfl, ?_⟩
  cases agent.role.side <;> rfl

/-- A packet `sendAck` seals is packed for the message of the frame. -/
theorem encodeAck_of_sendAck
    {packet : Bytes}
    (member : packet ∈ (agent.sendAck frame surroundings).sealed) :
    agent.codec.encodeAck surroundings.clockMs
        agent.role.side.kinds.sentAck (agent.sequence + 1 : Nat)
        frame.sessionId frame.messageId = .ok packet := by
  have encoded := sealed_transmit member
  exact encoded

theorem Handles.acks
    {agent : Agent}
    {frame : Frame}
    {surroundings : Surroundings}
    {effect : Effect}
    (handles : agent.Handles frame surroundings effect) :
    effect.Acks agent.codec agent.role.side.kinds.sentAck repeats := by
  cases handles with
  | ignored | acknowledged | stored | completed =>
      exact Effect.acks_nothing rfl
  | answered timestampMs =>
      exact acks_sendControl agent surroundings timestampMs
  | delivered isData payload =>
      intro packet member
      exact .inr ⟨_, _, frame,
        encodeAck_of_sendAck { agent with
          reassembler :=
            (agent.reassembler.add frame surroundings.now).1 }
          frame surroundings member,
        .inl ⟨_, rfl, rfl, rfl⟩⟩

theorem acks_receive
    (packet : Bytes)
    (repeated :
      ∀ frame,
        agent.codec.decode packet surroundings.nowMs = .ok frame →
        agent.repeats frame surroundings = true →
        repeats frame) :
    (agent.receive packet surroundings).Acks agent.codec
      agent.role.side.kinds.sentAck repeats := by
  have reacts := agent.receive_cases surroundings packet
  generalize agent.receive packet surroundings = effect at reacts ⊢
  cases reacts with
  | undecoded | refused =>
      exact Effect.acks_nothing rfl
  | accepted frame decoded effect handles caught =>
      exact handles.acks.catching caught
  | repeated frame decoded refuses isData isCompleted caught =>
      apply Effect.Acks.catching
      intro packet member
      have again : agent.repeats frame surroundings = true := by
        simp [Agent.repeats, refuses, isData, isCompleted]
      exact .inr ⟨_, _, frame,
        encodeAck_of_sendAck { agent with
          replay :=
            (agent.replay.accept frame.sequence frame.sessionId).1
          reassembler :=
            (agent.reassembler.isCompleted frame.sessionId
              frame.messageId surroundings.now).1 }
          frame surroundings member,
        .inr (repeated frame decoded again)⟩

/-- Acknowledgements are sealed on the two paths only. -/
theorem acks_act
    (action : Action) :
    (agent.act action).Acks agent.codec agent.role.side.kinds.sentAck
      (· ∈ action.repeated? agent) := by
  cases action with
  | innerDatagram payload source =>
      rw [act]
      obtain ignored | ⟨role, _, begun⟩ :=
        agent.innerLoop_cases payload source
      · rw [ignored]
        exact Effect.acks_nothing rfl
      · rw [begun]
        exact (Effect.acks_nothing (beginSend_fields _ payload).1).catching
          _
  | buildPacket messageId clockMs =>
      simp only [act, buildPacket]
      split
      · split
        · exact Effect.acks_nothing rfl
        · rename_i packet encoded
          intro other member
          obtain rfl := Option.some.inj member
          refine .inl ⟨_, _, agent.role.side.sentData, encoded, rfl, ?_⟩
          cases agent.role.side <;> rfl
      · exact Effect.acks_nothing rfl
  | finishSend messageId now failing =>
      apply Effect.acks_nothing
      simp only [act, finishSend]
      split
      · split
        · rfl
        · split
          · rfl
          · split <;> rfl
      · rfl
  | keepalive surroundings =>
      simp only [act, keepalive]
      split
      · exact (acks_sendControl agent surroundings none).catching _
      · exact Effect.acks_nothing rfl
  | pump now =>
      apply Effect.acks_nothing
      simp only [act, pump]
      split <;> rfl
  | cleanup now =>
      apply Effect.acks_nothing
      simp only [act, cleanup]
      split <;> rfl
  | receive packet source surroundings =>
      simp only [act, receiveLoop, iranDownlinkLoop, foreignUplinkLoop]
      split
      · rename_i roleShape
        split
        · exact Effect.acks_nothing rfl
        · rename_i fromSource
          apply acks_receive
          intro frame decoded repeats
          have heard : agent.role.listens source = true := by
            rw [roleShape, Role.listens]
            simpa using fromSource
          simp [Action.repeated?, heard, decoded, repeats]
      · rename_i roleShape
        apply acks_receive
        intro frame decoded repeats
        have heard : agent.role.listens source = true := by
          rw [roleShape, Role.listens]
        simp [Action.repeated?, heard, decoded, repeats]

theorem acknowledged_sendAck :
    (agent.sendAck frame surroundings).acknowledged = none :=
  (agent.transmit_fields _ surroundings).2.2.2.2.2.2.2

theorem Handles.acknowledged_of_mem
    {agent : Agent}
    {frame : Frame}
    {surroundings : Surroundings}
    {effect : Effect}
    (handles : agent.Handles frame surroundings effect)
    {messageId : Nat}
    (member : messageId ∈ effect.acknowledged) :
    frame.kind = agent.role.side.kinds.expectedAck ∧
      FrameCodec.decodeAck frame =
        .ok (agent.codec.sessionId, messageId) := by
  cases handles with
  | ignored | stored | completed =>
      cases member
  | acknowledged message isAck decoded =>
      simp only [Option.mem_def, Option.ite_none_right_eq_some,
        Option.some.injEq] at member
      rw [← member.2]
      exact ⟨isAck, decoded⟩
  | answered timestampMs =>
      rw [sendControl, (agent.transmit_fields _ surroundings).2.2.2.2.2.2.2]
        at member
      cases member
  | delivered isData payload =>
      rw [acknowledged_sendAck] at member
      cases member

theorem acknowledged_receive
    {packet : Bytes}
    {messageId : Nat}
    (member :
      messageId ∈ (agent.receive packet surroundings).acknowledged) :
    ∃ frame,
      agent.codec.decode packet surroundings.nowMs = .ok frame ∧
        frame.kind = agent.role.side.kinds.expectedAck ∧
        FrameCodec.decodeAck frame =
          .ok (agent.codec.sessionId, messageId) := by
  have reacts := agent.receive_cases surroundings packet
  generalize agent.receive packet surroundings = effect at reacts member
  cases reacts with
  | undecoded | refused =>
      cases member
  | accepted frame decoded effect handles caught =>
      rw [(catching_fields _ _).2.2.2.2.2.2.2] at member
      exact ⟨frame, decoded, handles.acknowledged_of_mem member⟩
  | repeated frame decoded refuses isData isCompleted caught =>
      rw [(catching_fields _ _).2.2.2.2.2.2.2, acknowledged_sendAck]
        at member
      cases member

/-- Only an acknowledgement the agent decodes makes it forget a message. -/
theorem acknowledged_act
    {action : Action}
    {messageId : Nat}
    (member : messageId ∈ (agent.act action).acknowledged) :
    ∃ frame,
      action.Delivers agent frame ∧
        frame.kind = agent.role.side.kinds.expectedAck ∧
        FrameCodec.decodeAck frame =
          .ok (agent.codec.sessionId, messageId) := by
  cases action with
  | innerDatagram payload source =>
      rw [act] at member
      obtain ignored | ⟨role, _, begun⟩ :=
        agent.innerLoop_cases payload source
      · rw [ignored] at member
        cases member
      · rw [begun, (catching_fields _ _).2.2.2.2.2.2.2,
          (beginSend_fields _ payload).2] at member
        cases member
  | buildPacket messageId clockMs =>
      simp only [act, buildPacket] at member
      split at member
      · split at member <;> cases member
      · cases member
  | finishSend messageId now failing =>
      simp only [act, finishSend] at member
      split at member
      · split at member
        · cases member
        · split at member
          · cases member
          · split at member <;> cases member
      · cases member
  | keepalive surroundings =>
      simp only [act, keepalive] at member
      split at member
      · rw [(catching_fields _ _).2.2.2.2.2.2.2, sendControl,
          (transmit_fields _ _ surroundings).2.2.2.2.2.2.2] at member
        cases member
      · cases member
  | pump now =>
      simp only [act, pump] at member
      split at member <;> cases member
  | cleanup now =>
      simp only [act, cleanup] at member
      split at member <;> cases member
  | receive packet source surroundings =>
      simp only [act, receiveLoop, iranDownlinkLoop, foreignUplinkLoop]
        at member
      split at member
      · split at member
        · cases member
        · exact acknowledged_receive agent surroundings member
      · exact acknowledged_receive agent surroundings member

end Agent

namespace World

variable {tunnel : Tunnel} {world : World}

/-- An agent only repeats acknowledgements of messages it has delivered. -/
def RepeatsDelivered (world : World) (move : Side × Action) : Prop :=
  ∀ frame ∈ move.2.repeated? (world move.1).agent,
    (world move.1).Delivered frame.key

instance (world : World) (move : Side × Action) :
    Decidable (world.RepeatsDelivered move) :=
  inferInstanceAs (Decidable (∀ frame ∈ move.2.repeated? _, _))

/-- Acknowledgements on their way, and those received, are of deliveries. -/
structure AcksSound (tunnel : Tunnel) (world : World) : Prop where
  sealed :
    ∀ side frame,
      tunnel.Sealed (world side).journal.sealed frame →
      frame.kind.isAck = true →
      ∃ key,
        FrameCodec.decodeAck frame = .ok key ∧
          (world side).Delivered key
  acknowledged :
    ∀ side, ∀ messageId ∈ (world side).journal.acknowledged,
      (world side.peer).Delivered
        ((world side).agent.codec.sessionId, messageId)

/-- What has been delivered stays delivered. -/
theorem delivered_after
    {side actor : Side}
    (action : Action)
    {key : Nat × Nat}
    (delivered : (world side).Delivered key) :
    (world.after actor action side).Delivered key := by
  obtain ⟨handover, member, isDelivery⟩ := delivered
  refine ⟨handover, ?_, isDelivery⟩
  by_cases own : side = actor
  · subst own
    rw [after_same]
    exact List.mem_append_right _ member
  · rw [after_other world own]
    exact member

namespace AcksSound

theorem of_started
    (started : world.Started tunnel) :
    world.AcksSound tunnel where
  sealed side frame isSealed := by
    have member := isSealed.2
    rw [(started.party side).journal_empty.2.1] at member
    cases member
  acknowledged side messageId member := by
    rw [(started.party side).journal_empty.2.2.2.2.2] at member
    cases member

/-- An acknowledgement sealed in a step is of a delivery. -/
theorem sealed_after
    (acksSound : world.AcksSound tunnel)
    (sound : world.Sound tunnel)
    {actor : Side}
    {action : Action}
    (repeats : world.RepeatsDelivered (actor, action))
    {frame : Frame}
    (isSealed :
      tunnel.Sealed (world.after actor action actor).journal.sealed frame)
    (isAck : frame.kind.isAck = true) :
    ∃ key,
      FrameCodec.decodeAck frame = .ok key ∧
        (world.after actor action actor).Delivered key := by
  obtain ⟨valid, member⟩ := isSealed
  rw [after_same] at member
  rcases List.mem_append.mp member with isNew | earlier
  · have sender := sound.senders.sending actor
    have sameSide : (world actor).agent.role.side = actor :=
      sound.senders.side actor
    have acks := (world actor).agent.acks_act action
    rw [sameSide] at acks
    rcases acks _ (Option.mem_toList.mp isNew) with
      ⟨clockMs, request, kind, encoded, sameKind, notAck⟩ |
        ⟨clockMs, sequence, cause, encoded, delivered⟩
    · obtain ⟨other, otherValid, sameWire, _, _, sameHeader, _⟩ :=
        sender.frame_of_encode encoded
      have same :=
        FrameCodec.wire_injective tunnel.lawful valid otherValid sameWire
      have known := otherValid.rules.known
      rw [sameHeader] at known
      have otherKind : other.kind = kind :=
        Option.some.inj (known.symm.trans
          ((congrArg FrameKind.ofCode? sameKind).trans
            (FrameKind.ofCode?_code kind)))
      rw [same, otherKind, notAck] at isAck
      cases isAck
    · have sentAck : actor.kinds.sentAck.isAck = true := by
        cases actor <;> rfl
      obtain ⟨other, otherValid, _, otherWire, decodes⟩ :=
        FrameCodec.frame_of_encodeAck sentAck encoded
      have sameWire : tunnel.wire frame = tunnel.wire other := by
        have samePrimitives :
            (world actor).agent.codec.primitives = tunnel.primitives :=
          sender.codec.primitives
        have sameAead :
            (world actor).agent.codec.aead = tunnel.aead :=
          sender.codec.aead
        rw [otherWire, samePrimitives, sameAead]
        rfl
      have same :=
        FrameCodec.wire_injective tunnel.lawful valid otherValid sameWire
      rw [same]
      refine ⟨cause.key, decodes, ?_⟩
      rcases delivered with inThisStep | repeated
      · obtain ⟨handover, inEffect, isDelivery⟩ := inThisStep
        rw [after_same]
        exact ⟨handover,
          List.mem_append_left _ (Option.mem_toList.mpr inEffect),
          isDelivery⟩
      · exact delivered_after action (repeats cause repeated)
  · obtain ⟨key, decodes, delivered⟩ :=
      acksSound.sealed actor frame ⟨valid, earlier⟩ isAck
    exact ⟨key, decodes, delivered_after action delivered⟩

/-- A message acknowledged in a step was delivered by the peer. -/
theorem acknowledged_after
    (acksSound : world.AcksSound tunnel)
    (sound : world.Sound tunnel)
    {actor : Side}
    {action : Action}
    (possible : world.Possible actor action)
    {messageId : Nat}
    (member :
      messageId ∈ ((world actor).agent.act action).acknowledged) :
    (world actor.peer).Delivered
      ((world actor).agent.codec.sessionId, messageId) := by
  have sameSide : (world actor).agent.role.side = actor :=
    sound.senders.side actor
  obtain ⟨frame, delivers, expected, decodes⟩ :=
    (world actor).agent.acknowledged_act member
  rw [sameSide] at expected
  have isAck : frame.kind.isAck = true := by
    rw [expected]
    cases actor <;> rfl
  obtain ⟨origin, isSealed⟩ :=
    sound.encoded_of_delivers possible delivers
  obtain ⟨key, otherDecodes, delivered⟩ :=
    acksSound.sealed origin frame isSealed isAck
  have fromPeer : origin = actor.peer := by
    have originSide : (world origin).agent.sendState.side = origin :=
      sound.senders.side origin
    have sends := (sound.senders.sending origin).kinds frame isSealed
    rw [expected, originSide] at sends
    revert sends
    cases origin <;> cases actor <;> decide
  rw [decodes] at otherDecodes
  rw [← fromPeer, Except.ok.inj otherDecodes]
  exact delivered

/-- A step that repeats no undelivered message keeps the invariant. -/
theorem after
    (acksSound : world.AcksSound tunnel)
    (sound : world.Sound tunnel)
    {actor : Side}
    {action : Action}
    (possible : world.Possible actor action)
    (repeats : world.RepeatsDelivered (actor, action)) :
    (world.after actor action).AcksSound tunnel where
  sealed side frame isSealed isAck := by
    by_cases own : side = actor
    · subst own
      exact acksSound.sealed_after sound repeats isSealed isAck
    · rw [after_other world own] at isSealed ⊢
      exact acksSound.sealed side frame isSealed isAck
  acknowledged side messageId member := by
    by_cases own : side = actor
    · subst own
      have sameCodec :
          ((world side).act action).agent.codec =
            (world side).agent.codec :=
        ((world side).agent.sends_act action).sameCodec
      rw [after_same] at member
      rw [after_peer, after_same, sameCodec]
      rcases List.mem_append.mp member with isNew | earlier
      · exact acksSound.acknowledged_after sound possible
          (Option.mem_toList.mp isNew)
      · exact acksSound.acknowledged side messageId earlier
    · rw [after_other world own] at member ⊢
      exact delivered_after action
        (acksSound.acknowledged side messageId member)

end AcksSound

/--
In every run in which no acknowledgement of an undelivered message is
repeated: a message an agent sees acknowledged was handed over, without an
error, by its peer.
-/
theorem acknowledged_means_delivered
    {tunnel : Tunnel}
    {world : World}
    (reached :
      ((system tunnel).restrict RepeatsDelivered).Reachable world)
    (side : Side) :
    ∀ messageId ∈ (world side).journal.acknowledged,
      ∃ handover ∈ (world side.peer).journal.handedOver,
        handover.delivered = true ∧
          handover.key = ((world side).agent.codec.sessionId, messageId) ∧
          (messageId, handover.payload) ∈ (world side).journal.begun := by
  have acksSound : world.AcksSound tunnel := by
    refine reached.invariant (motive := AcksSound tunnel)
      (fun _ started => .of_started started) ?_
    intro world move later reached acksSound taken
    rw [taken.1.2]
    exact acksSound.after (Sound.of_reachable reached.of_restrict)
      taken.1.1 taken.2
  have sound := Sound.of_reachable reached.of_restrict
  intro messageId member
  obtain ⟨handover, handedOver, sameKey, delivered⟩ :=
    acksSound.acknowledged side messageId member
  obtain ⟨_, begun⟩ := sound.sent_of_handedOver handedOver
  rw [sameKey, Side.peer_peer] at begun
  exact ⟨handover, handedOver, delivered, sameKey, begun⟩

/-- The foreign agent sends a message reliably. -/
def sendReliably : List (Side × Action) :=
  sendOne ++ [
    (.foreign, .finishSend 1 0 none),
    (.foreign, .pump 0)]

/-- The Iran agent delivers the message and acknowledges it. -/
def deliverOnce : List (Side × Action) :=
  sendReliably ++ [
    (.iran, .innerDatagram [9] { host := "10.0.0.2", port := 4000 }),
    (.iran, .receive onePacket { host := "192.0.2.1", port := 443 }
      { nowMs := 1200, clockMs := 1200, now := 0 })]

/-- The packet comes again, and the Iran agent acknowledges it again. -/
def repeatDelivered : List (Side × Action) :=
  deliverOnce ++ [
    (.iran, .receive onePacket { host := "192.0.2.1", port := 443 }
      { nowMs := 1300, clockMs := 1300, now := 1 })]

/-- The foreign agent receives the newest packet of the Iran agent. -/
def returnNewest (moves : List (Side × Action)) :
    List (Side × Action) :=
  moves ++ [
    (.foreign, .receive
      ((machine.run plain moves) .iran).journal.sealed.headI
      { host := "192.0.2.2", port := 443 }
      { nowMs := 1400, clockMs := 1400, now := 1 })]

/-- The second acknowledgement arrives, of a message handed over once. -/
theorem acknowledged_means_delivered_repeated :
    1 ∈ ((machine.run plain (returnNewest repeatDelivered))
        .foreign).journal.acknowledged ∧
      ∃ handover ∈ ((machine.run plain (returnNewest repeatDelivered))
          .iran).journal.handedOver,
        handover.delivered = true ∧ handover.key = (2, 1) := by
  have everyStep :
      machine.EveryStep
        (fun world move =>
          world.Relays move ∧ world.RepeatsDelivered move)
        plain (returnNewest repeatDelivered) := by
    decide +kernel
  have follows :
      ∀ (world : World) move,
        (world.Relays move ∧ world.RepeatsDelivered move) →
        ((system .plain).restrict RepeatsDelivered).step world move
          (machine.step world move).1 :=
    fun _ _ admissible =>
      ⟨step_of_relays .plain admissible.1, admissible.2⟩
  have reached :=
    TransitionSystem.Reachable.run follows (.start plain_started) everyStep
  have acknowledged :
      1 ∈ ((machine.run plain (returnNewest repeatDelivered))
        .foreign).journal.acknowledged := by
    decide +kernel
  have sameSession :
      ((machine.run plain (returnNewest repeatDelivered))
        .foreign).agent.codec.sessionId = 2 := by
    decide +kernel
  obtain ⟨handover, member, delivered, sameKey, _⟩ :=
    acknowledged_means_delivered reached .foreign 1 acknowledged
  exact ⟨acknowledged, handover, member, delivered, sameSession ▸ sameKey⟩

/-- The message reaches the Iran agent twice before it knows a local peer. -/
def repeatUndelivered : List (Side × Action) :=
  sendReliably ++ [
    (.iran, .receive onePacket { host := "192.0.2.1", port := 443 }
      { nowMs := 1200, clockMs := 1200, now := 0 }),
    (.iran, .receive onePacket { host := "192.0.2.1", port := 443 }
      { nowMs := 1300, clockMs := 1300, now := 1 })]

/-- The second copy is acknowledged, though nothing was handed over. -/
theorem undelivered_message_acknowledged :
    (system .plain).Reachable
        (machine.run plain (returnNewest repeatUndelivered)) ∧
      ((machine.run plain (returnNewest repeatUndelivered))
        .foreign).journal.acknowledged = [1] ∧
      ((machine.run plain (returnNewest repeatUndelivered))
        .iran).journal.handedOver = [] := by
  have relays :
      machine.EveryStep Relays plain (returnNewest repeatUndelivered) := by
    decide +kernel
  exact ⟨TransitionSystem.Reachable.run
      (fun _ _ => step_of_relays .plain) (.start plain_started) relays,
    by decide +kernel, by decide +kernel⟩

end World

end H3ntun

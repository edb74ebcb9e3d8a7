import H3ntun.World

namespace H3ntun

/-!
# What one step of an agent can do

An agent is a sending half, with its counters and unfinished sends, and a
receiving half, with its replay window and reassembler.  Every action is one
step of each half, and these steps are all a proof about runs has to know.
-/

/-- The sending half of an agent, with the settings it reads. -/
structure SendState where
  codec : FrameCodec
  side : Side
  fragmentPayloadBytes : Nat
  fecEnabled : Bool
  sequence : Nat
  messageId : Nat
  sending : OrderedDict Nat SendJob

/-- The receiving half of an agent. -/
structure Receiver where
  replay : ReplayWindow
  reassembler : Reassembler

namespace Agent

/-- What the sending half of an agent reads and writes. -/
def sendState (agent : Agent) : SendState where
  codec := agent.codec
  side := agent.role.side
  fragmentPayloadBytes := agent.fragmentPayloadBytes
  fecEnabled := agent.fecEnabled
  sequence := agent.sequence
  messageId := agent.messageId
  sending := agent.sending

/-- What the receiving half of an agent reads and writes. -/
def receiver (agent : Agent) : Receiver where
  replay := agent.replay
  reassembler := agent.reassembler

theorem sendState_codec (agent : Agent) :
    agent.sendState.codec = agent.codec :=
  rfl

theorem receiver_replay (agent : Agent) :
    agent.receiver.replay = agent.replay :=
  rfl

theorem receiver_reassembler (agent : Agent) :
    agent.receiver.reassembler = agent.reassembler :=
  rfl

end Agent

/-- A request of an acknowledgement or control frame of one side. -/
def EncodeRequest.IsControl
    (request : EncodeRequest)
    (side : Side)
    (sequence : Nat) : Prop :=
  request.sequence = sequence ∧
    ∃ kind : FrameKind,
      request.kind = kind.code ∧
        (kind = side.kinds.sentAck ∨ kind = side.sentControl)

/-- Arguments of `encode` for one fragment of a message. -/
def SendState.fragmentRequest
    (state : SendState)
    (messageId : Nat)
    (spec : FragmentSpec) : EncodeRequest where
  kind := state.side.sentData.code
  sequence := (state.sequence + 1 : Nat)
  payload := spec.payload
  messageId := messageId
  messageLen := some spec.messageLen
  fragmentIndex := spec.fragmentIndex
  fragmentCount := spec.fragmentCount
  flags := spec.flags

/--
Steps of the sending half, labelled with the packet `encode` returned and
the `send_data` call begun.
-/
inductive SendState.Step (before : SendState) :
    SendState → Option Bytes → Option (Nat × Bytes) → Prop where
  | nothing :
      Step before before none none
  | control
      {sealed : Option Bytes}
      (origin :
        ∀ packet ∈ sealed, ∃ clockMs request,
          before.codec.encode clockMs request = .ok packet ∧
            request.IsControl before.side (before.sequence + 1)) :
      Step before { before with sequence := before.sequence + 1 }
        sealed none
  | refuse
      (payload : Bytes) :
      Step before { before with messageId := before.messageId + 1 }
        none (some (before.messageId + 1, payload))
  | begin
      (payload : Bytes)
      (fragments : List FragmentSpec)
      (fragmented :
        fragmentMessage payload before.fragmentPayloadBytes
          before.fecEnabled = .ok fragments) :
      Step before
        { before with
          messageId := before.messageId + 1
          sending :=
            before.sending.set (before.messageId + 1)
              { remaining := fragments } }
        none (some (before.messageId + 1, payload))
  | abort
      (messageId : Nat) :
      Step before
        { before with
          sequence := before.sequence + 1
          sending := before.sending.erase messageId }
        none none
  | build
      (messageId : Nat)
      (spec : FragmentSpec)
      (remaining : List FragmentSpec)
      (packets : List Bytes)
      (clockMs : Int)
      (packet : Bytes)
      (unfinished :
        before.sending.get? messageId =
          some { remaining := spec :: remaining, packets := packets })
      (encoded :
        before.codec.encode clockMs
          (before.fragmentRequest messageId spec) = .ok packet) :
      Step before
        { before with
          sequence := before.sequence + 1
          sending :=
            before.sending.set messageId
              { remaining := remaining, packets := packets ++ [packet] } }
        (some packet) none
  | finish
      (messageId : Nat) :
      Step before
        { before with sending := before.sending.erase messageId }
        none none

namespace SendState.Step

variable
  {before after : SendState}
  {sealed : Option Bytes}
  {begun : Option (Nat × Bytes)}

theorem sameCodec
    (taken : before.Step after sealed begun) :
    after.codec = before.codec := by
  cases taken <;> rfl

theorem sameSide
    (taken : before.Step after sealed begun) :
    after.side = before.side := by
  cases taken <;> rfl

theorem sameSettings
    (taken : before.Step after sealed begun) :
    after.fragmentPayloadBytes = before.fragmentPayloadBytes ∧
      after.fecEnabled = before.fecEnabled := by
  cases taken <;> exact ⟨rfl, rfl⟩

end SendState.Step

/--
Steps of the receiving half, labelled with the frame the window accepted,
the message completed and the payload handed over.  `delivers` holds of the
frames the network may deliver in this step.
-/
inductive Receiver.Step
    (delivers : Frame → Prop)
    (data : FrameKind)
    (before : Receiver) :
    Receiver → Option Frame → Option ((Nat × Nat) × Bytes) →
      Option Handover → Prop where
  | nothing :
      Step delivers data before before none none none
  | purge
      (now : Time) :
      Step delivers data before
        { before with reassembler := before.reassembler.purge now }
        none none none
  | refused
      (frame : Frame)
      (purged : Option Time)
      (delivered : delivers frame)
      (refuses :
        (before.replay.accept frame.sequence frame.sessionId).2 = false) :
      Step delivers data before
        { replay :=
            (before.replay.accept frame.sequence frame.sessionId).1
          reassembler :=
            match purged with
            | some now => before.reassembler.purge now
            | none => before.reassembler }
        none none none
  | other
      (frame : Frame)
      (delivered : delivers frame)
      (accepts :
        (before.replay.accept frame.sequence frame.sessionId).2 = true)
      (notData : frame.kind ≠ data) :
      Step delivers data before
        { before with
          replay :=
            (before.replay.accept frame.sequence frame.sessionId).1 }
        (some frame) none none
  | data
      {completed : Option ((Nat × Nat) × Bytes)}
      {handedOver : Option Handover}
      (frame : Frame)
      (now : Time)
      (delivered : delivers frame)
      (accepts :
        (before.replay.accept frame.sequence frame.sessionId).2 = true)
      (isData : frame.kind = data)
      (completes :
        ∀ key payload,
          completed = some (key, payload) ↔
            key = frame.key ∧
              ∃ result,
                (before.reassembler.add frame now).2 = .ok result ∧
                  result.payload = some payload)
      (handsOver :
        ∀ handover ∈ handedOver,
          completed = some (handover.key, handover.payload)) :
      Step delivers data before
        { replay :=
            (before.replay.accept frame.sequence frame.sessionId).1
          reassembler := (before.reassembler.add frame now).1 }
        (some frame) completed handedOver

/-- Frames an action lets an agent decode. -/
def Action.Delivers (action : Action) (agent : Agent) (frame : Frame) :
    Prop :=
  match action with
  | .receive packet _ surroundings =>
      agent.codec.decode packet surroundings.nowMs = .ok frame
  | _ => False

namespace Agent

theorem catching_fields
    (effect : Effect)
    (caught : Failure → Bool) :
    (effect.catching caught).agent = effect.agent ∧
      (effect.catching caught).begun = effect.begun ∧
      (effect.catching caught).sealed = effect.sealed ∧
      (effect.catching caught).pumped = effect.pumped ∧
      (effect.catching caught).accepted = effect.accepted ∧
      (effect.catching caught).completed = effect.completed ∧
      (effect.catching caught).handedOver = effect.handedOver ∧
      (effect.catching caught).acknowledged = effect.acknowledged := by
  unfold Effect.catching
  split <;> simp

/-- A transmission draws one sequence number and does nothing else. -/
theorem transmit_fields
    (agent : Agent)
    (encode : Nat → Except Failure Bytes)
    (surroundings : Surroundings) :
    (agent.transmit encode surroundings).agent =
        { agent with sequence := agent.sequence + 1 } ∧
      (agent.transmit encode surroundings).begun = none ∧
      (agent.transmit encode surroundings).sealed =
        (encode (agent.sequence + 1)).toOption ∧
      (agent.transmit encode surroundings).pumped = [] ∧
      (agent.transmit encode surroundings).accepted = none ∧
      (agent.transmit encode surroundings).completed = none ∧
      (agent.transmit encode surroundings).handedOver = none ∧
      (agent.transmit encode surroundings).acknowledged = none := by
  simp only [transmit]
  split <;> rename_i shape <;> simp [shape, Except.toOption]

/-- A call of `send_data` that begins seals and acknowledges nothing. -/
theorem beginSend_fields
    (agent : Agent)
    (payload : Bytes) :
    (agent.beginSend payload).sealed = none ∧
      (agent.beginSend payload).acknowledged = none := by
  unfold beginSend
  dsimp only
  split <;> exact ⟨rfl, rfl⟩

/--
The inner loop ignores a datagram, or begins to send it, having remembered at
most its source.
-/
theorem innerLoop_cases
    (agent : Agent)
    (payload : Bytes)
    (source : Address) :
    agent.innerLoop payload source = { agent := agent } ∨
      ∃ role : Role,
        role.side = agent.role.side ∧
          agent.innerLoop payload source =
            ({ agent with role := role }.beginSend payload).catching
              Failure.isProtocolError := by
  unfold innerLoop
  split
  · rename_i _ expectedPeer expectedSource roleShape
    split
    · exact .inl rfl
    · refine .inr
        ⟨.iran (some source) expectedPeer expectedSource, ?_, rfl⟩
      rw [roleShape]
      rfl
  · split
    · exact .inl rfl
    · exact .inr ⟨agent.role, rfl, rfl⟩

/-- A packet sealed by a transmission was encoded with the drawn number. -/
theorem sealed_transmit
    {agent : Agent}
    {encode : Nat → Except Failure Bytes}
    {surroundings : Surroundings}
    {packet : Bytes}
    (member : packet ∈ (agent.transmit encode surroundings).sealed) :
    encode (agent.sequence + 1) = .ok packet := by
  obtain ⟨_, _, sealedShape, _⟩ :=
    agent.transmit_fields encode surroundings
  rw [sealedShape] at member
  cases shape : encode (agent.sequence + 1) <;>
    simp_all [Except.toOption]

end Agent

/-- The sending half of an effect. -/
def Effect.Sends (effect : Effect) (before : SendState) : Prop :=
  before.Step effect.agent.sendState effect.sealed effect.begun

namespace Effect

variable {effect : Effect} {before : SendState}

theorem sends_nothing
    (same : effect.agent.sendState = before)
    (notSealed : effect.sealed = none)
    (notBegun : effect.begun = none) :
    effect.Sends before := by
  rw [Sends, same, notSealed, notBegun]
  exact .nothing

theorem Sends.catching
    (sends : effect.Sends before)
    (caught : Failure → Bool) :
    (effect.catching caught).Sends before := by
  obtain ⟨sameAgent, sameBegun, sameSealed, _⟩ :=
    Agent.catching_fields effect caught
  rw [Sends, sameAgent, sameBegun, sameSealed]
  exact sends

end Effect

/-- An acknowledgement is packed and encoded as a control frame. -/
theorem FrameCodec.encodeAck_eq_ok
    {codec : FrameCodec}
    {clockMs sequence session message : Int}
    {kind : FrameKind}
    {packet : Bytes}
    (encoded :
      codec.encodeAck clockMs kind sequence session message =
        .ok packet) :
    ∃ payload,
      StructPack.pack ackFormat [.int session, .int message] =
          some payload ∧
        codec.encode clockMs
          { kind := kind.code, sequence := sequence, payload := payload } =
            .ok packet := by
  unfold FrameCodec.encodeAck at encoded
  split at encoded
  · cases encoded
  · split at encoded
    · cases encoded
    · exact ⟨_, ‹_›, encoded⟩

namespace Agent

variable (agent : Agent) (frame : Frame) (surroundings : Surroundings)

theorem sends_transmit
    {encode : Nat → Except Failure Bytes}
    (origin :
      ∀ packet, encode (agent.sequence + 1) = .ok packet →
        ∃ clockMs request,
          agent.codec.encode clockMs request = .ok packet ∧
            request.IsControl agent.role.side (agent.sequence + 1)) :
    (agent.transmit encode surroundings).Sends agent.sendState := by
  obtain ⟨agentShape, notBegun, _⟩ :=
    agent.transmit_fields encode surroundings
  rw [Effect.Sends, agentShape, notBegun]
  exact .control fun packet member =>
    origin packet (sealed_transmit member)

theorem sends_sendControl
    (timestampMs : Option Int) :
    (agent.sendControl timestampMs surroundings).Sends
      agent.sendState := by
  apply sends_transmit
  intro packet encoded
  exact ⟨_, _, encoded, rfl, agent.role.side.sentControl, rfl, .inr rfl⟩

theorem sends_sendAck :
    (agent.sendAck frame surroundings).Sends agent.sendState := by
  apply sends_transmit
  intro packet encoded
  obtain ⟨payload, _, sealed⟩ := FrameCodec.encodeAck_eq_ok encoded
  exact ⟨_, _, sealed, rfl, agent.role.side.kinds.sentAck, rfl, .inl rfl⟩

/-- What the `try` block of a receive loop does with a frame. -/
inductive Handles
    (agent : Agent)
    (frame : Frame)
    (surroundings : Surroundings) : Effect → Prop
  | ignored
      (raised : Option Failure) :
      Handles agent frame surroundings { agent := agent, raised := raised }
  | acknowledged
      (messageId : Nat)
      (isAck : frame.kind = agent.role.side.kinds.expectedAck)
      (decoded :
        FrameCodec.decodeAck frame =
          .ok (agent.codec.sessionId, messageId)) :
      Handles agent frame surroundings {
        agent := { agent with
          sender :=
            (agent.sender.acknowledge messageId surroundings.now).1 }
        acknowledged :=
          if (agent.sender.acknowledge messageId surroundings.now).2.1 then
            some messageId
          else
            none }
  | answered
      (timestampMs : Option Int) :
      Handles agent frame surroundings
        (agent.sendControl timestampMs surroundings)
  | stored
      (isData : frame.kind = agent.role.side.kinds.data)
      (raised : Option Failure) :
      Handles agent frame surroundings {
        agent := { agent with
          reassembler :=
            (agent.reassembler.add frame surroundings.now).1 }
        raised := raised }
  | completed
      (isData : frame.kind = agent.role.side.kinds.data)
      (payload : Bytes)
      (handedOver : Option Handover)
      (raised : Option Failure) :
      Handles agent frame surroundings {
        agent := { agent with
          reassembler :=
            (agent.reassembler.add frame surroundings.now).1 }
        completed := some (frame.key, payload)
        handedOver := handedOver
        raised := raised }
  | delivered
      (isData : frame.kind = agent.role.side.kinds.data)
      (payload : Bytes) :
      Handles agent frame surroundings {
        sendAck { agent with
          reassembler :=
            (agent.reassembler.add frame surroundings.now).1 }
          frame surroundings with
        completed := some (frame.key, payload)
        handedOver := some {
          key := frame.key, payload := payload, delivered := true } }

/-- A fragment is stored, or it completes a payload that is handed over. -/
theorem acceptFragment_cases
    (isData : frame.kind = agent.role.side.kinds.data) :
    agent.Handles frame surroundings
      (agent.acceptFragment frame surroundings) := by
  unfold acceptFragment
  dsimp only
  split
  · exact .stored isData _
  · split
    · exact .stored isData none
    · unfold forward
      split
      · exact .completed isData _ none none
      · split
        · exact .completed isData _ _ _
        · dsimp only
          split
          · exact .delivered isData _
          · exact .completed isData _ _ none

theorem dispatch_cases :
    agent.Handles frame surroundings
      (agent.dispatch frame surroundings) := by
  unfold dispatch
  split
  · rename_i effect handled
    unfold handleAck at handled
    split at handled
    · cases handled
    · rename_i isAck
      split at handled
      · cases handled
        exact .ignored _
      · rename_i session messageId decoded
        split at handled
        · cases handled
          exact .ignored none
        · rename_i ownSession
          cases handled
          rw [not_not.mp ownSession] at decoded
          exact .acknowledged messageId (not_not.mp isAck) decoded
  · split
    · unfold handleControl
      split
      · exact .ignored none
      · exact .answered _
    · split
      · exact .ignored none
      · rename_i isData
        exact agent.acceptFragment_cases frame surroundings
          (not_not.mp isData)

theorem Handles.sends
    {agent : Agent}
    {frame : Frame}
    {surroundings : Surroundings}
    {effect : Effect}
    (handles : agent.Handles frame surroundings effect) :
    effect.Sends agent.sendState := by
  cases handles with
  | ignored | acknowledged | stored | completed =>
      exact Effect.sends_nothing rfl rfl rfl
  | answered timestampMs =>
      exact sends_sendControl agent surroundings timestampMs
  | delivered isData payload =>
      exact sends_sendAck { agent with
        reassembler := (agent.reassembler.add frame surroundings.now).1 }
        frame surroundings

/-- What an iteration of a receive loop does with a packet. -/
inductive Reacts
    (agent : Agent)
    (packet : Bytes)
    (surroundings : Surroundings) : Effect → Prop
  | undecoded
      (raised : Option Failure) :
      Reacts agent packet surroundings { agent := agent, raised := raised }
  | accepted
      (frame : Frame)
      (decoded :
        agent.codec.decode packet surroundings.nowMs = .ok frame)
      (effect : Effect)
      (handles :
        Handles { agent with
          replay :=
            (agent.replay.accept frame.sequence frame.sessionId).1 }
          frame surroundings effect)
      (caught : Failure → Bool) :
      Reacts agent packet surroundings {
        effect.catching caught with accepted := some frame }
  | refused
      (frame : Frame)
      (decoded :
        agent.codec.decode packet surroundings.nowMs = .ok frame)
      (refuses :
        (agent.replay.accept frame.sequence frame.sessionId).2 = false)
      (reassembler : Reassembler) :
      Reacts agent packet surroundings {
        agent := { agent with
          replay :=
            (agent.replay.accept frame.sequence frame.sessionId).1
          reassembler := reassembler } }
  | repeated
      (frame : Frame)
      (decoded :
        agent.codec.decode packet surroundings.nowMs = .ok frame)
      (refuses :
        (agent.replay.accept frame.sequence frame.sessionId).2 = false)
      (isData : frame.kind = agent.role.side.kinds.data)
      (isCompleted :
        (agent.reassembler.isCompleted frame.sessionId frame.messageId
          surroundings.now).2 = true)
      (caught : Failure → Bool) :
      Reacts agent packet surroundings
        ((sendAck { agent with
          replay :=
            (agent.replay.accept frame.sequence frame.sessionId).1
          reassembler :=
            (agent.reassembler.isCompleted frame.sessionId
              frame.messageId surroundings.now).1 }
          frame surroundings).catching caught)

theorem receive_cases
    (packet : Bytes) :
    agent.Reacts packet surroundings
      (agent.receive packet surroundings) := by
  unfold receive
  split
  · unfold Effect.catching
    split <;> exact .undecoded _
  · rename_i frame decoded
    dsimp only
    split
    · exact .accepted frame decoded _ (dispatch_cases _ frame surroundings)
        _
    · rename_i refuses
      rw [Bool.not_eq_true] at refuses
      unfold receiveReplayed
      split
      · exact .refused frame decoded refuses agent.reassembler
      · rename_i isData
        dsimp only
        split
        · rename_i isCompleted
          exact .repeated frame decoded refuses (not_not.mp isData)
            isCompleted _
        · exact .refused frame decoded refuses _

theorem sends_receive
    (packet : Bytes) :
    (agent.receive packet surroundings).Sends agent.sendState := by
  have reacts := agent.receive_cases surroundings packet
  generalize agent.receive packet surroundings = effect at reacts ⊢
  cases reacts with
  | undecoded | refused =>
      exact Effect.sends_nothing rfl rfl rfl
  | accepted frame decoded effect handles caught =>
      exact handles.sends.catching caught
  | repeated frame decoded refuses isData isCompleted caught =>
      exact (sends_sendAck { agent with
        replay :=
          (agent.replay.accept frame.sequence frame.sessionId).1
        reassembler :=
          (agent.reassembler.isCompleted frame.sessionId frame.messageId
            surroundings.now).1 }
        frame surroundings).catching caught

theorem sends_beginSend
    (payload : Bytes) :
    (agent.beginSend payload).Sends agent.sendState := by
  unfold beginSend
  dsimp only
  split
  · exact .refuse payload
  · exact .begin payload _ ‹_›

/-- Every action is one step of the sending half. -/
theorem sends_act
    (action : Action) :
    (agent.act action).Sends agent.sendState := by
  cases action with
  | innerDatagram payload source =>
      rw [act]
      obtain ignored | ⟨role, sameSide, begun⟩ :=
        agent.innerLoop_cases payload source
      · rw [ignored]
        exact Effect.sends_nothing rfl rfl rfl
      · have sends :=
          (sends_beginSend { agent with role := role } payload).catching
            Failure.isProtocolError
        rw [sendState, sameSide] at sends
        rw [begun]
        exact sends
  | buildPacket messageId clockMs =>
      simp only [act, buildPacket]
      split
      · rename_i spec remaining packets unfinished
        split
        · exact .abort messageId
        · exact .build messageId spec remaining packets clockMs _
            unfinished ‹_›
      · exact Effect.sends_nothing rfl rfl rfl
  | finishSend messageId now failing =>
      simp only [act, finishSend]
      split
      · split
        · exact .finish messageId
        · split
          · exact .finish messageId
          · split <;> exact .finish messageId
      · exact Effect.sends_nothing rfl rfl rfl
  | keepalive surroundings =>
      simp only [act, keepalive]
      split
      · exact (sends_sendControl agent surroundings none).catching _
      · exact Effect.sends_nothing rfl rfl rfl
  | pump now =>
      simp only [act, pump]
      split <;> exact Effect.sends_nothing rfl rfl rfl
  | cleanup now =>
      simp only [act, cleanup]
      split <;> exact Effect.sends_nothing rfl rfl rfl
  | receive packet source surroundings =>
      simp only [act, receiveLoop, iranDownlinkLoop, foreignUplinkLoop]
      split
      · split
        · exact Effect.sends_nothing rfl rfl rfl
        · exact sends_receive agent surroundings packet
      · exact sends_receive agent surroundings packet

/-- From a source the loop listens to, a packet is received. -/
theorem act_receive
    {agent : Agent}
    {source : Address}
    (listens : agent.role.listens source = true)
    (packet : Bytes)
    (surroundings : Surroundings) :
    agent.act (.receive packet source surroundings) =
      agent.receive packet surroundings := by
  simp only [act, receiveLoop, iranDownlinkLoop, foreignUplinkLoop]
  split
  · rename_i roleShape
    rw [roleShape, Role.listens, Bool.not_eq_true'] at listens
    rw [listens]
    rfl
  · rfl

end Agent

/-- The receiving half of an effect. -/
def Effect.Receives
    (effect : Effect)
    (delivers : Frame → Prop)
    (data : FrameKind)
    (before : Receiver) : Prop :=
  before.Step delivers data effect.agent.receiver effect.accepted
    effect.completed effect.handedOver

namespace Effect

variable
  {effect : Effect}
  {delivers : Frame → Prop}
  {data : FrameKind}
  {before : Receiver}

theorem receives_nothing
    (same : effect.agent.receiver = before)
    (notAccepted : effect.accepted = none)
    (notCompleted : effect.completed = none)
    (notHandedOver : effect.handedOver = none) :
    effect.Receives delivers data before := by
  rw [Receives, same, notAccepted, notCompleted, notHandedOver]
  exact .nothing

theorem Receives.catching
    (receives : effect.Receives delivers data before)
    (caught : Failure → Bool) :
    (effect.catching caught).Receives delivers data before := by
  obtain ⟨sameAgent, _, _, _, sameAccepted, sameCompleted,
    sameHandedOver, _⟩ := Agent.catching_fields effect caught
  rw [Receives, sameAgent, sameAccepted, sameCompleted, sameHandedOver]
  exact receives

end Effect

namespace Agent

variable (agent : Agent) (frame : Frame) (surroundings : Surroundings)

/-- A transmission leaves the receiving half alone. -/
theorem transmit_receiver
    (encode : Nat → Except Failure Bytes) :
    (agent.transmit encode surroundings).agent.receiver =
        agent.receiver ∧
      (agent.transmit encode surroundings).accepted = none ∧
      (agent.transmit encode surroundings).completed = none ∧
      (agent.transmit encode surroundings).handedOver = none := by
  obtain ⟨agentShape, _, _, _, notAccepted, notCompleted,
    notHandedOver, _⟩ := agent.transmit_fields encode surroundings
  refine ⟨?_, notAccepted, notCompleted, notHandedOver⟩
  rw [agentShape]
  rfl

/-- Handing over changes no half, and hands over what was completed. -/
theorem forward_fields
    (payload : Bytes) :
    (agent.forward frame payload surroundings).agent.receiver =
        agent.receiver ∧
      ∀ handover ∈
          (agent.forward frame payload surroundings).handedOver,
        handover.key = frame.key ∧ handover.payload = payload := by
  have ackAgent :
      (agent.sendAck frame surroundings).agent.receiver =
        agent.receiver :=
    (transmit_receiver agent surroundings _).1
  unfold forward
  split
  · exact ⟨rfl, fun handover member => by cases member⟩
  · split
    · refine ⟨rfl, ?_⟩
      intro handover member
      cases member
      exact ⟨rfl, rfl⟩
    · dsimp only
      refine ⟨?_, ?_⟩
      · split
        · exact ackAgent
        · rfl
      · intro handover member
        cases member
        exact ⟨rfl, rfl⟩

/-- A data frame is handled by the reassembler. -/
theorem dispatch_of_data
    (isData : frame.kind = agent.role.side.kinds.data) :
    agent.dispatch frame surroundings =
      agent.acceptFragment frame surroundings := by
  have notAck :
      agent.handleAck frame surroundings = none := by
    unfold handleAck
    rw [if_pos]
    rw [isData]
    cases agent.role.side <;> decide
  have notControl :
      frame.kind ≠ agent.role.side.kinds.control := by
    rw [isData]
    cases agent.role.side <;> decide
  rw [dispatch, notAck]
  dsimp only
  rw [if_neg notControl, if_neg (not_not.mpr isData)]

/-- Any other frame leaves the receiving half alone. -/
theorem dispatch_of_not_data
    (notData : frame.kind ≠ agent.role.side.kinds.data) :
    (agent.dispatch frame surroundings).agent.receiver =
        agent.receiver ∧
      (agent.dispatch frame surroundings).completed = none ∧
      (agent.dispatch frame surroundings).handedOver = none := by
  have handles := agent.dispatch_cases frame surroundings
  generalize agent.dispatch frame surroundings = effect at handles ⊢
  cases handles with
  | ignored | acknowledged =>
      exact ⟨rfl, rfl, rfl⟩
  | answered timestampMs =>
      obtain ⟨sameReceiver, _, notCompleted, notHandedOver⟩ :=
        transmit_receiver agent surroundings _
      exact ⟨sameReceiver, notCompleted, notHandedOver⟩
  | stored isData | completed isData | delivered isData =>
      exact absurd isData notData

/-- A refused frame at most purges the reassembler. -/
theorem receiveReplayed_fields :
    (∃ purged : Option Time,
      (∀ now ∈ purged, now = surroundings.now) ∧
      (agent.receiveReplayed frame surroundings).agent.receiver =
        { agent.receiver with
          reassembler :=
            match purged with
            | some now => agent.reassembler.purge now
            | none => agent.reassembler }) ∧
      (agent.receiveReplayed frame surroundings).accepted = none ∧
      (agent.receiveReplayed frame surroundings).completed = none ∧
      (agent.receiveReplayed frame surroundings).handedOver = none := by
  have atNow : ∀ now ∈ some surroundings.now, now = surroundings.now :=
    fun now member => (Option.some.inj member).symm
  unfold receiveReplayed
  split
  · refine ⟨⟨none, ?_, rfl⟩, rfl, rfl, rfl⟩
    intro now member
    cases member
  · dsimp only
    split
    · obtain ⟨sameReceiver, notAccepted, notCompleted, notHandedOver⟩ :=
        transmit_receiver
          { agent with
            reassembler :=
              (agent.reassembler.isCompleted frame.sessionId
                frame.messageId surroundings.now).1 } surroundings _
      obtain ⟨sameAgent, _, _, _, sameAccepted, sameCompleted,
        sameHandedOver, _⟩ := catching_fields _ Failure.isOsError
      exact ⟨⟨some surroundings.now, atNow,
          (congrArg Agent.receiver sameAgent).trans sameReceiver⟩,
        sameAccepted.trans notAccepted, sameCompleted.trans notCompleted,
        sameHandedOver.trans notHandedOver⟩
    · exact ⟨⟨some surroundings.now, atNow, rfl⟩, rfl, rfl, rfl⟩

/-- The reassembler's answer decides what is completed. -/
theorem acceptFragment_fields :
    (agent.acceptFragment frame surroundings).agent.receiver =
        { agent.receiver with
          reassembler :=
            (agent.reassembler.add frame surroundings.now).1 } ∧
      (∀ key payload,
        (agent.acceptFragment frame surroundings).completed =
            some (key, payload) ↔
          key = frame.key ∧
            ∃ result,
              (agent.reassembler.add frame surroundings.now).2 =
                  .ok result ∧
                result.payload = some payload) ∧
      ∀ handover ∈
          (agent.acceptFragment frame surroundings).handedOver,
        (agent.acceptFragment frame surroundings).completed =
          some (handover.key, handover.payload) := by
  unfold acceptFragment
  dsimp only
  split
  · rename_i failure answer
    refine ⟨rfl, ?_, fun handover member => by cases member⟩
    simp [answer]
  · rename_i result answer
    split
    · rename_i noPayload
      refine ⟨rfl, ?_, fun handover member => by cases member⟩
      simp [answer, noPayload]
    · rename_i payload hasPayload
      obtain ⟨sameReceiver, handsOver⟩ :=
        forward_fields { agent with
          reassembler :=
            (agent.reassembler.add frame surroundings.now).1 }
          frame surroundings payload
      refine ⟨sameReceiver, ?_, ?_⟩
      · simp [answer, hasPayload, eq_comm]
      · intro handover member
        obtain ⟨sameKey, samePayload⟩ := handsOver handover member
        rw [sameKey, samePayload]

/-- An accepted data frame is handled by the reassembler. -/
theorem receive_of_data
    {packet : Bytes}
    (decoded :
      agent.codec.decode packet surroundings.nowMs = .ok frame)
    (accepts :
      (agent.replay.accept frame.sequence frame.sessionId).2 = true)
    (isData : frame.kind = agent.role.side.kinds.data) :
    (agent.receive packet surroundings).agent.receiver =
        { replay :=
            (agent.replay.accept frame.sequence frame.sessionId).1
          reassembler :=
            (agent.reassembler.add frame surroundings.now).1 } ∧
      (agent.receive packet surroundings).accepted = some frame ∧
      (∀ key payload,
        (agent.receive packet surroundings).completed =
            some (key, payload) ↔
          key = frame.key ∧
            ∃ result,
              (agent.reassembler.add frame surroundings.now).2 =
                  .ok result ∧
                result.payload = some payload) ∧
      ∀ handover ∈ (agent.receive packet surroundings).handedOver,
        (agent.receive packet surroundings).completed =
          some (handover.key, handover.payload) := by
  obtain ⟨sameAgent, _, _, _, _, sameCompleted, sameHandedOver, _⟩ :=
    catching_fields
      (Agent.dispatch { agent with
        replay :=
          (agent.replay.accept frame.sequence frame.sessionId).1 }
        frame surroundings)
      fun failure => failure.isOsError || failure.isProtocolError
  have handled :=
    dispatch_of_data { agent with
      replay :=
        (agent.replay.accept frame.sequence frame.sessionId).1 }
      frame surroundings isData
  obtain ⟨receiverShape, completes, handsOver⟩ :=
    acceptFragment_fields { agent with
      replay :=
        (agent.replay.accept frame.sequence frame.sessionId).1 }
      frame surroundings
  rw [← handled] at receiverShape completes handsOver
  simp only [receive, decoded, accepts, ↓reduceIte, sameAgent,
    sameCompleted, sameHandedOver]
  exact ⟨receiverShape, trivial, completes, handsOver⟩

/-- A refused frame at most purges the reassembler. -/
theorem receive_of_refused
    {packet : Bytes}
    (decoded :
      agent.codec.decode packet surroundings.nowMs = .ok frame)
    (refuses :
      (agent.replay.accept frame.sequence frame.sessionId).2 = false) :
    (∃ purged : Option Time,
      (∀ now ∈ purged, now = surroundings.now) ∧
      (agent.receive packet surroundings).agent.receiver =
        { replay :=
            (agent.replay.accept frame.sequence frame.sessionId).1
          reassembler :=
            match purged with
            | some now => agent.reassembler.purge now
            | none => agent.reassembler }) ∧
      (agent.receive packet surroundings).accepted = none ∧
      (agent.receive packet surroundings).completed = none ∧
      (agent.receive packet surroundings).handedOver = none := by
  simp only [receive, decoded, refuses, Bool.false_eq_true, ↓reduceIte]
  exact receiveReplayed_fields { agent with
    replay := (agent.replay.accept frame.sequence frame.sessionId).1 }
    frame surroundings

theorem role_transmit
    (encode : Nat → Except Failure Bytes) :
    (agent.transmit encode surroundings).agent.role = agent.role := by
  rw [(agent.transmit_fields encode surroundings).1]

theorem role_sendAck :
    (agent.sendAck frame surroundings).agent.role = agent.role :=
  agent.role_transmit surroundings _

theorem Handles.role
    {agent : Agent}
    {frame : Frame}
    {surroundings : Surroundings}
    {effect : Effect}
    (handles : agent.Handles frame surroundings effect) :
    effect.agent.role = agent.role := by
  cases handles with
  | ignored | acknowledged | stored | completed =>
      rfl
  | answered timestampMs =>
      exact agent.role_transmit surroundings _
  | delivered isData payload =>
      have ofAck :=
        role_sendAck { agent with
          reassembler :=
            (agent.reassembler.add frame surroundings.now).1 }
          frame surroundings
      exact ofAck

/-- Receiving a packet leaves the role of the agent alone. -/
theorem role_receive
    (packet : Bytes) :
    (agent.receive packet surroundings).agent.role = agent.role := by
  have reacts := agent.receive_cases surroundings packet
  generalize agent.receive packet surroundings = effect at reacts ⊢
  cases reacts with
  | undecoded | refused =>
      rfl
  | accepted frame decoded effect handles caught =>
      exact (congrArg Agent.role (catching_fields effect caught).1).trans
        handles.role
  | repeated frame decoded refuses isData isCompleted caught =>
      exact (congrArg Agent.role (catching_fields _ caught).1).trans
        (role_sendAck _ frame surroundings)

theorem receives_receive
    (packet : Bytes) :
    (agent.receive packet surroundings).Receives
      (fun frame =>
        agent.codec.decode packet surroundings.nowMs = .ok frame)
      agent.role.side.kinds.data agent.receiver := by
  cases decoded : agent.codec.decode packet surroundings.nowMs with
  | error failure =>
      rw [receive, decoded]
      exact Effect.Receives.catching
        (Effect.receives_nothing rfl rfl rfl rfl) _
  | ok frame =>
      cases answer :
          (agent.replay.accept frame.sequence frame.sessionId).2 with
      | false =>
          obtain ⟨⟨purged, _, receiverShape⟩, notAccepted, notCompleted,
              notHandedOver⟩ :=
            receive_of_refused agent frame surroundings decoded answer
          rw [Effect.Receives, receiverShape, notAccepted, notCompleted,
            notHandedOver]
          exact .refused frame purged rfl answer
      | true =>
          by_cases isData : frame.kind = agent.role.side.kinds.data
          · obtain ⟨receiverShape, isAccepted, completes, handsOver⟩ :=
              receive_of_data agent frame surroundings decoded answer
                isData
            rw [Effect.Receives, receiverShape, isAccepted]
            exact .data frame surroundings.now rfl answer isData
              completes handsOver
          · obtain ⟨receiverShape, notCompleted, notHandedOver⟩ :=
              dispatch_of_not_data { agent with
                replay :=
                  (agent.replay.accept frame.sequence
                    frame.sessionId).1 }
                frame surroundings isData
            obtain ⟨sameAgent, _, _, _, _, sameCompleted,
                sameHandedOver, _⟩ :=
              catching_fields
                (Agent.dispatch { agent with
                  replay :=
                    (agent.replay.accept frame.sequence
                      frame.sessionId).1 }
                  frame surroundings)
                fun failure =>
                  failure.isOsError || failure.isProtocolError
            simp only [receive, decoded, answer, ↓reduceIte,
              Effect.Receives, sameAgent, receiverShape, sameCompleted,
              sameHandedOver, notCompleted, notHandedOver]
            exact .other frame rfl answer isData

/-- A `send_data` call leaves the receiving half alone. -/
theorem receives_beginSend
    {delivers : Frame → Prop}
    {data : FrameKind}
    (payload : Bytes) :
    (agent.beginSend payload).Receives delivers data agent.receiver := by
  unfold beginSend
  dsimp only
  split <;> exact Effect.receives_nothing rfl rfl rfl rfl

/-- Every action is one step of the receiving half. -/
theorem receives_act
    (action : Action) :
    (agent.act action).Receives (action.Delivers agent)
      agent.role.side.kinds.data agent.receiver := by
  cases action with
  | innerDatagram payload source =>
      rw [act]
      obtain ignored | ⟨role, _, begun⟩ :=
        agent.innerLoop_cases payload source
      · rw [ignored]
        exact Effect.receives_nothing rfl rfl rfl rfl
      · rw [begun]
        exact (receives_beginSend _ payload).catching _
  | buildPacket messageId clockMs =>
      simp only [act, buildPacket]
      split
      · split <;> exact Effect.receives_nothing rfl rfl rfl rfl
      · exact Effect.receives_nothing rfl rfl rfl rfl
  | finishSend messageId now failing =>
      simp only [act, finishSend]
      split
      · split
        · exact Effect.receives_nothing rfl rfl rfl rfl
        · split
          · exact Effect.receives_nothing rfl rfl rfl rfl
          · split <;> exact Effect.receives_nothing rfl rfl rfl rfl
      · exact Effect.receives_nothing rfl rfl rfl rfl
  | keepalive surroundings =>
      simp only [act, keepalive]
      split
      · obtain ⟨sameReceiver, notAccepted, notCompleted,
          notHandedOver⟩ := transmit_receiver agent surroundings _
        exact (Effect.receives_nothing sameReceiver notAccepted
          notCompleted notHandedOver).catching _
      · exact Effect.receives_nothing rfl rfl rfl rfl
  | pump now =>
      simp only [act, pump]
      split <;> exact Effect.receives_nothing rfl rfl rfl rfl
  | cleanup now =>
      simp only [act, cleanup]
      split
      · exact .purge now
      · exact Effect.receives_nothing rfl rfl rfl rfl
  | receive packet source surroundings =>
      simp only [act, receiveLoop, iranDownlinkLoop, foreignUplinkLoop]
      split
      · split
        · exact Effect.receives_nothing rfl rfl rfl rfl
        · exact receives_receive agent surroundings packet
      · exact receives_receive agent surroundings packet

end Agent

end H3ntun

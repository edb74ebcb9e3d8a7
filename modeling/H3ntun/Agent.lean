import H3ntun.Reassembler
import H3ntun.ReliableSender
import H3ntun.ReplayWindow

namespace H3ntun

/-!
# The two agents

State and loop bodies of the agents.  Both receive loops run the same body;
they differ in the kinds they expect, in the control frame they react to, in
the source check and in the local peer they hand payloads to.  Every step
takes the clock readings and the outcomes of the socket calls it makes.
-/

/-- Host and port of a UDP peer. -/
structure Address where
  host : String
  port : Nat
  deriving Repr, DecidableEq

/-- The two ends of a tunnel. -/
inductive Side where
  | iran
  | foreign
  deriving Repr, DecidableEq

/-- The frame kinds one receive loop distinguishes. -/
structure LoopKinds where
  data : FrameKind
  expectedAck : FrameKind
  sentAck : FrameKind
  control : FrameKind
  deriving Repr, DecidableEq

namespace Side

/-- The other end. -/
def peer : Side → Side
  | .iran => .foreign
  | .foreign => .iran

/-- The kinds of frames the receive loop of a side deals in. -/
def kinds : Side → LoopKinds
  | .iran => {
      data := .dataDown
      expectedAck := .ackUp
      sentAck := .ackDown
      control := .pong
    }
  | .foreign => {
      data := .dataUp
      expectedAck := .ackDown
      sentAck := .ackUp
      control := .ping
    }

/-- Kind of the data frames the inner loop sends. -/
def sentData : Side → FrameKind
  | .iran => .dataUp
  | .foreign => .dataDown

/-- Kind of the control frames an agent sends. -/
def sentControl : Side → FrameKind
  | .iran => .ping
  | .foreign => .pong

/-- Kinds of all frames an agent sends. -/
def Sends (side : Side) (kind : FrameKind) : Prop :=
  kind = side.sentData ∨ kind = side.kinds.sentAck ∨
    kind = side.sentControl

instance (side : Side) (kind : FrameKind) :
    Decidable (side.Sends kind) :=
  inferInstanceAs (Decidable (_ ∨ _ ∨ _))

end Side

/-- What the two subclasses of the agent add to it. -/
inductive Role where
  | iran
    (innerPeer expectedInnerPeer : Option Address)
    (expectedDownlinkSource : Option String)
  | foreign
    (innerPeerAddress : Address)
  deriving Repr, DecidableEq

namespace Role

/-- Which of the two agents plays the role. -/
def side : Role → Side
  | .iran .. => .iran
  | .foreign _ => .foreign

/-- Whether a packet comes from elsewhere than a source that was set. -/
def sourceMismatch
    (expectedDownlinkSource : Option String)
    (source : Address) : Bool :=
  expectedDownlinkSource.any fun expected =>
    expected ≠ "" ∧ source.host ≠ expected

/-- Whether the receive loop looks at packets from a source. -/
def listens (role : Role) (source : Address) : Bool :=
  match role with
  | .iran _ _ expectedDownlinkSource =>
      !sourceMismatch expectedDownlinkSource source
  | .foreign _ => true

/-- Every receive loop looks at packets from some source. -/
theorem exists_listens
    (role : Role) :
    ∃ source, role.listens source = true := by
  cases role with
  | iran innerPeer expectedInnerPeer expectedDownlinkSource =>
      refine ⟨{ host := expectedDownlinkSource.getD "", port := 0 }, ?_⟩
      cases expectedDownlinkSource <;> simp [listens, sourceMismatch]
  | foreign innerPeerAddress =>
      exact ⟨innerPeerAddress, rfl⟩

/-- Where completed payloads are handed over, once known. -/
def localPeer : Role → Option Address
  | .iran innerPeer _ _ => innerPeer
  | .foreign innerPeerAddress => some innerPeerAddress

end Role

/-- A `send_data` call whose packets are being built. -/
structure SendJob where
  remaining : List FragmentSpec
  packets : List Bytes := []
  deriving DecidableEq

/-- The attributes of an agent that its loops read and write. -/
structure Agent where
  role : Role
  codec : FrameCodec
  reliable : Bool
  fragmentPayloadBytes : Nat
  fecEnabled : Bool
  /-- Last value `next_sequence` returned. -/
  sequence : Nat
  /-- Last value `next_message_id` returned. -/
  messageId : Nat
  replay : ReplayWindow
  reassembler : Reassembler
  sender : ReliableSender
  /-- Unfinished `send_data` calls, by message identifier. -/
  sending : OrderedDict Nat SendJob

/-- Clock readings and outcomes of `sendto` during one loop iteration. -/
structure Surroundings where
  /-- Wall clock at `decode`, in milliseconds. -/
  nowMs : Int
  /-- Wall clock at `encode`, in milliseconds. -/
  clockMs : Int
  /-- Monotonic clock. -/
  now : Time
  outerFails : Bool := false
  innerFails : Bool := false

/-- A payload passed to `sendto` of the inner socket. -/
structure Handover where
  key : Nat × Nat
  payload : Bytes
  /-- Whether `sendto` returned without an error. -/
  delivered : Bool
  deriving Repr, DecidableEq

/--
Result of one step of an agent: its next state, what the step did that can
be observed, and an exception that leaves the step.
-/
structure Effect where
  agent : Agent
  /-- Message identifier and payload of a `send_data` call. -/
  begun : Option (Nat × Bytes) := none
  /-- Packet returned by `encode`. -/
  sealed : Option Bytes := none
  /-- Packets passed to `_transport_send`. -/
  sent : List Bytes := []
  /-- Those of them that come from `ReliableSender.pump`. -/
  pumped : List Bytes := []
  /-- Frame the replay window accepted. -/
  accepted : Option Frame := none
  /-- Key and payload of a message the reassembler completed. -/
  completed : Option ((Nat × Nat) × Bytes) := none
  handedOver : Option Handover := none
  /-- Message for which `acknowledge` returned `True`. -/
  acknowledged : Option Nat := none
  raised : Option Failure := none

namespace Effect

/-- `except` for the failures a predicate selects. -/
def catching (effect : Effect) (caught : Failure → Bool) : Effect :=
  if effect.raised.any caught then
    { effect with raised := none }
  else
    effect

end Effect

namespace Failure

/-- `except OSError`. -/
def isOsError : Failure → Bool
  | .osError => true
  | _ => false

/-- `except ProtocolError`. -/
def isProtocolError : Failure → Bool
  | .protocolError _ => true
  | _ => false

end Failure

namespace Agent

/--
Draw a sequence number, encode a frame with it and pass the packet to
`_transport_send`.
-/
def transmit
    (agent : Agent)
    (encode : Nat → Except Failure Bytes)
    (surroundings : Surroundings) : Effect :=
  let drawn := { agent with sequence := agent.sequence + 1 }
  match encode drawn.sequence with
  | .error failure => { agent := drawn, raised := some failure }
  | .ok packet =>
      { agent := drawn
        sealed := some packet
        sent := [packet]
        raised :=
          if surroundings.outerFails then some .osError else none }

/-- `send_uplink_control` and `send_downlink_control`, without payload. -/
def sendControl
    (agent : Agent)
    (timestampMs : Option Int)
    (surroundings : Surroundings) : Effect :=
  agent.transmit (fun sequence =>
    agent.codec.encode surroundings.clockMs {
      kind := agent.role.side.sentControl.code
      sequence := sequence
      timestampMs := timestampMs }) surroundings

/-- `send_ack_down` and `send_ack_up`. -/
def sendAck
    (agent : Agent)
    (frame : Frame)
    (surroundings : Surroundings) : Effect :=
  agent.transmit (fun sequence =>
    agent.codec.encodeAck surroundings.clockMs agent.role.side.kinds.sentAck
      sequence frame.sessionId frame.messageId) surroundings

/-- `handle_ack`; `none` where it returns `False`. -/
def handleAck
    (agent : Agent)
    (frame : Frame)
    (surroundings : Surroundings) : Option Effect :=
  if frame.kind ≠ agent.role.side.kinds.expectedAck then
    none
  else
    match FrameCodec.decodeAck frame with
    | .error failure => some { agent := agent, raised := some failure }
    | .ok (acknowledgedSession, messageId) =>
        if acknowledgedSession ≠ agent.codec.sessionId then
          some { agent := agent }
        else
          let (sender, accepted, _) :=
            agent.sender.acknowledge messageId surroundings.now
          some {
            agent := { agent with sender := sender }
            acknowledged := if accepted then some messageId else none }

/-- Reaction to the control frame of a loop: only a `PING` is answered. -/
def handleControl
    (agent : Agent)
    (frame : Frame)
    (surroundings : Surroundings) : Effect :=
  match agent.role with
  | .iran .. => { agent := agent }
  | .foreign _ => agent.sendControl (some frame.timestampMs) surroundings

/-- Hand a completed payload over and acknowledge its message. -/
def forward
    (agent : Agent)
    (frame : Frame)
    (payload : Bytes)
    (surroundings : Surroundings) : Effect :=
  match agent.role.localPeer with
  | none => { agent := agent }
  | some _ =>
      if surroundings.innerFails then
        { agent := agent
          handedOver := some {
            key := frame.key, payload := payload, delivered := false }
          raised := some .osError }
      else
        let acked :=
          if agent.reliable then
            agent.sendAck frame surroundings
          else
            { agent := agent }
        { acked with
          handedOver := some {
            key := frame.key, payload := payload, delivered := true } }

/-- `accept_fragment` and what follows it. -/
def acceptFragment
    (agent : Agent)
    (frame : Frame)
    (surroundings : Surroundings) : Effect :=
  let (reassembler, answer) :=
    agent.reassembler.add frame surroundings.now
  let updated := { agent with reassembler := reassembler }
  match answer with
  | .error failure => { agent := updated, raised := some failure }
  | .ok result =>
      match result.payload with
      | none => { agent := updated }
      | some payload =>
          { updated.forward frame payload surroundings with
            completed := some (frame.key, payload) }

/-- The `try` block of a receive loop. -/
def dispatch
    (agent : Agent)
    (frame : Frame)
    (surroundings : Surroundings) : Effect :=
  match agent.handleAck frame surroundings with
  | some effect => effect
  | none =>
      if frame.kind = agent.role.side.kinds.control then
        agent.handleControl frame surroundings
      else if frame.kind ≠ agent.role.side.kinds.data then
        { agent := agent }
      else
        agent.acceptFragment frame surroundings

/-- Treatment of a frame that the replay window refused. -/
def receiveReplayed
    (agent : Agent)
    (frame : Frame)
    (surroundings : Surroundings) : Effect :=
  if frame.kind ≠ agent.role.side.kinds.data then
    { agent := agent }
  else
    let (reassembler, isCompleted) :=
      agent.reassembler.isCompleted frame.sessionId frame.messageId
        surroundings.now
    let updated := { agent with reassembler := reassembler }
    if isCompleted then
      (updated.sendAck frame surroundings).catching Failure.isOsError
    else
      { agent := updated }

/-- The body of a receive loop, from `decode` on. -/
def receive
    (agent : Agent)
    (packet : Bytes)
    (surroundings : Surroundings) : Effect :=
  match agent.codec.decode packet surroundings.nowMs with
  | .error failure =>
      Effect.catching { agent := agent, raised := some failure }
        Failure.isProtocolError
  | .ok frame =>
      let (replay, accepted) :=
        agent.replay.accept frame.sequence frame.sessionId
      let recorded := { agent with replay := replay }
      if accepted then
        { (recorded.dispatch frame surroundings).catching fun failure =>
            failure.isOsError || failure.isProtocolError with
          accepted := some frame }
      else
        recorded.receiveReplayed frame surroundings

/-- One iteration of `IranAgent.downlink_loop`. -/
def iranDownlinkLoop
    (agent : Agent)
    (expectedDownlinkSource : Option String)
    (packet : Bytes)
    (source : Address)
    (surroundings : Surroundings) : Effect :=
  if Role.sourceMismatch expectedDownlinkSource source then
    { agent := agent }
  else
    agent.receive packet surroundings

/-- One iteration of `ForeignAgent.uplink_loop`. -/
def foreignUplinkLoop
    (agent : Agent)
    (packet : Bytes)
    (surroundings : Surroundings) : Effect :=
  agent.receive packet surroundings

/-- One iteration of the receive loop of an agent. -/
def receiveLoop
    (agent : Agent)
    (packet : Bytes)
    (source : Address)
    (surroundings : Surroundings) : Effect :=
  match agent.role with
  | .iran _ _ expectedDownlinkSource =>
      agent.iranDownlinkLoop expectedDownlinkSource packet source
        surroundings
  | .foreign _ => agent.foreignUplinkLoop packet surroundings

/-- `send_data` up to the call of `fragment_message`. -/
def beginSend (agent : Agent) (payload : Bytes) : Effect :=
  let messageId := agent.messageId + 1
  let drawn := { agent with messageId := messageId }
  match fragmentMessage payload agent.fragmentPayloadBytes
      agent.fecEnabled with
  | .error failure =>
      { agent := drawn, begun := some (messageId, payload),
        raised := some failure }
  | .ok fragments =>
      { agent := { drawn with
          sending :=
            drawn.sending.set messageId { remaining := fragments } }
        begun := some (messageId, payload) }

/-- One iteration of `inner_loop`, up to the first packet. -/
def innerLoop
    (agent : Agent)
    (payload : Bytes)
    (source : Address) : Effect :=
  match agent.role with
  | .iran _ expectedInnerPeer expectedDownlinkSource =>
      if expectedInnerPeer.any (· ≠ source) then
        { agent := agent }
      else
        ({ agent with
            role := .iran (some source) expectedInnerPeer
              expectedDownlinkSource }.beginSend payload).catching
          Failure.isProtocolError
  | .foreign innerPeerAddress =>
      if source ≠ innerPeerAddress then
        { agent := agent }
      else
        (agent.beginSend payload).catching Failure.isProtocolError

/-- Arguments of `encode` for one fragment of a message. -/
def fragmentRequest
    (agent : Agent)
    (messageId sequence : Nat)
    (spec : FragmentSpec) : EncodeRequest where
  kind := agent.role.side.sentData.code
  sequence := sequence
  payload := spec.payload
  messageId := messageId
  messageLen := some spec.messageLen
  fragmentIndex := spec.fragmentIndex
  fragmentCount := spec.fragmentCount
  flags := spec.flags

/--
One turn of the list comprehension of `build_data_packets`.  An exception
ends the `send_data` call.
-/
def buildPacket
    (agent : Agent)
    (messageId : Nat)
    (clockMs : Int) : Effect :=
  match agent.sending.get? messageId with
  | some { remaining := spec :: remaining, packets } =>
      let drawn := { agent with sequence := agent.sequence + 1 }
      match agent.codec.encode clockMs
          (agent.fragmentRequest messageId drawn.sequence spec) with
      | .error failure =>
          { agent := { drawn with
              sending := agent.sending.erase messageId }
            raised := some failure }
      | .ok packet =>
          { agent := { drawn with
              sending := agent.sending.set messageId
                { remaining := remaining, packets := packets ++ [packet] } }
            sealed := some packet }
  | _ => { agent := agent }

/--
The rest of `send_data`, once all packets are built.  `failing` is the
position of the first packet `_transport_send` raises on, if any.
-/
def finishSend
    (agent : Agent)
    (messageId : Nat)
    (now : Time)
    (failing : Option Nat) : Effect :=
  match agent.sending.get? messageId with
  | some { remaining := [], packets } =>
      let finished := { agent with
        sending := agent.sending.erase messageId }
      if agent.reliable then
        let (sender, answer) :=
          agent.sender.enqueue messageId packets now
        { agent := { finished with sender := sender }
          raised := match answer with
            | .error failure => some failure
            | .ok _ => none }
      else
        match failing with
        | none => { agent := finished, sent := packets }
        | some position =>
            if position < packets.length then
              { agent := finished
                sent := packets.take (position + 1)
                raised := some .osError }
            else
              { agent := finished, sent := packets }
  | _ => { agent := agent }

/-- One iteration of `keepalive_loop`, which only one agent runs. -/
def keepalive
    (agent : Agent)
    (surroundings : Surroundings) : Effect :=
  match agent.role with
  | .iran .. =>
      (agent.sendControl none surroundings).catching fun failure =>
        failure.isOsError || failure.isProtocolError
  | .foreign _ => { agent := agent }

/-- `reliability_loop` up to `cleanup`. -/
def pump (agent : Agent) (now : Time) : Effect :=
  if agent.reliable then
    let (sender, result) := agent.sender.pump now
    let packets := result.packets.map OutboundPacket.payload
    { agent := { agent with sender := sender }
      sent := packets
      pumped := packets }
  else
    { agent := agent }

/-- The rest of one iteration of `reliability_loop`. -/
def cleanup (agent : Agent) (now : Time) : Effect :=
  if agent.reliable then
    { agent := { agent with
        reassembler := (agent.reassembler.cleanup now).1 } }
  else
    { agent := agent }

end Agent

end H3ntun

import H3ntun.Agent
import H3ntun.FrameCodecRoundTrip

namespace H3ntun

/-!
# Two agents and an adversarial network

One process of each agent, with the threads of a process interleaved step by
step.  The network delivers any packet at any time and any number of times;
only a packet that decrypts has to come from an `encode` call under the key
of the tunnel.
-/

@[simp] theorem Side.peer_peer
    (side : Side) :
    side.peer.peer = side := by
  cases side <;> rfl

@[simp] theorem Side.peer_ne
    (side : Side) :
    side.peer ≠ side := by
  cases side <;> decide

/-- One step of one thread of an agent. -/
inductive Action where
  | innerDatagram (payload : Bytes) (source : Address)
  | buildPacket (messageId : Nat) (clockMs : Int)
  | finishSend (messageId : Nat) (now : Time) (failing : Option Nat)
  | keepalive (surroundings : Surroundings)
  | pump (now : Time)
  | cleanup (now : Time)
  | receive
    (packet : Bytes)
    (source : Address)
    (surroundings : Surroundings)

/-- What an action of an agent does. -/
def Agent.act (agent : Agent) : Action → Effect
  | .innerDatagram payload source => agent.innerLoop payload source
  | .buildPacket messageId clockMs => agent.buildPacket messageId clockMs
  | .finishSend messageId now failing =>
      agent.finishSend messageId now failing
  | .keepalive surroundings => agent.keepalive surroundings
  | .pump now => agent.pump now
  | .cleanup now => agent.cleanup now
  | .receive packet source surroundings =>
      agent.receiveLoop packet source surroundings

/-- Everything an agent has done so far. -/
structure Journal where
  begun : List (Nat × Bytes) := []
  sealed : List Bytes := []
  pumped : List Bytes := []
  accepted : List Frame := []
  /-- Pairs of session and sequence accepted, also before a restart. -/
  admitted : List (Int × Int) := []
  completed : List ((Nat × Nat) × Bytes) := []
  handedOver : List Handover := []
  acknowledged : List Nat := []

/-- The journal after one more step. -/
def Journal.record (journal : Journal) (effect : Effect) : Journal where
  begun := effect.begun.toList ++ journal.begun
  sealed := effect.sealed.toList ++ journal.sealed
  pumped := effect.pumped ++ journal.pumped
  accepted := effect.accepted.toList ++ journal.accepted
  admitted :=
    (effect.accepted.toList.map fun frame =>
      ((frame.sessionId : Int), (frame.sequence : Int))) ++
        journal.admitted
  completed := effect.completed.toList ++ journal.completed
  handedOver := effect.handedOver.toList ++ journal.handedOver
  acknowledged := effect.acknowledged.toList ++ journal.acknowledged

/-- An agent together with its journal. -/
structure Party where
  agent : Agent
  journal : Journal

/-- An action of the agent, entered in the journal. -/
def Party.act (party : Party) (action : Action) : Party where
  agent := (party.agent.act action).agent
  journal := party.journal.record (party.agent.act action)

/-- Both agents of a tunnel. -/
abbrev World :=
  Side → Party

/-- Parameters two agents share, and what is assumed of the cipher. -/
structure Tunnel where
  primitives : Primitives
  tunnelId : Bytes
  secret : Bytes
  lawful : (primitives.deriveAead tunnelId secret).Lawful

namespace Tunnel

/-- The cipher both agents derive. -/
def aead (tunnel : Tunnel) : Aead :=
  tunnel.primitives.deriveAead tunnel.tunnelId tunnel.secret

/-- The packet of a frame under the key of the tunnel. -/
def wire (tunnel : Tunnel) (frame : Frame) : Bytes :=
  frame.wire tunnel.primitives tunnel.aead

end Tunnel

/-- A process that has just been started. -/
structure Party.Started
    (tunnel : Tunnel)
    (side : Side)
    (party : Party) : Prop where
  role :
    party.agent.role.side = side
  codec :
    ∃ skew sessionId token,
      FrameCodec.init tunnel.primitives tunnel.tunnelId tunnel.secret skew
        sessionId token = .ok party.agent.codec
  reassembler :
    ∃ timeout maxMessages completedTtl,
      Reassembler.init timeout maxMessages completedTtl =
        .ok party.agent.reassembler
  sender :
    ∃ timeout retries maxPending initialWindow maxWindow,
      ReliableSender.init timeout retries maxPending initialWindow
        maxWindow = .ok party.agent.sender
  sending :
    party.agent.sending = .empty
  /-- The window may have been restored from an earlier process. -/
  replay :
    ∃ calls,
      party.agent.replay =
          ReplayWindow.machine.run
            (.fresh ReplayWindow.defaultSize) calls ∧
        party.journal.admitted =
          ((ReplayWindow.machine.accepted
            (.fresh ReplayWindow.defaultSize) calls).map
              Prod.swap).reverse
  journal :
    party.journal = { admitted := party.journal.admitted }

namespace World

/-- Both processes just started, under different session identifiers. -/
structure Started (tunnel : Tunnel) (world : World) : Prop where
  party :
    ∀ side, (world side).Started tunnel side
  sessions :
    (world .iran).agent.codec.sessionId ≠
      (world .foreign).agent.codec.sessionId
  /-- An earlier process accepted nothing its peer had not yet numbered. -/
  remembered :
    ∀ side, ∀ pair ∈ (world side).journal.admitted,
      pair.1 = (world side.peer).agent.codec.sessionId →
      pair.2 ≤ (world side.peer).agent.sequence

/--
Only packets from `encode` under the key of the tunnel decrypt: what the
cipher guarantees about a delivered packet.
-/
def Authentic
    (world : World)
    (side : Side)
    (packet : Bytes)
    (nowMs : Int) : Prop :=
  ∀ frame,
    (world side).agent.codec.decode packet nowMs = .ok frame →
    ∃ origin, packet ∈ (world origin).journal.sealed

/-- What the network can make an agent do. -/
def Possible (world : World) (side : Side) : Action → Prop
  | .receive packet _ surroundings =>
      world.Authentic side packet surroundings.nowMs
  | _ => True

/-- The world after one step of one agent. -/
def after (world : World) (side : Side) (action : Action) : World :=
  Function.update world side ((world side).act action)

/-- All runs of two agents over an adversarial network. -/
def system (tunnel : Tunnel) :
    TransitionSystem World (Side × Action) where
  initial world := world.Started tunnel
  step world move later :=
    world.Possible move.1 move.2 ∧ later = world.after move.1 move.2

@[simp] theorem after_same
    (world : World)
    (side : Side)
    (action : Action) :
    world.after side action side = (world side).act action :=
  Function.update_self ..

@[simp] theorem after_peer
    (world : World)
    (side : Side)
    (action : Action) :
    world.after side action side.peer = world side.peer :=
  Function.update_of_ne side.peer_ne ..

theorem after_other
    (world : World)
    {side other : Side}
    (different : other ≠ side)
    (action : Action) :
    world.after side action other = world other :=
  Function.update_of_ne different ..

/-- Packets delivered are packets one of the agents encoded. -/
def Relays (world : World) (move : Side × Action) : Prop :=
  match move.2 with
  | .receive packet _ _ =>
      packet ∈ (world .iran).journal.sealed ∨
        packet ∈ (world .foreign).journal.sealed
  | _ => True

instance decidableRelays (world : World) :
    ∀ move, Decidable (world.Relays move)
  | (_, .receive packet _ _) =>
      inferInstanceAs (Decidable
        (packet ∈ (world .iran).journal.sealed ∨
          packet ∈ (world .foreign).journal.sealed))
  | (_, .innerDatagram ..)
  | (_, .buildPacket ..)
  | (_, .finishSend ..)
  | (_, .keepalive _)
  | (_, .pump _)
  | (_, .cleanup _) => isTrue trivial

/-- The moves of both agents, one after the other. -/
def machine : Machine World (Side × Action) Effect where
  step world move :=
    (world.after move.1 move.2, (world move.1).agent.act move.2)

/-- Relaying a packet is possible for the network. -/
theorem step_of_relays
    (tunnel : Tunnel)
    {world : World}
    {move : Side × Action}
    (relays : world.Relays move) :
    (system tunnel).step world move (machine.step world move).1 := by
  refine ⟨?_, rfl⟩
  unfold Relays at relays
  unfold Possible
  split
  · rename_i packet source surroundings shape
    rw [shape] at relays
    intro frame _
    rcases relays with fromIran | fromForeign
    · exact ⟨.iran, fromIran⟩
    · exact ⟨.foreign, fromForeign⟩
  · exact trivial

end World

/-- A fixed tunnel over the stand-in libraries. -/
def Tunnel.plain : Tunnel where
  primitives := .plain
  tunnelId := List.replicate 16 7
  secret := List.replicate 32 9
  lawful := Primitives.plain_lawful _ _

/-- An agent just started over the stand-in libraries. -/
def Agent.plain (side : Side) : Agent where
  role :=
    match side with
    | .iran => .iran none none none
    | .foreign => .foreign { host := "127.0.0.1", port := 51820 }
  codec :=
    match side with
    | .iran => .plain 1 (by decide)
    | .foreign => .plain 2 (by decide)
  reliable := true
  fragmentPayloadBytes := 256
  fecEnabled := true
  sequence := 0
  messageId := 0
  replay := .fresh ReplayWindow.defaultSize
  reassembler := .fresh
  sender := .fresh
  sending := .empty

namespace World

/-- Both agents just started, without any earlier process. -/
def plain : World :=
  fun side => { agent := Agent.plain side, journal := {} }

theorem plain_started :
    plain.Started .plain where
  party side :=
    { role := by cases side <;> rfl
      codec := by
        cases side
        · exact ⟨_, _, _, FrameCodec.init_plain 1 (by decide)⟩
        · exact ⟨_, _, _, FrameCodec.init_plain 2 (by decide)⟩
      reassembler := by
        cases side <;> exact ⟨_, _, _, Reassembler.init_fresh⟩
      sender := by
        cases side <;> exact ⟨_, _, _, _, _, ReliableSender.init_fresh⟩
      sending := by cases side <;> rfl
      replay := ⟨[], by cases side <;> rfl, rfl⟩
      journal := rfl }
  sessions := by decide
  remembered side pair member := by cases member

end World

end H3ntun

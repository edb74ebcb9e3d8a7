import H3ntun.AgentSteps

namespace H3ntun

/-!
# What a process sends from its queues

A packet waits in an unfinished `send_data` call, in the queue of the sender
or among the messages in flight.  It was put there by `encode`, and `pump`
takes its packets from nowhere else.
-/

namespace ReliableSender

/-- A sender just constructed has nothing queued and nothing in flight. -/
theorem empty_of_init
    {timeoutSeconds : Rat}
    {maxRetries maxPendingMessages initialWindow maxWindow : Int}
    {sender : ReliableSender}
    (created :
      init timeoutSeconds maxRetries maxPendingMessages initialWindow
        maxWindow = .ok sender) :
    sender.queue = [] ∧ sender.pending = .empty := by
  obtain ⟨_, _, _, _, _, _, queue, pending⟩ := init_eq_ok_iff.mp created
  exact ⟨queue, pending⟩

/-- All packets the sender keeps satisfy a predicate. -/
structure Carries
    (sender : ReliableSender)
    (allowed : Bytes → Prop) : Prop where
  queue :
    ∀ transmission ∈ sender.queue,
      ∀ packet ∈ transmission.packets, allowed packet
  pending :
    ∀ transmission ∈ sender.pending.values,
      ∀ packet ∈ transmission.packets, allowed packet

namespace Carries

variable {sender : ReliableSender} {allowed : Bytes → Prop}

/-- A sender that keeps nothing carries only what is allowed. -/
theorem of_empty
    (queue : sender.queue = [])
    (pending : sender.pending = .empty) :
    sender.Carries allowed where
  queue transmission member := by
    rw [queue] at member
    cases member
  pending transmission member := by
    rw [pending] at member
    cases member

theorem mono
    (carries : sender.Carries allowed)
    {more : Bytes → Prop}
    (weaker : ∀ packet, allowed packet → more packet) :
    sender.Carries more where
  queue transmission member packet inPackets :=
    weaker packet (carries.queue transmission member packet inPackets)
  pending transmission member packet inPackets :=
    weaker packet (carries.pending transmission member packet inPackets)

theorem enqueue
    (carries : sender.Carries allowed)
    {packets : List Bytes}
    (added : ∀ packet ∈ packets, allowed packet)
    (messageId : Nat)
    (now : Time) :
    (sender.enqueue messageId packets now).1.Carries allowed := by
  unfold ReliableSender.enqueue
  split
  · exact carries
  · split
    · exact carries
    · split
      · exact carries
      · refine ⟨?_, carries.pending⟩
        intro transmission member
        rcases List.mem_append.mp member with queued | isNew
        · exact carries.queue transmission queued
        · rw [List.mem_singleton.mp isNew]
          exact added

theorem acknowledge
    (carries : sender.Carries allowed)
    (messageId : Nat)
    (now : Time) :
    (sender.acknowledge messageId now).1.Carries allowed := by
  unfold ReliableSender.acknowledge
  split
  · exact carries
  · exact ⟨carries.queue, OrderedDict.forall_values_erase carries.pending⟩

/-- The packets of a result and of the sender it leaves behind. -/
def Progress
    (allowed : Bytes → Prop)
    (progress : ReliableSender × PumpResult) : Prop :=
  progress.1.Carries allowed ∧
    ∀ packet ∈ progress.2.packets, allowed packet.payload

/-- Adding the packets of a transmission to a result. -/
theorem append_packets
    {packets : List OutboundPacket}
    {added : List Bytes}
    {retransmission : Bool}
    (kept : ∀ packet ∈ packets, allowed packet.payload)
    (allowedAdded : ∀ packet ∈ added, allowed packet) :
    ∀ packet ∈
        packets ++ added.map fun packet =>
          { payload := packet, retransmission := retransmission },
      allowed packet.payload := by
  intro packet member
  rcases List.mem_append.mp member with earlier | isNew
  · exact kept packet earlier
  · obtain ⟨source, inAdded, rfl⟩ := List.mem_map.mp isNew
    exact allowedAdded source inAdded

theorem resend
    {progress : ReliableSender × PumpResult}
    (holds : Progress allowed progress)
    {transmission : Transmission}
    (own : ∀ packet ∈ transmission.packets, allowed packet)
    (now : Time) :
    Progress allowed (ReliableSender.resend now progress transmission) := by
  obtain ⟨sender, result⟩ := progress
  obtain ⟨carries, packets⟩ := holds
  unfold ReliableSender.resend
  dsimp only
  split
  · exact ⟨carries, packets⟩
  · split
    · exact ⟨carries, packets⟩
    · split
      · exact ⟨⟨carries.queue, OrderedDict.forall_values_erase carries.pending⟩, packets⟩
      · exact ⟨⟨carries.queue, OrderedDict.forall_values_set carries.pending own⟩,
          append_packets packets own⟩

theorem startQueued
    {queue : List Transmission}
    {progress : ReliableSender × PumpResult}
    (holds : Progress allowed progress)
    (queued :
      ∀ transmission ∈ queue,
        ∀ packet ∈ transmission.packets, allowed packet)
    (now : Time)
    (window : Nat) :
    Progress allowed
      (ReliableSender.startQueued now window queue progress) := by
  induction queue generalizing progress with
  | nil =>
      refine ⟨⟨?_, holds.1.pending⟩, holds.2⟩
      intro transmission member
      cases member
  | cons transmission rest inductionHypothesis =>
      have own := queued transmission List.mem_cons_self
      have others :
          ∀ other ∈ rest, ∀ packet ∈ other.packets, allowed packet :=
        fun other member => queued other (List.mem_cons_of_mem _ member)
      unfold ReliableSender.startQueued
      split
      · refine inductionHypothesis ⟨⟨holds.1.queue, ?_⟩, ?_⟩ others
        · exact OrderedDict.forall_values_set holds.1.pending own
        · exact append_packets holds.2 own
      · exact ⟨⟨queued, holds.1.pending⟩, holds.2⟩

/-- What `pump` sends and keeps is what the sender already kept. -/
theorem pump
    (carries : sender.Carries allowed)
    (now : Time) :
    Progress allowed (sender.pump now) := by
  have resent :
      ∀ (transmissions : List Transmission)
        (progress : ReliableSender × PumpResult),
        Progress allowed progress →
        (∀ transmission ∈ transmissions,
          ∀ packet ∈ transmission.packets, allowed packet) →
        Progress allowed
          (transmissions.foldl (ReliableSender.resend now) progress) := by
    intro transmissions
    induction transmissions with
    | nil =>
        exact fun _ holds _ => holds
    | cons transmission rest inductionHypothesis =>
        intro progress holds own
        exact inductionHypothesis _
          (resend holds (own transmission List.mem_cons_self) now)
          fun other member => own other (List.mem_cons_of_mem _ member)
  have start :
      Progress allowed
        (sender, { packets := [], exhaustedMessages := 0 }) :=
    ⟨carries, fun packet member => by cases member⟩
  have holds := resent sender.pending.values _ start carries.pending
  exact startQueued holds holds.1.queue now _

end Carries

end ReliableSender

/-- Packets of an agent that wait to be sent. -/
structure Outbox where
  sending : OrderedDict Nat SendJob
  sender : ReliableSender

/-- The messages an agent still has to send. -/
def Agent.outbox (agent : Agent) : Outbox where
  sending := agent.sending
  sender := agent.sender

/--
Steps of the outbox, labelled with the packet `encode` returned and the
packets `pump` returned.
-/
inductive Outbox.Step (before : Outbox) :
    Outbox → Option Bytes → List Bytes → Prop where
  | nothing
      (sealed : Option Bytes) :
      Step before before sealed []
  | begin
      (messageId : Nat)
      (fragments : List FragmentSpec) :
      Step before
        { before with
          sending :=
            before.sending.set messageId { remaining := fragments } }
        none []
  | build
      (messageId : Nat)
      (spec : FragmentSpec)
      (remaining : List FragmentSpec)
      (packets : List Bytes)
      (packet : Bytes)
      (unfinished :
        before.sending.get? messageId =
          some { remaining := spec :: remaining, packets := packets }) :
      Step before
        { before with
          sending :=
            before.sending.set messageId
              { remaining := remaining, packets := packets ++ [packet] } }
        (some packet) []
  | drop
      (messageId : Nat) :
      Step before
        { before with sending := before.sending.erase messageId } none []
  | enqueue
      (messageId : Nat)
      (packets : List Bytes)
      (now : Time)
      (built :
        before.sending.get? messageId =
          some { remaining := [], packets := packets }) :
      Step before
        { sending := before.sending.erase messageId
          sender := (before.sender.enqueue messageId packets now).1 }
        none []
  | acknowledge
      (sealed : Option Bytes)
      (messageId : Nat)
      (now : Time) :
      Step before
        { before with
          sender := (before.sender.acknowledge messageId now).1 }
        sealed []
  | pump
      (now : Time) :
      Step before
        { before with sender := (before.sender.pump now).1 } none
        ((before.sender.pump now).2.packets.map OutboundPacket.payload)

/-- Steps of the outbox that put nothing into it and take nothing out. -/
inductive Outbox.Reply (before : Outbox) : Outbox → Prop where
  | nothing : Reply before before
  | acknowledge
      (messageId : Nat)
      (now : Time) :
      Reply before
        { before with
          sender := (before.sender.acknowledge messageId now).1 }

/-- The outbox of an effect. -/
def Effect.Queues (effect : Effect) (before : Outbox) : Prop :=
  before.Step effect.agent.outbox effect.sealed effect.pumped

/-- An effect that changes an outbox at most by freeing a message. -/
def Effect.Replies (effect : Effect) (before : Agent) : Prop :=
  before.outbox.Reply effect.agent.outbox ∧
    effect.pumped = [] ∧
    effect.agent.reliable = before.reliable

namespace Effect

variable {effect : Effect} {before : Outbox}

theorem queues_nothing
    (same : effect.agent.outbox = before)
    (notPumped : effect.pumped = []) :
    effect.Queues before := by
  rw [Queues, same, notPumped]
  exact .nothing _

theorem Queues.catching
    (queues : effect.Queues before)
    (caught : Failure → Bool) :
    (effect.catching caught).Queues before := by
  obtain ⟨sameAgent, _, sameSealed, samePumped, _⟩ :=
    Agent.catching_fields effect caught
  rw [Queues, sameAgent, sameSealed, samePumped]
  exact queues

variable {agent : Agent}

theorem replies_nothing
    (same : effect.agent.outbox = agent.outbox)
    (notPumped : effect.pumped = [])
    (sameMode : effect.agent.reliable = agent.reliable) :
    effect.Replies agent := by
  rw [Replies, same]
  exact ⟨.nothing, notPumped, sameMode⟩

theorem Replies.catching
    (replies : effect.Replies agent)
    (caught : Failure → Bool) :
    (effect.catching caught).Replies agent := by
  obtain ⟨sameAgent, _, _, samePumped, _⟩ :=
    Agent.catching_fields effect caught
  rw [Replies, sameAgent, samePumped]
  exact replies

/-- A reply is a step of the outbox. -/
theorem Replies.queues
    (replies : effect.Replies agent) :
    effect.Queues agent.outbox := by
  obtain ⟨reply, notPumped, _⟩ := replies
  rw [Queues, notPumped]
  generalize effect.agent.outbox = after at reply
  cases reply with
  | nothing =>
      exact .nothing _
  | acknowledge messageId now =>
      exact .acknowledge _ messageId now

end Effect

namespace Agent

variable (agent : Agent) (frame : Frame) (surroundings : Surroundings)

theorem replies_transmit
    (encode : Nat → Except Failure Bytes) :
    (agent.transmit encode surroundings).Replies agent := by
  obtain ⟨agentShape, _, _, notPumped, _⟩ :=
    agent.transmit_fields encode surroundings
  refine Effect.replies_nothing ?_ notPumped ?_
  · rw [agentShape]
    rfl
  · rw [agentShape]

theorem Handles.replies
    {agent : Agent}
    {frame : Frame}
    {surroundings : Surroundings}
    {effect : Effect}
    (handles : agent.Handles frame surroundings effect) :
    effect.Replies agent := by
  cases handles with
  | ignored | stored | completed =>
      exact Effect.replies_nothing rfl rfl rfl
  | acknowledged =>
      exact ⟨.acknowledge _ _, rfl, rfl⟩
  | answered timestampMs =>
      exact replies_transmit agent surroundings _
  | delivered isData payload =>
      have ofAck :
          (sendAck { agent with
            reassembler :=
              (agent.reassembler.add frame surroundings.now).1 }
            frame surroundings).Replies agent :=
        replies_transmit { agent with
          reassembler :=
            (agent.reassembler.add frame surroundings.now).1 }
          surroundings _
      exact ofAck

theorem replies_receive
    (packet : Bytes) :
    (agent.receive packet surroundings).Replies agent := by
  have reacts := agent.receive_cases surroundings packet
  generalize agent.receive packet surroundings = effect at reacts ⊢
  cases reacts with
  | undecoded | refused =>
      exact Effect.replies_nothing rfl rfl rfl
  | accepted frame decoded effect handles caught =>
      exact handles.replies.catching caught
  | repeated frame decoded refuses isData isCompleted caught =>
      exact (replies_transmit { agent with
        replay :=
          (agent.replay.accept frame.sequence frame.sessionId).1
        reassembler :=
          (agent.reassembler.isCompleted frame.sessionId frame.messageId
            surroundings.now).1 } surroundings _).catching caught

theorem replies_keepalive :
    (agent.keepalive surroundings).Replies agent := by
  unfold keepalive
  split
  · exact (replies_transmit agent surroundings _).catching _
  · exact Effect.replies_nothing rfl rfl rfl

theorem replies_cleanup
    (now : Time) :
    (agent.cleanup now).Replies agent := by
  unfold cleanup
  split <;> exact Effect.replies_nothing rfl rfl rfl

theorem replies_receiveLoop
    (packet : Bytes)
    (source : Address) :
    (agent.receiveLoop packet source surroundings).Replies agent := by
  unfold receiveLoop iranDownlinkLoop foreignUplinkLoop
  split
  · split
    · exact Effect.replies_nothing rfl rfl rfl
    · exact replies_receive agent surroundings packet
  · exact replies_receive agent surroundings packet

theorem queues_beginSend
    (payload : Bytes) :
    (agent.beginSend payload).Queues agent.outbox := by
  unfold beginSend
  dsimp only
  split
  · exact Effect.queues_nothing rfl rfl
  · exact .begin _ _

/-- Every action is one step of the outbox. -/
theorem queues_act
    (action : Action) :
    (agent.act action).Queues agent.outbox := by
  cases action with
  | innerDatagram payload source =>
      rw [act]
      obtain ignored | ⟨role, _, begun⟩ :=
        agent.innerLoop_cases payload source
      · rw [ignored]
        exact Effect.queues_nothing rfl rfl
      · rw [begun]
        exact (queues_beginSend { agent with role := role }
          payload).catching _
  | buildPacket messageId clockMs =>
      simp only [act, buildPacket]
      split
      · rename_i spec remaining packets unfinished
        split
        · exact .drop messageId
        · exact .build messageId spec remaining packets _ unfinished
      · exact Effect.queues_nothing rfl rfl
  | finishSend messageId now failing =>
      simp only [act, finishSend]
      split
      · rename_i packets built
        split
        · exact .enqueue messageId packets now built
        · split
          · exact .drop messageId
          · split <;> exact .drop messageId
      · exact Effect.queues_nothing rfl rfl
  | keepalive surroundings =>
      exact (replies_keepalive agent surroundings).queues
  | pump now =>
      simp only [act, Agent.pump]
      split
      · exact .pump now
      · exact Effect.queues_nothing rfl rfl
  | cleanup now =>
      exact (replies_cleanup agent now).queues
  | receive packet source surroundings =>
      exact (replies_receiveLoop agent surroundings packet source).queues

end Agent

/-- Everything that waits or was pumped had been encoded. -/
structure Outbox.Sound
    (outbox : Outbox)
    (sealed pumped : List Bytes) : Prop where
  sending :
    ∀ messageId job,
      outbox.sending.get? messageId = some job →
      ∀ packet ∈ job.packets, packet ∈ sealed
  sender :
    outbox.sender.Carries (· ∈ sealed)
  pumped :
    ∀ packet ∈ pumped, packet ∈ sealed

namespace Outbox.Sound

variable {before after : Outbox} {sealed pumped : List Bytes}

theorem moreSealed
    (sound : before.Sound sealed pumped)
    (added : List Bytes) :
    before.Sound (added ++ sealed) pumped where
  sending messageId job found packet member :=
    List.mem_append_right _
      (sound.sending messageId job found packet member)
  sender :=
    sound.sender.mono fun _ member => List.mem_append_right _ member
  pumped packet member :=
    List.mem_append_right _ (sound.pumped packet member)

/-- Every step of the outbox keeps this. -/
theorem step
    {newPacket : Option Bytes}
    {newPumped : List Bytes}
    (earlier : before.Sound sealed pumped)
    (taken : before.Step after newPacket newPumped) :
    after.Sound (newPacket.toList ++ sealed) (newPumped ++ pumped) := by
  have sound := earlier.moreSealed newPacket.toList
  cases taken with
  | nothing =>
      exact sound
  | begin messageId fragments =>
      refine ⟨?_, sound.sender, sound.pumped⟩
      intro otherId job found packet member
      by_cases same : otherId = messageId
      · subst same
        rw [OrderedDict.get?_set_same] at found
        rw [← Option.some.inj found] at member
        cases member
      · rw [OrderedDict.get?_set_other _ same] at found
        exact sound.sending otherId job found packet member
  | build messageId spec remaining packets packet unfinished =>
      refine ⟨?_, sound.sender, sound.pumped⟩
      intro otherId job found other member
      by_cases same : otherId = messageId
      · subst same
        rw [OrderedDict.get?_set_same] at found
        rw [← Option.some.inj found] at member
        rcases List.mem_append.mp member with old | isNew
        · exact sound.sending otherId _ unfinished other old
        · rw [List.mem_singleton.mp isNew]
          exact List.mem_cons_self
      · rw [OrderedDict.get?_set_other _ same] at found
        exact sound.sending otherId job found other member
  | drop messageId =>
      refine ⟨?_, sound.sender, sound.pumped⟩
      intro otherId job found
      exact sound.sending otherId job (OrderedDict.get?_of_erase found)
  | enqueue messageId packets now built =>
      refine ⟨?_, ?_, sound.pumped⟩
      · intro otherId job found
        exact sound.sending otherId job (OrderedDict.get?_of_erase found)
      · exact sound.sender.enqueue
          (sound.sending messageId _ built) messageId now
  | acknowledge sealed messageId now =>
      exact ⟨sound.sending, sound.sender.acknowledge messageId now,
        sound.pumped⟩
  | pump now =>
      obtain ⟨carries, sent⟩ := sound.sender.pump now
      refine ⟨sound.sending, carries, ?_⟩
      intro packet member
      rcases List.mem_append.mp member with isNew | old
      · obtain ⟨outbound, inResult, rfl⟩ := List.mem_map.mp isNew
        exact sent outbound inResult
      · exact sound.pumped packet old

end Outbox.Sound

end H3ntun

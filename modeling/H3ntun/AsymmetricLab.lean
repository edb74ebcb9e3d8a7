import H3ntun.Keepalive
import H3ntun.LateFragments
import H3ntun.LinkFaults
import H3ntun.PumpedPackets

namespace H3ntun

/-!
# The tunnel in the lab

The lab puts one link emulator into each direction of the tunnel.  What the
emulators do is something the adversarial network may do, so the lab only
shows runs of the tunnel; and no agent accepts more frames than the emulator
before it has let through.
-/

/-- What a step sends was sealed in it, pumped in it, or built before. -/
def Effect.SendsBuilt (effect : Effect) (before : Agent) : Prop :=
  ∀ packet ∈ effect.sent,
    packet ∈ effect.sealed ∨ packet ∈ effect.pumped ∨
      ∃ messageId job,
        before.sending.get? messageId = some job ∧ packet ∈ job.packets

namespace Effect

variable {effect : Effect} {before : Agent}

theorem sendsBuilt_nothing
    (nothing : effect.sent = []) :
    effect.SendsBuilt before := by
  intro packet member
  rw [nothing] at member
  cases member

theorem SendsBuilt.catching
    (sendsBuilt : effect.SendsBuilt before)
    (caught : Failure → Bool) :
    (effect.catching caught).SendsBuilt before := by
  obtain ⟨_, _, sameSealed, samePumped, _⟩ :=
    Agent.catching_fields effect caught
  rw [SendsBuilt, Agent.sent_catching, sameSealed, samePumped]
  exact sendsBuilt

end Effect

namespace Agent

/-- Whatever is transmitted has just been sealed. -/
theorem sendsBuilt_transmit
    (agent before : Agent)
    (encode : Nat → Except Failure Bytes)
    (surroundings : Surroundings) :
    (agent.transmit encode surroundings).SendsBuilt before := by
  intro packet member
  rw [sent_transmit] at member
  refine .inl ?_
  rw [(agent.transmit_fields encode surroundings).2.2.1]
  exact Option.mem_toList.mp member

theorem Handles.sendsBuilt
    {agent : Agent}
    {frame : Frame}
    {surroundings : Surroundings}
    {effect : Effect}
    (handles : agent.Handles frame surroundings effect)
    (before : Agent) :
    effect.SendsBuilt before := by
  cases handles with
  | ignored | acknowledged | stored | completed =>
      exact Effect.sendsBuilt_nothing rfl
  | answered timestampMs =>
      exact agent.sendsBuilt_transmit before _ surroundings
  | delivered isData payload =>
      exact sendsBuilt_transmit { agent with
          reassembler :=
            (agent.reassembler.add frame surroundings.now).1 }
        before
        (fun sequence =>
          agent.codec.encodeAck surroundings.clockMs
            agent.role.side.kinds.sentAck sequence frame.sessionId
            frame.messageId) surroundings

theorem sendsBuilt_receive
    (agent before : Agent)
    (packet : Bytes)
    (surroundings : Surroundings) :
    (agent.receive packet surroundings).SendsBuilt before := by
  have reacts := agent.receive_cases surroundings packet
  generalize agent.receive packet surroundings = effect at reacts ⊢
  cases reacts with
  | undecoded | refused =>
      exact Effect.sendsBuilt_nothing rfl
  | accepted frame decoded inner handles caught =>
      exact (handles.sendsBuilt before).catching caught
  | repeated frame decoded refuses isData isCompleted caught =>
      exact (sendsBuilt_transmit _ before _ surroundings).catching caught

theorem sendsBuilt_act
    (agent : Agent)
    (action : Action) :
    (agent.act action).SendsBuilt agent := by
  cases action with
  | innerDatagram payload source =>
      rw [act]
      obtain ignored | ⟨role, _, begun⟩ :=
        agent.innerLoop_cases payload source
      · rw [ignored]
        exact Effect.sendsBuilt_nothing rfl
      · rw [begun]
        refine (Effect.sendsBuilt_nothing ?_).catching _
        unfold beginSend
        dsimp only
        split <;> rfl
  | buildPacket messageId clockMs =>
      apply Effect.sendsBuilt_nothing
      simp only [act, buildPacket]
      split
      · split <;> rfl
      · rfl
  | finishSend messageId now failing =>
      simp only [act, finishSend]
      split
      · rename_i packets built
        have fromJob
            {packet : Bytes}
            (member : packet ∈ packets) :
            ∃ messageId job,
              agent.sending.get? messageId = some job ∧
                packet ∈ job.packets :=
          ⟨messageId, _, built, member⟩
        split
        · exact Effect.sendsBuilt_nothing rfl
        · split
          · exact fun packet member => .inr (.inr (fromJob member))
          · split
            · exact fun packet member =>
                .inr (.inr (fromJob (List.mem_of_mem_take member)))
            · exact fun packet member => .inr (.inr (fromJob member))
      · exact Effect.sendsBuilt_nothing rfl
  | keepalive surroundings =>
      simp only [act, keepalive]
      split
      · exact (agent.sendsBuilt_transmit agent _ surroundings).catching _
      · exact Effect.sendsBuilt_nothing rfl
  | pump now =>
      simp only [act, Agent.pump]
      split
      · exact fun packet member => .inr (.inl member)
      · exact Effect.sendsBuilt_nothing rfl
  | cleanup now =>
      apply Effect.sendsBuilt_nothing
      simp only [act, Agent.cleanup]
      split <;> rfl
  | receive packet source surroundings =>
      simp only [act, receiveLoop, iranDownlinkLoop, foreignUplinkLoop]
      split
      · split
        · exact Effect.sendsBuilt_nothing rfl
        · exact agent.sendsBuilt_receive agent packet surroundings
      · exact agent.sendsBuilt_receive agent packet surroundings

end Agent

namespace World

variable {tunnel : Tunnel} {world : World}

/-- Whatever an agent sends it has encoded. -/
theorem Numbered.sealed_of_sent
    (numbered : world.Numbered)
    (side : Side)
    (action : Action)
    {packet : Bytes}
    (member : packet ∈ ((world side).agent.act action).sent) :
    packet ∈ (world.after side action side).journal.sealed := by
  rw [after_same]
  rcases (world side).agent.sendsBuilt_act action packet member with
    isSealed | isPumped | ⟨messageId, job, found, inJob⟩
  · exact List.mem_append_left _ (Option.mem_toList.mpr isSealed)
  · have sound :=
      (numbered.outbox side).step ((world side).agent.queues_act action)
    exact sound.pumped packet (List.mem_append_left _ isPumped)
  · exact List.mem_append_right _
      ((numbered.outbox side).sending messageId job found packet inJob)

end World

/-- Both agents of a lab, and the links between them. -/
structure AsymmetricLab where
  agents : World
  /-- The link an agent sends to. -/
  links : Side → Link
  /-- Packets an agent has passed to the socket of its link. -/
  sent : Side → List Bytes

/-- One step of an agent, or of the link it sends to. -/
inductive LabAction where
  | agent (side : Side) (action : Action)
  | link (side : Side) (action : LinkAction)

namespace AsymmetricLab

/-- Agents receive from the link of their peer, and links from their agent. -/
def Possible (lab : AsymmetricLab) : LabAction → Prop
  | .agent side (.receive packet _ _) =>
      packet ∈ (lab.links side.peer).journal.forwarded
  | .agent _ _ => True
  | .link side (.receive payload clock) =>
      (lab.links side).Ready (.receive payload clock) ∧
        payload ∈ lab.sent side
  | .link side action => (lab.links side).Ready action

/-- One agent acts, or one link does. -/
def after (lab : AsymmetricLab) : LabAction → AsymmetricLab
  | .agent side action =>
      { lab with
        agents := lab.agents.after side action
        sent := Function.update lab.sent side
          (lab.sent side ++ ((lab.agents side).agent.act action).sent) }
  | .link side action =>
      { lab with
        links := Function.update lab.links side
          ((lab.links side).act action) }

/-- A lab whose threads have just been started. -/
structure Started
    (tunnel : Tunnel)
    (profiles : Side → LinkProfile)
    (lab : AsymmetricLab) : Prop where
  agents : lab.agents.Started tunnel
  links : ∀ side, (lab.links side).Started (profiles side)
  sent : ∀ side, lab.sent side = []

/-- All runs of a lab. -/
def system (tunnel : Tunnel) (profiles : Side → LinkProfile) :
    TransitionSystem AsymmetricLab LabAction where
  initial lab := lab.Started tunnel profiles
  step lab action later := lab.Possible action ∧ later = lab.after action

/-- The steps of a lab, one after the other. -/
def machine : Machine AsymmetricLab LabAction Unit where
  step lab action := (lab.after action, ())

instance (lab : AsymmetricLab) :
    (action : LabAction) → Decidable (lab.Possible action)
  | .agent side (.receive packet _ _) =>
      inferInstanceAs
        (Decidable (packet ∈ (lab.links side.peer).journal.forwarded))
  | .agent _ (.innerDatagram ..)
  | .agent _ (.buildPacket ..)
  | .agent _ (.finishSend ..)
  | .agent _ (.keepalive _)
  | .agent _ (.pump _)
  | .agent _ (.cleanup _) => isTrue trivial
  | .link side (.receive payload clock) =>
      inferInstanceAs (Decidable
        ((lab.links side).Ready (.receive payload clock) ∧
          payload ∈ lab.sent side))
  | .link _ (.setEnabled _) => isTrue trivial
  | .link side .enqueue =>
      inferInstanceAs (Decidable ((lab.links side).Ready .enqueue))
  | .link side (.take clock) =>
      inferInstanceAs (Decidable ((lab.links side).Ready (.take clock)))
  | .link side (.forward failing) =>
      inferInstanceAs (Decidable ((lab.links side).Ready (.forward failing)))

/-- What the links and the agents of a lab know of each other. -/
structure Connected
    (tunnel : Tunnel)
    (profiles : Side → LinkProfile)
    (lab : AsymmetricLab) : Prop where
  agents :
    (World.system tunnel).Reachable lab.agents
  links :
    ∀ side, (lab.links side).Follows (profiles side)
  sent :
    ∀ side, lab.sent side ⊆ (lab.agents side).journal.sealed
  arrivals :
    ∀ side, ∀ arrival ∈ (lab.links side).journal.arrivals,
      arrival.payload ∈ lab.sent side
  accepted :
    ∀ side, ∀ frame ∈ (lab.agents side.peer).journal.accepted,
      tunnel.wire frame ∈ (lab.links side).journal.forwarded

namespace Connected

variable
  {tunnel : Tunnel}
  {profiles : Side → LinkProfile}
  {lab : AsymmetricLab}

theorem of_started
    (started : lab.Started tunnel profiles) :
    lab.Connected tunnel profiles := by
  have notAccepted
      (side : Side) :
      (lab.agents side).journal.accepted = [] := by
    rw [(started.agents.party side).journal]
  refine {
    agents := .start started.agents
    links := fun side => .of_started (started.links side)
    sent := ?_
    arrivals := ?_
    accepted := ?_
  }
  · intro side
    rw [started.sent side]
    exact List.nil_subset _
  · intro side arrival member
    rw [(started.links side).journal] at member
    cases member
  · intro side frame member
    rw [notAccepted] at member
    cases member

/-- What a link forwards its agent has encoded. -/
theorem sealed_of_forwarded
    (connected : lab.Connected tunnel profiles)
    {side : Side}
    {packet : Bytes}
    (forwarded : packet ∈ (lab.links side).journal.forwarded) :
    packet ∈ (lab.agents side).journal.sealed := by
  have kept := (connected.links side).forwarded_subset forwarded
  obtain ⟨arrival, inFilter, rfl⟩ := List.mem_map.mp kept
  have isArrival : arrival.1 ∈ (lab.links side).journal.arrivals :=
    List.fst_mem_of_mem_zipIdx (List.mem_of_mem_filter inFilter)
  exact connected.sent side (connected.arrivals side _ isArrival)

/-- What happens to an agent in the lab may happen to it in any network. -/
theorem possible
    (connected : lab.Connected tunnel profiles)
    {side : Side}
    {action : Action}
    (isPossible : lab.Possible (.agent side action)) :
    lab.agents.Possible side action := by
  cases action with
  | receive packet source surroundings =>
      intro frame _
      exact ⟨side.peer, connected.sealed_of_forwarded isPossible⟩
  | innerDatagram | buildPacket | finishSend | keepalive | pump
  | cleanup =>
      exact trivial

/-- A frame an agent accepts in a step is one its link has forwarded. -/
theorem forwarded_of_accepted
    (connected : lab.Connected tunnel profiles)
    {side : Side}
    {action : Action}
    (isPossible : lab.Possible (.agent side action))
    {frame : Frame}
    (accepted :
      frame ∈ ((lab.agents side).agent.act action).accepted) :
    tunnel.wire frame ∈ (lab.links side.peer).journal.forwarded := by
  have sound := World.Sound.of_reachable connected.agents
  have delivers :=
    ((lab.agents side).agent.receives_act action).delivered frame accepted
  cases action with
  | receive packet source surroundings =>
      obtain ⟨_, _, packetShape, _⟩ :=
        (FrameCodec.decode_eq_ok_iff (sound.lawful side)).mp delivers
      rw [sound.wire_eq side] at packetShape
      exact packetShape ▸ isPossible
  | innerDatagram | buildPacket | finishSend | keepalive | pump
  | cleanup =>
      cases delivers

theorem agent
    (connected : lab.Connected tunnel profiles)
    {side : Side}
    {action : Action}
    (isPossible : lab.Possible (.agent side action)) :
    (lab.after (.agent side action)).Connected tunnel profiles := by
  have numbered := World.Numbered.of_reachable connected.agents
  have others
      {other : Side}
      (different : other ≠ side) :
      (lab.after (.agent side action)).agents other =
          lab.agents other ∧
        (lab.after (.agent side action)).sent other = lab.sent other :=
    ⟨World.after_other _ different _, Function.update_of_ne different ..⟩
  have own :
      (lab.after (.agent side action)).sent side =
        lab.sent side ++ ((lab.agents side).agent.act action).sent :=
    Function.update_self ..
  have ownAccepted :
      ((lab.after (.agent side action)).agents side).journal.accepted =
        ((lab.agents side).agent.act action).accepted.toList ++
          (lab.agents side).journal.accepted := by
    change (lab.agents.after side action side).journal.accepted = _
    rw [World.after_same]
    rfl
  refine {
    agents :=
      .next (side, action) connected.agents
        ⟨connected.possible isPossible, rfl⟩
    links := connected.links
    sent := ?_
    arrivals := ?_
    accepted := ?_
  }
  · intro other
    by_cases isOwn : other = side
    · subst isOwn
      rw [own]
      intro packet member
      rcases List.mem_append.mp member with before | now
      · change packet ∈
          (lab.agents.after other action other).journal.sealed
        rw [World.after_same]
        exact List.mem_append_right _ (connected.sent other before)
      · exact numbered.sealed_of_sent other action now
    · rw [(others isOwn).1, (others isOwn).2]
      exact connected.sent other
  · intro other arrival member
    have before := connected.arrivals other arrival member
    by_cases isOwn : other = side
    · subst isOwn
      rw [own]
      exact List.mem_append_left _ before
    · rw [(others isOwn).2]
      exact before
  · intro other frame member
    by_cases isOwn : other.peer = side
    · subst isOwn
      rw [ownAccepted] at member
      rcases List.mem_append.mp member with now | before
      · have forwarded :=
          connected.forwarded_of_accepted isPossible
            (Option.mem_toList.mp now)
        rwa [Side.peer_peer] at forwarded
      · exact connected.accepted other frame before
    · rw [(others isOwn).1] at member
      exact connected.accepted other frame member

theorem link
    (connected : lab.Connected tunnel profiles)
    {side : Side}
    {action : LinkAction}
    (isPossible : lab.Possible (.link side action)) :
    (lab.after (.link side action)).Connected tunnel profiles := by
  have ready : (lab.links side).Ready action := by
    cases action with
    | receive payload clock =>
        exact isPossible.1
    | setEnabled | enqueue | take | forward =>
        exact isPossible
  have others
      {other : Side}
      (different : other ≠ side) :
      (lab.after (.link side action)).links other = lab.links other :=
    Function.update_of_ne different ..
  have own :
      (lab.after (.link side action)).links side =
        (lab.links side).act action :=
    Function.update_self ..
  refine {
    agents := connected.agents
    links := ?_
    sent := connected.sent
    arrivals := ?_
    accepted := ?_
  }
  · intro other
    by_cases isOwn : other = side
    · subst isOwn
      rw [own]
      exact (connected.links other).act action ready
    · rw [others isOwn]
      exact connected.links other
  · intro other arrival member
    by_cases isOwn : other = side
    · subst isOwn
      rw [own] at member
      rcases Link.mem_arrivals_act member with before | ⟨clock, rfl⟩
      · exact connected.arrivals other arrival before
      · exact isPossible.2
    · rw [others isOwn] at member
      exact connected.arrivals other arrival member
  · intro other frame member
    have before := connected.accepted other frame member
    by_cases isOwn : other = side
    · subst isOwn
      rw [own]
      exact (lab.links other).forwarded_subset_act action before
    · rw [others isOwn]
      exact before

theorem of_reachable
    (reached : (system tunnel profiles).Reachable lab) :
    lab.Connected tunnel profiles := by
  refine reached.invariant
    (motive := fun lab => lab.Connected tunnel profiles)
    (fun _ started => .of_started started) ?_
  rintro before (⟨side, action⟩ | ⟨side, action⟩) _ _ connected
    ⟨isPossible, rfl⟩
  · exact connected.agent isPossible
  · exact connected.link isPossible

end Connected

/--
A lab only shows runs of the tunnel over an adversarial network.  And in every
such run an agent has accepted no more frames than the link to it has
forwarded, nor than the link has received without dropping them: what a link
sends twice is accepted once.
-/
theorem lab_runs_are_tunnel_runs
    {tunnel : Tunnel}
    {profiles : Side → LinkProfile}
    {lab : AsymmetricLab}
    (reached : (system tunnel profiles).Reachable lab) :
    (World.system tunnel).Reachable lab.agents ∧
      ∀ side,
        (lab.agents side.peer).journal.accepted.length ≤
            (lab.links side).emulator.stats.forwarded ∧
          (lab.agents side.peer).journal.accepted.length +
              (lab.links side).emulator.stats.dropped ≤
            (lab.links side).emulator.stats.received := by
  have connected := Connected.of_reachable reached
  have sound := World.Sound.of_reachable connected.agents
  refine ⟨connected.agents, fun side => ?_⟩
  have follows := connected.links side
  -- Different frames are different packets, each of them forwarded.
  have packets :
      ((lab.agents side.peer).journal.accepted.map tunnel.wire).Nodup := by
    have distinct :=
      (World.Echoing.of_reachable connected.agents).distinct side.peer
    refine List.Nodup.map_on ?_ distinct
    intro first firstMember second secondMember same
    obtain ⟨_, firstSealed⟩ :=
      (sound.receivers side.peer).authentic first firstMember
    obtain ⟨_, secondSealed⟩ :=
      (sound.receivers side.peer).authentic second secondMember
    exact FrameCodec.wire_injective tunnel.lawful firstSealed.1
      secondSealed.1 same
  have forwarded :
      (lab.agents side.peer).journal.accepted.map tunnel.wire ⊆
        (lab.links side).journal.forwarded := by
    intro packet member
    obtain ⟨frame, accepted, rfl⟩ := List.mem_map.mp member
    exact connected.accepted side frame accepted
  have atMostForwarded :=
    (packets.subperm forwarded).length_le
  have atMostKept :=
    (packets.subperm
      (List.Subset.trans forwarded follows.forwarded_subset)).length_le
  have kept :=
    (profiles side).length_keptPayloads
      (lab.links side).journal.arrivals
  rw [List.length_map] at atMostForwarded atMostKept
  rw [follows.forwardedCount, follows.dropped, follows.received]
  omega

/-- A lab with plain agents, just started, whose links lose every second. -/
def plain : AsymmetricLab where
  agents := World.plain
  links _ := .fresh Link.lossyProfile
  sent _ := []

theorem plain_started :
    plain.Started .plain fun _ => Link.lossyProfile where
  agents := World.plain_started
  links _ := ⟨rfl, rfl⟩
  sent _ := rfl

/-- A `PING` of the Iran agent. -/
def ping (nowMs : Int) : Action :=
  .keepalive { nowMs := nowMs, clockMs := nowMs, now := 0 }

/-- The packet of the newest `PING` after some of them. -/
def pingPacket (times : List Int) : Bytes :=
  ((World.machine.run World.plain
    (times.map fun nowMs => (.iran, ping nowMs))) .iran).journal.sealed.headI

/-- Two `PING`s are sent, the first arrives, and the second is lost. -/
def twoPings : List LabAction := [
  .agent .iran (ping 1000),
  .link .iran (.receive (pingPacket [1000]) 0),
  .link .iran .enqueue,
  .link .iran (.take (5 / 1000)),
  .link .iran (.forward false),
  .agent .foreign (.receive (pingPacket [1000])
    { host := "127.0.0.1", port := 443 }
    { nowMs := 1040, clockMs := 1040, now := 1 }),
  .agent .iran (ping 2000),
  .link .iran (.receive (pingPacket [1000, 2000]) 1)]

theorem lab_runs_are_tunnel_runs_two_pings :
    ((machine.run plain twoPings).links .iran).emulator.stats =
        { received := 2, forwarded := 1, dropped := 1 } ∧
      ((machine.run plain twoPings).agents
            .foreign).journal.accepted.length +
          1 ≤ 2 := by
  have possible : machine.EveryStep Possible plain twoPings := by
    decide +kernel
  have follows
      (lab : AsymmetricLab)
      (action : LabAction)
      (isPossible : lab.Possible action) :
      (system .plain fun _ => Link.lossyProfile).step lab action
        (machine.step lab action).1 :=
    ⟨isPossible, rfl⟩
  have stats :
      ((machine.run plain twoPings).links .iran).emulator.stats =
        { received := 2, forwarded := 1, dropped := 1 } := by
    decide +kernel
  have bounds :=
    (lab_runs_are_tunnel_runs
      (TransitionSystem.Reachable.run follows (.start plain_started)
        possible)).2 .iran
  rw [stats] at bounds
  exact ⟨stats, bounds.2⟩

end AsymmetricLab

end H3ntun

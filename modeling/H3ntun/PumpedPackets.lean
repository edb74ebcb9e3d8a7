import H3ntun.Delivery
import H3ntun.SendPath
import H3ntun.SenderQueues

namespace H3ntun

/-!
# Pumped packets at the replay window of the peer

A packet gets its sequence number when it is built, and `pump` may send it
much later.  The window of the peer refuses it, unseen, exactly when the peer
has meanwhile accepted a sequence at least a window size above it.
-/

/-- A frame the window accepts in a step is one the step delivers. -/
theorem Receiver.Step.delivered
    {delivers : Frame → Prop}
    {data : FrameKind}
    {before after : Receiver}
    {accepted : Option Frame}
    {completed : Option ((Nat × Nat) × Bytes)}
    {handedOver : Option Handover}
    (taken :
      before.Step delivers data after accepted completed handedOver) :
    ∀ frame ∈ accepted, delivers frame := by
  intro frame member
  cases taken with
  | nothing | purge | refused =>
      cases member
  | other _ delivered | data _ _ delivered =>
      cases member
      exact delivered

/-- In the current session an unseen sequence is refused only for its age. -/
theorem ReplayWindow.Refines.accept_unseen_iff
    {window : ReplayWindow}
    {size : Nat}
    {reference : ReplayReference}
    (refines : window.Refines size reference)
    (positive : 0 < size)
    {sequence sessionId : Int}
    (isCurrent : window.sessionId = some sessionId)
    (nonnegative : 0 ≤ sequence)
    (unseen : (sessionId, sequence) ∉ reference.accepted) :
    (window.accept sequence sessionId).2 = true ↔
      ∀ other,
        (sessionId, other) ∈ reference.accepted →
        other < sequence + size := by
  have current : reference.current = some sessionId :=
    refines.sameCurrent.symm.trans isCurrent
  obtain ⟨_, highestSeen, records⟩ := refines.opened sessionId current
  have byAge :
      reference.Admits size sequence sessionId ↔
        sequence > window.highest - size := by
    rw [refines.admits_current_iff current nonnegative,
      ReplayReference.mem_seen]
    exact and_iff_right unseen
  rw [refines.accept_iff_admits positive, byAge]
  constructor
  · intro inside other member
    have bound := records.bounded other member
    omega
  · intro bounded
    have bound := bounded window.highest highestSeen
    omega

namespace World

variable {tunnel : Tunnel} {world : World}

/-- What the outboxes and the windows know of the sequence counters. -/
structure Numbered (world : World) : Prop where
  outbox :
    ∀ side,
      (world side).agent.outbox.Sound (world side).journal.sealed
        (world side).journal.pumped
  sessions :
    (world .iran).agent.codec.sessionId ≠
      (world .foreign).agent.codec.sessionId
  counted :
    ∀ side, ∀ pair ∈ (world side).journal.admitted,
      pair.1 = (world side.peer).agent.codec.sessionId →
      pair.2 ≤ (world side.peer).agent.sequence

/-- Agents keep the codec they were built with. -/
theorem codec_after
    (world : World)
    (actor side : Side)
    (action : Action) :
    (world.after actor action side).agent.codec =
      (world side).agent.codec := by
  by_cases own : side = actor
  · subst own
    rw [after_same]
    exact ((world side).agent.sends_act action).sameCodec
  · rw [after_other world own]

namespace Numbered

theorem of_started
    (started : world.Started tunnel) :
    world.Numbered where
  sessions := started.sessions
  counted := started.remembered
  outbox side := by
    have party := started.party side
    obtain ⟨timeout, retries, maxPending, initialWindow, maxWindow,
      built⟩ := party.sender
    obtain ⟨queue, pending⟩ := ReliableSender.empty_of_init built
    have notPumped : (world side).journal.pumped = [] := by
      rw [party.journal]
    refine ⟨?_, .of_empty queue pending, ?_⟩
    · intro messageId job found
      have noJob : (world side).agent.outbox.sending = .empty :=
        party.sending
      rw [noJob] at found
      cases found
    · rw [notPumped]
      intro packet member
      cases member

/-- The sequence counter never goes back. -/
theorem sequence_act
    (agent : Agent)
    (action : Action) :
    agent.sequence ≤ (agent.act action).agent.sequence := by
  have counters :
      ∀ {after : SendState} {sealed begun},
        agent.sendState.Step after sealed begun →
        agent.sendState.sequence ≤ after.sequence := by
    intro after sealed begun taken
    cases taken <;> first | exact le_refl _ | exact Nat.le_succ _
  exact counters (agent.sends_act action)

theorem sequence_after
    (world : World)
    (actor side : Side)
    (action : Action) :
    (world side).agent.sequence ≤
      (world.after actor action side).agent.sequence := by
  by_cases own : side = actor
  · subst own
    rw [after_same]
    exact sequence_act _ action
  · rw [after_other world own]

/-- A frame of the peer's session carries a number the peer has drawn. -/
theorem sequence_le_of_encoded
    (numbered : world.Numbered)
    (sound : world.Sound tunnel)
    {side : Side}
    {frame : Frame}
    (encoded : world.Encoded tunnel frame)
    (ofPeer :
      frame.sessionId = (world side.peer).agent.codec.sessionId) :
    frame.sequence ≤ (world side.peer).agent.sequence := by
  obtain ⟨origin, isSealed⟩ := encoded
  obtain ⟨_, ownSession, bound⟩ :=
    (sound.senders.sending origin).own frame isSealed
  have ownSession :
      frame.sessionId = (world origin).agent.codec.sessionId :=
    ownSession
  have fromPeer : origin = side.peer := by
    have sameSession := ownSession.symm.trans ofPeer
    have distinct := numbered.sessions
    revert sameSession
    cases origin <;> cases side <;> simp [Side.peer, distinct,
      distinct.symm]
  rw [← fromPeer]
  exact bound

theorem after
    (numbered : world.Numbered)
    (sound : world.Sound tunnel)
    {actor : Side}
    {action : Action}
    (possible : world.Possible actor action) :
    (world.after actor action).Numbered where
  outbox side := by
    by_cases own : side = actor
    · subst own
      rw [after_same]
      exact (numbered.outbox side).step
        ((world side).agent.queues_act action)
    · rw [after_other world own]
      exact numbered.outbox side
  sessions := by
    rw [codec_after, codec_after]
    exact numbered.sessions
  counted side pair member ofPeer := by
    rw [codec_after] at ofPeer
    have grown := sequence_after world actor side.peer action
    have earlier :
        pair ∈ (world side).journal.admitted →
        pair.2 ≤ (world.after actor action side.peer).agent.sequence := by
      intro old
      have bound := numbered.counted side pair old ofPeer
      omega
    by_cases own : side = actor
    · subst own
      rw [after_same] at member
      rcases List.mem_append.mp member with isNew | old
      · obtain ⟨frame, accepted, rfl⟩ := List.mem_map.mp isNew
        have delivers :=
          ((world side).agent.receives_act action).delivered frame
            (Option.mem_toList.mp accepted)
        have bound :=
          numbered.sequence_le_of_encoded sound
            (sound.encoded_of_delivers possible delivers)
            (Int.ofNat_inj.mp ofPeer)
        have bound : (frame.sequence : Int) ≤
            (world side.peer).agent.sequence :=
          Int.ofNat_le.mpr bound
        omega
      · exact earlier old
    · rw [after_other world own] at member
      exact earlier member

theorem of_reachable
    (reached : (system tunnel).Reachable world) :
    world.Numbered := by
  refine reached.invariant (motive := Numbered)
    (fun _ started => .of_started started) ?_
  intro world move later reached numbered taken
  rw [taken.2]
  exact numbered.after (Sound.of_reachable reached) taken.1

end Numbered

/--
In every reachable state: a packet `pump` has sent is the packet of a frame,
and where the frame is of the current session and was never accepted, the
window of the peer accepts it if and only if no sequence of the session at
least a window size above it has been accepted.  So it does as long as the
sender has not drawn that many sequence numbers since.
-/
theorem pumped_packet_accepted_iff
    {tunnel : Tunnel}
    {world : World}
    (reached : (system tunnel).Reachable world)
    {side : Side}
    {packet : Bytes}
    (pumped : packet ∈ (world side).journal.pumped) :
    ∃ frame : Frame,
      frame.Valid ∧
        packet = tunnel.wire frame ∧
        frame.sessionId = (world side).agent.codec.sessionId ∧
        ((world side.peer).agent.replay.sessionId =
            some (frame.sessionId : Int) →
          ((frame.sessionId : Int), (frame.sequence : Int)) ∉
            (world side.peer).journal.admitted →
          (((world side.peer).agent.replay.accept frame.sequence
                frame.sessionId).2 = true ↔
              ∀ other : Int,
                ((frame.sessionId : Int), other) ∈
                  (world side.peer).journal.admitted →
                other < frame.sequence + ReplayWindow.defaultSize) ∧
            ((world side).agent.sequence <
                frame.sequence + ReplayWindow.defaultSize →
              ((world side.peer).agent.replay.accept frame.sequence
                frame.sessionId).2 = true)) := by
  have sound := Sound.of_reachable reached
  have numbered := Numbered.of_reachable reached
  have emitted := (numbered.outbox side).pumped packet pumped
  obtain ⟨frame, valid, packetShape⟩ :=
    (sound.senders.sending side).origin packet emitted
  have ownSession :
      frame.sessionId = (world side).agent.codec.sessionId :=
    ((sound.senders.sending side).own frame
      ⟨valid, packetShape ▸ emitted⟩).2.1
  refine ⟨frame, valid, packetShape, ownSession, ?_⟩
  intro isCurrent unseen
  obtain ⟨reference, refines, remembered⟩ :=
    (sound.receivers side.peer).replay
  have accepts :=
    refines.accept_unseen_iff (by decide) isCurrent
      (Int.natCast_nonneg frame.sequence) (remembered ▸ unseen)
  rw [remembered] at accepts
  refine ⟨accepts, fun recent => accepts.mpr ?_⟩
  intro other member
  have bound :=
    numbered.counted side.peer _ member (by
      rw [Side.peer_peer, ownSession])
  rw [Side.peer_peer] at bound
  have bound : other ≤ (world side).agent.sequence := bound
  omega

/-- A message of the Iran agent waits in the queue of its sender. -/
def waitInQueue : List (Side × Action) := [
  (.iran, .innerDatagram [1, 2, 3] { host := "10.0.0.2", port := 4000 }),
  (.iran, .buildPacket 1 1000),
  (.iran, .finishSend 1 0 none)]

/-- Its packet, with sequence number 1. -/
def waitingFrame : Frame where
  kind := .dataUp
  flags := 0
  tunnelId := List.replicate 16 7
  sessionId := 1
  sequence := 1
  timestampMs := 1000
  messageId := 1
  messageLen := 3
  fragmentIndex := 0
  fragmentCount := 1
  payload := [1, 2, 3]

theorem waitingFrame_valid :
    waitingFrame.Valid := by
  have decoded :
      (FrameCodec.plain 2 (by decide)).decode
        (Tunnel.plain.wire waitingFrame) 1200 = .ok waitingFrame := by
    decide +kernel
  have lawful : (FrameCodec.plain 2 (by decide)).aead.Lawful :=
    Tunnel.plain.lawful
  exact ((FrameCodec.decode_eq_ok_iff lawful).mp decoded).1

/-- The Iran agent sends a keepalive. -/
def keepaliveMove : Side × Action :=
  (.iran, .keepalive { nowMs := 1000, clockMs := 1000, now := 0 })

/-- One keepalive overtakes the message. -/
def overtakeOnce : List (Side × Action) :=
  waitInQueue ++ [
    keepaliveMove,
    (.foreign, .receive
      ((machine.run plain (waitInQueue ++ [keepaliveMove]))
        .iran).journal.sealed.headI
      { host := "192.0.2.2", port := 443 }
      { nowMs := 1200, clockMs := 1200, now := 1 }),
    (.iran, .pump 1)]

theorem pumped_packet_accepted_iff_overtaken_once :
    Tunnel.plain.wire waitingFrame ∈
        ((machine.run plain overtakeOnce) .iran).journal.pumped ∧
      ((machine.run plain overtakeOnce) .foreign).agent.replay.highest =
        2 ∧
      (((machine.run plain overtakeOnce) .foreign).agent.replay.accept 1
        1).2 = true := by
  have relays : machine.EveryStep Relays plain overtakeOnce := by
    decide +kernel
  have reached :=
    TransitionSystem.Reachable.run
      (fun _ _ => step_of_relays .plain) (.start plain_started) relays
  have pumped :
      Tunnel.plain.wire waitingFrame ∈
        ((machine.run plain overtakeOnce) .iran).journal.pumped := by
    decide +kernel
  obtain ⟨frame, valid, sameWire, _, decides⟩ :=
    pumped_packet_accepted_iff reached pumped
  have same : waitingFrame = frame :=
    FrameCodec.wire_injective Tunnel.plain.lawful waitingFrame_valid valid
      sameWire
  rw [← same] at decides
  have accepts := (decides (by decide +kernel) (by decide +kernel)).2
    (by decide +kernel)
  exact ⟨pumped, by decide +kernel, accepts⟩

end World

/-- What one agent does and records, action by action. -/
def Party.acts (party : Party) (actions : List Action) : Party :=
  actions.foldl Party.act party

theorem Party.acts_append
    (party : Party)
    (earlier later : List Action) :
    party.acts (earlier ++ later) = (party.acts earlier).acts later :=
  List.foldl_append ..

namespace World

/-- The actions of the Iran agent change nothing at the foreign agent. -/
theorem run_iran
    (world : World)
    (actions : List Action) :
    (machine.run world (actions.map fun action => (.iran, action)))
          .foreign = world .foreign ∧
      (machine.run world (actions.map fun action => (.iran, action)))
          .iran = (world .iran).acts actions := by
  induction actions generalizing world with
  | nil =>
      exact ⟨rfl, rfl⟩
  | cons action rest inductionHypothesis =>
      obtain ⟨sameForeign, ownSteps⟩ :=
        inductionHypothesis (machine.step world (.iran, action)).1
      exact ⟨sameForeign.trans (after_peer world .iran action),
        ownSteps.trans
          (congrArg (Party.acts · rest) (after_same world .iran action))⟩

/-- What was pumped stays so. -/
theorem pumped_acts
    {party : Party}
    {packet : Bytes}
    (pumped : packet ∈ party.journal.pumped)
    (actions : List Action) :
    packet ∈ (party.acts actions).journal.pumped := by
  induction actions generalizing party with
  | nil =>
      exact pumped
  | cons action rest inductionHypothesis =>
      exact inductionHypothesis (List.mem_append_right _ pumped)

/-- A data packet of the Iran agent with a sequence number. -/
def Carries (sequence : Nat) (packet : Bytes) : Prop :=
  ∃ frame : Frame,
    frame.Valid ∧
      frame.kind = .dataUp ∧
      frame.tunnelId = List.replicate 16 7 ∧
      frame.sessionId = 1 ∧
      frame.sequence = sequence ∧
      frame.timestampMs = 1000 ∧
      packet = Tunnel.plain.wire frame

/-- The Iran agent has drawn so many numbers, the last for a data packet. -/
structure Busy (drawn begun : Nat) (party : Party) : Prop where
  role :
    ∃ peer, party.agent.role = .iran peer none none
  codec :
    party.agent.codec = (plain .iran).agent.codec
  fragmentSize :
    party.agent.fragmentPayloadBytes = 256
  parity :
    party.agent.fecEnabled = true
  sequence :
    party.agent.sequence = drawn
  messageId :
    party.agent.messageId = begun
  newest :
    ∃ packet earlier,
      party.journal.sealed = packet :: earlier ∧ Carries drawn packet

/-- A message of the greatest size, in pieces of the least. -/
def largestMessage : Message where
  payload := List.replicate 60000 0
  fragmentPayloadBytes := 256
  fecEnabled := true
  sizeInRange := Message.short.sizeInRange
  payloadFits := le_of_eq (List.length_replicate ..)

theorem length_largestMessage :
    largestMessage.fragments.length = 236 := by
  have count : largestMessage.count = 235 := by
    rw [Message.count]
    change pieceCount (List.replicate 60000 (0 : UInt8)).length 256 = 235
    rw [List.length_replicate]
    decide
  have parity : largestMessage.hasParity = true :=
    Message.hasParity_iff.mpr ⟨rfl, by omega⟩
  rw [Message.fragments, if_pos parity, List.length_append,
    List.length_map, List.length_range, count]
  rfl

namespace Busy

variable {sequence messageId : Nat} {party : Party}

/-- An action that draws no number and encodes nothing. -/
theorem keep
    (busy : Busy sequence messageId party)
    {action : Action}
    {sender : ReliableSender}
    {sending : OrderedDict Nat SendJob}
    (sameAgent :
      (party.agent.act action).agent =
        { party.agent with sender := sender, sending := sending })
    (encodesNothing : (party.agent.act action).sealed = none) :
    Busy sequence messageId (party.act action) := by
  have sameSealed :
      (party.act action).journal.sealed = party.journal.sealed := by
    rw [Party.act, Journal.record, encodesNothing]
    rfl
  have agentShape : (party.act action).agent = _ := sameAgent
  refine ⟨?_, ?_, ?_, ?_, ?_, ?_, ?_⟩
  all_goals first | rw [agentShape] | rw [sameSealed]
  · exact busy.role
  · exact busy.codec
  · exact busy.fragmentSize
  · exact busy.parity
  · exact busy.sequence
  · exact busy.messageId
  · exact busy.newest

/-- The rest of `send_data` hands the packets to the sender. -/
theorem finish
    (busy : Busy sequence messageId party)
    (finishedId : Nat) :
    Busy sequence messageId
      (party.act (.finishSend finishedId 0 none)) := by
  have shape :
      (∃ sender sending,
        (party.agent.finishSend finishedId 0 none).agent =
          { party.agent with sender := sender, sending := sending }) ∧
        (party.agent.finishSend finishedId 0 none).sealed = none := by
    unfold Agent.finishSend
    split
    · dsimp only
      split
      · exact ⟨⟨_, _, rfl⟩, rfl⟩
      · exact ⟨⟨_, _, rfl⟩, rfl⟩
    · exact ⟨⟨_, _, rfl⟩, rfl⟩
  obtain ⟨⟨sender, sending, sameAgent⟩, encodesNothing⟩ := shape
  exact busy.keep sameAgent encodesNothing

theorem pump
    (busy : Busy sequence messageId party) :
    Busy sequence messageId (party.act (.pump 0)) := by
  have shape :
      (∃ sender,
        (party.agent.pump 0).agent = { party.agent with sender := sender }) ∧
        (party.agent.pump 0).sealed = none := by
    unfold Agent.pump
    split
    · exact ⟨⟨_, rfl⟩, rfl⟩
    · exact ⟨⟨_, rfl⟩, rfl⟩
  obtain ⟨⟨sender, sameAgent⟩, encodesNothing⟩ := shape
  exact busy.keep sameAgent encodesNothing

/-- A datagram of the local application begins a message. -/
theorem begin
    (busy : Busy sequence messageId party) :
    Busy sequence (messageId + 1)
        (party.act (.innerDatagram largestMessage.payload
          { host := "10.0.0.2", port := 4000 })) ∧
      (party.act (.innerDatagram largestMessage.payload
          { host := "10.0.0.2", port := 4000 })).agent.sending.get?
          (messageId + 1) =
        some { remaining := largestMessage.fragments } := by
  obtain ⟨peer, isIran⟩ := busy.role
  have fragmented :
      fragmentMessage largestMessage.payload
          party.agent.fragmentPayloadBytes party.agent.fecEnabled =
        .ok largestMessage.fragments := by
    rw [busy.fragmentSize, busy.parity]
    exact largestMessage.fragmentMessage_eq
  have shape :
      party.agent.act (.innerDatagram largestMessage.payload
          { host := "10.0.0.2", port := 4000 }) =
        { agent := { party.agent with
            role := .iran (some { host := "10.0.0.2", port := 4000 })
              none none
            messageId := messageId + 1
            sending := party.agent.sending.set (messageId + 1)
              { remaining := largestMessage.fragments } }
          begun := some (messageId + 1, largestMessage.payload) } := by
    simp only [Agent.act, Agent.innerLoop, isIran, Agent.beginSend,
      fragmented, busy.messageId]
    rfl
  have agentShape := congrArg Effect.agent shape
  refine ⟨⟨?_, ?_, ?_, ?_, ?_, ?_, ?_⟩, ?_⟩
  · exact ⟨_, congrArg Agent.role agentShape⟩
  · exact (congrArg Agent.codec agentShape).trans busy.codec
  · exact (congrArg Agent.fragmentPayloadBytes agentShape).trans
      busy.fragmentSize
  · exact (congrArg Agent.fecEnabled agentShape).trans busy.parity
  · exact (congrArg Agent.sequence agentShape).trans busy.sequence
  · exact congrArg Agent.messageId agentShape
  · rw [Party.act, Journal.record, shape]
    exact busy.newest
  · rw [Party.act, shape]
    exact OrderedDict.get?_set_same _ _ _

/-- One more fragment draws the next number. -/
theorem build
    (busy : Busy sequence messageId party)
    {spec : FragmentSpec}
    {rest : List FragmentSpec}
    {packets : List Bytes}
    (found :
      party.agent.sending.get? messageId =
        some { remaining := spec :: rest, packets := packets })
    (member : spec ∈ largestMessage.fragments)
    (fits : messageId < 2 ^ 64)
    (room : sequence + 1 < 2 ^ 64) :
    Busy (sequence + 1) messageId
        (party.act (.buildPacket messageId 1000)) ∧
      ∃ built,
        (party.act (.buildPacket messageId 1000)).agent.sending.get?
            messageId =
          some { remaining := rest, packets := built } := by
  obtain ⟨peer, isIran⟩ := busy.role
  have side : party.agent.role.side = .iran := by
    rw [isIran]
    rfl
  obtain ⟨packet, encoded⟩ :
      ∃ packet,
        party.agent.codec.encode 1000
          (spec.request .dataUp messageId (sequence + 1)) =
            .ok packet := by
    rcases FrameCodec.encode_fragment_cases member
        (rfl : FrameKind.isData .dataUp = true) fits party.agent.codec 1000
        (sequence + 1) with ⟨_, encodes⟩ | ⟨misfit, _⟩
    · exact encodes
    · exact absurd ⟨room, by decide, by decide⟩ misfit
  have sameRequest :
      party.agent.fragmentRequest messageId (sequence + 1) spec =
        spec.request .dataUp messageId (sequence + 1) := by
    rw [Agent.fragmentRequest, side]
    rfl
  have shape :
      party.agent.act (.buildPacket messageId 1000) =
        { agent := { party.agent with
            sequence := sequence + 1
            sending := party.agent.sending.set messageId
              { remaining := rest, packets := packets ++ [packet] } }
          sealed := some packet } := by
    simp only [Agent.act, Agent.buildPacket, found, busy.sequence,
      sameRequest, encoded]
  have agentShape := congrArg Effect.agent shape
  refine ⟨⟨?_, ?_, ?_, ?_, ?_, ?_, ?_⟩, packets ++ [packet], ?_⟩
  · exact ⟨peer, (congrArg Agent.role agentShape).trans isIran⟩
  · exact (congrArg Agent.codec agentShape).trans busy.codec
  · exact (congrArg Agent.fragmentPayloadBytes agentShape).trans
      busy.fragmentSize
  · exact (congrArg Agent.fecEnabled agentShape).trans busy.parity
  · exact congrArg Agent.sequence agentShape
  · exact (congrArg Agent.messageId agentShape).trans busy.messageId
  · obtain ⟨frame, valid, sameHeader, _, isWire⟩ :=
      FrameCodec.encode_eq_ok_iff.mp encoded
    rw [busy.codec] at sameHeader isWire
    have fields := Header.ext_iff.mp sameHeader
    simp only [Frame.header, FrameCodec.requestHeader,
      FragmentSpec.request, Option.getD_none] at fields
    obtain ⟨_, _, sameKind, _, tunnelId, sessionId, drawn, stamped, _⟩ :=
      fields
    refine ⟨packet, party.journal.sealed, ?_, frame, valid, ?_, tunnelId,
      ?_, ?_, ?_, isWire⟩
    · rw [Party.act, Journal.record, shape]
      rfl
    · have known := FrameKind.ofCode?_code frame.kind
      rw [sameKind, FrameKind.ofCode?_code] at known
      exact (Option.some.inj known).symm
    · exact Int.ofNat_inj.mp sessionId
    · exact Int.ofNat_inj.mp drawn
    · exact Int.ofNat_inj.mp stamped
  · rw [Party.act, shape]
    exact OrderedDict.get?_set_same _ _ _

/-- All fragments of a message are built. -/
theorem buildAll
    {specs : List FragmentSpec}
    {packets : List Bytes}
    (busy : Busy sequence messageId party)
    (found :
      party.agent.sending.get? messageId =
        some { remaining := specs, packets := packets })
    (members : ∀ spec ∈ specs, spec ∈ largestMessage.fragments)
    (fits : messageId < 2 ^ 64)
    (room : sequence + specs.length < 2 ^ 64) :
    Busy (sequence + specs.length) messageId
      (party.acts
        (List.replicate specs.length (.buildPacket messageId 1000))) := by
  induction specs generalizing party sequence packets with
  | nil =>
      exact busy
  | cons spec rest inductionHypothesis =>
      rw [List.length_cons] at room
      obtain ⟨member, restMembers⟩ := List.forall_mem_cons.mp members
      obtain ⟨next, built, restFound⟩ :=
        busy.build found member fits (by omega)
      have ends := inductionHypothesis next restFound restMembers
        (by omega)
      rw [List.length_cons, List.replicate_succ,
        Nat.add_comm rest.length 1, ← Nat.add_assoc]
      exact ends

end Busy

/-- The Iran agent sends a message of the greatest size. -/
def sendLargest (messageId : Nat) : List Action :=
  .innerDatagram largestMessage.payload
      { host := "10.0.0.2", port := 4000 } ::
    (List.replicate 236 (.buildPacket messageId 1000) ++
      [.finishSend messageId 0 none, .pump 0])

/-- The network has no part in sending. -/
theorem relays_sendLargest
    (world : World)
    {messageId : Nat}
    {action : Action}
    (member : action ∈ sendLargest messageId) :
    world.Relays (.iran, action) := by
  rcases List.mem_cons.mp member with rfl | later
  · exact trivial
  · rcases List.mem_append.mp later with builds | ends
    · rw [List.eq_of_mem_replicate builds]
      exact trivial
    · rcases List.mem_cons.mp ends with rfl | last
      · exact trivial
      · rw [List.mem_singleton.mp last]
        exact trivial

namespace Busy

variable {sequence messageId : Nat} {party : Party}

/-- A message draws 236 numbers. -/
theorem message
    (busy : Busy sequence messageId party)
    (fits : messageId + 1 < 2 ^ 64)
    (room : sequence + 236 < 2 ^ 64) :
    Busy (sequence + 236) (messageId + 1)
      (party.acts (sendLargest (messageId + 1))) := by
  obtain ⟨begins, found⟩ := busy.begin
  have built := begins.buildAll found (fun _ member => member) fits
    (by rw [length_largestMessage]; exact room)
  rw [length_largestMessage] at built
  rw [sendLargest, Party.acts, List.foldl_cons, ← Party.acts,
    Party.acts_append]
  exact (built.finish (messageId + 1)).pump

/-- Messages draw 236 numbers each. -/
theorem messages
    (busy : Busy sequence messageId party)
    (count : Nat)
    (fits : messageId + count < 2 ^ 64)
    (room : sequence + 236 * count < 2 ^ 64) :
    Busy (sequence + 236 * count) (messageId + count)
      (party.acts
        ((List.range count).flatMap fun earlier =>
          sendLargest (messageId + earlier + 1))) := by
  induction count with
  | zero =>
      exact busy
  | succ count inductionHypothesis =>
      have before := inductionHypothesis (by omega) (by omega)
      rw [List.range_succ, List.flatMap_append, List.flatMap_singleton,
        Party.acts_append, Nat.mul_succ, ← Nat.add_assoc, ← Nat.add_assoc]
      exact before.message (by omega) (by omega)

end Busy

/-- The first packet is pumped and lost, and 18 large messages follow. -/
def sendOnwards : List (Side × Action) :=
  (waitInQueue ++ [(.iran, .pump 0)]) ++
    ((List.range 18).flatMap fun earlier =>
      sendLargest (1 + earlier + 1)).map fun action => (.iran, action)

/-- The last packet of them arrives, and the first one is pumped again. -/
def overtake : List (Side × Action) :=
  sendOnwards ++ [
    (.foreign, .receive
      ((machine.run plain sendOnwards) .iran).journal.sealed.headI
      { host := "192.0.2.2", port := 443 }
      { nowMs := 1200, clockMs := 1200, now := 1 }),
    (.iran, .pump 1)]

/-- No run changes a codec. -/
theorem codec_run
    (world : World)
    (moves : List (Side × Action))
    (side : Side) :
    (machine.run world moves side).agent.codec =
      (world side).agent.codec := by
  induction moves generalizing world with
  | nil =>
      rfl
  | cons move later inductionHypothesis =>
      exact (inductionHypothesis _).trans
        (codec_after world move.1 side move.2)

/-- After the large messages 4249 numbers are drawn. -/
theorem run_sendOnwards :
    (system .plain).Reachable (machine.run plain sendOnwards) ∧
      (machine.run plain sendOnwards) .foreign = plain .foreign ∧
      Tunnel.plain.wire waitingFrame ∈
        ((machine.run plain sendOnwards) .iran).journal.pumped ∧
      ∃ packet earlier,
        ((machine.run plain sendOnwards) .iran).journal.sealed =
            packet :: earlier ∧
          Carries 4249 packet := by
  have relays :
      machine.EveryStep Relays plain (waitInQueue ++ [(.iran, .pump 0)]) := by
    decide +kernel
  have pumped :
      Tunnel.plain.wire waitingFrame ∈
        ((machine.run plain (waitInQueue ++ [(.iran, .pump 0)]))
          .iran).journal.pumped := by
    decide +kernel
  have busy :
      Busy 1 1
        ((machine.run plain (waitInQueue ++ [(.iran, .pump 0)]))
          .iran) :=
    { role := ⟨some { host := "10.0.0.2", port := 4000 }, by decide +kernel⟩
      codec := codec_run plain _ .iran
      fragmentSize := by decide +kernel
      parity := by decide +kernel
      sequence := by decide +kernel
      messageId := by decide +kernel
      newest := ⟨Tunnel.plain.wire waitingFrame, [], by decide +kernel,
        waitingFrame, waitingFrame_valid, rfl, rfl, rfl, rfl, rfl, rfl⟩ }
  have alone :
      (machine.run plain (waitInQueue ++ [(.iran, .pump 0)])) .foreign =
        plain .foreign := by
    rfl
  have reached :=
    TransitionSystem.Reachable.run (fun _ _ => step_of_relays .plain)
      (.start plain_started) relays
  rw [sendOnwards, Machine.run_append]
  generalize machine.run plain (waitInQueue ++ [(.iran, .pump 0)]) =
    world at reached pumped busy alone
  obtain ⟨sameForeign, ownSteps⟩ :=
    run_iran world
      ((List.range 18).flatMap fun earlier =>
        sendLargest (1 + earlier + 1))
  refine ⟨?_, sameForeign.trans alone, ?_, ?_⟩
  · refine .run (fun _ _ => step_of_relays .plain) reached
      (.of_forall ?_ _)
    intro state move member
    obtain ⟨action, inActions, rfl⟩ := List.mem_map.mp member
    obtain ⟨earlier, _, inMessage⟩ := List.mem_flatMap.mp inActions
    exact relays_sendLargest state inMessage
  · rw [ownSteps]
    exact pumped_acts pumped _
  · rw [ownSteps]
    exact (busy.messages 18 (by decide) (by decide)).newest

/--
The first packet never reached the peer, whose window refuses it when it is
sent again.
-/
theorem unseen_pumped_packet_refused :
    (system .plain).Reachable (machine.run plain overtake) ∧
      Tunnel.plain.wire waitingFrame ∈
        ((machine.run plain overtake) .iran).journal.pumped ∧
      ((machine.run plain overtake) .foreign).agent.replay.sessionId =
        some 1 ∧
      ((1 : Int), (1 : Int)) ∉
        ((machine.run plain overtake) .foreign).journal.admitted ∧
      (((machine.run plain overtake) .foreign).agent.replay.accept 1
        1).2 = false := by
  obtain ⟨reached, sameForeign, pumped, packet, earlier, sealed, frame,
    valid, isData, tunnelId, session, number, stamp, isWire⟩ :=
    run_sendOnwards
  rw [overtake, Machine.run_append, sealed, List.headI_cons]
  generalize machine.run plain sendOnwards = world
    at reached sameForeign pumped sealed
  have decoded :
      (plain .foreign).agent.codec.decode packet 1200 = .ok frame := by
    refine (FrameCodec.decode_eq_ok_iff Tunnel.plain.lawful).mpr
      ⟨valid, tunnelId, isWire, ?_⟩
    rw [stamp]
    decide +kernel
  have accepts :
      ((plain .foreign).agent.replay.accept frame.sequence
        frame.sessionId).2 = true := by
    rw [number, session]
    decide
  obtain ⟨receiverShape, isAccepted, _⟩ :=
    (plain .foreign).agent.receive_of_data frame
      { nowMs := 1200, clockMs := 1200, now := 1 } decoded accepts isData
  rw [number, session] at receiverShape
  have replayShape :
      ((plain .foreign).agent.receive packet
        { nowMs := 1200, clockMs := 1200, now := 1 }).agent.replay =
          ((plain .foreign).agent.replay.accept 4249 1).1 :=
    congrArg Receiver.replay receiverShape
  have foreignStep :
      (machine.run world
          [(.foreign, .receive packet { host := "192.0.2.2", port := 443 }
            { nowMs := 1200, clockMs := 1200, now := 1 }),
          (.iran, .pump 1)]) .foreign =
        (plain .foreign).act
          (.receive packet { host := "192.0.2.2", port := 443 }
            { nowMs := 1200, clockMs := 1200, now := 1 }) := by
    rw [← sameForeign]
    rfl
  rw [foreignStep]
  refine ⟨?_, ?_, ?_, ?_, ?_⟩
  · refine .run (fun _ _ => step_of_relays .plain) reached
      ⟨.inl ?_, trivial, trivial⟩
    rw [sealed]
    exact List.mem_cons_self
  · exact List.mem_append_right _ pumped
  · change ((plain .foreign).agent.receive packet
      { nowMs := 1200, clockMs := 1200, now := 1 }).agent.replay.sessionId =
        some 1
    rw [replayShape]
    decide
  · intro member
    have admitted :
        ((plain .foreign).act
          (.receive packet { host := "192.0.2.2", port := 443 }
            { nowMs := 1200, clockMs := 1200, now := 1 })).journal.admitted =
          [(1, 4249)] := by
      change (List.map _ (Option.toList
        ((plain .foreign).agent.receive packet
          { nowMs := 1200, clockMs := 1200, now := 1 }).accepted)) ++ _ = _
      rw [isAccepted, Option.toList_some, List.map_singleton, number, session]
      rfl
    rw [admitted] at member
    exact absurd member (by decide)
  · change (((plain .foreign).agent.receive packet
      { nowMs := 1200, clockMs := 1200, now := 1 }).agent.replay.accept 1
        1).2 = false
    rw [replayShape]
    decide

end World

end H3ntun

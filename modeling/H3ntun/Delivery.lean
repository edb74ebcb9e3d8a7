import H3ntun.ReceiverSound
import H3ntun.SealedFrames

namespace H3ntun

/-!
# Delivery over whole runs

In every state two agents can reach over an adversarial network, what one
hands over is what the other was given to send, and no message is handed over
twice.
-/

namespace World

/-- The sending halves of both agents are sound. -/
structure SendersSound (tunnel : Tunnel) (world : World) : Prop where
  side :
    ∀ side, (world side).agent.role.side = side
  sending :
    ∀ side,
      (world side).agent.sendState.Sound tunnel
        (world side).journal.sealed (world side).journal.begun

/-- Messages an agent was given to send, by session and message. -/
def Sent
    (world : World)
    (side : Side)
    (key : Nat × Nat)
    (message : Message) : Prop :=
  key.1 = (world side).agent.codec.sessionId ∧
    (world side).agent.sendState.Cuts message ∧
    (key.2, message.payload) ∈ (world side).journal.begun

/-- Frames one of the agents encoded. -/
def Encoded (tunnel : Tunnel) (world : World) (frame : Frame) : Prop :=
  ∃ origin, tunnel.Sealed (world origin).journal.sealed frame

namespace SendersSound

variable {tunnel : Tunnel} {world : World}

/-- Data frames a side expects come from its peer. -/
theorem sealed_by_peer
    (sound : world.SendersSound tunnel)
    {side : Side}
    {frame : Frame}
    (encoded : world.Encoded tunnel frame)
    (isData : frame.kind = side.kinds.data) :
    tunnel.Sealed (world side.peer).journal.sealed frame ∧
      ∃ message,
        (world side.peer).agent.sendState.Carries
          (world side.peer).journal.begun frame message := by
  obtain ⟨origin, isSealed⟩ := encoded
  have dataKind : frame.kind.isData = true := by
    rw [isData]
    cases side <;> rfl
  obtain ⟨message, carries⟩ :=
    (sound.sending origin).data frame isSealed dataKind
  have originShape : origin = side.peer := by
    have sameSide : (world origin).agent.sendState.side = origin :=
      sound.side origin
    have sends := (sound.sending origin).kinds frame isSealed
    rw [isData, sameSide] at sends
    revert sends
    cases origin <;> cases side <;> decide
  subst originShape
  exact ⟨isSealed, message, carries⟩

/-- Where the data frames one side receives come from. -/
def provenance
    (sound : world.SendersSound tunnel)
    (side : Side) : Provenance where
  sent := world.Sent side.peer
  authentic := world.Encoded tunnel
  data := side.kinds.data
  unique := by
    intro key first second firstSent secondSent
    have samePayload : first.payload = second.payload := by
      have distinct := (sound.sending side.peer).calls
      have same :=
        List.inj_on_of_nodup_map distinct firstSent.2.2 secondSent.2.2 rfl
      exact congrArg Prod.snd same
    exact firstSent.2.1.unique secondSent.2.1 samePayload
  carried := by
    intro frame encoded isData
    obtain ⟨isSealed, message, carries⟩ :=
      sound.sealed_by_peer encoded isData
    have own := (sound.sending side.peer).own frame isSealed
    exact ⟨message, ⟨own.2.1, carries.cuts, carries.begun⟩, carries.spec⟩
  distinct := by
    intro first second firstEncoded secondEncoded firstData secondData
      sameKey sameIndex
    obtain ⟨firstSealed, _⟩ :=
      sound.sealed_by_peer firstEncoded firstData
    obtain ⟨secondSealed, _⟩ :=
      sound.sealed_by_peer secondEncoded secondData
    have dataKind : side.kinds.data.isData = true := by
      cases side <;> rfl
    exact (sound.sending side.peer).fragments first second firstSealed
      secondSealed (firstData ▸ dataKind) (secondData ▸ dataKind)
      (congrArg Prod.snd sameKey) sameIndex

/-- One step of one agent keeps both sending halves sound. -/
theorem after
    (sound : world.SendersSound tunnel)
    (actor : Side)
    (action : Action) :
    (world.after actor action).SendersSound tunnel := by
  have taken := (world actor).agent.sends_act action
  refine ⟨?_, ?_⟩
  · intro side
    by_cases own : side = actor
    · subst own
      rw [after_same]
      exact taken.sameSide.trans (sound.side side)
    · rw [after_other world own]
      exact sound.side side
  · intro side
    by_cases own : side = actor
    · subst own
      rw [after_same]
      exact (sound.sending side).step taken
    · rw [after_other world own]
      exact sound.sending side

end SendersSound

end World

namespace Party.Started

variable {tunnel : Tunnel} {side : Side} {party : Party}

/-- A process that has just been started has encoded nothing. -/
theorem journal_empty
    (started : party.Started tunnel side) :
    party.journal.begun = [] ∧
      party.journal.sealed = [] ∧
      party.journal.accepted = [] ∧
      party.journal.completed = [] ∧
      party.journal.handedOver = [] ∧
      party.journal.acknowledged = [] := by
  rw [started.journal]
  exact ⟨rfl, rfl, rfl, rfl, rfl, rfl⟩

theorem senderSound
    (started : party.Started tunnel side) :
    party.agent.sendState.Sound tunnel
      party.journal.sealed party.journal.begun := by
  obtain ⟨noCall, noPacket, _⟩ := started.journal_empty
  obtain ⟨skew, sessionId, token, built⟩ := started.codec
  obtain ⟨samePrimitives, sameTunnel, sameAead, _⟩ :=
    FrameCodec.init_eq_ok built
  have noFrame :
      ∀ frame, ¬ tunnel.Sealed party.journal.sealed frame := by
    intro frame isSealed
    have member := isSealed.2
    rw [noPacket] at member
    cases member
  refine {
    codec := ⟨samePrimitives, sameTunnel, sameAead⟩
    origin := ?_
    own := fun frame isSealed => absurd isSealed (noFrame frame)
    sequences := fun first _ isSealed => absurd isSealed (noFrame first)
    kinds := fun frame isSealed => absurd isSealed (noFrame frame)
    data := fun frame isSealed => absurd isSealed (noFrame frame)
    calls := ?_
    callsBound := ?_
    fragments := fun first _ isSealed => absurd isSealed (noFrame first)
    unfinished := ?_
  }
  · rw [noPacket]
    intro packet member
    cases member
  · rw [noCall]
    exact List.nodup_nil
  · rw [noCall]
    intro call member
    cases member
  · intro messageId job found
    have noJob : party.agent.sendState.sending = .empty :=
      started.sending
    rw [noJob] at found
    cases found

theorem receiverSound
    (started : party.Started tunnel side)
    (provenance : Provenance) :
    party.agent.receiver.Sound provenance party.journal := by
  obtain ⟨_, _, notAccepted, notCompleted, notHandedOver, _⟩ :=
    started.journal_empty
  obtain ⟨timeout, maxMessages, completedTtl, built⟩ :=
    started.reassembler
  have emptyTables :
      party.agent.reassembler.assemblies = .empty ∧
        party.agent.reassembler.completed = .empty := by
    unfold Reassembler.init at built
    split at built
    · cases built
    · rw [← Except.ok.inj built]
      exact ⟨rfl, rfl⟩
  have noAssembly :
      ∀ key, party.agent.reassembler.assemblies.get? key = none := by
    intro key
    rw [emptyTables.1]
    rfl
  have noneHeld :
      ∀ key, party.agent.receiver.reassembler.heldAt key = ∅ := by
    intro key
    change party.agent.reassembler.heldAt key = ∅
    rw [Reassembler.heldAt, noAssembly]
  obtain ⟨calls, sameWindow, sameAdmitted⟩ := started.replay
  refine {
    replay := ?_
    admitted := ?_
    authentic := ?_
    genuine := ?_
    held := ?_
    completed := ?_
    counted := ?_
    incomplete := ?_
    remembered := ?_
    handedOver := ?_
  }
  · have fresh :=
      ReplayWindow.Refines.fresh ReplayWindow.defaultSize
    refine ⟨(ReplayReference.machine ReplayWindow.defaultSize).run
      .fresh calls, ?_, ?_⟩
    · have refines := (fresh.run (by decide) calls).2
      rw [← sameWindow] at refines
      exact refines
    · rw [fresh.accepted_run (by decide) calls, sameAdmitted]
      exact List.append_nil _
  · rw [notAccepted]
    intro frame member
    cases member
  · rw [notAccepted]
    intro frame member
    cases member
  · intro key assembly found
    exact absurd ((noAssembly key).symm.trans found) (Option.some_ne_none _).symm
  · intro key
    rw [noneHeld]
    exact Finset.empty_subset _
  · rw [notCompleted]
    intro entry member
    cases member
  · intro key message sent
    rw [noneHeld, Journal.completions, notCompleted]
    exact Nat.zero_le _
  · intro key message sent
    rw [noneHeld]
    exact message.count_pos
  · intro key contained
    have notContained :
        party.agent.reassembler.completed.contains key = false := by
      rw [emptyTables.2]
      rfl
    exact absurd contained (Bool.eq_false_iff.mp notContained)
  · rw [notHandedOver, notCompleted]
    exact List.Sublist.slnil

end Party.Started

namespace World

/-- Both halves of both agents are sound. -/
structure Sound (tunnel : Tunnel) (world : World) : Prop where
  senders :
    world.SendersSound tunnel
  receivers :
    ∀ side,
      (world side).agent.receiver.Sound (senders.provenance side)
        (world side).journal

namespace Sound

variable {tunnel : Tunnel} {world : World}

theorem of_started
    (started : world.Started tunnel) :
    world.Sound tunnel where
  senders :=
    { side := fun side => (started.party side).role
      sending := fun side => (started.party side).senderSound }
  receivers side := (started.party side).receiverSound _

/-- A step only adds messages sent. -/
theorem sent_after
    {actor side : Side}
    (action : Action)
    {key : Nat × Nat}
    {message : Message}
    (sent : world.Sent side key message) :
    (world.after actor action).Sent side key message := by
  by_cases own : side = actor
  · subst own
    obtain ⟨sameSession, cuts, begun⟩ := sent
    have taken := (world side).agent.sends_act action
    rw [Sent, after_same]
    refine ⟨?_, ⟨?_, ?_⟩, ?_⟩
    · exact sameSession.trans
        (congrArg FrameCodec.sessionId taken.sameCodec).symm
    · exact cuts.1.trans taken.sameSettings.1.symm
    · exact cuts.2.trans taken.sameSettings.2.symm
    · exact List.mem_append_right _ begun
  · rw [Sent, after_other world own]
    exact sent

/-- A step only adds frames encoded. -/
theorem encoded_after
    {actor : Side}
    (action : Action)
    {frame : Frame}
    (encoded : world.Encoded tunnel frame) :
    (world.after actor action).Encoded tunnel frame := by
  obtain ⟨origin, valid, member⟩ := encoded
  refine ⟨origin, valid, ?_⟩
  by_cases own : origin = actor
  · subst own
    rw [after_same]
    exact List.mem_append_right _ member
  · rw [after_other world own]
    exact member

/-- Both codecs write packets under the key of the tunnel. -/
theorem wire_eq
    (sound : world.Sound tunnel)
    (side : Side)
    (frame : Frame) :
    frame.wire (world side).agent.codec.primitives
        (world side).agent.codec.aead = tunnel.wire frame := by
  have under := (sound.senders.sending side).codec
  have samePrimitives :
      (world side).agent.codec.primitives = tunnel.primitives :=
    under.primitives
  have sameAead : (world side).agent.codec.aead = tunnel.aead :=
    under.aead
  rw [samePrimitives, sameAead]
  rfl

theorem lawful
    (sound : world.Sound tunnel)
    (side : Side) :
    (world side).agent.codec.aead.Lawful := by
  have sameAead : (world side).agent.codec.aead = tunnel.aead :=
    (sound.senders.sending side).codec.aead
  rw [sameAead]
  exact tunnel.lawful

/-- A packet is decoded in time, to the frame it was encoded from. -/
theorem decode_wire_iff
    (sound : world.Sound tunnel)
    (side : Side)
    {frame : Frame}
    (encoded : world.Encoded tunnel frame)
    (nowMs : Int)
    (other : Frame) :
    (world side).agent.codec.decode (tunnel.wire frame) nowMs =
        .ok other ↔
      other = frame ∧
        |nowMs - frame.timestampMs| ≤
          (world side).agent.codec.maxClockSkewMs := by
  obtain ⟨origin, isSealed⟩ := encoded
  have sameTunnel :
      frame.tunnelId = (world side).agent.codec.tunnelId :=
    ((sound.senders.sending origin).own frame isSealed).1.trans
      (sound.senders.sending side).codec.tunnelId.symm
  rw [FrameCodec.decode_eq_ok_iff (sound.lawful side), sound.wire_eq side]
  constructor
  · rintro ⟨valid, _, sameWire, inTime⟩
    have same :=
      FrameCodec.wire_injective tunnel.lawful isSealed.1 valid sameWire
    exact ⟨same.symm, same ▸ inTime⟩
  · rintro ⟨rfl, inTime⟩
    exact ⟨isSealed.1, sameTunnel, rfl, inTime⟩

/-- A frame an action delivers was encoded by one of the agents. -/
theorem encoded_of_delivers
    (sound : world.Sound tunnel)
    {actor : Side}
    {action : Action}
    (possible : world.Possible actor action)
    {frame : Frame}
    (delivers : action.Delivers (world actor).agent frame) :
    world.Encoded tunnel frame := by
  cases action with
  | receive packet source surroundings =>
      obtain ⟨origin, member⟩ := possible frame delivers
      obtain ⟨valid, _, packetShape, _⟩ :=
        (FrameCodec.decode_eq_ok_iff (sound.lawful actor)).mp delivers
      rw [packetShape, sound.wire_eq actor] at member
      exact ⟨origin, valid, member⟩
  | innerDatagram | buildPacket | finishSend | keepalive | pump
  | cleanup =>
      cases delivers

/-- One step of one agent keeps all four halves sound. -/
theorem after
    (sound : world.Sound tunnel)
    {actor : Side}
    {action : Action}
    (possible : world.Possible actor action) :
    (world.after actor action).Sound tunnel where
  senders := sound.senders.after actor action
  receivers := by
    intro side
    by_cases own : side = actor
    · subst own
      have taken := (world side).agent.receives_act action
      have sameSide : (world side).agent.role.side = side :=
        sound.senders.side side
      rw [sameSide] at taken
      rw [after_same]
      have stepped :
          ((world side).act action).agent.receiver.Sound
            (sound.senders.provenance side)
            ((world side).act action).journal :=
        (sound.receivers side).step ⟨rfl, rfl, rfl, rfl⟩
          (fun frame delivers =>
            sound.encoded_of_delivers possible delivers) taken
      apply stepped.mono
      · rfl
      · exact fun key message sent => sent_after action sent
      · exact fun frame encoded => encoded_after action encoded
    · rw [after_other world own]
      apply (sound.receivers side).mono
      · rfl
      · exact fun key message sent => sent_after action sent
      · exact fun frame encoded => encoded_after action encoded

/-- Every reachable state of the two agents is sound. -/
theorem of_reachable
    (reached : (system tunnel).Reachable world) :
    world.Sound tunnel := by
  refine reached.invariant (motive := Sound tunnel)
    (fun _ started => of_started started) ?_
  intro world move later _ sound taken
  rw [taken.2]
  exact sound.after taken.1

end Sound

/-- No message is completed twice. -/
theorem Sound.nodup_completed
    {tunnel : Tunnel}
    {world : World}
    (sound : world.Sound tunnel)
    (side : Side) :
    ((world side).journal.completed.map Prod.fst).Nodup := by
  rw [List.nodup_iff_count_le_one]
  intro key
  have once := (sound.receivers side).completions_le_one key
  simpa [List.count, List.countP_map, Journal.completions,
    Function.comp_def, beq_eq_decide] using once

/-- What is handed over is the payload of a `send_data` call of the peer. -/
theorem Sound.sent_of_handedOver
    {tunnel : Tunnel}
    {world : World}
    (sound : world.Sound tunnel)
    {side : Side}
    {handover : Handover}
    (member : handover ∈ (world side).journal.handedOver) :
    handover.key.1 = (world side.peer).agent.codec.sessionId ∧
      (handover.key.2, handover.payload) ∈
        (world side.peer).journal.begun := by
  have receiver := sound.receivers side
  have completed :
      (handover.key, handover.payload) ∈
        (world side).journal.completed :=
    receiver.handedOver.subset (List.mem_map_of_mem member)
  obtain ⟨message, sent, samePayload⟩ :=
    receiver.completed _ completed
  have samePayload : handover.payload = message.payload := samePayload
  obtain ⟨sameSession, _, begun⟩ := sent
  rw [samePayload]
  exact ⟨sameSession, begun⟩

/--
In every state two agents reach over an adversarial network: what one of them
hands over is the payload of one `send_data` call of the other, found under
its session and message identifier, and no call is handed over twice.
-/
theorem handed_over_intact_at_most_once
    {tunnel : Tunnel}
    {world : World}
    (reached : (system tunnel).Reachable world)
    (side : Side) :
    (∀ handover ∈ (world side).journal.handedOver,
      handover.key.1 = (world side.peer).agent.codec.sessionId ∧
        (handover.key.2, handover.payload) ∈
          (world side.peer).journal.begun) ∧
      ((world side.peer).journal.begun.map Prod.fst).Nodup ∧
      ((world side).journal.handedOver.map Handover.key).Nodup := by
  have sound := Sound.of_reachable reached
  refine ⟨fun handover member => sound.sent_of_handedOver member,
    (sound.senders.sending side.peer).calls, ?_⟩
  have keys := (sound.receivers side).handedOver.map Prod.fst
  rw [List.map_map] at keys
  exact keys.nodup (sound.nodup_completed side)

/-- The foreign agent sends the payload 1, 2, 3 as one packet. -/
def sendOne : List (Side × Action) := [
  (.foreign, .innerDatagram [1, 2, 3]
    { host := "127.0.0.1", port := 51820 }),
  (.foreign, .buildPacket 1 1000)]

/-- The packet of the payload 1, 2, 3. -/
def onePacket : Bytes :=
  ((machine.run plain sendOne) .foreign).journal.sealed.headD []

/-- The Iran agent receives the packet twice, under a known local peer. -/
def deliverTwice : List (Side × Action) := [
  (.iran, .innerDatagram [9] { host := "10.0.0.2", port := 4000 }),
  (.iran, .receive onePacket { host := "192.0.2.1", port := 443 }
    { nowMs := 1200, clockMs := 1200, now := 0 }),
  (.iran, .receive onePacket { host := "192.0.2.1", port := 443 }
    { nowMs := 1300, clockMs := 1300, now := 1 })]

theorem handed_over_intact_at_most_once_duplicated_packet :
    ((machine.run plain (sendOne ++ deliverTwice))
        .iran).journal.handedOver =
      [{ key := (2, 1), payload := [1, 2, 3], delivered := true }] ∧
      (((machine.run plain (sendOne ++ deliverTwice))
        .iran).journal.handedOver.map Handover.key).Nodup := by
  have relays :
      machine.EveryStep Relays plain (sendOne ++ deliverTwice) := by
    decide +kernel
  have reached :=
    TransitionSystem.Reachable.run
      (fun _ _ => step_of_relays .plain) (.start plain_started) relays
  exact ⟨by decide +kernel,
    (handed_over_intact_at_most_once reached .iran).2.2⟩

end World

end H3ntun

import H3ntun.Delivery

namespace H3ntun

/-!
# Frames reflected to their sender

Both directions use one key and one tunnel identifier, and a receive loop
looks at the kind of a frame only after the replay window has recorded it.
A reflected frame is therefore inert exactly when it is stale or when the
window refuses it.
-/

/-- A step changes nothing by which later frames of the peer are judged. -/
structure Agent.Inert (agent : Agent) (action : Action) : Prop where
  replay :
    (agent.act action).agent.replay = agent.replay
  reassembler :
    (agent.act action).agent.reassembler = agent.reassembler
  sender :
    (agent.act action).agent.sender = agent.sender
  decisions :
    ∀ calls,
      ReplayWindow.machine.answers (agent.act action).agent.replay
          calls =
        ReplayWindow.machine.answers agent.replay calls

namespace Agent

variable {agent : Agent} {frame : Frame} {surroundings : Surroundings}

theorem Inert.of_agent
    {action : Action}
    (same : (agent.act action).agent = agent) :
    agent.Inert action := by
  refine ⟨?_, ?_, ?_, ?_⟩ <;> rw [same]
  exact fun _ => rfl

/-- A packet that does not decode changes nothing. -/
theorem receive_of_undecoded
    {packet : Bytes}
    (refused :
      ∀ frame, agent.codec.decode packet surroundings.nowMs ≠ .ok frame) :
    (agent.receive packet surroundings).agent = agent := by
  unfold receive
  split
  · exact (catching_fields _ _).1
  · exact absurd ‹_› (refused _)

/-- Reflected frames the window refuses change nothing. -/
theorem receive_of_covered
    {packet : Bytes}
    (decoded :
      agent.codec.decode packet surroundings.nowMs = .ok frame)
    (sends : agent.role.side.Sends frame.kind)
    (unchanged :
      agent.replay.accept frame.sequence frame.sessionId =
        (agent.replay, false)) :
    (agent.receive packet surroundings).agent = agent := by
  have notData : frame.kind ≠ agent.role.side.kinds.data := by
    revert sends
    cases agent.role.side <;> cases frame.kind <;> decide
  simp [receive, decoded, unchanged, receiveReplayed, notData]

/-- A frame the window accepts leaves its mark there. -/
theorem replay_receive_of_accepted
    {packet : Bytes}
    (decoded :
      agent.codec.decode packet surroundings.nowMs = .ok frame)
    (accepts :
      (agent.replay.accept frame.sequence frame.sessionId).2 = true)
    (sends : agent.role.side.Sends frame.kind) :
    (agent.receive packet surroundings).agent.replay =
      (agent.replay.accept frame.sequence frame.sessionId).1 := by
  have notData : frame.kind ≠ agent.role.side.kinds.data := by
    revert sends
    cases agent.role.side <;> cases frame.kind <;> decide
  have sameReceiver :=
    (dispatch_of_not_data { agent with
      replay :=
        (agent.replay.accept frame.sequence frame.sessionId).1 }
      frame surroundings notData).1
  simp only [receive, decoded, accepts, ↓reduceIte,
    (catching_fields _ _).1]
  exact congrArg Receiver.replay sameReceiver

end Agent

namespace World

/--
For every reachable state and every packet an agent has encoded: delivered
back to the agent, the packet is inert if and only if its timestamp is
outside the clock skew or the window refuses its sequence number.
-/
theorem reflected_packet_inert_iff
    {tunnel : Tunnel}
    {world : World}
    (reached : (system tunnel).Reachable world)
    {side : Side}
    {packet : Bytes}
    (emitted : packet ∈ (world side).journal.sealed) :
    ∃ frame : Frame,
      frame.Valid ∧
        packet = tunnel.wire frame ∧
        ∀ source surroundings,
          (world side).agent.role.listens source = true →
          ((world side).agent.Inert
              (.receive packet source surroundings) ↔
            (world side).agent.codec.maxClockSkewMs <
                |surroundings.nowMs - frame.timestampMs| ∨
              (world side).agent.replay.Covers frame.sequence
                frame.sessionId) := by
  have sound := Sound.of_reachable reached
  have sender := sound.senders.sending side
  obtain ⟨frame, valid, packetShape⟩ := sender.origin packet emitted
  have isSealed :
      tunnel.Sealed (world side).journal.sealed frame :=
    ⟨valid, packetShape ▸ emitted⟩
  have sends : (world side).agent.role.side.Sends frame.kind :=
    sender.kinds frame isSealed
  refine ⟨frame, valid, packetShape, ?_⟩
  intro source surroundings listens
  have decodedIff :=
    sound.decode_wire_iff side ⟨side, isSealed⟩ surroundings.nowMs
  rw [← packetShape] at decodedIff
  have received :=
    Agent.act_receive listens packet surroundings
  by_cases inTime :
      |surroundings.nowMs - frame.timestampMs| ≤
        (world side).agent.codec.maxClockSkewMs
  · have decoded := (decodedIff frame).mpr ⟨rfl, inTime⟩
    obtain ⟨reference, refines, _⟩ := (sound.receivers side).replay
    have refines :
        (world side).agent.replay.Refines ReplayWindow.defaultSize
          reference := refines
    have refusedIff :
        ((world side).agent.replay.accept frame.sequence
            frame.sessionId).2 = false ↔
          (world side).agent.replay.Covers frame.sequence
            frame.sessionId :=
      refines.accept_eq_false_iff (by decide) (Int.natCast_nonneg _)
    constructor
    · intro inert
      right
      rw [← refusedIff, ← Bool.not_eq_true]
      intro accepts
      have marked :=
        Agent.replay_receive_of_accepted decoded accepts sends
      have unchanged := inert.replay
      rw [received, marked] at unchanged
      exact refines.accept_ne (by decide) accepts unchanged
    · rintro (stale | covered)
      · exact absurd inTime (not_le.mpr stale)
      · have refuses := refusedIff.mpr covered
        apply Agent.Inert.of_agent
        rw [received]
        exact Agent.receive_of_covered decoded sends
          (Prod.ext ((sound.receivers side).replay_refuse refuses)
            refuses)
  · refine iff_of_true ?_ (.inl (not_le.mp inTime))
    apply Agent.Inert.of_agent
    rw [received]
    apply Agent.receive_of_undecoded
    intro other decoded
    exact inTime ((decodedIff other).mp decoded).2

/-- The Iran agent sends a keepalive and receives a frame of its peer. -/
def pingAndReceive : List (Side × Action) :=
  sendOne ++ [
    (.iran, .keepalive { nowMs := 1000, clockMs := 1000, now := 0 }),
    (.iran, .receive onePacket { host := "192.0.2.1", port := 443 }
      { nowMs := 1200, clockMs := 1200, now := 0 })]

/-- The keepalive, reflected to the Iran agent half a second later. -/
def reflectPing : Action :=
  .receive ((machine.run plain pingAndReceive) .iran).journal.sealed.headI
    { host := "192.0.2.1", port := 443 }
    { nowMs := 1500, clockMs := 1500, now := 1 }

/--
The reflected keepalive makes the Iran agent retire the session of its peer:
the next frame of the peer is refused, where it would have been accepted.
-/
theorem reflected_keepalive_locks_peer_out :
    (system .plain).Reachable (machine.run plain pingAndReceive) ∧
      ((machine.run plain pingAndReceive) .iran).journal.sealed ≠ [] ∧
      ReplayWindow.machine.answers
          ((machine.run plain pingAndReceive) .iran).agent.replay
          [(2, 2)] = [true] ∧
      ReplayWindow.machine.answers
          (((machine.run plain pingAndReceive) .iran).agent.act
            reflectPing).agent.replay
          [(2, 2)] = [false] := by
  have relays : machine.EveryStep Relays plain pingAndReceive := by
    decide +kernel
  exact ⟨TransitionSystem.Reachable.run
      (fun _ _ => step_of_relays .plain) (.start plain_started) relays,
    by decide +kernel, by decide +kernel, by decide +kernel⟩

theorem reflected_packet_inert_iff_keepalive :
    ∃ frame : Frame,
      ((machine.run plain pingAndReceive) .iran).journal.sealed.headI =
          Tunnel.plain.wire frame ∧
        |1500 - (frame.timestampMs : Int)| ≤ 600000 ∧
        ¬ ((machine.run plain pingAndReceive) .iran).agent.replay.Covers
          frame.sequence frame.sessionId := by
  have relays : machine.EveryStep Relays plain pingAndReceive := by
    decide +kernel
  have reached :=
    TransitionSystem.Reachable.run
      (fun _ _ => step_of_relays .plain) (.start plain_started) relays
  have emitted :
      ((machine.run plain pingAndReceive) .iran).journal.sealed.headI ∈
        ((machine.run plain pingAndReceive) .iran).journal.sealed := by
    decide +kernel
  have changed :
      (((machine.run plain pingAndReceive) .iran).agent.act
          reflectPing).agent.replay ≠
        ((machine.run plain pingAndReceive) .iran).agent.replay := by
    decide +kernel
  have listens :
      ((machine.run plain pingAndReceive) .iran).agent.role.listens
        { host := "192.0.2.1", port := 443 } = true := by
    decide +kernel
  have skew :
      ((machine.run plain pingAndReceive)
        .iran).agent.codec.maxClockSkewMs = 600000 := by
    decide +kernel
  obtain ⟨frame, _, packetShape, inertIff⟩ :=
    reflected_packet_inert_iff reached emitted
  have notInert :=
    mt (inertIff _ { nowMs := 1500, clockMs := 1500, now := 1 }
      listens).mpr fun inert => changed inert.replay
  rw [not_or, not_lt, skew] at notInert
  exact ⟨frame, packetShape, notInert.1, notInert.2⟩

end World

end H3ntun

import H3ntun.Health
import H3ntun.TunnelTotals

namespace H3ntun

/-!
# Keepalives and their echoes

The Iran agent sends a `PING` now and then, and the foreign agent answers each
one it accepts with a `PONG` that carries the same time stamp.  Whatever the
network does, no `PING` is taken for answered twice, and the round trip time
shown is the age of a `PING` of the Iran agent.
-/

/-- A packet is no `PONG`, or it echoes the `PING` just accepted. -/
def FrameCodec.Echoes
    (codec : FrameCodec)
    (accepted : Option Frame)
    (packet : Bytes) : Prop :=
  ∃ clockMs request, ∃ kind : FrameKind,
    codec.encode clockMs request = .ok packet ∧
      request.kind = kind.code ∧
      (kind = .pong →
        ∃ frame ∈ accepted,
          frame.kind = .ping ∧
            request.timestampMs = some (frame.timestampMs : Int))

/-- A `PONG` sealed in a step echoes the `PING` accepted in it. -/
def Effect.Echoes (effect : Effect) (codec : FrameCodec) : Prop :=
  ∀ packet ∈ effect.sealed, codec.Echoes effect.accepted packet

namespace Effect

variable {effect : Effect} {codec : FrameCodec}

theorem echoes_nothing
    (notSealed : effect.sealed = none) :
    effect.Echoes codec := by
  intro packet member
  rw [notSealed] at member
  cases member

theorem Echoes.catching
    (echoes : effect.Echoes codec)
    (caught : Failure → Bool) :
    (effect.catching caught).Echoes codec := by
  obtain ⟨_, _, sameSealed, _, sameAccepted, _⟩ :=
    Agent.catching_fields effect caught
  rw [Echoes, sameSealed, sameAccepted]
  exact echoes

end Effect

namespace Side

theorem sentAck_ne_pong
    (side : Side) :
    side.kinds.sentAck ≠ .pong := by
  cases side <;> decide

theorem sentData_ne_pong
    (side : Side) :
    side.sentData ≠ .pong := by
  cases side <;> decide

end Side

namespace Agent

variable (agent : Agent) (surroundings : Surroundings)

theorem echoes_sendAck
    (frame : Frame)
    (accepted : Option Frame) :
    ∀ packet ∈ (agent.sendAck frame surroundings).sealed,
      agent.codec.Echoes accepted packet := by
  intro packet member
  have sealed := sealed_transmit member
  obtain ⟨payload, _, encoded⟩ := FrameCodec.encodeAck_eq_ok sealed
  exact ⟨_, _, agent.role.side.kinds.sentAck, encoded, rfl,
    fun isPong => absurd isPong agent.role.side.sentAck_ne_pong⟩

/-- The echo of a `PING` carries its time stamp. -/
theorem echoes_sendControl
    {frame : Frame}
    (isPing : frame.kind = .ping) :
    ∀ packet ∈
        (agent.sendControl (some frame.timestampMs) surroundings).sealed,
      agent.codec.Echoes (some frame) packet := by
  intro packet member
  have encoded := sealed_transmit member
  exact ⟨_, _, agent.role.side.sentControl, encoded, rfl,
    fun _ => ⟨frame, rfl, isPing, rfl⟩⟩

theorem Dispatches.echoes
    {agent : Agent}
    {frame : Frame}
    {surroundings : Surroundings}
    {readings : Readings}
    {counted : Counted}
    (dispatched :
      agent.Dispatches frame surroundings readings counted) :
    ∀ packet ∈ counted.effect.sealed,
      agent.codec.Echoes (some frame) packet := by
  cases dispatched with
  | ignored | staleAck | unknownAck | acknowledged | pong | rejected
    | stored | kept =>
      intro packet member
      cases member
  | answered isForeign isPing calls transmits =>
      exact agent.echoes_sendControl surroundings isPing
  | delivered isData result answer payload hasPayload acked isAck =>
      rcases isAck with rfl | rfl
      · intro packet member
        cases member
      · exact echoes_sendAck { agent with
          reassembler := (agent.reassembler.add frame surroundings.now).1 }
          surroundings frame (some frame)

theorem Arrives.echoes
    {agent : Agent}
    {packet : Bytes}
    {source : Address}
    {surroundings : Surroundings}
    {readings : Readings}
    {counted : Counted}
    (arrives :
      agent.Arrives packet source surroundings readings counted) :
    counted.effect.Echoes agent.codec := by
  cases arrives with
  | mismatched | undecoded | replayed =>
      exact Effect.echoes_nothing rfl
  | repeated listens frame decoded refuses calls transmits =>
      refine Effect.Echoes.catching ?_ _
      exact echoes_sendAck { agent with
        replay := (agent.replay.accept frame.sequence frame.sessionId).1
        reassembler :=
          (agent.reassembler.isCompleted frame.sessionId frame.messageId
            surroundings.now).1 } surroundings frame _
  | accepted listens frame decoded accepts inner dispatched =>
      intro sealed member
      dsimp only at member
      rw [(catching_fields inner.effect _).2.2.1] at member
      exact dispatched.echoes sealed member

/-- A `PONG` is sealed on one path only. -/
theorem echoes_act
    (action : Action) :
    (agent.act action).Echoes agent.codec := by
  cases action with
  | innerDatagram payload source =>
      rw [act]
      obtain ignored | ⟨role, _, begun⟩ :=
        agent.innerLoop_cases payload source
      · rw [ignored]
        exact Effect.echoes_nothing rfl
      · rw [begun]
        exact (Effect.echoes_nothing (beginSend_fields _ payload).1).catching
          _
  | buildPacket messageId clockMs =>
      simp only [act, buildPacket]
      split
      · split
        · exact Effect.echoes_nothing rfl
        · rename_i packet encoded
          intro other member
          obtain rfl := Option.some.inj member
          exact ⟨_, _, agent.role.side.sentData, encoded, rfl,
            fun isPong => absurd isPong agent.role.side.sentData_ne_pong⟩
      · exact Effect.echoes_nothing rfl
  | finishSend messageId now failing =>
      apply Effect.echoes_nothing
      simp only [act, finishSend]
      split
      · split
        · rfl
        · split
          · rfl
          · split <;> rfl
      · rfl
  | keepalive surroundings =>
      simp only [act, keepalive]
      split
      · rename_i roleShape
        apply Effect.Echoes.catching
        intro packet member
        have encoded := sealed_transmit member
        refine ⟨_, _, agent.role.side.sentControl, encoded, rfl, ?_⟩
        rw [roleShape]
        intro isPong
        cases isPong
      · exact Effect.echoes_nothing rfl
  | pump now =>
      apply Effect.echoes_nothing
      simp only [act, pump]
      split <;> rfl
  | cleanup now =>
      apply Effect.echoes_nothing
      simp only [act, cleanup]
      split <;> rfl
  | receive packet source surroundings =>
      have arrives :=
        agent.countedReceiveLoop_cases surroundings
          { wall := 0, sentAt := 0 } packet source
      have effect :=
        agent.effect_countedAct { wall := 0, sentAt := 0 }
          (.receive packet source surroundings)
      rw [← effect]
      exact arrives.echoes

end Agent

/-- A frame the window accepts was not accepted before. -/
theorem Receiver.Sound.not_accepted
    {provenance : Provenance}
    {receiver later : Receiver}
    {journal : Journal}
    (sound : receiver.Sound provenance journal)
    {delivers : Frame → Prop}
    {data : FrameKind}
    {accepted : Option Frame}
    {completed : Option ((Nat × Nat) × Bytes)}
    {handedOver : Option Handover}
    (taken :
      receiver.Step delivers data later accepted completed handedOver) :
    ∀ frame ∈ accepted, frame ∉ journal.accepted := by
  intro frame isAccepted earlier
  have admitted := sound.admitted frame earlier
  cases taken with
  | nothing | purge | refused =>
      cases isAccepted
  | other added delivered accepts | data added now delivered accepts =>
      obtain rfl := Option.some.inj isAccepted
      exact sound.not_admitted accepts admitted

/-- Each `PONG` sealed echoes a `PING` accepted, and each another one. -/
structure Party.Echoing
    (tunnel : Tunnel)
    (party : Party)
    (ping : Frame → Frame) : Prop where
  echo :
    ∀ pong,
      tunnel.Sealed party.journal.sealed pong →
      pong.kind = .pong →
      ping pong ∈ party.journal.accepted ∧
        (ping pong).kind = .ping ∧
        (ping pong).timestampMs = pong.timestampMs
  once :
    ∀ first second,
      tunnel.Sealed party.journal.sealed first →
      tunnel.Sealed party.journal.sealed second →
      first.kind = .pong →
      second.kind = .pong →
      ping first = ping second →
      first = second

namespace Party.Echoing

variable {tunnel : Tunnel} {party : Party} {ping : Frame → Frame}

/-- A step that seals no `PONG`. -/
theorem keep
    (echoing : party.Echoing tunnel ping)
    {later : Party}
    (sealed :
      ∀ pong, tunnel.Sealed later.journal.sealed pong →
        pong.kind = .pong → tunnel.Sealed party.journal.sealed pong)
    (accepted : party.journal.accepted ⊆ later.journal.accepted) :
    later.Echoing tunnel ping where
  echo pong isSealed isPong := by
    obtain ⟨member, isPing, sameTime⟩ :=
      echoing.echo pong (sealed pong isSealed isPong) isPong
    exact ⟨accepted member, isPing, sameTime⟩
  once first second firstSealed secondSealed firstPong secondPong same :=
    echoing.once first second (sealed first firstSealed firstPong)
      (sealed second secondSealed secondPong) firstPong secondPong same

/-- A step that accepts a `PING` and seals its echo. -/
theorem answer
    (echoing : party.Echoing tunnel ping)
    {later : Party}
    {added frame : Frame}
    (sealed :
      ∀ pong, tunnel.Sealed later.journal.sealed pong →
        pong = added ∨ tunnel.Sealed party.journal.sealed pong)
    (accepted :
      later.journal.accepted = frame :: party.journal.accepted)
    (isNew : frame ∉ party.journal.accepted)
    (isPing : frame.kind = .ping)
    (sameTime : frame.timestampMs = added.timestampMs) :
    later.Echoing tunnel (Function.update ping added frame) := by
  have earlier
      (pong : Frame)
      (other : pong ≠ added)
      (isSealed : tunnel.Sealed later.journal.sealed pong) :
      tunnel.Sealed party.journal.sealed pong :=
    (sealed pong isSealed).resolve_left other
  constructor
  · intro pong isSealed isPong
    rw [accepted]
    by_cases isAdded : pong = added
    · rw [isAdded, Function.update_self]
      exact ⟨List.mem_cons_self, isPing, sameTime⟩
    · rw [Function.update_of_ne isAdded]
      obtain ⟨member, echoes⟩ :=
        echoing.echo pong (earlier pong isAdded isSealed) isPong
      exact ⟨List.mem_cons_of_mem _ member, echoes⟩
  · intro first second firstSealed secondSealed firstPong secondPong same
    by_cases firstAdded : first = added <;>
      by_cases secondAdded : second = added
    · rw [firstAdded, secondAdded]
    · rw [firstAdded, Function.update_self,
        Function.update_of_ne secondAdded] at same
      have old :=
        echoing.echo second (earlier second secondAdded secondSealed)
          secondPong
      exact absurd (same ▸ old.1) isNew
    · rw [secondAdded, Function.update_self,
        Function.update_of_ne firstAdded] at same
      have old :=
        echoing.echo first (earlier first firstAdded firstSealed) firstPong
      exact absurd (same ▸ old.1) isNew
    · rw [Function.update_of_ne firstAdded,
        Function.update_of_ne secondAdded] at same
      exact echoing.once first second
        (earlier first firstAdded firstSealed)
        (earlier second secondAdded secondSealed) firstPong secondPong same

/-- Every step of an agent keeps its echoes apart. -/
theorem act
    (echoing : party.Echoing tunnel ping)
    (sound :
      party.agent.sendState.Sound tunnel party.journal.sealed
        party.journal.begun)
    {action : Action}
    (isNew :
      ∀ frame ∈ (party.agent.act action).accepted,
        frame ∉ party.journal.accepted) :
    ∃ ping, (party.act action).Echoing tunnel ping := by
  have echoes := party.agent.echoes_act action
  have grows :
      party.journal.accepted ⊆ (party.act action).journal.accepted :=
    fun _ member => List.mem_append_right _ member
  cases sealedShape : (party.agent.act action).sealed with
  | none =>
      refine ⟨ping, echoing.keep (fun pong isSealed _ => ?_) grows⟩
      rwa [Party.act, Journal.record, sealedShape] at isSealed
  | some packet =>
      obtain ⟨clockMs, request, kind, encoded, kindCode, pongs⟩ :=
        echoes packet sealedShape
      obtain ⟨added, valid, packetShape, _, _, sameHeader, _⟩ :=
        sound.frame_of_encode encoded
      have sameKind : added.kind = kind := by
        have known := valid.rules.known
        rw [sameHeader] at known
        have ofRequest : FrameKind.ofCode? request.kind = some added.kind :=
          known
        rw [kindCode, FrameKind.ofCode?_code] at ofRequest
        exact (Option.some.inj ofRequest).symm
      have sealed
          (pong : Frame)
          (isSealed :
            tunnel.Sealed (party.act action).journal.sealed pong) :
          pong = added ∨ tunnel.Sealed party.journal.sealed pong := by
        rw [Party.act, Journal.record, sealedShape, packetShape]
          at isSealed
        exact (SendState.Sound.sealed_cons_iff valid).mp isSealed
      by_cases isPong : kind = .pong
      · obtain ⟨frame, accepted, isPing, sameTime⟩ := pongs isPong
        have addedTime : (added.timestampMs : Int) = frame.timestampMs := by
          have header := congrArg Header.timestampMs sameHeader
          rw [FrameCodec.requestHeader, sameTime] at header
          exact header
        refine ⟨_, echoing.answer sealed ?_ (isNew frame accepted) isPing
          (Int.ofNat_inj.mp addedTime).symm⟩
        rw [Party.act, Journal.record, Option.mem_def.mp accepted]
        rfl
      · refine ⟨ping, echoing.keep (fun pong isSealed pongKind => ?_) grows⟩
        rcases sealed pong isSealed with rfl | earlier
        · exact absurd (sameKind.symm.trans pongKind) isPong
        · exact earlier

end Party.Echoing

namespace World

variable {tunnel : Tunnel} {world : World}

/-- Echoes are kept apart, and no frame is accepted twice. -/
structure Echoing (tunnel : Tunnel) (world : World) : Prop where
  echoing :
    ∀ side, ∃ ping, (world side).Echoing tunnel ping
  distinct :
    ∀ side, (world side).journal.accepted.Nodup

namespace Echoing

theorem of_started
    (started : world.Started tunnel) :
    world.Echoing tunnel where
  echoing side := by
    have sealed : (world side).journal.sealed = [] := by
      rw [(started.party side).journal]
    refine ⟨id, fun pong isSealed => ?_, fun first _ isSealed => ?_⟩ <;>
      rw [sealed] at isSealed <;>
      cases isSealed.2
  distinct side := by
    rw [(started.party side).journal]
    exact List.nodup_nil

/-- One step of one agent keeps the echoes of both apart. -/
theorem after
    (keeps : world.Echoing tunnel)
    (sound : world.Sound tunnel)
    (actor : Side)
    (action : Action) :
    (world.after actor action).Echoing tunnel := by
  have isNew :=
    (sound.receivers actor).not_accepted
      ((world actor).agent.receives_act action)
  constructor
  · intro side
    by_cases own : side = actor
    · subst own
      rw [after_same]
      obtain ⟨ping, echoing⟩ := keeps.echoing side
      exact echoing.act (sound.senders.sending side) isNew
    · rw [after_other world own]
      exact keeps.echoing side
  · intro side
    by_cases own : side = actor
    · subst own
      rw [after_same, Party.act, Journal.record]
      refine List.nodup_append'.mpr ⟨?_, keeps.distinct side, ?_⟩
      · cases ((world side).agent.act action).accepted <;> simp
      · intro frame accepted
        exact isNew frame (Option.mem_toList.mp accepted)
    · rw [after_other world own]
      exact keeps.distinct side

theorem of_reachable
    (reached : (system tunnel).Reachable world) :
    world.Echoing tunnel := by
  refine reached.invariant (motive := Echoing tunnel)
    (fun _ started => of_started started) ?_
  intro before move later reachedBefore keeps taken
  rw [taken.2]
  exact keeps.after (Sound.of_reachable reachedBefore) move.1 move.2

end Echoing

/-- A frame accepted was sealed by the side that sends its kind. -/
theorem Sound.sealed_of_accepted
    (sound : world.Sound tunnel)
    {side origin : Side}
    {frame : Frame}
    (accepted : frame ∈ (world side).journal.accepted)
    (onlyFrom : ∀ other : Side, other.Sends frame.kind → other = origin) :
    tunnel.Sealed (world origin).journal.sealed frame := by
  obtain ⟨other, isSealed⟩ := (sound.receivers side).authentic frame accepted
  have sends := (sound.senders.sending other).kinds frame isSealed
  have sameSide : (world other).agent.sendState.side = other :=
    sound.senders.side other
  rw [sameSide] at sends
  rwa [onlyFrom other sends] at isSealed

/-- `PONG`s a party accepted. -/
def pongs (party : Party) : List Frame :=
  party.journal.accepted.filter fun frame => frame.kind = .pong

/-- The `PING` that a `PONG` the Iran agent accepted is an echo of. -/
theorem Echoing.exists_ping
    (keeps : world.Echoing tunnel)
    (sound : world.Sound tunnel) :
    ∃ ping : Frame → Frame,
      (∀ pong ∈ pongs (world .iran),
        (ping pong).kind = .ping ∧
          tunnel.Sealed (world .iran).journal.sealed (ping pong) ∧
          ping pong ∈ (world .foreign).journal.accepted ∧
          (ping pong).timestampMs = pong.timestampMs) ∧
        ∀ first ∈ pongs (world .iran), ∀ second ∈ pongs (world .iran),
          ping first = ping second → first = second := by
  obtain ⟨ping, echoing⟩ := keeps.echoing .foreign
  have sealed
      (pong : Frame)
      (member : pong ∈ pongs (world .iran)) :
      tunnel.Sealed (world .foreign).journal.sealed pong ∧
        pong.kind = .pong := by
    obtain ⟨accepted, isPong⟩ := List.mem_filter.mp member
    have isPong : pong.kind = .pong := of_decide_eq_true isPong
    refine ⟨sound.sealed_of_accepted accepted ?_, isPong⟩
    rw [isPong]
    intro other
    cases other <;> decide
  refine ⟨ping, fun pong member => ?_, fun first inFirst second inSecond =>
    echoing.once first second (sealed first inFirst).1
      (sealed second inSecond).1 (sealed first inFirst).2
      (sealed second inSecond).2⟩
  obtain ⟨isSealed, isPong⟩ := sealed pong member
  obtain ⟨accepted, isPing, sameTime⟩ := echoing.echo pong isSealed isPong
  refine ⟨isPing, sound.sealed_of_accepted accepted ?_, accepted, sameTime⟩
  rw [isPing]
  intro other
  cases other <;> decide

/--
In every state two agents reach over an adversarial network, the `PONG`s the
Iran agent has accepted answer as many different `PING`s of its own, each of
which the foreign agent has accepted, and carry the time stamps of these.
-/
theorem pongs_answer_distinct_pings
    (reached : (system tunnel).Reachable world) :
    ∃ pings : List Frame,
      pings.Nodup ∧
        (∀ ping ∈ pings,
          ping.kind = .ping ∧
            tunnel.Sealed (world .iran).journal.sealed ping ∧
            ping ∈ (world .foreign).journal.accepted) ∧
        pings.map Frame.timestampMs =
          (pongs (world .iran)).map Frame.timestampMs := by
  have keeps := Echoing.of_reachable reached
  obtain ⟨ping, answers, apart⟩ :=
    keeps.exists_ping (Sound.of_reachable reached)
  refine ⟨(pongs (world .iran)).map ping, ?_, ?_, ?_⟩
  · exact List.Nodup.map_on
      (fun first inFirst second inSecond =>
        apart first inFirst second inSecond)
      ((keeps.distinct .iran).filter _)
  · intro answered member
    obtain ⟨pong, inPongs, rfl⟩ := List.mem_map.mp member
    obtain ⟨isPing, isSealed, accepted, _⟩ := answers pong inPongs
    exact ⟨isPing, isSealed, accepted⟩
  · rw [List.map_map]
    exact List.map_congr_left fun pong inPongs =>
      (answers pong inPongs).2.2.2

/-- A side receives the newest packet of its peer. -/
def relayNewest
    (receiver : Side)
    (nowMs : Int)
    (moves : List (Side × Action)) : List (Side × Action) :=
  moves ++ [
    (receiver, .receive
      ((machine.run plain moves) receiver.peer).journal.sealed.headI
      { host := "192.0.2.3", port := 443 }
      { nowMs := nowMs, clockMs := nowMs, now := 1 })]

/-- A `PING` of the Iran agent and its echo, both delivered. -/
def pingPong : List (Side × Action) :=
  relayNewest .iran 1080 (relayNewest .foreign 1040 [
    (.iran, .keepalive { nowMs := 1000, clockMs := 1000, now := 0 })])

/-- A second `PING` is sent and echoed after the first one. -/
def pingPongTwice : List (Side × Action) :=
  relayNewest .iran 1280 (relayNewest .foreign 1240 (pingPong ++ [
    (.iran, .keepalive { nowMs := 1200, clockMs := 1200, now := 2 })]))

theorem pongs_answer_distinct_pings_two :
    (pongs (machine.run plain pingPongTwice .iran)).length = 2 ∧
      ∃ pings : List Frame,
        pings.Nodup ∧
          (∀ ping ∈ pings,
            ping.kind = .ping ∧
              Tunnel.plain.Sealed
                (machine.run plain pingPongTwice .iran).journal.sealed ping ∧
              ping ∈
                (machine.run plain pingPongTwice .foreign).journal.accepted) ∧
          pings.map Frame.timestampMs =
            (pongs (machine.run plain pingPongTwice .iran)).map
              Frame.timestampMs := by
  have relays : machine.EveryStep Relays plain pingPongTwice := by
    decide +kernel
  have reached :=
    TransitionSystem.Reachable.run
      (fun _ _ => step_of_relays .plain) (.start plain_started) relays
  exact ⟨by decide +kernel, pongs_answer_distinct_pings reached⟩

end World

/-- What an Iran agent shows of the latest `PONG` is of one it accepted. -/
structure Station.ShowsPong (station : Station) : Prop where
  isIran :
    station.party.agent.role.side = .iran
  latest :
    ∀ wall,
      station.metrics.gauges.lastPongAt = some wall →
      ∃ pong ∈ World.pongs station.party,
        station.metrics.gauges.lastRttMs = some (pong.roundTrip wall)

namespace Station

/-- A `PONG` accepted stays accepted. -/
theorem pongs_act
    (station : Station)
    (action : Action)
    (readings : Readings) :
    World.pongs (station.act action readings).party =
      ((station.party.agent.act action).accepted.filter fun frame =>
          frame.kind = .pong).toList ++ World.pongs station.party := by
  rw [party_act, World.pongs, Party.act, Journal.record,
    List.filter_append]
  congr 1
  cases (station.party.agent.act action).accepted with
  | none =>
      rfl
  | some frame =>
      by_cases isPong : frame.kind = .pong <;> simp [Option.filter, isPong]

/-- Only an accepted `PONG` changes what is shown. -/
theorem showsPong_act
    {station : Station}
    (shows : station.ShowsPong)
    (action : Action)
    (readings : Readings) :
    (station.act action readings).ShowsPong := by
  have hearing := station.hearing_act action readings
  rw [shows.isIran] at hearing
  have grown := station.pongs_act action readings
  refine ⟨(station.side_act action readings).trans shows.isIran, ?_⟩
  intro wall shown
  rw [grown]
  cases accepted : (station.party.agent.act action).accepted with
  | none =>
      rw [accepted] at hearing
      obtain ⟨_, samePong, sameRtt, _⟩ := Hearing.mk.inj hearing
      obtain ⟨pong, member, rtt⟩ :=
        shows.latest wall (samePong.symm.trans shown)
      exact ⟨pong, List.mem_append_right _ member, sameRtt.trans rtt⟩
  | some frame =>
      rw [accepted] at hearing
      obtain ⟨_, pongShape, rttShape, _⟩ := Hearing.mk.inj hearing
      by_cases isPong : frame.kind = .pong
      · rw [if_pos ⟨rfl, isPong⟩] at pongShape rttShape
        obtain rfl := Option.some.inj (pongShape.symm.trans shown)
        refine ⟨frame, ?_, rttShape⟩
        simp [Option.filter, isPong]
      · have notPong : ¬ (Side.iran = .iran ∧ frame.kind = .pong) :=
          fun both => isPong both.2
        rw [if_neg notPong] at pongShape rttShape
        obtain ⟨pong, member, rtt⟩ :=
          shows.latest wall (pongShape.symm.trans shown)
        exact ⟨pong, List.mem_append_right _ member, rttShape.trans rtt⟩

end Station

namespace MeteredWorld

variable {tunnel : Tunnel} {world : MeteredWorld}

/--
The round trip time the Iran agent shows is the age of a `PING` of its own
when the latest `PONG` was accepted, whatever the network does: that `PING`
reached the foreign agent.
-/
theorem round_trip_is_age_of_ping
    (reached : (system tunnel).Reachable world)
    {wall : Time}
    (shown : (world .iran).metrics.gauges.lastPongAt = some wall) :
    ∃ ping : Frame,
      ping.kind = .ping ∧
        tunnel.Sealed (world .iran).party.journal.sealed ping ∧
        ping ∈ (world .foreign).party.journal.accepted ∧
        (world .iran).metrics.gauges.lastRttMs =
          some (ping.roundTrip wall) := by
  have shows : (world .iran).ShowsPong :=
    station_of_reachable .iran
      (fun _ started => by
        refine ⟨(started.parties.party .iran).role, fun wall shown => ?_⟩
        rw [started.metrics .iran] at shown
        cases shown)
      (fun _ action readings shows =>
        Station.showsPong_act shows action readings)
      reached
  obtain ⟨pong, member, rtt⟩ := shows.latest wall shown
  have reachedParties := reachable_parties reached
  obtain ⟨ping, answers, _⟩ :=
    (World.Echoing.of_reachable reachedParties).exists_ping
      (World.Sound.of_reachable reachedParties)
  obtain ⟨isPing, isSealed, accepted, sameTime⟩ := answers pong member
  refine ⟨ping pong, isPing, isSealed, accepted, ?_⟩
  rw [rtt, Frame.roundTrip, Frame.roundTrip, sameTime]

/-- The same moves with metrics; the echo arrives after a tenth. -/
def meteredPingPong : List (Side × Action × Readings) :=
  World.pingPong.map fun move =>
    (move.1, move.2, { wall := 11 / 10, sentAt := 1 })

theorem round_trip_is_age_of_ping_hundred_ms :
    (machine.run plain meteredPingPong .iran).metrics.gauges.lastRttMs =
        some 100 ∧
      ∃ ping : Frame,
        ping.kind = .ping ∧
          (machine.run plain meteredPingPong
              .iran).metrics.gauges.lastRttMs =
            some (ping.roundTrip (11 / 10)) := by
  have relays :
      machine.EveryStep
        (fun world move => world.parties.Relays (move.1, move.2.1)) plain
        meteredPingPong := by
    decide +kernel
  have reached :=
    TransitionSystem.Reachable.run
      (fun _ _ => step_of_relays) (.start plain_started) relays
  have shown :
      (machine.run plain meteredPingPong
          .iran).metrics.gauges.lastPongAt = some (11 / 10) := by
    decide +kernel
  obtain ⟨ping, isPing, _, _, rtt⟩ :=
    round_trip_is_age_of_ping reached shown
  exact ⟨by decide +kernel, ping, isPing, rtt⟩

end MeteredWorld

end H3ntun

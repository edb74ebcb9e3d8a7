import H3ntun.AgentSteps
import H3ntun.GenuineAssembly

namespace H3ntun

/-!
# What a process has encoded

Every packet a process has encoded is the packet of one valid frame.  Its
frames have distinct sequence numbers, and each fragment of each message is
encoded at most once.
-/

/-- A frame whose packet is among those encoded so far. -/
def Tunnel.Sealed
    (tunnel : Tunnel)
    (sealed : List Bytes)
    (frame : Frame) : Prop :=
  frame.Valid ∧ tunnel.wire frame ∈ sealed

/-- A codec of the tunnel. -/
structure FrameCodec.Under (codec : FrameCodec) (tunnel : Tunnel) :
    Prop where
  primitives :
    codec.primitives = tunnel.primitives
  tunnelId :
    codec.tunnelId = tunnel.tunnelId
  aead :
    codec.aead = tunnel.aead

/-- A message cut up under the settings of an agent. -/
structure SendState.Cuts (state : SendState) (message : Message) :
    Prop where
  fragmentPayloadBytes :
    message.fragmentPayloadBytes = state.fragmentPayloadBytes
  fecEnabled :
    message.fecEnabled = state.fecEnabled

/-- The settings and the payload determine the message. -/
theorem SendState.Cuts.unique
    {state : SendState}
    {first second : Message}
    (firstCut : state.Cuts first)
    (secondCut : state.Cuts second)
    (samePayload : first.payload = second.payload) :
    first = second := by
  have sameSize :=
    firstCut.fragmentPayloadBytes.trans
      secondCut.fragmentPayloadBytes.symm
  have sameFec := firstCut.fecEnabled.trans secondCut.fecEnabled.symm
  cases first
  cases second
  simp_all

/-- A frame that carries a fragment of a `send_data` call. -/
structure SendState.Carries
    (state : SendState)
    (begun : List (Nat × Bytes))
    (frame : Frame)
    (message : Message) : Prop where
  cuts :
    state.Cuts message
  begun :
    (frame.messageId, message.payload) ∈ begun
  spec :
    frame.spec ∈ message.fragments

/-- The fragments still to be encoded for a call have not been encoded. -/
def SendState.Pending
    (tunnel : Tunnel)
    (state : SendState)
    (sealed : List Bytes)
    (begun : List (Nat × Bytes))
    (messageId : Nat)
    (job : SendJob) : Prop :=
  ∃ message,
    state.Cuts message ∧
      (messageId, message.payload) ∈ begun ∧
      job.remaining <:+ message.fragments ∧
      ∀ frame, tunnel.Sealed sealed frame →
        frame.kind.isData = true →
        frame.messageId = messageId →
        ∀ spec ∈ job.remaining,
          spec.fragmentIndex ≠ frame.fragmentIndex

/-- What holds of the packets a process has encoded. -/
structure SendState.Sound
    (tunnel : Tunnel)
    (state : SendState)
    (sealed : List Bytes)
    (begun : List (Nat × Bytes)) : Prop where
  codec :
    state.codec.Under tunnel
  origin :
    ∀ packet ∈ sealed, ∃ frame : Frame,
      frame.Valid ∧ packet = tunnel.wire frame
  own :
    ∀ frame, tunnel.Sealed sealed frame →
      frame.tunnelId = tunnel.tunnelId ∧
        frame.sessionId = state.codec.sessionId ∧
        frame.sequence ≤ state.sequence
  sequences :
    ∀ first second,
      tunnel.Sealed sealed first →
      tunnel.Sealed sealed second →
      first.sequence = second.sequence →
      first = second
  kinds :
    ∀ frame, tunnel.Sealed sealed frame → state.side.Sends frame.kind
  data :
    ∀ frame, tunnel.Sealed sealed frame →
      frame.kind.isData = true →
      ∃ message, state.Carries begun frame message
  calls :
    (begun.map Prod.fst).Nodup
  callsBound :
    ∀ call ∈ begun, call.1 ≤ state.messageId
  fragments :
    ∀ first second,
      tunnel.Sealed sealed first →
      tunnel.Sealed sealed second →
      first.kind.isData = true →
      second.kind.isData = true →
      first.messageId = second.messageId →
      first.fragmentIndex = second.fragmentIndex →
      first = second
  unfinished :
    ∀ messageId job,
      state.sending.get? messageId = some job →
      state.Pending tunnel sealed begun messageId job

namespace SendState.Sound

variable
  {tunnel : Tunnel}
  {state : SendState}
  {sealed : List Bytes}
  {begun : List (Nat × Bytes)}

/-- The packet of a valid frame is the packet of no other frame. -/
theorem sealed_cons_iff
    {added frame : Frame}
    (valid : added.Valid) :
    tunnel.Sealed (tunnel.wire added :: sealed) frame ↔
      frame = added ∨ tunnel.Sealed sealed frame := by
  constructor
  · intro isSealed
    obtain ⟨frameValid, member⟩ := isSealed
    rcases List.mem_cons.mp member with same | earlier
    · exact .inl (FrameCodec.wire_injective tunnel.lawful frameValid
        valid same)
    · exact .inr ⟨frameValid, earlier⟩
  · intro either
    rcases either with rfl | earlier
    · exact ⟨valid, List.mem_cons_self⟩
    · exact ⟨earlier.1, List.mem_cons_of_mem _ earlier.2⟩

/-- The frame of a packet that was just encoded. -/
theorem frame_of_encode
    {clockMs : Int}
    {request : EncodeRequest}
    {packet : Bytes}
    (sound : state.Sound tunnel sealed begun)
    (encoded : state.codec.encode clockMs request = .ok packet) :
    ∃ frame : Frame,
      frame.Valid ∧
        packet = tunnel.wire frame ∧
        frame.tunnelId = tunnel.tunnelId ∧
        frame.sessionId = state.codec.sessionId ∧
        frame.header = state.codec.requestHeader clockMs request ∧
        frame.payload = request.payload := by
  obtain ⟨frame, valid, sameHeader, samePayload, packetShape⟩ :=
    FrameCodec.encode_eq_ok_iff.mp encoded
  have sameTunnel : frame.tunnelId = state.codec.tunnelId :=
    congrArg Header.tunnelId sameHeader
  have sameSession :
      (frame.sessionId : Int) = state.codec.sessionId :=
    congrArg Header.sessionId sameHeader
  refine ⟨frame, valid, ?_, sameTunnel.trans sound.codec.tunnelId,
    Int.ofNat_inj.mp sameSession, sameHeader, samePayload⟩
  rw [packetShape, sound.codec.primitives, sound.codec.aead]
  rfl

/-- Encoding one more frame under the next sequence number. -/
theorem addFrame
    (sound : state.Sound tunnel sealed begun)
    {added : Frame}
    {sending : OrderedDict Nat SendJob}
    (valid : added.Valid)
    (ownTunnel : added.tunnelId = tunnel.tunnelId)
    (ownSession : added.sessionId = state.codec.sessionId)
    (nextSequence : added.sequence = state.sequence + 1)
    (sends : state.side.Sends added.kind)
    (data :
      added.kind.isData = true →
        ∃ message, state.Carries begun added message)
    (newFragment :
      added.kind.isData = true →
        ∀ frame, tunnel.Sealed sealed frame →
          frame.kind.isData = true →
          frame.messageId = added.messageId →
          frame.fragmentIndex ≠ added.fragmentIndex)
    (unfinished :
      ∀ messageId job,
        sending.get? messageId = some job →
        state.Pending tunnel (tunnel.wire added :: sealed) begun
          messageId job) :
    SendState.Sound tunnel
      { state with sequence := state.sequence + 1, sending := sending }
      (tunnel.wire added :: sealed) begun := by
  have newSequence :
      ∀ frame, tunnel.Sealed sealed frame →
        frame.sequence ≠ added.sequence := by
    intro frame isSealed
    have bound := (sound.own frame isSealed).2.2
    omega
  refine {
    codec := sound.codec
    origin := ?_
    own := ?_
    sequences := ?_
    kinds := ?_
    data := ?_
    calls := sound.calls
    callsBound := sound.callsBound
    fragments := ?_
    unfinished := ?_
  }
  · intro packet member
    rcases List.mem_cons.mp member with isAdded | earlier
    · exact ⟨added, valid, isAdded⟩
    · exact sound.origin packet earlier
  · intro frame isSealed
    rcases (sealed_cons_iff valid).mp isSealed with rfl | earlier
    · exact ⟨ownTunnel, ownSession, Nat.le_of_eq nextSequence⟩
    · obtain ⟨sameTunnel, sameSession, bound⟩ := sound.own frame earlier
      exact ⟨sameTunnel, sameSession, Nat.le_succ_of_le bound⟩
  · intro first second firstSealed secondSealed same
    rcases (sealed_cons_iff valid).mp firstSealed with
      rfl | firstEarlier <;>
      rcases (sealed_cons_iff valid).mp secondSealed with
        rfl | secondEarlier
    · rfl
    · exact absurd same.symm (newSequence second secondEarlier)
    · exact absurd same (newSequence first firstEarlier)
    · exact sound.sequences first second firstEarlier secondEarlier same
  · intro frame isSealed
    rcases (sealed_cons_iff valid).mp isSealed with rfl | earlier
    · exact sends
    · exact sound.kinds frame earlier
  · intro frame isSealed isData
    rcases (sealed_cons_iff valid).mp isSealed with rfl | earlier
    · obtain ⟨message, carries⟩ := data isData
      exact ⟨message, ⟨carries.cuts.1, carries.cuts.2⟩,
        carries.begun, carries.spec⟩
    · obtain ⟨message, carries⟩ := sound.data frame earlier isData
      exact ⟨message, ⟨carries.cuts.1, carries.cuts.2⟩,
        carries.begun, carries.spec⟩
  · intro first second firstSealed secondSealed firstData secondData
      sameMessage sameIndex
    rcases (sealed_cons_iff valid).mp firstSealed with
      rfl | firstEarlier <;>
      rcases (sealed_cons_iff valid).mp secondSealed with
        rfl | secondEarlier
    · rfl
    · exact absurd sameIndex.symm
        (newFragment firstData second secondEarlier secondData
          sameMessage.symm)
    · exact absurd sameIndex
        (newFragment secondData first firstEarlier firstData sameMessage)
    · exact sound.fragments first second firstEarlier secondEarlier
        firstData secondData sameMessage sameIndex
  · intro messageId job found
    obtain ⟨message, cuts, calls, rest⟩ := unfinished messageId job found
    exact ⟨message, ⟨cuts.1, cuts.2⟩, calls, rest⟩

/-- Forgetting unfinished sends and using up a number changes nothing. -/
theorem forget
    (sound : state.Sound tunnel sealed begun)
    {sequence : Nat}
    {sending : OrderedDict Nat SendJob}
    (later : state.sequence ≤ sequence)
    (fewer :
      ∀ messageId job,
        sending.get? messageId = some job →
        state.sending.get? messageId = some job) :
    SendState.Sound tunnel
      { state with sequence := sequence, sending := sending }
      sealed begun where
  codec := sound.codec
  origin := sound.origin
  own frame isSealed := by
    obtain ⟨sameTunnel, sameSession, bound⟩ := sound.own frame isSealed
    exact ⟨sameTunnel, sameSession, Nat.le_trans bound later⟩
  sequences := sound.sequences
  kinds := sound.kinds
  data frame isSealed isData := by
    obtain ⟨message, carries⟩ := sound.data frame isSealed isData
    exact ⟨message, ⟨carries.cuts.1, carries.cuts.2⟩,
      carries.begun, carries.spec⟩
  calls := sound.calls
  callsBound := sound.callsBound
  fragments := sound.fragments
  unfinished messageId job found := by
    obtain ⟨message, cuts, calls, rest⟩ :=
      sound.unfinished messageId job (fewer messageId job found)
    exact ⟨message, ⟨cuts.1, cuts.2⟩, calls, rest⟩

/-- Beginning a `send_data` call draws a new message identifier. -/
theorem beginCall
    (sound : state.Sound tunnel sealed begun)
    {sending : OrderedDict Nat SendJob}
    (payload : Bytes)
    (unfinished :
      ∀ messageId job,
        sending.get? messageId = some job →
        state.Pending tunnel sealed
          ((state.messageId + 1, payload) :: begun) messageId job) :
    SendState.Sound tunnel
      { state with
        messageId := state.messageId + 1
        sending := sending }
      sealed ((state.messageId + 1, payload) :: begun) where
  codec := sound.codec
  origin := sound.origin
  own := sound.own
  sequences := sound.sequences
  kinds := sound.kinds
  data frame isSealed isData := by
    obtain ⟨message, carries⟩ := sound.data frame isSealed isData
    exact ⟨message, ⟨carries.cuts.1, carries.cuts.2⟩,
      List.mem_cons_of_mem _ carries.begun, carries.spec⟩
  calls := by
    rw [List.map_cons, List.nodup_cons]
    refine ⟨?_, sound.calls⟩
    intro member
    obtain ⟨call, inCalls, same⟩ := List.mem_map.mp member
    have bound := sound.callsBound call inCalls
    rw [same] at bound
    exact absurd bound (Nat.not_succ_le_self _)
  callsBound call member := by
    rcases List.mem_cons.mp member with rfl | earlier
    · exact Nat.le_refl _
    · exact Nat.le_succ_of_le (sound.callsBound call earlier)
  fragments := sound.fragments
  unfinished messageId job found := by
    obtain ⟨message, cuts, calls, rest⟩ := unfinished messageId job found
    exact ⟨message, ⟨cuts.1, cuts.2⟩, calls, rest⟩

/-- No frame carries a message identifier that has not been drawn. -/
theorem messageId_le
    (sound : state.Sound tunnel sealed begun)
    {frame : Frame}
    (isSealed : tunnel.Sealed sealed frame)
    (isData : frame.kind.isData = true) :
    frame.messageId ≤ state.messageId := by
  obtain ⟨message, carries⟩ := sound.data frame isSealed isData
  exact sound.callsBound _ carries.begun

/-- The frame encoded for one fragment of an unfinished send. -/
theorem frame_of_fragmentRequest
    {clockMs : Int}
    {messageId : Nat}
    {spec : FragmentSpec}
    {packet : Bytes}
    (sound : state.Sound tunnel sealed begun)
    (encoded :
      state.codec.encode clockMs (state.fragmentRequest messageId spec) =
        .ok packet) :
    ∃ frame : Frame,
      frame.Valid ∧
        packet = tunnel.wire frame ∧
        frame.tunnelId = tunnel.tunnelId ∧
        frame.sessionId = state.codec.sessionId ∧
        frame.sequence = state.sequence + 1 ∧
        frame.kind = state.side.sentData ∧
        frame.messageId = messageId ∧
        frame.spec = spec := by
  obtain ⟨frame, valid, packetShape, ownTunnel, ownSession, sameHeader,
    samePayload⟩ := sound.frame_of_encode encoded
  have sameKind : frame.kind = state.side.sentData := by
    have known := valid.rules.known
    rw [sameHeader] at known
    exact Option.some.inj
      (known.symm.trans (FrameKind.ofCode?_code state.side.sentData))
  have sameSequence := congrArg Header.sequence sameHeader
  have sameMessage := congrArg Header.messageId sameHeader
  have sameLength := congrArg Header.messageLen sameHeader
  have sameIndex := congrArg Header.fragmentIndex sameHeader
  have sameCount := congrArg Header.fragmentCount sameHeader
  have sameFlags := congrArg Header.flags sameHeader
  simp only [Frame.header, FrameCodec.requestHeader,
    SendState.fragmentRequest, Option.getD_some, Int.ofNat_inj]
    at sameSequence sameMessage sameLength sameIndex sameCount sameFlags
  refine ⟨frame, valid, packetShape, ownTunnel, ownSession, sameSequence,
    sameKind, sameMessage, ?_⟩
  cases spec
  simp only [Frame.spec, FragmentSpec.mk.injEq]
  exact ⟨samePayload, sameLength, sameIndex, sameCount, sameFlags⟩

/-- Encoding the next fragment of an unfinished send. -/
theorem buildNext
    (sound : state.Sound tunnel sealed begun)
    {clockMs : Int}
    {messageId : Nat}
    {spec : FragmentSpec}
    {remaining : List FragmentSpec}
    {packets later : List Bytes}
    {packet : Bytes}
    (unfinished :
      state.sending.get? messageId =
        some { remaining := spec :: remaining, packets := packets })
    (encoded :
      state.codec.encode clockMs (state.fragmentRequest messageId spec) =
        .ok packet) :
    SendState.Sound tunnel
      { state with
        sequence := state.sequence + 1
        sending :=
          state.sending.set messageId
            { remaining := remaining, packets := later } }
      (packet :: sealed) begun := by
  obtain ⟨message, cuts, calls, suffix, notYet⟩ :=
    sound.unfinished messageId _ unfinished
  obtain ⟨frame, valid, packetShape, ownTunnel, ownSession, nextSequence,
    kind, sameMessage, sameSpec⟩ := sound.frame_of_fragmentRequest encoded
  rw [packetShape]
  have sameIndex : frame.fragmentIndex = spec.fragmentIndex :=
    congrArg FragmentSpec.fragmentIndex sameSpec
  have specMember : spec ∈ message.fragments :=
    suffix.subset List.mem_cons_self
  have distinctIndices :
      ∀ other ∈ remaining,
        other.fragmentIndex ≠ spec.fragmentIndex := by
    intro other member same
    have distinct :=
      (suffix.sublist.map FragmentSpec.fragmentIndex).nodup
        message.nodup_fragmentIndex
    rw [List.map_cons, List.nodup_cons] at distinct
    exact distinct.1 (same ▸ List.mem_map_of_mem member)
  apply sound.addFrame valid ownTunnel ownSession nextSequence
  · exact .inl kind
  · intro _
    exact ⟨message, cuts, sameMessage ▸ calls, sameSpec ▸ specMember⟩
  · intro _ other otherSealed otherData otherMessage otherIndex
    exact notYet other otherSealed otherData
      (otherMessage.trans sameMessage) spec List.mem_cons_self
      (sameIndex.symm.trans otherIndex.symm)
  · intro otherId job found
    by_cases own : otherId = messageId
    · subst own
      rw [OrderedDict.get?_set_same] at found
      obtain rfl := Option.some.inj found
      refine ⟨message, cuts, calls,
        (List.suffix_cons spec remaining).trans suffix, ?_⟩
      intro other otherSealed otherData otherMessage rest member
      rcases (sealed_cons_iff valid).mp otherSealed with rfl | earlier
      · rw [sameIndex]
        exact distinctIndices rest member
      · exact notYet other earlier otherData otherMessage rest
          (List.mem_cons_of_mem _ member)
    · rw [OrderedDict.get?_set_other _ own] at found
      obtain ⟨otherMessage, otherCuts, otherCalls, otherSuffix,
        otherNotYet⟩ := sound.unfinished otherId job found
      refine ⟨otherMessage, otherCuts, otherCalls, otherSuffix, ?_⟩
      intro other otherSealed otherData otherId' rest member
      rcases (sealed_cons_iff valid).mp otherSealed with rfl | earlier
      · exact absurd (otherId'.symm.trans sameMessage) own
      · exact otherNotYet other earlier otherData otherId' rest member

/-- Every step of the sending half keeps these facts. -/
theorem step
    {after : SendState}
    {newPacket : Option Bytes}
    {newCall : Option (Nat × Bytes)}
    (sound : state.Sound tunnel sealed begun)
    (taken : state.Step after newPacket newCall) :
    after.Sound tunnel (newPacket.toList ++ sealed)
      (newCall.toList ++ begun) := by
  cases taken with
  | nothing =>
      exact sound
  | control origin =>
      cases newPacket with
      | none =>
          exact sound.forget (Nat.le_succ _) fun _ _ found => found
      | some packet =>
          obtain ⟨clockMs, request, encoded, sameSequence, kind, sameKind,
            control⟩ := origin packet rfl
          obtain ⟨frame, valid, packetShape, ownTunnel, ownSession,
            sameHeader, _⟩ := sound.frame_of_encode encoded
          have frameKind : frame.kind = kind := by
            have known := valid.rules.known
            rw [sameHeader] at known
            exact Option.some.inj (known.symm.trans
              ((congrArg FrameKind.ofCode? sameKind).trans
                (FrameKind.ofCode?_code kind)))
          have frameSequence : frame.sequence = state.sequence + 1 := by
            have same := congrArg Header.sequence sameHeader
            exact Int.ofNat_inj.mp (same.trans sameSequence)
          have frameNotData : ¬ frame.kind.isData = true := by
            rw [frameKind]
            rcases control with rfl | rfl <;> cases state.side <;> decide
          simp only [Option.toList_some, Option.toList_none,
            List.singleton_append, List.nil_append, packetShape]
          apply sound.addFrame valid ownTunnel ownSession frameSequence
          · exact .inr (frameKind ▸ control)
          · exact fun isData => absurd isData frameNotData
          · exact fun isData => absurd isData frameNotData
          · intro messageId job found
            obtain ⟨message, cuts, calls, suffix, notYet⟩ :=
              sound.unfinished messageId job found
            refine ⟨message, cuts, calls, suffix, ?_⟩
            intro other otherSealed otherData
            rcases (sealed_cons_iff valid).mp otherSealed with
              rfl | earlier
            · exact absurd otherData frameNotData
            · exact notYet other earlier otherData
  | refuse payload =>
      apply sound.beginCall payload
      intro messageId job found
      obtain ⟨message, cuts, calls, rest⟩ :=
        sound.unfinished messageId job found
      exact ⟨message, cuts, List.mem_cons_of_mem _ calls, rest⟩
  | begin payload fragments fragmented =>
      obtain ⟨message, samePayload, sameSize, sameFec, sameFragments⟩ :=
        fragmentMessage_eq_ok_iff.mp fragmented
      apply sound.beginCall payload
      intro messageId job found
      by_cases own : messageId = state.messageId + 1
      · subst own
        rw [OrderedDict.get?_set_same] at found
        obtain rfl := Option.some.inj found
        refine ⟨message, ⟨sameSize, sameFec⟩, ?_, ?_, ?_⟩
        · rw [samePayload]
          exact List.mem_cons_self
        · rw [sameFragments]
        · intro frame isSealed isData sameMessage
          have bound := sound.messageId_le isSealed isData
          rw [sameMessage] at bound
          exact absurd bound (Nat.not_succ_le_self _)
      · rw [OrderedDict.get?_set_other _ own] at found
        obtain ⟨other, cuts, calls, rest⟩ :=
          sound.unfinished messageId job found
        exact ⟨other, cuts, List.mem_cons_of_mem _ calls, rest⟩
  | abort messageId =>
      exact sound.forget (Nat.le_succ _) fun _ _ found =>
        OrderedDict.get?_of_erase found
  | build messageId spec remaining packets clockMs packet unfinished
      encoded =>
      exact sound.buildNext unfinished encoded
  | finish messageId =>
      exact sound.forget le_rfl fun _ _ found =>
        OrderedDict.get?_of_erase found

end SendState.Sound

end H3ntun

import H3ntun.AgentSteps
import H3ntun.EncodeChecks
import H3ntun.ReassemblyExact

namespace H3ntun

open StructPack

/-!
# The send path of one datagram

`build_data_packets` and `send_data` as whole functions.  Other threads may
draw sequence numbers between two turns of the list comprehension, and may act
once more before the packets are enqueued or sent.
-/

/-- What one turn of the list comprehension meets. -/
structure Turn where
  /-- Numbers other threads draw from `next_sequence` first. -/
  elsewhere : Nat := 0
  /-- Wall clock at `encode`, in milliseconds. -/
  clockMs : Int

/-- The number `next_sequence` returns in a turn. -/
def drawnAt : Nat → (Nat → Turn) → Nat → Nat
  | sequence, turns, 0 => sequence + (turns 0).elsewhere + 1
  | sequence, turns, turn + 1 =>
      drawnAt (sequence + (turns 0).elsewhere + 1)
        (fun later => turns (later + 1)) turn

/-- Arguments of `encode` for one fragment of a message. -/
def FragmentSpec.request
    (spec : FragmentSpec)
    (kind : FrameKind)
    (messageId sequence : Nat) : EncodeRequest where
  kind := kind.code
  sequence := sequence
  payload := spec.payload
  messageId := messageId
  messageLen := some spec.messageLen
  fragmentIndex := spec.fragmentIndex
  fragmentCount := spec.fragmentCount
  flags := spec.flags

/--
The list comprehension of `build_data_packets`: the last number drawn, and
the packets.
-/
def FrameCodec.encodeFragments
    (codec : FrameCodec)
    (kind : FrameKind)
    (messageId : Nat) :
    Nat → (Nat → Turn) → List FragmentSpec →
      Nat × Except Failure (List Bytes)
  | sequence, _, [] => (sequence, .ok [])
  | sequence, turns, spec :: rest =>
      let drawn := sequence + (turns 0).elsewhere + 1
      match codec.encode (turns 0).clockMs
          (spec.request kind messageId drawn) with
      | .error failure => (drawn, .error failure)
      | .ok packet =>
          let (last, packets) :=
            codec.encodeFragments kind messageId drawn
              (fun later => turns (later + 1)) rest
          (last, packets.map fun others => packet :: others)

/-- The counters of the metrics that `send_data` increments. -/
structure SendMetrics where
  fragmentMessages : Nat := 0
  fragmentsCreated : Nat := 0
  queueDrops : Nat := 0
  deriving Repr, DecidableEq

/-- What happens around one call of `send_data`. -/
structure Passage where
  turns : Nat → Turn
  /-- Steps of other threads before the packets are enqueued or sent. -/
  meanwhile : List Action := []
  /-- Monotonic clock at `enqueue`. -/
  now : Time
  /-- Position of the first packet `_transport_send` raises on. -/
  failing : Option Nat := none

/-- What one call of `send_data` leaves, does and returns. -/
structure SendResult where
  agent : Agent
  metrics : SendMetrics
  /-- Packets passed to `_transport_send`. -/
  sent : List Bytes := []
  answer : Except Failure Bool

/-- An exception that leaves the call. -/
def SendResult.raised (result : SendResult) : Option Failure :=
  match result.answer with
  | .error failure => some failure
  | .ok _ => none

namespace Agent

/-- `build_data_packets`. -/
def buildDataPackets
    (agent : Agent)
    (kind : FrameKind)
    (payload : Bytes)
    (turns : Nat → Turn) :
    Agent × Except Failure (Nat × List Bytes) :=
  let messageId := agent.messageId + 1
  let drawn := { agent with messageId := messageId }
  match fragmentMessage payload agent.fragmentPayloadBytes
      agent.fecEnabled with
  | .error failure => (drawn, .error failure)
  | .ok fragments =>
      let (last, packets) :=
        agent.codec.encodeFragments kind messageId agent.sequence turns
          fragments
      ({ drawn with sequence := last },
        packets.map fun packets => (messageId, packets))

/-- The agent after steps of other threads. -/
def afterActions (agent : Agent) (actions : List Action) : Agent :=
  actions.foldl (fun before action => (before.act action).agent) agent

/-- The rest of `send_data`, once the packets are built. -/
def sendPackets
    (agent : Agent)
    (metrics : SendMetrics)
    (messageId : Nat)
    (packets : List Bytes)
    (now : Time)
    (failing : Option Nat) : SendResult :=
  let counted := { metrics with
    fragmentMessages := metrics.fragmentMessages + 1
    fragmentsCreated := metrics.fragmentsCreated + packets.length }
  if agent.reliable then
    match agent.sender.enqueue messageId packets now with
    | (sender, .error failure) =>
        { agent := { agent with sender := sender }
          metrics := counted
          answer := .error failure }
    | (sender, .ok queued) =>
        { agent := { agent with sender := sender }
          metrics :=
            if queued then
              counted
            else
              { counted with queueDrops := counted.queueDrops + 1 }
          answer := .ok queued }
  else
    match failing with
    | none =>
        { agent := agent
          metrics := counted
          sent := packets
          answer := .ok true }
    | some position =>
        if position < packets.length then
          { agent := agent
            metrics := counted
            sent := packets.take (position + 1)
            answer := .error .osError }
        else
          { agent := agent
            metrics := counted
            sent := packets
            answer := .ok true }

/-- `send_data`, from its metrics to the last packet. -/
def sendData
    (agent : Agent)
    (metrics : SendMetrics)
    (kind : FrameKind)
    (payload : Bytes)
    (passage : Passage) : SendResult :=
  match agent.buildDataPackets kind payload passage.turns with
  | (built, .error failure) =>
      { agent := built, metrics := metrics, answer := .error failure }
  | (built, .ok (messageId, packets)) =>
      (built.afterActions passage.meanwhile).sendPackets metrics messageId
        packets passage.now passage.failing

end Agent

namespace Message

variable {message : Message} {spec : FragmentSpec} {kind : FrameKind}

/-- A fragment of a message meets all rules of `encode` before packing. -/
theorem encodeRules
    (member : spec ∈ message.fragments)
    (isData : kind.isData = true)
    {messageId : Nat}
    (fits : messageId < 2 ^ 64)
    (codec : FrameCodec)
    (clockMs : Int)
    (sequence : Nat) :
    (codec.requestHeader clockMs
      (spec.request kind messageId sequence)).EncodeRules := by
  have few := message.count_le
  have positive := message.count_pos
  have size := message.sizeInRange.2
  have payloadFits := message.payloadFits
  have control : kind.isData ≠ false := by
    simp [isData]
  rcases mem_fragments_iff.mp member with
    ⟨index, inRange, rfl⟩ | ⟨withParity, rfl⟩
  · have inPieces : index < message.pieces.length := by
      rwa [length_pieces]
    have pieceLength :
        (message.dataFragment index).payload.length ≤
          message.fragmentPayloadBytes := by
      simp only [dataFragment, List.getD_eq_getElem?_getD,
        List.getElem?_eq_getElem inPieces, Option.getD_some]
      exact (length_piece (List.getElem?_eq_getElem inPieces)).1
    refine ⟨⟨kind, ⟨FrameKind.ofCode?_code kind, .inl rfl, ?_, ?_, ⟨?_, ?_⟩,
      ?_, ?_, fun notData => absurd notData control⟩⟩, ⟨?_, ?_⟩, ?_, ?_⟩
    all_goals
      simp only [FrameCodec.requestHeader, FragmentSpec.request,
        Option.getD_some, dataFragment, maxFragments] at pieceLength ⊢
    all_goals omega
  · have several : 1 < message.count := (hasParity_iff.mp withParity).2
    refine ⟨⟨kind, ⟨FrameKind.ofCode?_code kind, .inr rfl, ?_, ?_, ⟨?_, ?_⟩,
      fun _ => ⟨?_, rfl⟩, ?_, fun notData => absurd notData control⟩⟩,
      ⟨?_, ?_⟩, ?_, ?_⟩
    all_goals
      simp only [FrameCodec.requestHeader, FragmentSpec.request,
        Option.getD_some, parityFragment, length_parity, maxFragments]
    all_goals omega

end Message

/-- The numbers and clock readings of the first turns fit in 64 bits. -/
def TurnsFit (sequence : Nat) (turns : Nat → Turn) (count : Nat) : Prop :=
  ∀ turn < count,
    drawnAt sequence turns turn < 2 ^ 64 ∧
      0 ≤ (turns turn).clockMs ∧ (turns turn).clockMs < 2 ^ 64

theorem turnsFit_succ_iff
    {sequence count : Nat}
    {turns : Nat → Turn} :
    TurnsFit sequence turns (count + 1) ↔
      (sequence + (turns 0).elsewhere + 1 < 2 ^ 64 ∧
        0 ≤ (turns 0).clockMs ∧ (turns 0).clockMs < 2 ^ 64) ∧
        TurnsFit (sequence + (turns 0).elsewhere + 1)
          (fun later => turns (later + 1)) count := by
  constructor
  · intro fit
    exact ⟨fit 0 (Nat.succ_pos count), fun turn small =>
      fit (turn + 1) (Nat.succ_lt_succ small)⟩
  · rintro ⟨first, rest⟩ turn small
    cases turn with
    | zero =>
        exact first
    | succ turn =>
        exact rest turn (Nat.lt_of_succ_lt_succ small)

namespace FrameCodec

variable
  {codec : FrameCodec}
  {message : Message}
  {spec : FragmentSpec}
  {kind : FrameKind}
  {messageId sequence : Nat}
  {turns : Nat → Turn}

/-- A frame of one message that this session has sent. -/
structure SendsFrame
    (codec : FrameCodec)
    (kind : FrameKind)
    (messageId : Nat)
    (frame : Frame) : Prop where
  valid :
    frame.Valid
  kind :
    frame.kind = kind
  tunnelId :
    frame.tunnelId = codec.tunnelId
  sessionId :
    frame.sessionId = codec.sessionId
  messageId :
    frame.messageId = messageId

/-- The packet of a fragment carries exactly that fragment. -/
theorem frame_of_fragment
    {clockMs : Int}
    {packet : Bytes}
    (encoded :
      codec.encode clockMs (spec.request kind messageId sequence) =
        .ok packet) :
    ∃ frame,
      codec.SendsFrame kind messageId frame ∧
        frame.spec = spec ∧
        packet = frame.wire codec.primitives codec.aead := by
  obtain ⟨frame, valid, sameHeader, samePayload, shape⟩ :=
    encode_eq_ok_iff.mp encoded
  have fields := Header.ext_iff.mp sameHeader
  simp only [Frame.header, requestHeader, FragmentSpec.request,
    Option.getD_some, Int.natCast_inj] at fields
  obtain ⟨_, _, sameKind, flags, tunnelId, sessionId, _, _, sameId,
    messageLen, fragmentIndex, fragmentCount, _⟩ := fields
  have kindShape : frame.kind = kind := by
    have known := FrameKind.ofCode?_code frame.kind
    rw [sameKind, FrameKind.ofCode?_code] at known
    exact (Option.some.inj known).symm
  refine ⟨frame, ⟨valid, kindShape, tunnelId, sessionId, sameId⟩, ?_,
    shape⟩
  simp only [Frame.spec, samePayload, messageLen, fragmentIndex,
    fragmentCount, flags, FragmentSpec.request]

/-- A fragment is encoded exactly if its number and clock fit. -/
theorem encode_fragment_cases
    (member : spec ∈ message.fragments)
    (isData : kind.isData = true)
    (fits : messageId < 2 ^ 64)
    (codec : FrameCodec)
    (clockMs : Int)
    (sequence : Nat) :
    ((sequence < 2 ^ 64 ∧ 0 ≤ clockMs ∧ clockMs < 2 ^ 64) ∧
      ∃ packet,
        codec.encode clockMs (spec.request kind messageId sequence) =
          .ok packet) ∨
      (¬ (sequence < 2 ^ 64 ∧ 0 ≤ clockMs ∧ clockMs < 2 ^ 64) ∧
        codec.encode clockMs (spec.request kind messageId sequence) =
          .error .structError) := by
  have rules :=
    Message.encodeRules member isData fits codec clockMs sequence
  have countersFit_iff :
      (codec.requestHeader clockMs
        (spec.request kind messageId sequence)).CountersFit ↔
        sequence < 2 ^ 64 ∧ 0 ≤ clockMs ∧ clockMs < 2 ^ 64 := by
    constructor
    · rintro ⟨drawn, clock⟩
      simp only [requestHeader, FragmentSpec.request, Option.getD_none]
        at drawn clock
      omega
    · intro inRange
      constructor <;>
        simp only [requestHeader, FragmentSpec.request,
          Option.getD_none] <;>
        omega
  by_cases inRange : sequence < 2 ^ 64 ∧ 0 ≤ clockMs ∧ clockMs < 2 ^ 64
  · exact .inl ⟨inRange,
      encode_of_countersFit rules (countersFit_iff.mpr inRange)⟩
  · exact .inr ⟨inRange,
      encode_of_not_countersFit rules (mt countersFit_iff.mp inRange)⟩

/-- Fragments of a message are encoded if their turns fit. -/
theorem encodeFragments_of_fit
    {specs : List FragmentSpec}
    (members : ∀ spec ∈ specs, spec ∈ message.fragments)
    (isData : kind.isData = true)
    (fits : messageId < 2 ^ 64)
    (turnsFit : TurnsFit sequence turns specs.length) :
    ∃ frames : List Frame,
      (codec.encodeFragments kind messageId sequence turns specs).2 =
          .ok (frames.map (Frame.wire codec.primitives codec.aead)) ∧
        frames.map Frame.spec = specs ∧
        ∀ frame ∈ frames, codec.SendsFrame kind messageId frame := by
  induction specs generalizing sequence turns with
  | nil =>
      exact ⟨[], rfl, rfl, fun frame member => by cases member⟩
  | cons spec rest inductionHypothesis =>
      obtain ⟨member, restMembers⟩ := List.forall_mem_cons.mp members
      obtain ⟨first, restFit⟩ := turnsFit_succ_iff.mp turnsFit
      obtain ⟨frames, packets, specs, sends⟩ :=
        inductionHypothesis restMembers restFit
      rcases encode_fragment_cases member isData fits codec
          (turns 0).clockMs (sequence + (turns 0).elsewhere + 1) with
        ⟨_, packet, encoded⟩ | ⟨misfit, _⟩
      · obtain ⟨frame, isSent, sameSpec, shape⟩ :=
          frame_of_fragment encoded
        refine ⟨frame :: frames, ?_, ?_, ?_⟩
        · simp only [encodeFragments, encoded, packets, List.map_cons,
            shape]
          rfl
        · rw [List.map_cons, sameSpec, specs]
        · exact List.forall_mem_cons.mpr ⟨isSent, sends⟩
      · exact absurd first misfit

/-- Otherwise the first turn that does not fit raises. -/
theorem encodeFragments_of_not_fit
    {specs : List FragmentSpec}
    (members : ∀ spec ∈ specs, spec ∈ message.fragments)
    (isData : kind.isData = true)
    (fits : messageId < 2 ^ 64)
    (turnsFit : ¬ TurnsFit sequence turns specs.length) :
    (codec.encodeFragments kind messageId sequence turns specs).2 =
      .error .structError := by
  induction specs generalizing sequence turns with
  | nil =>
      refine absurd ?_ turnsFit
      intro turn small
      cases small
  | cons spec rest inductionHypothesis =>
      obtain ⟨member, restMembers⟩ := List.forall_mem_cons.mp members
      rcases encode_fragment_cases member isData fits codec
          (turns 0).clockMs (sequence + (turns 0).elsewhere + 1) with
        ⟨first, packet, encoded⟩ | ⟨_, raises⟩
      · have restFails :=
          inductionHypothesis restMembers fun restFit =>
            turnsFit (turnsFit_succ_iff.mpr ⟨first, restFit⟩)
        simp only [encodeFragments, encoded, restFails]
        rfl
      · simp only [encodeFragments, raises]

end FrameCodec

/-- The parity flag is set. -/
def FragmentSpec.isParity (spec : FragmentSpec) : Bool :=
  Int.land spec.flags flagParity ≠ 0

/-- Payloads of the data frames among frames, in order. -/
def dataPieces (frames : List Frame) : List Bytes :=
  (frames.filter fun frame => !frame.isParity).map Frame.payload

/-- Frames that carry a payload in pieces of one size. -/
structure CarriesPayload
    (frames : List Frame)
    (payload : Bytes)
    (fragmentPayloadBytes : Nat)
    (fecEnabled : Bool) : Prop where
  pieces :
    (dataPieces frames).flatten = payload
  full :
    ∀ index piece,
      (dataPieces frames)[index]? = some piece →
      index + 1 < (dataPieces frames).length →
      piece.length = fragmentPayloadBytes
  parity :
    (frames.filter Frame.isParity).length =
      if fecEnabled = true ∧ 2 ≤ (dataPieces frames).length then 1 else 0

namespace Message

variable {message : Message} {frames : List Frame}

@[simp] theorem isParity_dataFragment
    (message : Message)
    (index : Nat) :
    (message.dataFragment index).isParity = false := by
  show decide (Int.land (0 : Nat) flagParity ≠ 0) = false
  decide

@[simp] theorem isParity_parityFragment
    (message : Message) :
    message.parityFragment.isParity = true := by
  show decide (Int.land (1 : Nat) flagParity ≠ 0) = true
  decide

/-- The fragments with and without the parity flag. -/
theorem filter_fragments
    (message : Message) :
    (message.fragments.filter fun spec => !spec.isParity) =
        (List.range message.count).map message.dataFragment ∧
      message.fragments.filter FragmentSpec.isParity =
        if message.hasParity then [message.parityFragment] else [] := by
  rw [fragments, List.filter_append, List.filter_append]
  constructor
  · rw [List.filter_eq_self.mpr (by simp)]
    split <;> simp
  · rw [List.filter_eq_nil_iff.mpr (by simp), List.nil_append]
    split <;> simp

theorem map_payload_dataFragments
    (message : Message) :
    ((List.range message.count).map message.dataFragment).map
        FragmentSpec.payload = message.pieces := by
  apply List.ext_getElem (by simp)
  intro index _ inPieces
  simp [dataFragment, List.getElem?_eq_getElem inPieces]

/-- Frames with the fragments of a message carry its payload. -/
theorem carriesPayload
    (specs : frames.map Frame.spec = message.fragments) :
    CarriesPayload frames message.payload message.fragmentPayloadBytes
      message.fecEnabled := by
  obtain ⟨dataSpecs, paritySpecs⟩ := message.filter_fragments
  rw [← specs, List.filter_map] at dataSpecs paritySpecs
  have pieces : dataPieces frames = message.pieces := by
    rw [← message.map_payload_dataFragments, ← dataSpecs, List.map_map]
    rfl
  have parityCount := congrArg List.length paritySpecs
  rw [List.length_map] at parityCount
  refine ⟨?_, ?_, ?_⟩
  · rw [pieces]
    exact message.flatten_pieces
  · rw [pieces, length_pieces]
    intro index piece found notLast
    exact (length_piece found).2.1 (by omega)
  · rw [pieces, length_pieces]
    refine parityCount.trans ?_
    by_cases withParity : message.hasParity = true
    · have condition := hasParity_iff.mp withParity
      rw [if_pos withParity]
      exact (if_pos condition).symm
    · rw [if_neg withParity]
      exact (if_neg (mt hasParity_iff.mpr withParity)).symm

end Message

/-- The packet of a frame of a fragment fits a UDP datagram. -/
theorem Frame.Valid.length_wire
    {frame : Frame}
    {aead : Aead}
    (valid : frame.Valid)
    (primitives : Primitives)
    (lawful : aead.Lawful) :
    (frame.wire primitives aead).length =
        frameOverhead + frame.payload.length ∧
      (frame.wire primitives aead).length ≤ 1472 := by
  obtain ⟨_, aadLength, _⟩ := valid.pack_header []
  have payloadLen : (frame.payload.length : Int) ≤ maxFragmentPayload :=
    valid.rules.payloadLen
  have overhead : frameOverhead = 81 := by
    decide
  have length :
      (frame.wire primitives aead).length =
        frameOverhead + frame.payload.length := by
    rw [Frame.wire, List.length_append, aadLength, lawful.length_encrypt,
      frameOverhead]
    omega
  refine ⟨length, ?_⟩
  rw [length, overhead]
  simp only [maxFragmentPayload] at payloadLen
  omega

/-- Number of fragments of a payload, the parity fragment included. -/
def fragmentTotal
    (length fragmentPayloadBytes : Nat)
    (fecEnabled : Bool) : Nat :=
  let count := pieceCount length fragmentPayloadBytes
  if fecEnabled ∧ 1 < count then count + 1 else count

theorem Message.length_fragments
    (message : Message) :
    message.fragments.length =
      fragmentTotal message.payload.length message.fragmentPayloadBytes
        message.fecEnabled := by
  rw [fragments, List.length_append, List.length_map, List.length_range]
  by_cases withParity : message.hasParity = true
  · have condition := hasParity_iff.mp withParity
    rw [if_pos withParity]
    exact (if_pos condition).symm
  · rw [if_neg withParity]
    exact (if_neg (mt hasParity_iff.mpr withParity)).symm

/-- The counters and clock readings of one call fit in 64 bits. -/
structure Agent.CountersFit
    (agent : Agent)
    (payload : Bytes)
    (turns : Nat → Turn) : Prop where
  messageId :
    agent.messageId + 1 < 2 ^ 64
  turns :
    TurnsFit agent.sequence turns
      (fragmentTotal payload.length agent.fragmentPayloadBytes
        agent.fecEnabled)

namespace Agent

variable
  {agent : Agent}
  {kind : FrameKind}
  {payload : Bytes}
  {turns : Nat → Turn}

/-- A payload within the limits is built into the packets of its message. -/
theorem buildDataPackets_of_fit
    (message : Message)
    (isData : kind.isData = true)
    (size : agent.fragmentPayloadBytes = message.fragmentPayloadBytes)
    (fec : agent.fecEnabled = message.fecEnabled)
    (countersFit : agent.CountersFit message.payload turns) :
    ∃ frames : List Frame,
      (agent.buildDataPackets kind message.payload turns).2 =
          .ok (agent.messageId + 1,
            frames.map
              (Frame.wire agent.codec.primitives agent.codec.aead)) ∧
        frames.map Frame.spec = message.fragments ∧
        ∀ frame ∈ frames,
          agent.codec.SendsFrame kind (agent.messageId + 1) frame := by
  have turnsFit := countersFit.turns
  rw [size, fec, ← message.length_fragments] at turnsFit
  obtain ⟨frames, packets, specs, sends⟩ :=
    FrameCodec.encodeFragments_of_fit (fun spec member => member) isData
      countersFit.messageId turnsFit
  refine ⟨frames, ?_, specs, sends⟩
  simp only [buildDataPackets, size, fec, message.fragmentMessage_eq,
    packets]
  rfl

/-- A longer payload only costs a message identifier. -/
theorem sendData_of_long
    (sizeInRange :
      256 ≤ agent.fragmentPayloadBytes ∧
        agent.fragmentPayloadBytes ≤ maxFragmentPayload)
    (long : maxMessageSize < payload.length)
    (metrics : SendMetrics)
    (kind : FrameKind)
    (passage : Passage) :
    agent.sendData metrics kind payload passage =
      { agent := { agent with messageId := agent.messageId + 1 }
        metrics := metrics
        answer :=
          .error (.protocolError
            s!"message exceeds {maxMessageSize} bytes") } := by
  simp only [sendData, buildDataPackets, fragmentMessage, sizeInRange,
    and_self, not_true_eq_false, ↓reduceIte, gt_iff_lt, long]

/--
For every agent whose fragment size is in range and every payload: up to the
maximum size all packets are built, carry the payload in full pieces, with one
parity packet where it is due, and fit an Ethernet frame; a longer payload
raises `ProtocolError` and nothing is enqueued, sent or counted.  The branch
for too many fragments is never taken.
-/
theorem send_path_total
    (lawful : agent.codec.aead.Lawful)
    (sizeInRange :
      256 ≤ agent.fragmentPayloadBytes ∧
        agent.fragmentPayloadBytes ≤ maxFragmentPayload)
    (isData : kind.isData = true)
    (countersFit : agent.CountersFit payload turns) :
    (payload.length ≤ maxMessageSize →
      ∃ frames : List Frame,
        (agent.buildDataPackets kind payload turns).2 =
            .ok (agent.messageId + 1,
              frames.map
                (Frame.wire agent.codec.primitives agent.codec.aead)) ∧
          CarriesPayload frames payload agent.fragmentPayloadBytes
            agent.fecEnabled ∧
          (∀ frame ∈ frames,
            agent.codec.SendsFrame kind (agent.messageId + 1) frame) ∧
          ∀ packet ∈
              frames.map
                (Frame.wire agent.codec.primitives agent.codec.aead),
            packet.length ≤ 1472 ∧ packet.length + 28 ≤ 1500) ∧
      (maxMessageSize < payload.length →
        ∀ metrics passage,
          agent.sendData metrics kind payload passage =
            { agent := { agent with messageId := agent.messageId + 1 }
              metrics := metrics
              answer :=
                .error (.protocolError
                  s!"message exceeds {maxMessageSize} bytes") }) ∧
      fragmentMessage payload agent.fragmentPayloadBytes
          agent.fecEnabled ≠
        .error (.protocolError "message requires too many fragments") := by
  refine ⟨?_, ?_, ?_⟩
  · intro fits
    let message : Message := {
      payload := payload
      fragmentPayloadBytes := agent.fragmentPayloadBytes
      fecEnabled := agent.fecEnabled
      sizeInRange := sizeInRange
      payloadFits := fits
    }
    obtain ⟨frames, packets, specs, sends⟩ :=
      buildDataPackets_of_fit message isData rfl rfl countersFit
    refine ⟨frames, packets, message.carriesPayload specs, sends, ?_⟩
    intro packet member
    obtain ⟨frame, inFrames, rfl⟩ := List.mem_map.mp member
    have short :=
      ((sends frame inFrames).valid.length_wire agent.codec.primitives
        lawful).2
    exact ⟨short, by omega⟩
  · intro long metrics passage
    exact sendData_of_long sizeInRange long metrics kind passage
  · intro tooMany
    by_cases fits : payload.length ≤ maxMessageSize
    · have fragmented :=
        ({ payload, fragmentPayloadBytes := agent.fragmentPayloadBytes,
           fecEnabled := agent.fecEnabled, sizeInRange,
           payloadFits := fits } : Message).fragmentMessage_eq
      simp only [fragmented, reduceCtorEq] at tooMany
    · have long : payload.length > maxMessageSize :=
        Nat.lt_of_not_le fits
      simp only [fragmentMessage, sizeInRange, and_self,
        not_true_eq_false, ↓reduceIte, long, Except.error.injEq,
        Failure.protocolError.injEq] at tooMany
      exact absurd tooMany (by decide)

/-- Turns of an undisturbed process whose clock does not move. -/
def steadyTurns : Nat → Turn :=
  fun _ => { clockMs := 1000 }

/-- Two pieces and their parity fragment. -/
theorem send_path_total_two_pieces :
    ∃ frames : List Frame,
      ((plain .foreign).buildDataPackets .dataDown Message.sample.payload
        steadyTurns).2 =
          .ok (1, frames.map (Frame.wire .plain (plain .foreign).codec.aead)) ∧
        CarriesPayload frames Message.sample.payload 256 true := by
  have lawful : (plain .foreign).codec.aead.Lawful :=
    Primitives.plain_lawful (List.replicate 16 7) (List.replicate 32 9)
  have isData : FrameKind.dataDown.isData = true := rfl
  have fits :
      (plain .foreign).CountersFit Message.sample.payload
        steadyTurns := by
    refine ⟨by decide, ?_⟩
    unfold TurnsFit
    decide +kernel
  obtain ⟨built, _⟩ := send_path_total lawful (by decide) isData fits
  obtain ⟨frames, packets, carries, _⟩ := built (by decide +kernel)
  exact ⟨frames, packets, carries⟩

/-- The steps of one thread that build the packets of a message. -/
def buildSteps
    (messageId : Nat)
    (turns : Nat → Turn)
    (count : Nat) : List Action :=
  (List.range count).map fun turn =>
    .buildPacket messageId (turns turn).clockMs

theorem buildSteps_succ
    (messageId : Nat)
    (turns : Nat → Turn)
    (count : Nat) :
    buildSteps messageId turns (count + 1) =
      .buildPacket messageId (turns 0).clockMs ::
        buildSteps messageId (fun later => turns (later + 1)) count := by
  rw [buildSteps, List.range_succ_eq_map, List.map_cons, List.map_map]
  rfl

/-- Undisturbed steps build what the list comprehension builds. -/
theorem afterActions_buildSteps
    {messageId last : Nat}
    {specs : List FragmentSpec}
    {done packets : List Bytes}
    (found :
      agent.sending.get? messageId =
        some { remaining := specs, packets := done })
    (alone : ∀ turn, (turns turn).elsewhere = 0)
    (built :
      agent.codec.encodeFragments agent.role.side.sentData messageId
        agent.sequence turns specs = (last, .ok packets)) :
    ∃ sending : OrderedDict Nat SendJob,
      agent.afterActions (buildSteps messageId turns specs.length) =
          { agent with sequence := last, sending := sending } ∧
        sending.get? messageId =
          some { remaining := [], packets := done ++ packets } := by
  induction specs generalizing agent turns done packets with
  | nil =>
      simp only [FrameCodec.encodeFragments, Prod.mk.injEq,
        Except.ok.injEq] at built
      obtain ⟨rfl, rfl⟩ := built
      rw [List.append_nil]
      exact ⟨agent.sending, rfl, found⟩
  | cons spec rest inductionHypothesis =>
      rw [List.length_cons, buildSteps_succ]
      simp only [FrameCodec.encodeFragments, alone 0, Nat.add_zero]
        at built
      cases encoded :
          agent.codec.encode (turns 0).clockMs
            (spec.request agent.role.side.sentData messageId
              (agent.sequence + 1)) with
      | error failure =>
          simp [encoded] at built
      | ok packet =>
          simp only [encoded] at built
          generalize others :
            agent.codec.encodeFragments agent.role.side.sentData messageId
              (agent.sequence + 1) (fun later => turns (later + 1))
              rest = outcome at built
          obtain ⟨lastDrawn, answer⟩ := outcome
          simp only [Prod.mk.injEq] at built
          obtain ⟨rfl, mapped⟩ := built
          cases answer with
          | error failure =>
              cases mapped
          | ok restPackets =>
              cases mapped
              have stepped :
                  (agent.act
                    (.buildPacket messageId (turns 0).clockMs)).agent =
                    { agent with
                      sequence := agent.sequence + 1
                      sending := agent.sending.set messageId
                        { remaining := rest
                          packets := done ++ [packet] } } := by
                have sameRequest :
                    agent.fragmentRequest messageId (agent.sequence + 1)
                        spec =
                      spec.request agent.role.side.sentData messageId
                        (agent.sequence + 1) :=
                  rfl
                simp only [act, buildPacket, found, sameRequest, encoded]
              have stored :
                  ({ agent with
                    sequence := agent.sequence + 1
                    sending := agent.sending.set messageId
                      { remaining := rest
                        packets := done ++ [packet] } }
                    : Agent).sending.get? messageId =
                      some {
                        remaining := rest
                        packets := done ++ [packet] } :=
                OrderedDict.get?_set_same _ _ _
              obtain ⟨sending, shape, finished⟩ :=
                inductionHypothesis stored
                  (fun turn => alone (turn + 1)) others
              refine ⟨sending, ?_, ?_⟩
              · rw [afterActions, List.foldl_cons, stepped]
                exact shape
              · rw [finished, List.append_assoc, List.singleton_append]

/-- The steps of an undisturbed process that begin a message and build it. -/
theorem steps_of_buildDataPackets
    {messageId : Nat}
    {packets : List Bytes}
    (alone : ∀ turn, (turns turn).elsewhere = 0)
    (built :
      (agent.buildDataPackets agent.role.side.sentData payload turns).2 =
        .ok (messageId, packets)) :
    ∃ count sending,
      (agent.beginSend payload).agent.afterActions
          (buildSteps messageId turns count) =
        { (agent.buildDataPackets agent.role.side.sentData payload
            turns).1 with sending := sending } ∧
      sending.get? messageId =
        some { remaining := [], packets := packets } := by
  cases fragmented :
      fragmentMessage payload agent.fragmentPayloadBytes
        agent.fecEnabled with
  | error failure =>
      simp [buildDataPackets, fragmented] at built
  | ok fragments =>
      simp only [buildDataPackets, fragmented] at built ⊢
      generalize encoded :
        agent.codec.encodeFragments agent.role.side.sentData
          (agent.messageId + 1) agent.sequence turns fragments =
            outcome at built ⊢
      obtain ⟨last, answer⟩ := outcome
      cases answer with
      | error failure =>
          cases built
      | ok encodedPackets =>
          simp only [Except.map, Except.ok.injEq, Prod.mk.injEq] at built
          obtain ⟨rfl, samePackets⟩ := built
          have begun :
              (agent.beginSend payload).agent =
                { agent with
                  messageId := agent.messageId + 1
                  sending :=
                    agent.sending.set (agent.messageId + 1)
                      { remaining := fragments } } := by
            simp only [beginSend, fragmented]
          have stored :
              (agent.beginSend payload).agent.sending.get?
                  (agent.messageId + 1) =
                some { remaining := fragments } := by
            rw [begun]
            exact OrderedDict.get?_set_same _ _ _
          have sameEncoded :
              (agent.beginSend payload).agent.codec.encodeFragments
                  (agent.beginSend payload).agent.role.side.sentData
                  (agent.messageId + 1)
                  (agent.beginSend payload).agent.sequence turns
                  fragments =
                (last, .ok encodedPackets) := by
            rw [begun]
            exact encoded
          obtain ⟨sending, shape, finished⟩ :=
            afterActions_buildSteps stored alone sameEncoded
          rw [List.nil_append, samePackets] at finished
          refine ⟨fragments.length, sending, ?_, finished⟩
          rw [shape, begun]

/-- The last step of a message is the rest of `send_data`. -/
theorem finishSend_of_sendPackets
    {messageId : Nat}
    {packets : List Bytes}
    {sending : OrderedDict Nat SendJob}
    (finished :
      sending.get? messageId =
        some { remaining := [], packets := packets })
    (agent : Agent)
    (metrics : SendMetrics)
    (now : Time)
    (failing : Option Nat) :
    ({ agent with sending := sending }.finishSend messageId now
          failing).agent =
        { (agent.sendPackets metrics messageId packets now
            failing).agent with
          sending := sending.erase messageId } ∧
      ({ agent with sending := sending }.finishSend messageId now
          failing).sent =
        (agent.sendPackets metrics messageId packets now failing).sent ∧
      ({ agent with sending := sending }.finishSend messageId now
          failing).raised =
        (agent.sendPackets metrics messageId packets now
          failing).raised := by
  simp only [finishSend, finished, sendPackets]
  split
  · rcases agent.sender.enqueue messageId packets now with
      ⟨sender, failure | queued⟩ <;>
      exact ⟨rfl, rfl, rfl⟩
  · cases failing with
    | none =>
        exact ⟨rfl, rfl, rfl⟩
    | some position =>
        dsimp only
        split <;> exact ⟨rfl, rfl, rfl⟩

/-- The steps of one undisturbed call of `send_data`. -/
def sendSteps
    (agent : Agent)
    (payload : Bytes)
    (messageId : Nat)
    (turns : Nat → Turn)
    (count : Nat)
    (now : Time)
    (failing : Option Nat) : Effect :=
  ((agent.beginSend payload).agent.afterActions
    (buildSteps messageId turns count)).finishSend messageId now failing

/--
A call of `send_data` of an undisturbed process is a run of its steps: what
it leaves behind, sends and raises is what they do.
-/
theorem sendData_eq_sendSteps
    {messageId : Nat}
    {packets : List Bytes}
    {passage : Passage}
    (alone : ∀ turn, (passage.turns turn).elsewhere = 0)
    (undisturbed : passage.meanwhile = [])
    (built :
      (agent.buildDataPackets agent.role.side.sentData payload
        passage.turns).2 = .ok (messageId, packets))
    (metrics : SendMetrics) :
    ∃ count sending,
      (agent.sendSteps payload messageId passage.turns count passage.now
          passage.failing).agent =
        { (agent.sendData metrics agent.role.side.sentData payload
            passage).agent with sending := sending } ∧
      (agent.sendSteps payload messageId passage.turns count passage.now
          passage.failing).sent =
        (agent.sendData metrics agent.role.side.sentData payload
          passage).sent ∧
      (agent.sendSteps payload messageId passage.turns count passage.now
          passage.failing).raised =
        (agent.sendData metrics agent.role.side.sentData payload
          passage).raised := by
  obtain ⟨count, sending, shape, finished⟩ :=
    steps_of_buildDataPackets alone built
  generalize outcome :
    agent.buildDataPackets agent.role.side.sentData payload
      passage.turns = builds at built shape
  obtain ⟨after, answer⟩ := builds
  simp only at built shape
  subst built
  have whole :
      agent.sendData metrics agent.role.side.sentData payload passage =
        after.sendPackets metrics messageId packets passage.now
          passage.failing := by
    simp only [sendData, outcome, undisturbed]
    rfl
  refine ⟨count, sending.erase messageId, ?_⟩
  rw [whole, sendSteps, shape]
  exact finishSend_of_sendPackets finished after metrics passage.now
    passage.failing

end Agent

end H3ntun

import H3ntun.Nonces
import H3ntun.SenderQueues
import Mathlib.Data.List.Pairwise

namespace H3ntun

/-!
# The sending threads of one agent

`next_sequence`, `encode` and `_transport_send` are separate steps here, and
every thread keeps between them what it has drawn and encoded.  Any thread may
do anything an agent does to send, in any interleaving with the others; the
counters and the reliable sender are the only state they share.
-/

/-- A control frame or an acknowledgement a thread is about to send. -/
inductive ControlFrame where
  | control (payload : Bytes) (timestampMs : Option Int)
  | ack (sessionId messageId : Nat)
  deriving Repr, DecidableEq

/-- What a thread keeps between two steps. -/
inductive Thread where
  | idle
  /-- In `send_*_control` or `send_ack_*`, after `next_sequence`. -/
  | numbered (frame : ControlFrame) (sequence : Nat)
  /-- In `build_data_packets`, before `next_sequence`. -/
  | building
    (messageId : Nat)
    (remaining : List FragmentSpec)
    (packets : List Bytes)
  /-- In `build_data_packets`, after `next_sequence`. -/
  | fragmentNumbered
    (messageId sequence : Nat)
    (spec : FragmentSpec)
    (remaining : List FragmentSpec)
    (packets : List Bytes)
  /-- Before `_transport_send` of each of some packets. -/
  | sending (packets : List Bytes)
  deriving Repr, DecidableEq

namespace Thread

/-- A sequence number drawn and not yet used. -/
def held? : Thread → Option Nat
  | .numbered _ sequence => some sequence
  | .fragmentNumbered _ sequence _ _ _ => some sequence
  | _ => none

/-- Packets encoded and not yet passed on. -/
def packets : Thread → List Bytes
  | .building _ _ packets => packets
  | .fragmentNumbered _ _ _ _ packets => packets
  | .sending packets => packets
  | _ => []

/-- A thread with packets to pass on, or one that is done. -/
def toSend : List Bytes → Thread
  | [] => .idle
  | packets => .sending packets

@[simp] theorem held?_toSend
    (packets : List Bytes) :
    (toSend packets).held? = none := by
  cases packets <;> rfl

@[simp] theorem packets_toSend
    (packets : List Bytes) :
    (toSend packets).packets = packets := by
  cases packets <;> rfl

end Thread

/-- One process of an agent, as far as its sending threads go. -/
structure Process (ThreadId : Type) where
  side : Side
  codec : FrameCodec
  reliable : Bool
  fragmentPayloadBytes : Nat
  fecEnabled : Bool
  sequence : Nat
  messageId : Nat
  sender : ReliableSender
  thread : ThreadId → Thread

/-- One step of one thread. -/
inductive ThreadAction where
  /-- `next_sequence` for a control frame or an acknowledgement. -/
  | numberControl (frame : ControlFrame)
  | encodeControl (clockMs : Int)
  /-- `send_data` up to and including `fragment_message`. -/
  | beginSend (payload : Bytes)
  /-- `next_sequence` for the next fragment. -/
  | numberFragment
  | encodeFragment (clockMs : Int)
  /-- The end of `build_data_packets` and the call of `enqueue`. -/
  | finishBuilding (now : Time)
  /-- `ReliableSender.pump` in the reliability loop. -/
  | pump (now : Time)
  /-- `ReliableSender.acknowledge` in a receive loop. -/
  | acknowledge (messageId : Nat) (now : Time)
  /-- One `_transport_send`; `stops` if an error ends the caller. -/
  | transportSend (stops : Bool)
  deriving DecidableEq

/-- A successful call of `encode`. -/
structure EncodeCall where
  clockMs : Int
  request : EncodeRequest
  packet : Bytes
  deriving Repr, DecidableEq

/-- What one step of a thread shows. -/
structure SendEvent where
  /-- Value `next_sequence` returned. -/
  drawn : Option Nat := none
  encoded : Option EncodeCall := none
  /-- Packet passed to `_transport_send`. -/
  sent : Option Bytes := none
  deriving DecidableEq

/-- Arguments of `encode` for a control frame or an acknowledgement. -/
def ControlFrame.request
    (frame : ControlFrame)
    (side : Side)
    (sequence : Nat) : EncodeRequest :=
  match frame with
  | .control payload timestampMs => {
      kind := side.sentControl.code
      sequence := sequence
      payload := payload
      timestampMs := timestampMs }
  | .ack sessionId messageId => {
      kind := side.kinds.sentAck.code
      sequence := sequence
      payload :=
        (StructPack.pack ackFormat
          [.int sessionId, .int messageId]).getD [] }

/-- `encode` or `encode_ack` of a control frame or an acknowledgement. -/
def ControlFrame.encode
    (frame : ControlFrame)
    (codec : FrameCodec)
    (side : Side)
    (clockMs : Int)
    (sequence : Nat) : Except Failure Bytes :=
  match frame with
  | .control .. => codec.encode clockMs (frame.request side sequence)
  | .ack sessionId messageId =>
      codec.encodeAck clockMs side.kinds.sentAck sequence sessionId
        messageId

namespace Process

variable {ThreadId : Type} [DecidableEq ThreadId]

/-- Put a thread into another state. -/
def setThread
    (process : Process ThreadId)
    (own : ThreadId)
    (after : Thread) : Process ThreadId :=
  { process with thread := Function.update process.thread own after }

/-- Arguments of `encode` for one fragment of a message. -/
def fragmentRequest
    (process : Process ThreadId)
    (messageId sequence : Nat)
    (spec : FragmentSpec) : EncodeRequest where
  kind := process.side.sentData.code
  sequence := sequence
  payload := spec.payload
  messageId := messageId
  messageLen := some spec.messageLen
  fragmentIndex := spec.fragmentIndex
  fragmentCount := spec.fragmentCount
  flags := spec.flags

/-- One step of a thread; a step its state does not allow does nothing. -/
def act
    (process : Process ThreadId)
    (own : ThreadId) :
    ThreadAction → Process ThreadId × SendEvent
  | .numberControl frame =>
      match process.thread own with
      | .idle =>
          let sequence := process.sequence + 1
          ({ process with sequence := sequence }.setThread own
              (.numbered frame sequence),
            { drawn := some sequence })
      | _ => (process, {})
  | .encodeControl clockMs =>
      match process.thread own with
      | .numbered frame sequence =>
          match frame.encode process.codec process.side clockMs
              sequence with
          | .error _ => (process.setThread own .idle, {})
          | .ok packet =>
              (process.setThread own (.toSend [packet]),
                { encoded := some {
                    clockMs := clockMs
                    request := frame.request process.side sequence
                    packet := packet } })
      | _ => (process, {})
  | .beginSend payload =>
      match process.thread own with
      | .idle =>
          let messageId := process.messageId + 1
          let drawn := { process with messageId := messageId }
          match fragmentMessage payload process.fragmentPayloadBytes
              process.fecEnabled with
          | .error _ => (drawn, {})
          | .ok fragments =>
              (drawn.setThread own (.building messageId fragments []), {})
      | _ => (process, {})
  | .numberFragment =>
      match process.thread own with
      | .building messageId (spec :: remaining) packets =>
          let sequence := process.sequence + 1
          ({ process with sequence := sequence }.setThread own
              (.fragmentNumbered messageId sequence spec remaining
                packets),
            { drawn := some sequence })
      | _ => (process, {})
  | .encodeFragment clockMs =>
      match process.thread own with
      | .fragmentNumbered messageId sequence spec remaining packets =>
          let request := process.fragmentRequest messageId sequence spec
          match process.codec.encode clockMs request with
          | .error _ => (process.setThread own .idle, {})
          | .ok packet =>
              (process.setThread own
                  (.building messageId remaining (packets ++ [packet])),
                { encoded := some {
                    clockMs := clockMs
                    request := request
                    packet := packet } })
      | _ => (process, {})
  | .finishBuilding now =>
      match process.thread own with
      | .building messageId [] packets =>
          if process.reliable then
            ({ process with
                sender :=
                  (process.sender.enqueue messageId packets now).1
                }.setThread own .idle, {})
          else
            (process.setThread own (.toSend packets), {})
      | _ => (process, {})
  | .pump now =>
      match process.thread own with
      | .idle =>
          if process.reliable then
            let (sender, result) := process.sender.pump now
            ({ process with sender := sender }.setThread own
              (.toSend (result.packets.map OutboundPacket.payload)), {})
          else
            (process, {})
      | _ => (process, {})
  | .acknowledge messageId now =>
      ({ process with
          sender := (process.sender.acknowledge messageId now).1 }, {})
  | .transportSend stops =>
      match process.thread own with
      | .sending (packet :: rest) =>
          (process.setThread own
              (if stops then .idle else .toSend rest),
            { sent := some packet })
      | _ => (process, {})

/-- All threads of a process, one step after the other. -/
def machine :
    Machine (Process ThreadId) (ThreadId × ThreadAction) SendEvent where
  step process move := process.act move.1 move.2

end Process

/-- What the threads of a process have shown so far, in order. -/
structure SendHistory where
  /-- Values `next_sequence` returned. -/
  draws : List Nat := []
  /-- Successful calls of `encode`. -/
  calls : List EncodeCall := []
  /-- Packets passed to `_transport_send`. -/
  sent : List Bytes := []

namespace SendHistory

/-- The history after one more step. -/
def record (history : SendHistory) (event : SendEvent) : SendHistory where
  draws := history.draws ++ event.drawn.toList
  calls := history.calls ++ event.encoded.toList
  sent := history.sent ++ event.sent.toList

/-- History of a list of events. -/
def ofEvents (events : List SendEvent) : SendHistory :=
  events.foldl record {}

/-- A packet some call of `encode` returned. -/
def Encoded (history : SendHistory) (packet : Bytes) : Prop :=
  ∃ call ∈ history.calls, call.packet = packet

@[simp] theorem record_nothing
    (history : SendHistory) :
    history.record {} = history := by
  simp [record]

theorem Encoded.record
    {history : SendHistory}
    {packet : Bytes}
    (encoded : history.Encoded packet)
    (event : SendEvent) :
    (history.record event).Encoded packet := by
  obtain ⟨call, member, rfl⟩ := encoded
  exact ⟨call, List.mem_append_left _ member, rfl⟩

end SendHistory

/-- A control frame is encoded from its request. -/
theorem ControlFrame.encode_eq_ok
    {frame : ControlFrame}
    {codec : FrameCodec}
    {side : Side}
    {clockMs : Int}
    {sequence : Nat}
    {packet : Bytes}
    (encoded :
      frame.encode codec side clockMs sequence = .ok packet) :
    codec.encode clockMs (frame.request side sequence) = .ok packet := by
  cases frame with
  | control payload timestampMs =>
      exact encoded
  | ack sessionId messageId =>
      simp only [encode] at encoded
      obtain ⟨payload, packed, isEncoded⟩ :=
        FrameCodec.encodeAck_eq_ok encoded
      simp only [request, packed, Option.getD_some]
      exact isEncoded

theorem ControlFrame.request_sequence
    (frame : ControlFrame)
    (side : Side)
    (sequence : Nat) :
    (frame.request side sequence).sequence = sequence := by
  cases frame <;> rfl

namespace Process

variable {ThreadId : Type} [DecidableEq ThreadId]

/-- Numbers held after one thread has changed. -/
theorem held_setThread
    {process : Process ThreadId}
    {own other : ThreadId}
    {after : Thread}
    {sequence : Nat}
    (isHeld :
      ((process.setThread own after).thread other).held? =
        some sequence) :
    (other = own ∧ after.held? = some sequence) ∨
      other ≠ own ∧ (process.thread other).held? = some sequence := by
  by_cases same : other = own
  · subst same
    simp only [setThread, Function.update_self] at isHeld
    exact .inl ⟨rfl, isHeld⟩
  · simp only [setThread, Function.update_of_ne same] at isHeld
    exact .inr ⟨same, isHeld⟩

/-- Packets carried after one thread has changed. -/
theorem forall_packets_setThread
    {process : Process ThreadId}
    {own : ThreadId}
    {after : Thread}
    {P : Bytes → Prop}
    (ownPackets : ∀ packet ∈ after.packets, P packet)
    (others : ∀ other, ∀ packet ∈ (process.thread other).packets, P packet)
    (other : ThreadId) :
    ∀ packet ∈ ((process.setThread own after).thread other).packets,
      P packet := by
  by_cases same : other = own
  · subst same
    simp only [setThread, Function.update_self]
    exact ownPackets
  · simp only [setThread, Function.update_of_ne same]
    exact others other

/-- What holds of a process and of what its threads have done so far. -/
structure Sound
    (codec : FrameCodec)
    (start : Nat)
    (process : Process ThreadId)
    (history : SendHistory) : Prop where
  sameCodec :
    process.codec = codec
  drawn :
    history.draws = List.range' (start + 1) history.draws.length
  counter :
    process.sequence = start + history.draws.length
  genuine :
    ∀ call ∈ history.calls,
      codec.encode call.clockMs call.request = .ok call.packet
  numbers :
    ∀ call ∈ history.calls, call.request.sequence ≤ process.sequence
  distinct :
    history.calls.Pairwise fun first second =>
      first.request.sequence ≠ second.request.sequence
  held :
    ∀ own sequence,
      (process.thread own).held? = some sequence →
      sequence ≤ process.sequence ∧
        ∀ call ∈ history.calls, call.request.sequence ≠ sequence
  apart :
    ∀ own other sequence,
      (process.thread own).held? = some sequence →
      (process.thread other).held? = some sequence →
      own = other
  threads :
    ∀ own, ∀ packet ∈ (process.thread own).packets,
      history.Encoded packet
  sender :
    process.sender.Carries history.Encoded
  sent :
    ∀ packet ∈ history.sent, history.Encoded packet

/-- A process whose threads have not sent anything yet. -/
structure Started (process : Process ThreadId) : Prop where
  idle :
    ∀ own, process.thread own = .idle
  /-- The counter starts at `secrets.randbits(63)`. -/
  sequence :
    process.sequence < 2 ^ 63
  sender :
    ∃ timeout retries maxPending initialWindow maxWindow,
      ReliableSender.init timeout retries maxPending initialWindow
        maxWindow = .ok process.sender

/-- The invariant after an action of a thread. -/
def SoundAfter
    (process : Process ThreadId)
    (codec : FrameCodec)
    (start : Nat)
    (history : SendHistory)
    (own : ThreadId)
    (action : ThreadAction) : Prop :=
  (process.act own action).1.Sound codec start
    (history.record (process.act own action).2)

namespace Sound

variable
  {codec : FrameCodec}
  {start : Nat}
  {process : Process ThreadId}
  {history : SendHistory}

/-- A thread may give up its number and keep packets that were encoded. -/
theorem setThread
    (sound : process.Sound codec start history)
    (own : ThreadId)
    {after : Thread}
    (notHeld : after.held? = none)
    (encoded : ∀ packet ∈ after.packets, history.Encoded packet) :
    (process.setThread own after).Sound codec start history := by
  have held :
      ∀ other sequence,
        ((process.setThread own after).thread other).held? =
            some sequence →
          (process.thread other).held? = some sequence := by
    intro other sequence isHeld
    rcases held_setThread isHeld with ⟨_, impossible⟩ | ⟨_, before⟩
    · rw [notHeld] at impossible
      cases impossible
    · exact before
  exact {
    sound with
    held := fun other sequence isHeld =>
      sound.held other sequence (held other sequence isHeld)
    apart := fun first second sequence firstHolds secondHolds =>
      sound.apart first second sequence (held _ _ firstHolds)
        (held _ _ secondHolds)
    threads := forall_packets_setThread encoded sound.threads }

omit [DecidableEq ThreadId] in
/-- The sender may change as long as it carries encoded packets. -/
theorem setSender
    (sound : process.Sound codec start history)
    {sender : ReliableSender}
    (carries : sender.Carries history.Encoded) :
    { process with sender := sender }.Sound codec start history :=
  { sound with sender := carries }

/-- A thread draws the next number. -/
theorem draw
    (sound : process.Sound codec start history)
    {own : ThreadId}
    {after : Thread}
    (holds : after.held? = some (process.sequence + 1))
    (samePackets : after.packets = (process.thread own).packets) :
    ({ process with sequence := process.sequence + 1 }.setThread own
        after).Sound codec start
      (history.record { drawn := some (process.sequence + 1) }) := by
  have sameCalls :
      (history.record { drawn := some (process.sequence + 1) }).calls =
        history.calls :=
    List.append_nil _
  have sameSent :
      (history.record { drawn := some (process.sequence + 1) }).sent =
        history.sent :=
    List.append_nil _
  have drawsShape :
      (history.record { drawn := some (process.sequence + 1) }).draws =
        history.draws ++ [process.sequence + 1] :=
    rfl
  have encoded :
      ∀ packet, history.Encoded packet →
        (history.record
          { drawn := some (process.sequence + 1) }).Encoded packet :=
    fun _ isEncoded => isEncoded.record _
  have unused :
      ∀ call ∈ history.calls,
        call.request.sequence ≠ (process.sequence + 1 : Nat) := by
    intro call member same
    have bound := sound.numbers call member
    omega
  have heldCases :
      ∀ other sequence,
        (({ process with sequence := process.sequence + 1 }.setThread own
          after).thread other).held? = some sequence →
        (other = own ∧ sequence = process.sequence + 1) ∨
          (process.thread other).held? = some sequence := by
    intro other sequence isHeld
    rcases held_setThread isHeld with ⟨isOwn, drawn⟩ | ⟨_, before⟩
    · rw [holds] at drawn
      exact .inl ⟨isOwn, (Option.some.inj drawn).symm⟩
    · exact .inr before
  refine {
    sameCodec := sound.sameCodec
    drawn := ?_
    counter := ?_
    genuine := by rw [sameCalls]; exact sound.genuine
    numbers := ?_
    distinct := by rw [sameCalls]; exact sound.distinct
    held := ?_
    apart := ?_
    threads := ?_
    sender := sound.sender.mono encoded
    sent := ?_ }
  · rw [drawsShape, List.length_append, List.length_singleton,
      List.range'_concat, ← sound.drawn, sound.counter, Nat.one_mul,
      Nat.add_right_comm]
  · rw [drawsShape, List.length_append, List.length_singleton,
      ← Nat.add_assoc, ← sound.counter]
    rfl
  · rw [sameCalls]
    intro call member
    have bound := sound.numbers call member
    simp only [Process.setThread]
    omega
  · rw [sameCalls]
    intro other sequence isHeld
    rcases heldCases other sequence isHeld with ⟨_, rfl⟩ | before
    · exact ⟨le_rfl, unused⟩
    · obtain ⟨bound, notUsed⟩ := sound.held other sequence before
      exact ⟨Nat.le_succ_of_le bound, notUsed⟩
  · intro first second sequence firstHolds secondHolds
    rcases heldCases first sequence firstHolds with
      ⟨rfl, rfl⟩ | firstBefore
    · rcases heldCases second _ secondHolds with ⟨rfl, _⟩ | secondBefore
      · rfl
      · have bound := (sound.held second _ secondBefore).1
        omega
    · rcases heldCases second sequence secondHolds with
        ⟨rfl, rfl⟩ | secondBefore
      · have bound := (sound.held first _ firstBefore).1
        omega
      · exact sound.apart first second sequence firstBefore secondBefore
  · refine forall_packets_setThread ?_ fun other packet member =>
      encoded packet (sound.threads other packet member)
    rw [samePackets]
    exact fun packet member =>
      encoded packet (sound.threads own packet member)
  · rw [sameSent]
    exact fun packet member => encoded packet (sound.sent packet member)

/-- A thread encodes under the number it holds and gives the number up. -/
theorem encode
    (sound : process.Sound codec start history)
    {own : ThreadId}
    {after : Thread}
    {call : EncodeCall}
    {sequence : Nat}
    (holds : (process.thread own).held? = some sequence)
    (usesNumber : call.request.sequence = sequence)
    (genuine :
      codec.encode call.clockMs call.request = .ok call.packet)
    (notHeld : after.held? = none)
    (packets :
      ∀ packet ∈ after.packets,
        packet = call.packet ∨ packet ∈ (process.thread own).packets) :
    (process.setThread own after).Sound codec start
      (history.record { encoded := some call }) := by
  have sameDraws :
      (history.record { encoded := some call }).draws = history.draws :=
    List.append_nil _
  have sameSent :
      (history.record { encoded := some call }).sent = history.sent :=
    List.append_nil _
  have callsShape :
      (history.record { encoded := some call }).calls =
        history.calls ++ [call] :=
    rfl
  have encoded :
      ∀ packet, history.Encoded packet →
        (history.record { encoded := some call }).Encoded packet :=
    fun _ isEncoded => isEncoded.record _
  have newEncoded :
      (history.record { encoded := some call }).Encoded call.packet :=
    ⟨call, List.mem_append_right _ (List.mem_singleton_self _), rfl⟩
  obtain ⟨bound, notUsed⟩ := sound.held own sequence holds
  have heldBefore :
      ∀ other number,
        ((process.setThread own after).thread other).held? =
            some number →
          other ≠ own ∧ (process.thread other).held? = some number := by
    intro other number isHeld
    rcases held_setThread isHeld with ⟨_, impossible⟩ | before
    · rw [notHeld] at impossible
      cases impossible
    · exact before
  refine {
    sameCodec := sound.sameCodec
    drawn := by rw [sameDraws]; exact sound.drawn
    counter := by rw [sameDraws]; exact sound.counter
    genuine := ?_
    numbers := ?_
    distinct := ?_
    held := ?_
    apart := ?_
    threads := ?_
    sender := sound.sender.mono encoded
    sent := ?_ }
  · rw [callsShape, List.forall_mem_append]
    exact ⟨sound.genuine, by simpa using genuine⟩
  · rw [callsShape, List.forall_mem_append]
    refine ⟨sound.numbers, ?_⟩
    simp only [List.mem_singleton, forall_eq, usesNumber,
      Process.setThread]
    omega
  · rw [callsShape]
    refine List.pairwise_append.mpr
      ⟨sound.distinct, List.pairwise_singleton _ _, ?_⟩
    intro earlier member last isLast
    rw [List.mem_singleton.mp isLast, usesNumber]
    exact notUsed earlier member
  · rw [callsShape]
    intro other number isHeld
    obtain ⟨different, before⟩ := heldBefore other number isHeld
    obtain ⟨otherBound, otherUnused⟩ := sound.held other number before
    refine ⟨otherBound, List.forall_mem_append.mpr ⟨otherUnused, ?_⟩⟩
    intro last isLast
    rw [List.mem_singleton.mp isLast, usesNumber]
    intro same
    have sameNumber : sequence = number := Int.ofNat_inj.mp same
    subst sameNumber
    exact different (sound.apart other own sequence before holds)
  · intro first second number firstHolds secondHolds
    exact sound.apart first second number
      (heldBefore first number firstHolds).2
      (heldBefore second number secondHolds).2
  · refine forall_packets_setThread ?_ fun other packet member =>
      encoded packet (sound.threads other packet member)
    intro packet member
    rcases packets packet member with rfl | kept
    · exact newEncoded
    · exact encoded packet (sound.threads own packet kept)
  · rw [sameSent]
    exact fun packet member => encoded packet (sound.sent packet member)

omit [DecidableEq ThreadId] in
/-- A packet that was encoded is passed on. -/
theorem send
    (sound : process.Sound codec start history)
    {packet : Bytes}
    (encoded : history.Encoded packet) :
    process.Sound codec start (history.record { sent := some packet }) := by
  have sameDraws :
      (history.record { sent := some packet }).draws = history.draws :=
    List.append_nil _
  have sameCalls :
      (history.record { sent := some packet }).calls = history.calls :=
    List.append_nil _
  have more :
      ∀ other, history.Encoded other →
        (history.record { sent := some packet }).Encoded other :=
    fun _ isEncoded => isEncoded.record _
  refine {
    sameCodec := sound.sameCodec
    drawn := by rw [sameDraws]; exact sound.drawn
    counter := by rw [sameDraws]; exact sound.counter
    genuine := by rw [sameCalls]; exact sound.genuine
    numbers := by rw [sameCalls]; exact sound.numbers
    distinct := by rw [sameCalls]; exact sound.distinct
    held := by rw [sameCalls]; exact sound.held
    apart := sound.apart
    threads := fun own other member =>
      more other (sound.threads own other member)
    sender := sound.sender.mono more
    sent := ?_ }
  intro other member
  rcases List.mem_append.mp member with earlier | isNew
  · exact more other (sound.sent other earlier)
  · rw [List.mem_singleton.mp isNew]
    exact more packet encoded

omit [DecidableEq ThreadId] in
/-- An action may leave everything as it is. -/
theorem unchanged
    (sound : process.Sound codec start history) :
    process.Sound codec start (history.record {}) := by
  rw [SendHistory.record_nothing]
  exact sound

/-- A control frame draws its number. -/
theorem numberControl
    (sound : process.Sound codec start history)
    (own : ThreadId)
    (frame : ControlFrame) :
    process.SoundAfter codec start history own (.numberControl frame) := by
  cases shape : process.thread own with
  | idle =>
      simp only [SoundAfter, act, shape]
      exact sound.draw rfl (by rw [shape]; rfl)
  | _ =>
      simp only [SoundAfter, act, shape]
      exact sound.unchanged

/-- A control frame is encoded under the number drawn for it. -/
theorem encodeControl
    (sound : process.Sound codec start history)
    (own : ThreadId)
    (clockMs : Int) :
    process.SoundAfter codec start history own (.encodeControl clockMs) := by
  cases shape : process.thread own with
  | numbered frame sequence =>
      cases encoded :
          frame.encode process.codec process.side clockMs
            sequence with
      | error failure =>
          simp only [SoundAfter, act, shape, encoded]
          exact sound.unchanged.setThread own rfl (by simp [Thread.packets])
      | ok packet =>
          simp only [SoundAfter, act, shape, encoded]
          refine sound.encode (by rw [shape]; rfl)
            (frame.request_sequence process.side sequence) ?_ rfl ?_
          · rw [← sound.sameCodec]
            exact ControlFrame.encode_eq_ok encoded
          · intro other member
            exact .inl (List.mem_singleton.mp member)
  | _ =>
      simp only [SoundAfter, act, shape]
      exact sound.unchanged

/-- A `send_data` call that begins has encoded nothing yet. -/
theorem beginSend
    (sound : process.Sound codec start history)
    (own : ThreadId)
    (payload : Bytes) :
    process.SoundAfter codec start history own (.beginSend payload) := by
  cases shape : process.thread own with
  | idle =>
      simp only [SoundAfter, act, shape]
      split
      · exact { sound.unchanged with }
      · rename_i fragments _
        have renumbered :
            { process with
              messageId := process.messageId + 1 }.Sound codec start
                (history.record {}) :=
          { sound.unchanged with }
        refine renumbered.setThread own rfl ?_
        simp [Thread.packets]
  | _ =>
      simp only [SoundAfter, act, shape]
      exact sound.unchanged

/-- A fragment draws its number. -/
theorem numberFragment
    (sound : process.Sound codec start history)
    (own : ThreadId) :
    process.SoundAfter codec start history own .numberFragment := by
  cases shape : process.thread own with
  | building messageId remaining packets =>
      cases remaining with
      | nil =>
          simp only [SoundAfter, act, shape]
          exact sound.unchanged
      | cons spec remaining =>
          simp only [SoundAfter, act, shape]
          exact sound.draw rfl (by rw [shape]; rfl)
  | _ =>
      simp only [SoundAfter, act, shape]
      exact sound.unchanged

/-- A fragment is encoded under the number drawn for it. -/
theorem encodeFragment
    (sound : process.Sound codec start history)
    (own : ThreadId)
    (clockMs : Int) :
    process.SoundAfter codec start history own (.encodeFragment clockMs) := by
  cases shape : process.thread own with
  | fragmentNumbered messageId sequence spec remaining packets =>
      cases encoded :
          process.codec.encode clockMs
            (process.fragmentRequest messageId sequence spec) with
      | error failure =>
          simp only [SoundAfter, act, shape, encoded]
          exact sound.unchanged.setThread own rfl (by simp [Thread.packets])
      | ok packet =>
          simp only [SoundAfter, act, shape, encoded]
          refine sound.encode (by rw [shape]; rfl) rfl ?_ rfl ?_
          · rw [← sound.sameCodec]
            exact encoded
          · intro other member
            rw [shape]
            rcases List.mem_append.mp member with earlier | isNew
            · exact .inr earlier
            · exact .inl (List.mem_singleton.mp isNew)
  | _ =>
      simp only [SoundAfter, act, shape]
      exact sound.unchanged

/-- The packets of a message were all encoded when it is queued or sent. -/
theorem finishBuilding
    (sound : process.Sound codec start history)
    (own : ThreadId)
    (now : Time) :
    process.SoundAfter codec start history own (.finishBuilding now) := by
  cases shape : process.thread own with
  | building messageId remaining packets =>
      have held :
          ∀ packet ∈ packets, (history.record {}).Encoded packet := by
        intro packet member
        apply sound.unchanged.threads own
        rw [shape]
        exact member
      cases remaining with
      | nil =>
          simp only [SoundAfter, act, shape]
          split
          · exact (sound.unchanged.setSender
              (sound.unchanged.sender.enqueue held messageId now)).setThread
                own rfl (by simp [Thread.packets])
          · exact sound.unchanged.setThread own (by simp) (by simpa using held)
      | cons spec remaining =>
          simp only [SoundAfter, act, shape]
          exact sound.unchanged
  | _ =>
      simp only [SoundAfter, act, shape]
      exact sound.unchanged

/-- The packets a `pump` takes were encoded when they were queued. -/
theorem pump
    (sound : process.Sound codec start history)
    (own : ThreadId)
    (now : Time) :
    process.SoundAfter codec start history own (.pump now) := by
  cases shape : process.thread own with
  | idle =>
      simp only [SoundAfter, act, shape]
      split
      · obtain ⟨carries, pumped⟩ := sound.unchanged.sender.pump now
        refine (sound.unchanged.setSender carries).setThread own (by simp) ?_
        intro packet member
        rw [Thread.packets_toSend] at member
        obtain ⟨outbound, inResult, rfl⟩ := List.mem_map.mp member
        exact pumped outbound inResult
      · exact sound.unchanged
  | _ =>
      simp only [SoundAfter, act, shape]
      exact sound.unchanged

/-- An acknowledgement takes packets away. -/
theorem acknowledge
    (sound : process.Sound codec start history)
    (own : ThreadId)
    (messageId : Nat)
    (now : Time) :
    process.SoundAfter codec start history own
      (.acknowledge messageId now) :=
  sound.unchanged.setSender
    (sound.unchanged.sender.acknowledge messageId now)

/-- A thread passes on the packets it holds. -/
theorem transportSend
    (sound : process.Sound codec start history)
    (own : ThreadId)
    (stops : Bool) :
    process.SoundAfter codec start history own (.transportSend stops) := by
  cases shape : process.thread own with
  | sending packets =>
      have held :
          ∀ packet ∈ packets, history.Encoded packet := by
        intro packet member
        apply sound.threads own
        rw [shape]
        exact member
      cases packets with
      | nil =>
          simp only [SoundAfter, act, shape]
          exact sound.unchanged
      | cons packet rest =>
          simp only [SoundAfter, act, shape]
          have sends := sound.send (held packet List.mem_cons_self)
          split
          · exact sends.setThread own rfl (by simp [Thread.packets])
          · refine sends.setThread own (by simp) ?_
            intro other member
            rw [Thread.packets_toSend] at member
            exact SendHistory.Encoded.record
              (held other (List.mem_cons_of_mem _ member)) _
  | _ =>
      simp only [SoundAfter, act, shape]
      exact sound.unchanged

/-- Every step of every thread keeps this. -/
theorem step
    (sound : process.Sound codec start history)
    (own : ThreadId)
    (action : ThreadAction) :
    process.SoundAfter codec start history own action := by
  cases action with
  | numberControl frame =>
      exact sound.numberControl own frame
  | encodeControl clockMs =>
      exact sound.encodeControl own clockMs
  | beginSend payload =>
      exact sound.beginSend own payload
  | numberFragment =>
      exact sound.numberFragment own
  | encodeFragment clockMs =>
      exact sound.encodeFragment own clockMs
  | finishBuilding now =>
      exact sound.finishBuilding own now
  | pump now =>
      exact sound.pump own now
  | acknowledge messageId now =>
      exact sound.acknowledge own messageId now
  | transportSend stops =>
      exact sound.transportSend own stops

/-- Every run of the threads keeps this. -/
theorem run
    (sound : process.Sound codec start history)
    (moves : List (ThreadId × ThreadAction)) :
    (machine.run process moves).Sound codec start
      ((machine.answers process moves).foldl SendHistory.record
        history) := by
  induction moves generalizing process history with
  | nil =>
      exact sound
  | cons move rest inductionHypothesis =>
      exact inductionHypothesis (sound.step move.1 move.2)

omit [DecidableEq ThreadId] in
/-- A process just started has drawn and encoded nothing. -/
theorem of_started
    (started : process.Started) :
    process.Sound process.codec process.sequence {} := by
  obtain ⟨_, _, _, _, _, created⟩ := started.sender
  obtain ⟨queue, pending⟩ := ReliableSender.empty_of_init created
  refine {
    sameCodec := rfl
    drawn := rfl
    counter := rfl
    genuine := ?_
    numbers := ?_
    distinct := List.Pairwise.nil
    held := ?_
    apart := ?_
    threads := ?_
    sender := .of_empty queue pending
    sent := ?_ }
  · intro call member
    cases member
  · intro call member
    cases member
  · intro own sequence isHeld
    rw [started.idle own] at isHeld
    cases isHeld
  · intro own other sequence isHeld
    rw [started.idle own] at isHeld
    cases isHeld
  · intro own packet member
    rw [started.idle own] at member
    cases member
  · intro packet member
    cases member

omit [DecidableEq ThreadId] in
/-- Different calls of `encode` encrypt under different nonces. -/
theorem nonce_ne
    (sound : process.Sound codec start history)
    {first second : EncodeCall}
    (firstMember : first ∈ history.calls)
    (secondMember : second ∈ history.calls)
    (different : first ≠ second) :
    codec.requestNonce first.request ≠
      codec.requestNonce second.request := by
  have symmetric :
      Std.Symm fun first second : EncodeCall =>
        first.request.sequence ≠ second.request.sequence :=
    ⟨fun _ _ differ => differ.symm⟩
  have sequences :=
    sound.distinct.forall firstMember secondMember different
  intro same
  exact sequences (FrameCodec.sequence_of_requestNonce_eq
    (sound.genuine first firstMember)
    (sound.genuine second secondMember) same)

end Sound

/--
In any interleaving of the threads of a process that draws fewer than `2 ^ 63`
sequence numbers, these numbers increase and fit in 64 bits, and any two
packets passed to `_transport_send` are the packet of one call of `encode` or
of two calls with different nonces.
-/
theorem no_nonce_used_twice
    {process : Process ThreadId}
    (started : process.Started)
    (moves : List (ThreadId × ThreadAction))
    (few :
      (SendHistory.ofEvents
        (machine.answers process moves)).draws.length < 2 ^ 63) :
    let history :=
      SendHistory.ofEvents (machine.answers process moves)
    history.draws.Pairwise (· < ·) ∧
      (∀ sequence ∈ history.draws, sequence < 2 ^ 64) ∧
      (∀ call ∈ history.calls,
        process.codec.encode call.clockMs call.request =
          .ok call.packet) ∧
      ∀ first ∈ history.sent, ∀ second ∈ history.sent,
        ∃ call ∈ history.calls, ∃ other ∈ history.calls,
          call.packet = first ∧ other.packet = second ∧
            (call = other ∨
              process.codec.requestNonce call.request ≠
                process.codec.requestNonce other.request) := by
  intro history
  have sound :
      (machine.run process moves).Sound process.codec process.sequence
        history :=
    (Sound.of_started started).run moves
  refine ⟨?_, ?_, sound.genuine, ?_⟩
  · rw [sound.drawn]
    exact List.pairwise_lt_range'
  · intro sequence member
    rw [sound.drawn, List.mem_range'_1] at member
    have startFits := started.sequence
    have bound : history.draws.length < 2 ^ 63 := few
    omega
  · intro first firstSent second secondSent
    obtain ⟨call, callMember, samePacket⟩ := sound.sent first firstSent
    obtain ⟨other, otherMember, sameOther⟩ :=
      sound.sent second secondSent
    refine ⟨call, callMember, other, otherMember, samePacket, sameOther,
      ?_⟩
    by_cases same : call = other
    · exact .inl same
    · exact .inr (sound.nonce_ne callMember otherMember same)

end Process

/--
The threads of an agent between two of its steps: one for each unfinished
`send_data` call, and one for everything else.
-/
def Agent.process (agent : Agent) : Process (Option Nat) where
  side := agent.role.side
  codec := agent.codec
  reliable := agent.reliable
  fragmentPayloadBytes := agent.fragmentPayloadBytes
  fecEnabled := agent.fecEnabled
  sequence := agent.sequence
  messageId := agent.messageId
  sender := agent.sender
  thread
    | none => .idle
    | some messageId =>
        match agent.sending.get? messageId with
        | none => .idle
        | some job => .building messageId job.remaining job.packets

namespace Agent

open Process (machine)

/-- A transmission of an agent is three steps of one thread. -/
theorem process_transmit
    (agent : Agent)
    (frame : ControlFrame)
    (surroundings : Surroundings) :
    let effect :=
      agent.transmit
        (frame.encode agent.codec agent.role.side surroundings.clockMs)
        surroundings
    let moves : List (Option Nat × ThreadAction) :=
      [(none, .numberControl frame),
        (none, .encodeControl surroundings.clockMs),
        (none, .transportSend surroundings.outerFails)]
    machine.run agent.process moves = effect.agent.process ∧
      (SendHistory.ofEvents (machine.answers agent.process moves)).sent =
        effect.sent := by
  intro effect moves
  have idle : agent.process.thread none = .idle := rfl
  have codec : agent.process.codec = agent.codec := rfl
  have side : agent.process.side = agent.role.side := rfl
  have sequence : agent.process.sequence = agent.sequence := rfl
  have unchanged :
      Function.update agent.process.thread none .idle =
        agent.process.thread :=
    Function.update_eq_self none agent.process.thread
  cases encoded :
      frame.encode agent.codec agent.role.side surroundings.clockMs
        (agent.sequence + 1) with
  | error failure =>
      simp only [effect, transmit, encoded, moves, Machine.run,
        Machine.answers, machine, Process.act, idle, Process.setThread,
        Function.update_self, Function.update_idem, codec, side, sequence,
        unchanged]
      exact ⟨rfl, rfl⟩
  | ok packet =>
      cases surroundings.outerFails <;>
        simp only [effect, transmit, encoded, moves, Machine.run,
          Machine.answers, machine, Process.act, idle, Process.setThread,
          Function.update_self, Function.update_idem, codec, side,
          sequence, Thread.toSend, ite_self, unchanged] <;>
        exact ⟨rfl, rfl⟩

/-- Where one job changes, the thread of its call does. -/
theorem thread_of_change
    {agent after : Agent}
    {messageId : Nat}
    {thread : Thread}
    (here : after.process.thread (some messageId) = thread)
    (others :
      ∀ other, other ≠ messageId →
        after.sending.get? other = agent.sending.get? other) :
    after.process.thread =
      Function.update agent.process.thread (some messageId) thread := by
  funext own
  cases own with
  | none =>
      rfl
  | some other =>
      by_cases same : other = messageId
      · rw [same, Function.update_self]
        exact here
      · have different : some other ≠ some messageId := by
          simpa using same
        rw [Function.update_of_ne different]
        simp [process, others other same]

/-- The thread of a `send_data` call follows its job. -/
theorem thread_of_set
    {agent after : Agent}
    {messageId : Nat}
    {job : SendJob}
    (stored : after.sending = agent.sending.set messageId job) :
    after.process.thread =
      Function.update agent.process.thread (some messageId)
        (.building messageId job.remaining job.packets) := by
  apply thread_of_change
  · simp [process, stored]
  · intro other different
    rw [stored, OrderedDict.get?_set_other _ different]

/-- The thread of a finished `send_data` call is idle. -/
theorem thread_of_erase
    {agent after : Agent}
    {messageId : Nat}
    (erased : after.sending = agent.sending.erase messageId) :
    after.process.thread =
      Function.update agent.process.thread (some messageId) .idle := by
  apply thread_of_change
  · simp [process, erased]
  · intro other different
    rw [erased, OrderedDict.get?_erase_other _ different]

/-- A turn of `build_data_packets` is two steps of its thread. -/
theorem process_buildPacket
    (agent : Agent)
    (messageId : Nat)
    (clockMs : Int) :
    machine.run agent.process
        [(some messageId, .numberFragment),
          (some messageId, .encodeFragment clockMs)] =
      (agent.buildPacket messageId clockMs).agent.process := by
  have codec : agent.process.codec = agent.codec := rfl
  have sequence : agent.process.sequence = agent.sequence := rfl
  have thread :
      agent.process.thread (some messageId) =
        match agent.sending.get? messageId with
        | none => .idle
        | some job => .building messageId job.remaining job.packets :=
    rfl
  cases found : agent.sending.get? messageId with
  | none =>
      rw [found] at thread
      simp only [Machine.run, machine, Process.act, thread, buildPacket,
        found]
  | some job =>
      obtain ⟨remaining, packets⟩ := job
      rw [found] at thread
      cases remaining with
      | nil =>
          simp only [Machine.run, machine, Process.act, thread,
            buildPacket, found]
      | cons spec remaining =>
          have side : agent.process.side = agent.role.side := rfl
          cases encoded :
              agent.codec.encode clockMs
                (agent.fragmentRequest messageId (agent.sequence + 1)
                  spec) with
          | error failure =>
              simp only [fragmentRequest] at encoded
              have sameThread := thread_of_erase
                (rfl :
                  { agent with
                    sequence := agent.sequence + 1
                    sending :=
                      agent.sending.erase messageId }.sending =
                    agent.sending.erase messageId)
              simp only [Machine.run, machine, Process.act, thread,
                sequence, Process.setThread, Function.update_self,
                Function.update_idem, Process.fragmentRequest, side,
                codec, encoded, buildPacket, found, fragmentRequest,
                ← sameThread]
              rfl
          | ok packet =>
              simp only [fragmentRequest] at encoded
              have sameThread := thread_of_set
                (rfl :
                  { agent with
                    sequence := agent.sequence + 1
                    sending :=
                      agent.sending.set messageId {
                        remaining := remaining
                        packets := packets ++ [packet] } }.sending =
                    agent.sending.set messageId _)
              simp only [Machine.run, machine, Process.act, thread,
                sequence, Process.setThread, Function.update_self,
                Function.update_idem, Process.fragmentRequest, side,
                codec, encoded, buildPacket, found, fragmentRequest,
                ← sameThread]
              rfl

/-- The end of a reliable `send_data` call is one step of its thread. -/
theorem process_finishSend
    (agent : Agent)
    (messageId : Nat)
    (now : Time)
    (failing : Option Nat)
    (reliable : agent.reliable = true) :
    machine.run agent.process [(some messageId, .finishBuilding now)] =
      (agent.finishSend messageId now failing).agent.process := by
  have isReliable : agent.process.reliable = true := reliable
  have sender : agent.process.sender = agent.sender := rfl
  have thread :
      agent.process.thread (some messageId) =
        match agent.sending.get? messageId with
        | none => .idle
        | some job => .building messageId job.remaining job.packets :=
    rfl
  cases found : agent.sending.get? messageId with
  | none =>
      rw [found] at thread
      simp only [Machine.run, machine, Process.act, thread, finishSend,
        found]
  | some job =>
      obtain ⟨remaining, packets⟩ := job
      rw [found] at thread
      cases remaining with
      | cons spec remaining =>
          simp only [Machine.run, machine, Process.act, thread,
            finishSend, found]
      | nil =>
          have sameThread := thread_of_erase
            (rfl :
              { agent with
                sending := agent.sending.erase messageId }.sending =
                agent.sending.erase messageId)
          simp only [Machine.run, machine, Process.act, thread,
            isReliable, ↓reduceIte, sender, Process.setThread, finishSend,
            found, reliable, ← sameThread]
          rfl

/-- A thread with packets passes them on one by one. -/
theorem run_transportSend
    (process : Process (Option Nat))
    (own : Option Nat)
    (packets : List Bytes)
    (history : SendHistory) :
    machine.run (process.setThread own (.toSend packets))
        (List.replicate packets.length (own, .transportSend false)) =
        process.setThread own .idle ∧
      ((machine.answers (process.setThread own (.toSend packets))
          (List.replicate packets.length
            (own, .transportSend false))).foldl SendHistory.record
              history).sent = history.sent ++ packets := by
  induction packets generalizing history with
  | nil =>
      exact ⟨rfl, (List.append_nil _).symm⟩
  | cons packet rest inductionHypothesis =>
      have step :
          machine.step (process.setThread own (.toSend (packet :: rest)))
              (own, .transportSend false) =
            (process.setThread own (.toSend rest),
              { sent := some packet }) := by
        simp [machine, Process.act, Process.setThread, Thread.toSend]
      obtain ⟨runs, shows⟩ :=
        inductionHypothesis (history.record { sent := some packet })
      rw [List.length_cons, List.replicate_succ]
      simp only [Machine.run, Machine.answers, step, List.foldl_cons]
      refine ⟨runs, ?_⟩
      rw [shows]
      simp [SendHistory.record]

/--
An iteration of the reliability loop is a `pump` and one `_transport_send` for
each packet.
-/
theorem process_pump
    (agent : Agent)
    (now : Time) :
    let moves : List (Option Nat × ThreadAction) :=
      (none, .pump now) ::
        List.replicate (agent.pump now).sent.length
          (none, .transportSend false)
    machine.run agent.process moves = (agent.pump now).agent.process ∧
      (SendHistory.ofEvents (machine.answers agent.process moves)).sent =
        (agent.pump now).sent := by
  intro moves
  have idle : agent.process.thread none = .idle := rfl
  have sender : agent.process.sender = agent.sender := rfl
  cases reliable : agent.reliable with
  | false =>
      have notReliable : agent.process.reliable = false := reliable
      simp [moves, pump, reliable, Machine.run, Machine.answers, machine,
        Process.act, idle, notReliable, SendHistory.ofEvents]
  | true =>
      have isReliable : agent.process.reliable = true := reliable
      have step :
          machine.step agent.process (none, .pump now) =
            ({ agent.process with
                sender := (agent.sender.pump now).1 }.setThread none
                  (.toSend ((agent.sender.pump now).2.packets.map
                    OutboundPacket.payload)), {}) := by
        simp only [machine, Process.act, idle, isReliable, ↓reduceIte,
          sender]
      obtain ⟨runs, shows⟩ :=
        run_transportSend
          { agent.process with sender := (agent.sender.pump now).1 }
          none
          ((agent.sender.pump now).2.packets.map OutboundPacket.payload)
          {}
      simp only [moves, pump, reliable, ↓reduceIte, Machine.run,
        Machine.answers, step, SendHistory.ofEvents, List.foldl_cons,
        SendHistory.record_nothing]
      refine ⟨?_, shows.trans (List.nil_append _)⟩
      rw [runs, Process.setThread]
      have unchanged :
          Function.update agent.process.thread none .idle =
            agent.process.thread :=
        Function.update_eq_self none agent.process.thread
      rw [unchanged]
      simp only [process, reliable]

end Agent

namespace Process

/-- A process just started over the stand-in libraries. -/
def plain : Process Nat where
  side := .iran
  codec := (Agent.plain .iran).codec
  reliable := true
  fragmentPayloadBytes := 256
  fecEnabled := true
  sequence := 0
  messageId := 0
  sender := .fresh
  thread _ := .idle

theorem plain_started :
    plain.Started where
  idle _ := rfl
  sequence := by decide
  sender := ⟨_, _, _, _, _, ReliableSender.init_fresh⟩

/--
A keepalive is numbered before and encoded after a data packet, which is sent
twice.
-/
def interleavedMoves : List (Nat × ThreadAction) :=
  [(0, .numberControl (.control [] none)),
    (1, .beginSend [1, 2, 3]), (1, .numberFragment),
    (1, .encodeFragment 1000), (0, .encodeControl 1001),
    (1, .finishBuilding 0), (2, .pump 0), (2, .transportSend false),
    (0, .transportSend false), (2, .pump 1), (2, .transportSend false)]

/-- The two copies of the data packet come from one call of `encode`. -/
theorem no_nonce_used_twice_interleaved :
    (SendHistory.ofEvents
        (machine.answers plain interleavedMoves)).sent.length = 3 ∧
      ∀ first ∈
          (SendHistory.ofEvents
            (machine.answers plain interleavedMoves)).sent,
        ∀ second ∈
            (SendHistory.ofEvents
              (machine.answers plain interleavedMoves)).sent,
          ∃ call ∈
              (SendHistory.ofEvents
                (machine.answers plain interleavedMoves)).calls,
            ∃ other ∈
                (SendHistory.ofEvents
                  (machine.answers plain interleavedMoves)).calls,
              call.packet = first ∧ other.packet = second ∧
                (call = other ∨
                  plain.codec.requestNonce call.request ≠
                    plain.codec.requestNonce other.request) :=
  ⟨by decide +kernel,
    (no_nonce_used_twice plain_started interleavedMoves
      (by decide +kernel)).2.2.2⟩

end Process

end H3ntun

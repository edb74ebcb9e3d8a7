import H3ntun.Configuration
import H3ntun.SenderDeadlines
import H3ntun.World

namespace H3ntun

/-!
# Age of a pumped packet

A packet gets its timestamp when it is built.  It waits for the end of its
`send_data` call, in the queue of the sender, and for its retransmissions; the
peer refuses it when all this takes longer than the clock skew it accepts.
-/

/-- Wall clock, in milliseconds, at a reading of the monotonic clock. -/
def wallClock (offset : Rat) (time : Time) : Int :=
  ⌊(time + offset) * 1000⌋

theorem wallClock_mono
    (offset : Rat)
    {earlier later : Time}
    (inOrder : earlier ≤ later) :
    wallClock offset earlier ≤ wallClock offset later :=
  Int.floor_le_floor (by linarith)

/-- Whole milliseconds pass on the wall clock as on the monotonic clock. -/
theorem wallClock_le_add
    (offset : Rat)
    {earlier later : Time}
    {milliseconds : Int}
    (within : (later - earlier) * 1000 ≤ milliseconds) :
    wallClock offset later ≤ wallClock offset earlier + milliseconds := by
  rw [wallClock, wallClock, ← Int.floor_add_intCast]
  exact Int.floor_le_floor (by linarith)

/-- Readings of the clocks that decide how old a packet is. -/
def Action.ReadsAt (offset : Rat) (time : Time) : Action → Prop
  | .buildPacket _ clockMs => clockMs = wallClock offset time
  | .finishSend _ now _ => now = time
  | .pump now => now = time
  | _ => True

instance (offset : Rat) (time : Time) :
    ∀ action, Decidable (Action.ReadsAt offset time action)
  | .buildPacket _ clockMs =>
      inferInstanceAs (Decidable (clockMs = wallClock offset time))
  | .finishSend _ now _ => inferInstanceAs (Decidable (now = time))
  | .pump now => inferInstanceAs (Decidable (now = time))
  | .innerDatagram .. | .keepalive _ | .cleanup _ | .receive .. =>
      isTrue trivial

/-- `send_data` is over a delay after it built any of its packets. -/
def SentSoon (delay : Rat) (earlier later : Time × Action) : Prop :=
  match earlier.2, later.2 with
  | .buildPacket built _, .finishSend sent _ _ =>
      built = sent → later.1 ≤ earlier.1 + delay
  | _, _ => True

instance (delay : Rat) (earlier later : Time × Action) :
    Decidable (SentSoon delay earlier later) := by
  unfold SentSoon
  split <;> infer_instance

/-- Times of the calls of `pump`. -/
def pumpTimes (moves : List (Time × Action)) : List Time :=
  moves.filterMap fun
    | (time, .pump _) => some time
    | _ => none

/-- Time of the last call of `pump`, or the start. -/
def lastPump (start : Time) (moves : List (Time × Action)) : Time :=
  (pumpTimes moves).getLastD start

/--
Actions of one agent from a start on, with calls of `pump` at most a gap
apart and `send_data` calls that take at most a delay.
-/
structure Punctual
    (gap delay offset : Rat)
    (start : Time)
    (moves : List (Time × Action)) : Prop where
  nondecreasing :
    (start :: moves.map Prod.fst).Pairwise (· ≤ ·)
  reads :
    ∀ move ∈ moves, move.2.ReadsAt offset move.1
  pumps :
    (start :: pumpTimes moves).IsChain fun earlier later =>
      later ≤ earlier + gap
  sends :
    moves.Pairwise (SentSoon delay)

theorem pumpTimes_append
    (earlier later : List (Time × Action)) :
    pumpTimes (earlier ++ later) = pumpTimes earlier ++ pumpTimes later :=
  List.filterMap_append

namespace Punctual

variable
  {gap delay offset : Rat}
  {start time : Time}
  {earlier later moves : List (Time × Action)}
  {action : Action}

/-- The first actions of a punctual agent are punctual. -/
theorem of_append
    (punctual : Punctual gap delay offset start (earlier ++ later)) :
    Punctual gap delay offset start earlier where
  nondecreasing := by
    have ordered := punctual.nondecreasing
    rw [List.map_append, ← List.cons_append] at ordered
    exact (List.pairwise_append.mp ordered).1
  reads move member :=
    punctual.reads move (List.mem_append_left _ member)
  pumps := by
    have chain := punctual.pumps
    rw [pumpTimes_append, ← List.cons_append] at chain
    exact (List.isChain_append.mp chain).1
  sends := (List.pairwise_append.mp punctual.sends).1

/-- Every earlier action was made before the last one. -/
theorem le_last
    (punctual :
      Punctual gap delay offset start (earlier ++ [(time, action)]))
    {before : Time}
    (member : before ∈ start :: earlier.map Prod.fst) :
    before ≤ time := by
  have ordered := punctual.nondecreasing
  rw [List.map_append, ← List.cons_append] at ordered
  exact (List.pairwise_append.mp ordered).2.2 before member time
    (List.mem_singleton_self _)

theorem lastPump_mem
    (start : Time)
    (moves : List (Time × Action)) :
    lastPump start moves ∈ start :: moves.map Prod.fst := by
  have included : ∀ time ∈ pumpTimes moves, time ∈ moves.map Prod.fst := by
    intro time member
    obtain ⟨⟨moved, action⟩, inMoves, isPump⟩ :=
      List.mem_filterMap.mp member
    split at isPump
    · rename_i shape
      cases isPump
      exact List.mem_map.mpr ⟨_, inMoves, congrArg Prod.fst shape⟩
    · cases isPump
  rcases List.mem_cons.mp List.getLastD_mem_cons with isStart | isPump
  · exact List.mem_cons.mpr (.inl isStart)
  · exact List.mem_cons_of_mem _ (included _ isPump)

/-- The last `pump` was made before now. -/
theorem lastPump_le
    (punctual :
      Punctual gap delay offset start (earlier ++ [(time, action)])) :
    lastPump start earlier ≤ time :=
  punctual.le_last (lastPump_mem start earlier)

/-- The next `pump` is made at most a gap later. -/
theorem pump_soon
    {now : Time}
    (punctual :
      Punctual gap delay offset start (earlier ++ [(time, .pump now)])) :
    time ≤ lastPump start earlier + gap := by
  have chain := punctual.pumps
  rw [pumpTimes_append, ← List.cons_append] at chain
  refine (List.isChain_append.mp chain).2.2 _ ?_ time rfl
  rw [List.getLast?_cons, lastPump, List.getLastD_eq_getLast?]
  rfl

/-- A `send_data` call ends soon after it built a packet. -/
theorem sent_soon
    {messageId : Nat}
    {now : Time}
    {failing : Option Nat}
    (punctual :
      Punctual gap delay offset start
        (earlier ++ [(time, .finishSend messageId now failing)]))
    {built : Time}
    {clockMs : Int}
    (member : (built, .buildPacket messageId clockMs) ∈ earlier) :
    built ≤ time ∧ time ≤ built + delay := by
  refine ⟨punctual.le_last ?_, ?_⟩
  · exact List.mem_cons_of_mem _ (List.mem_map_of_mem member)
  · exact (List.pairwise_append.mp punctual.sends).2.2 _ member _
      (List.mem_singleton_self _) rfl

end Punctual

namespace Agent

/-- The actions of one agent, each at a time. -/
def timeline : Machine Agent (Time × Action) Effect where
  step agent move := ((agent.act move.2).agent, agent.act move.2)

end Agent

/--
A frame whose packet a `send_data` call of a run encoded at a time and stamped
with the reading of the wall clock at that time.
-/
structure Frame.BuiltAt
    (origin : Agent)
    (offset : Rat)
    (moves : List (Time × Action))
    (messageId : Nat)
    (built : Time)
    (frame : Frame) : Prop where
  move :
    ∃ before clockMs after,
      moves = before ++ (built, .buildPacket messageId clockMs) :: after ∧
        ((Agent.timeline.run origin before).act
            (.buildPacket messageId clockMs)).sealed =
          some (frame.wire origin.codec.primitives origin.codec.aead)
  valid :
    frame.Valid
  ownTunnel :
    frame.tunnelId = origin.codec.tunnelId
  message :
    frame.messageId = messageId
  timestamp :
    (frame.timestampMs : Int) = wallClock offset built

theorem Frame.BuiltAt.append
    {origin : Agent}
    {offset : Rat}
    {moves : List (Time × Action)}
    {messageId : Nat}
    {built : Time}
    {frame : Frame}
    (isBuilt : frame.BuiltAt origin offset moves messageId built)
    (later : List (Time × Action)) :
    frame.BuiltAt origin offset (moves ++ later) messageId built :=
  { isBuilt with
    move := by
      obtain ⟨before, clockMs, after, rfl, encoded⟩ := isBuilt.move
      exact ⟨before, clockMs, after ++ later, List.append_assoc .., encoded⟩ }

/-- The call that built a frame is one of the moves. -/
theorem Frame.BuiltAt.mem_moves
    {origin : Agent}
    {offset : Rat}
    {moves : List (Time × Action)}
    {messageId : Nat}
    {built : Time}
    {frame : Frame}
    (isBuilt : frame.BuiltAt origin offset moves messageId built) :
    ∃ clockMs, (built, .buildPacket messageId clockMs) ∈ moves := by
  obtain ⟨before, clockMs, after, rfl, _⟩ := isBuilt.move
  exact ⟨clockMs, List.mem_append_right _ List.mem_cons_self⟩

/-- A packet was built at most a delay before it was queued. -/
def StampedBy
    (origin : Agent)
    (offset delay : Rat)
    (moves : List (Time × Action))
    (packet : Bytes)
    (queuedAt : Time) : Prop :=
  ∃ messageId built, ∃ frame : Frame,
    frame.BuiltAt origin offset moves messageId built ∧
      packet = frame.wire origin.codec.primitives origin.codec.aead ∧
      built ≤ queuedAt ∧
      queuedAt ≤ built + delay

namespace Agent

/-- What is known of the packets of an agent after a run from its origin. -/
structure Aging
    (pace : Pace)
    (agent origin : Agent)
    (offset delay : Rat)
    (start : Time)
    (moves : List (Time × Action)) : Prop where
  reached :
    agent = timeline.run origin moves
  sameCodec :
    agent.codec = origin.codec
  reliable :
    agent.reliable = true
  sending :
    ∀ messageId job,
      agent.sending.get? messageId = some job →
      ∀ packet ∈ job.packets,
        ∃ built, ∃ frame : Frame,
          frame.BuiltAt origin offset moves messageId built ∧
            packet =
              frame.wire origin.codec.primitives origin.codec.aead
  sender :
    agent.sender.OnTime pace (StampedBy origin offset delay moves)
      (lastPump start moves)

namespace Aging

variable
  {pace : Pace}
  {origin : Agent}
  {offset delay : Rat}
  {start time : Time}
  {moves : List (Time × Action)}
  {agent : Agent}

/-- The same packets are known after one more move. -/
theorem sending_append
    (aging : agent.Aging pace origin offset delay start moves)
    (later : List (Time × Action))
    {messageId : Nat}
    {job : SendJob}
    (found : agent.sending.get? messageId = some job) :
    ∀ packet ∈ job.packets,
      ∃ built, ∃ frame : Frame,
        frame.BuiltAt origin offset (moves ++ later) messageId built ∧
          packet = frame.wire origin.codec.primitives origin.codec.aead := by
  intro packet member
  obtain ⟨built, frame, isBuilt, shape⟩ :=
    aging.sending messageId job found packet member
  exact ⟨built, frame, isBuilt.append later, shape⟩

/-- Messages stay on time in a move that is no `pump`. -/
theorem sender_append
    (aging : agent.Aging pace origin offset delay start moves)
    {action : Action}
    (notPump : pumpTimes [(time, action)] = []) :
    agent.sender.OnTime pace
      (StampedBy origin offset delay (moves ++ [(time, action)]))
      (lastPump start (moves ++ [(time, action)])) := by
  have samePump :
      lastPump start (moves ++ [(time, action)]) =
        lastPump start moves := by
    rw [lastPump, pumpTimes_append, notPump, List.append_nil, lastPump]
  rw [samePump]
  refine aging.sender.mono ?_
  rintro packet queuedAt ⟨messageId, built, frame, isBuilt, rest⟩
  exact ⟨messageId, built, frame, isBuilt.append _, rest⟩

/-- The run goes on with one more move. -/
theorem reached_act
    (aging : agent.Aging pace origin offset delay start moves)
    (time : Time)
    (action : Action) :
    (agent.act action).agent =
      timeline.run origin (moves ++ [(time, action)]) := by
  rw [Machine.run_concat, ← aging.reached]
  rfl

/-- Codecs do not change. -/
theorem codec_act
    (aging : agent.Aging pace origin offset delay start moves)
    (action : Action) :
    (agent.act action).agent.codec = origin.codec := by
  have sameCodec :
      (agent.act action).agent.codec = agent.codec :=
    (agent.sends_act action).sameCodec
  exact sameCodec.trans aging.sameCodec

/-- A move that at most frees a message keeps what is known. -/
theorem reply
    (aging : agent.Aging pace origin offset delay start moves)
    {action : Action}
    (notPump : pumpTimes [(time, action)] = [])
    (replies : (agent.act action).Replies agent) :
    (agent.act action).agent.Aging pace origin offset delay start
      (moves ++ [(time, action)]) := by
  have unsent := aging.sender_append notPump
  obtain ⟨reply, _, sameMode⟩ := replies
  generalize shape : (agent.act action).agent.outbox = after at reply
  have sameSending := congrArg Outbox.sending shape
  have sameSender := congrArg Outbox.sender shape
  simp only [outbox] at sameSending sameSender
  refine ⟨aging.reached_act time action, aging.codec_act action,
    sameMode.trans aging.reliable, ?_, ?_⟩
  · have unchanged : (agent.act action).agent.sending = agent.sending := by
      cases reply <;> exact sameSending
    rw [unchanged]
    exact fun messageId job found => aging.sending_append _ found
  · rw [sameSender]
    cases reply with
    | nothing =>
        exact unsent
    | acknowledge messageId now =>
        exact unsent.acknowledge messageId now

/-- A `send_data` call that begins has no packets yet. -/
theorem begin
    (aging : agent.Aging pace origin offset delay start moves)
    (payload : Bytes)
    (source : Address) :
    (agent.act (.innerDatagram payload source)).agent.Aging pace origin
      offset delay start
      (moves ++ [(time, .innerDatagram payload source)]) := by
  have begins :
      ∀ other : Agent,
        (other.beginSend payload).agent.reliable = other.reliable ∧
          (other.beginSend payload).agent.sender = other.sender ∧
          ∀ messageId job,
            (other.beginSend payload).agent.sending.get? messageId =
                some job →
              other.sending.get? messageId = some job ∨
                job.packets = [] := by
    intro other
    unfold beginSend
    dsimp only
    split
    · exact ⟨rfl, rfl, fun _ _ found => .inl found⟩
    · refine ⟨rfl, rfl, fun messageId job found => ?_⟩
      by_cases same : messageId = other.messageId + 1
      · rw [same, OrderedDict.get?_set_same] at found
        rw [← Option.some.inj found]
        exact .inr rfl
      · rw [OrderedDict.get?_set_other _ same] at found
        exact .inl found
  have fields :
      (agent.act (.innerDatagram payload source)).agent.reliable =
          agent.reliable ∧
        (agent.act (.innerDatagram payload source)).agent.sender =
          agent.sender ∧
        ∀ messageId job,
          (agent.act (.innerDatagram payload
              source)).agent.sending.get? messageId = some job →
            agent.sending.get? messageId = some job ∨
              job.packets = [] := by
    rw [act]
    obtain ignored | ⟨role, _, begun⟩ :=
      agent.innerLoop_cases payload source
    · rw [ignored]
      exact ⟨rfl, rfl, fun _ _ found => .inl found⟩
    · rw [begun, (catching_fields _ _).1]
      exact begins { agent with role := role }
  obtain ⟨sameMode, sameSender, begun⟩ := fields
  refine ⟨aging.reached_act time _, aging.codec_act _,
    sameMode.trans aging.reliable, ?_, ?_⟩
  · intro messageId job found
    rcases begun messageId job found with before | noPackets
    · exact aging.sending_append _ before
    · rw [noPackets]
      intro packet member
      cases member
  · rw [sameSender]
    exact aging.sender_append rfl

/-- A packet is built with the reading of the wall clock. -/
theorem build
    (aging : agent.Aging pace origin offset delay start moves)
    (messageId : Nat)
    {clockMs : Int}
    (reads : clockMs = wallClock offset time) :
    (agent.act (.buildPacket messageId clockMs)).agent.Aging pace origin
      offset delay start
      (moves ++ [(time, .buildPacket messageId clockMs)]) := by
  have sameFields :
      (agent.act (.buildPacket messageId clockMs)).agent.reliable =
          agent.reliable ∧
        (agent.act (.buildPacket messageId clockMs)).agent.sender =
          agent.sender := by
    simp only [act, buildPacket]
    split
    · split <;> exact ⟨rfl, rfl⟩
    · exact ⟨rfl, rfl⟩
  refine ⟨aging.reached_act time _, aging.codec_act _,
    sameFields.1.trans aging.reliable, ?_, ?_⟩
  · intro otherId job found
    simp only [act, buildPacket] at found
    split at found
    · rename_i spec remaining packets unfinished
      split at found
      · exact aging.sending_append _ (OrderedDict.get?_of_erase found)
      · rename_i packet encoded
        by_cases same : otherId = messageId
        · rw [same, OrderedDict.get?_set_same] at found
          rw [← Option.some.inj found]
          intro other member
          rcases List.mem_append.mp member with old | isNew
          · obtain ⟨built, frame, isBuilt, shape⟩ :=
              aging.sending_append [(time, .buildPacket messageId clockMs)]
                unfinished other old
            exact ⟨built, frame, same ▸ isBuilt, shape⟩
          · rw [List.mem_singleton.mp isNew]
            obtain ⟨frame, valid, sameHeader, _, shape⟩ :=
              FrameCodec.encode_eq_ok_iff.mp encoded
            rw [aging.sameCodec] at sameHeader shape
            refine ⟨time, frame,
              ⟨⟨moves, clockMs, [], by rw [same], ?_⟩, valid, ?_, ?_, ?_⟩,
              shape⟩
            · rw [← aging.reached, same, ← shape]
              simp only [act, buildPacket, unfinished, encoded]
            · exact congrArg Header.tunnelId sameHeader
            · rw [same]
              exact Int.ofNat_inj.mp (congrArg Header.messageId sameHeader)
            · exact (congrArg Header.timestampMs sameHeader).trans reads
        · rw [OrderedDict.get?_set_other _ same] at found
          exact aging.sending_append _ found
    · exact aging.sending_append _ found
  · rw [sameFields.2]
    exact aging.sender_append rfl

/-- The packets of a `send_data` call are queued together. -/
theorem finish
    (aging : agent.Aging pace origin offset delay start moves)
    {messageId : Nat}
    {failing : Option Nat}
    (punctual :
      Punctual pace.gap delay offset start
        (moves ++ [(time, .finishSend messageId time failing)])) :
    (agent.act (.finishSend messageId time failing)).agent.Aging pace
      origin offset delay start
      (moves ++ [(time, .finishSend messageId time failing)]) := by
  have unsent := aging.sender_append
    (rfl : pumpTimes [(time, .finishSend messageId time failing)] = [])
  have samePump :
      lastPump start
          (moves ++ [(time, .finishSend messageId time failing)]) =
        lastPump start moves := by
    rw [lastPump, pumpTimes_append]
    exact congrArg (List.getLastD · start) (List.append_nil _)
  have isReliable := aging.reliable
  refine ⟨aging.reached_act time _, aging.codec_act _, ?_, ?_, ?_⟩
  · simp only [act, finishSend, isReliable, ↓reduceIte]
    split
    · rfl
    · exact isReliable
  · intro otherId job found
    simp only [act, finishSend, isReliable, ↓reduceIte] at found
    split at found
    · exact aging.sending_append _ (OrderedDict.get?_of_erase found)
    · exact aging.sending_append _ found
  · simp only [act, finishSend, isReliable, ↓reduceIte]
    split
    · rename_i packets unfinished
      refine unsent.enqueue ?_ ?_ messageId
      · rw [samePump]
        exact punctual.lastPump_le
      · intro packet member
        obtain ⟨built, frame, isBuilt, shape⟩ :=
          aging.sending messageId _ unfinished packet member
        obtain ⟨clockMs, isMove⟩ := isBuilt.mem_moves
        obtain ⟨before, soon⟩ := punctual.sent_soon isMove
        exact ⟨messageId, built, frame, isBuilt.append _, shape, before,
          soon⟩
    · exact unsent

/-- Packets known before a `pump` are pumped in time. -/
theorem pump
    (aging : agent.Aging pace origin offset delay start moves)
    (punctual :
      Punctual pace.gap delay offset start
        (moves ++ [(time, .pump time)])) :
    (agent.act (.pump time)).agent.Aging pace origin offset delay start
        (moves ++ [(time, .pump time)]) ∧
      ∀ packet ∈ (agent.act (.pump time)).pumped,
        ∃ queuedAt,
          StampedBy origin offset delay moves packet queuedAt ∧
            time ≤ queuedAt + pace.longest := by
  have isReliable := aging.reliable
  have pumpedNow :
      lastPump start (moves ++ [(time, .pump time)]) = time := by
    rw [lastPump, pumpTimes_append]
    exact List.getLastD_concat
  obtain ⟨onTime, inTime⟩ :=
    aging.sender.pump punctual.lastPump_le punctual.pump_soon
  refine ⟨⟨aging.reached_act time _, aging.codec_act _, ?_, ?_, ?_⟩, ?_⟩
  · simp only [act, Agent.pump, isReliable, ↓reduceIte]
  · simp only [act, Agent.pump, isReliable, ↓reduceIte]
    exact fun messageId job found => aging.sending_append _ found
  · simp only [act, Agent.pump, isReliable, ↓reduceIte, pumpedNow]
    refine onTime.mono ?_
    rintro packet queuedAt ⟨messageId, built, frame, isBuilt, rest⟩
    exact ⟨messageId, built, frame, isBuilt.append _, rest⟩
  · simp only [act, Agent.pump, isReliable, ↓reduceIte]
    intro packet member
    obtain ⟨outbound, inResult, rfl⟩ := List.mem_map.mp member
    exact inTime outbound inResult

/-- Every punctual move keeps what is known. -/
theorem step
    (aging : agent.Aging pace origin offset delay start moves)
    {action : Action}
    (punctual :
      Punctual pace.gap delay offset start (moves ++ [(time, action)])) :
    (agent.act action).agent.Aging pace origin offset delay start
      (moves ++ [(time, action)]) := by
  have reads : action.ReadsAt offset time :=
    punctual.reads (time, action)
      (List.mem_append_right _ (List.mem_singleton_self _))
  cases action with
  | innerDatagram payload source =>
      exact aging.begin payload source
  | buildPacket messageId clockMs =>
      exact aging.build messageId reads
  | finishSend messageId now failing =>
      cases (reads : now = time)
      exact aging.finish punctual
  | keepalive surroundings =>
      exact aging.reply rfl (replies_keepalive agent surroundings)
  | pump now =>
      cases (reads : now = time)
      exact (aging.pump punctual).1
  | cleanup now =>
      exact aging.reply rfl (replies_cleanup agent now)
  | receive packet source surroundings =>
      exact aging.reply rfl
        (replies_receiveLoop agent surroundings packet source)

/-- Every punctual run keeps what is known. -/
theorem run
    (aging : agent.Aging pace origin offset delay start [])
    (punctual : Punctual pace.gap delay offset start moves) :
    (timeline.run agent moves).Aging pace origin offset delay start
      moves := by
  induction moves using List.reverseRecOn with
  | nil =>
      exact aging
  | append_singleton earlier move inductionHypothesis =>
      rw [Machine.run_concat]
      exact (inductionHypothesis punctual.of_append).step punctual

end Aging

end Agent

/-- The pace of a configuration; calls of `pump` are at most a gap apart. -/
def CommonSettings.pace
    (common : CommonSettings)
    (accepted : common.checkLimits = .ok ())
    (gap : Rat)
    (gapNonnegative : 0 ≤ gap) : Pace where
  timeoutSeconds := common.retransmitTimeoutSeconds.toRat
  limit := (common.maxRetries + 1).toNat
  capacity := common.maxPendingMessages.toNat
  gap := gap
  timeoutPositive := (limits_of_accepted accepted).1
  limitPositive := by
    have retries := (limits_of_accepted accepted).2.1
    omega
  gapNonnegative := gapNonnegative

/-- The sender of a configuration has its pace. -/
theorem CommonSettings.hasPace_of_sender
    {common : CommonSettings}
    {sender : ReliableSender}
    (built : common.sender = .ok sender)
    (accepted : common.checkLimits = .ok ())
    (gap : Rat)
    (gapNonnegative : 0 ≤ gap) :
    sender.HasPace (common.pace accepted gap gapNonnegative) := by
  obtain ⟨_, timeoutSeconds, limit, capacity, _⟩ :=
    ReliableSender.init_eq_ok_iff.mp built
  exact ⟨timeoutSeconds, limit, capacity⟩

/-- The codecs of the agents accept a clock skew of ten minutes. -/
theorem FrameCodec.skew_of_init
    {primitives : Primitives}
    {tunnelId secret token : Bytes}
    {sessionId : Option Int}
    {codec : FrameCodec}
    (built :
      init primitives tunnelId secret defaultClockSkewSeconds sessionId
        token = .ok codec) :
    codec.maxClockSkewMs = 600000 := by
  have skew : (defaultClockSkewSeconds * 1000).floor = 600000 := by
    decide +kernel
  simp only [init] at built
  split at built
  · cases built
  · split at built
    · cases built
    · split at built
      · cases built
      · split at built
        · cases built
        · cases built
          exact skew

/-- The peer accepts a frame for ten minutes after it was built. -/
theorem FrameCodec.decode_built_iff
    {primitives : Primitives}
    {tunnelId secret agentToken receiverToken : Bytes}
    {agentSkew : Rat}
    {agentSession receiverSession : Option Int}
    {origin : Agent}
    {receiver : FrameCodec}
    (lawful : (primitives.deriveAead tunnelId secret).Lawful)
    (agentCodec :
      init primitives tunnelId secret agentSkew agentSession agentToken =
        .ok origin.codec)
    (receiverCodec :
      init primitives tunnelId secret defaultClockSkewSeconds
        receiverSession receiverToken = .ok receiver)
    {offset : Rat}
    {moves : List (Time × Action)}
    {messageId : Nat}
    {built now : Time}
    {frame : Frame}
    (isBuilt : frame.BuiltAt origin offset moves messageId built)
    (notBefore : built ≤ now) :
    (∃ other,
      receiver.decode (frame.wire origin.codec.primitives origin.codec.aead)
        (wallClock offset now) = .ok other) ↔
      wallClock offset now ≤ wallClock offset built + 600000 := by
  obtain ⟨samePrimitives, sameTunnel, sameAead, _⟩ := init_eq_ok agentCodec
  obtain ⟨receiverPrimitives, receiverTunnel, receiverAead, _⟩ :=
    init_eq_ok receiverCodec
  have receiverLawful : receiver.aead.Lawful := by
    rw [receiverAead]
    exact lawful
  have inOrder := wallClock_mono offset notBefore
  have sameAge :
      |wallClock offset now - frame.timestampMs| =
        wallClock offset now - wallClock offset built := by
    rw [isBuilt.timestamp]
    exact abs_of_nonneg (sub_nonneg.mpr inOrder)
  have ownTunnel : frame.tunnelId = receiver.tunnelId := by
    rw [isBuilt.ownTunnel, sameTunnel, receiverTunnel]
  rw [samePrimitives, sameAead]
  constructor
  · rintro ⟨other, decoded⟩
    obtain ⟨otherValid, _, sameWire, inTime⟩ :=
      (decode_eq_ok_iff receiverLawful).mp decoded
    rw [receiverPrimitives, receiverAead] at sameWire
    rw [← wire_injective lawful isBuilt.valid otherValid sameWire, sameAge,
      skew_of_init receiverCodec] at inTime
    linarith
  · intro inTime
    refine ⟨frame, (decode_eq_ok_iff receiverLawful).mpr
      ⟨isBuilt.valid, ownTunnel, ?_, ?_⟩⟩
    · rw [receiverPrimitives, receiverAead]
    · rw [sameAge, skew_of_init receiverCodec]
      linarith

/--
In every run of an agent in reliable mode, under every configuration that
`load_config` accepts, the peer accepts the timestamp of a pumped packet if
and only if at most ten minutes have passed since the packet was built.  No
more than the delay and the longest time have passed, so if these are within
ten minutes the peer always accepts it.  What was built is this very packet.
-/
theorem pumped_packet_age
    {primitives : Primitives}
    {tunnelId secret agentToken receiverToken : Bytes}
    {agentSkew : Rat}
    {agentSession receiverSession : Option Int}
    {receiver : FrameCodec}
    {common : CommonSettings}
    {agent : Agent}
    (lawful : (primitives.deriveAead tunnelId secret).Lawful)
    (agentCodec :
      FrameCodec.init primitives tunnelId secret agentSkew agentSession
        agentToken = .ok agent.codec)
    (receiverCodec :
      FrameCodec.init primitives tunnelId secret
        FrameCodec.defaultClockSkewSeconds receiverSession receiverToken =
          .ok receiver)
    (accepted : common.checkLimits = .ok ())
    (sender : common.sender = .ok agent.sender)
    (reliable : agent.reliable = true)
    (notSending : agent.sending = .empty)
    {gap delay offset : Rat}
    (gapNonnegative : 0 ≤ gap)
    {start : Time}
    {moves : List (Time × Action)}
    (punctual : Punctual gap delay offset start moves) :
    ∀ earlier time now later,
      moves = earlier ++ (time, .pump now) :: later →
      ∀ packet ∈
          ((Agent.timeline.run agent earlier).act (.pump now)).pumped,
        ∃ messageId built, ∃ source : Frame,
          source.BuiltAt agent offset earlier messageId built ∧
            packet =
              source.wire agent.codec.primitives agent.codec.aead ∧
            built ≤ time ∧
            time ≤ built +
              (delay +
                (common.pace accepted gap gapNonnegative).longest) ∧
            ((∃ frame,
              receiver.decode packet (wallClock offset time) =
                .ok frame) ↔
              wallClock offset time ≤
                wallClock offset built + 600000) ∧
            (delay + (common.pace accepted gap gapNonnegative).longest ≤
                600 →
              ∃ frame,
                receiver.decode packet (wallClock offset time) =
                  .ok frame) := by
  rintro earlier time now later rfl packet pumped
  obtain ⟨queue, pending⟩ := ReliableSender.empty_of_init sender
  have soFar :
      Punctual gap delay offset start
        (earlier ++ [(time, .pump now)]) := by
    rw [← List.singleton_append, ← List.append_assoc] at punctual
    exact punctual.of_append
  have sameTime : now = time :=
    soFar.reads (time, .pump now)
      (List.mem_append_right _ (List.mem_singleton_self _))
  subst sameTime
  have fresh :
      agent.Aging (common.pace accepted gap gapNonnegative) agent
        offset delay start [] := by
    refine ⟨rfl, rfl, reliable, ?_, .of_empty
      (CommonSettings.hasPace_of_sender sender accepted gap
        gapNonnegative) queue pending⟩
    intro messageId job found
    rw [notSending] at found
    cases found
  obtain ⟨queuedAt, ⟨messageId, built, frame, isBuilt, shape, before,
    sentSoon⟩, inTime⟩ :=
    ((fresh.run soFar.of_append).pump soFar).2 packet pumped
  obtain ⟨clockMs, member⟩ := isBuilt.mem_moves
  have notBefore : built ≤ now :=
    soFar.le_last (List.mem_cons_of_mem _ (List.mem_map_of_mem member))
  have age :
      now ≤ built +
        (delay + (common.pace accepted gap gapNonnegative).longest) := by
    linarith
  have decodes :=
    FrameCodec.decode_built_iff lawful agentCodec receiverCodec isBuilt
      notBefore
  rw [← shape] at decodes
  refine ⟨messageId, built, frame, isBuilt, shape, notBefore, age, decodes,
    ?_⟩
  intro withinSkew
  refine decodes.mpr (wallClock_le_add offset ?_)
  push_cast
  linarith

/-- At most two messages at a time. -/
def twoMessages : CommonSettings where
  maxPendingMessages := 2

theorem twoMessages_accepted :
    twoMessages.checkLimits = .ok () := by
  decide +kernel

/-- An agent with that setting. -/
def twoMessagesAgent : Agent :=
  { Agent.plain .foreign with
    sender :=
      { ReliableSender.fresh with
        maxPendingMessages := 2
        maxPendingPositive := by decide } }

theorem twoMessagesAgent_sender :
    twoMessages.sender = .ok twoMessagesAgent.sender :=
  ReliableSender.init_eq_ok_iff.mpr
    ⟨⟨by decide +kernel, by decide, by decide⟩, rfl, rfl, rfl, rfl, rfl,
      rfl, rfl⟩

/-- An agent sends one message, in one packet. -/
def sendAtZero : List (Time × Action) := [
  (0, .innerDatagram [1, 2, 3] { host := "127.0.0.1", port := 51820 }),
  (0, .buildPacket 1 0),
  (0, .finishSend 1 0 none)]

/-- Two messages are pumped, and after the timeout they are pumped again. -/
def sendTwice : List (Time × Action) :=
  sendAtZero ++ [
    (0, .innerDatagram [4, 5] { host := "127.0.0.1", port := 51820 }),
    (1 / 2, .buildPacket 2 500),
    (1 / 2, .finishSend 2 (1 / 2) none),
    (1, .pump 1)]

/-- With two messages at a time no packet is too old, sent first or again. -/
theorem pumped_packet_age_two_messages :
    ((Agent.timeline.run twoMessagesAgent sendTwice).act
        (.pump 2)).pumped.length = 2 ∧
      ∀ packet ∈
          ((Agent.timeline.run twoMessagesAgent sendTwice).act
            (.pump 2)).pumped,
        ∃ frame,
          (FrameCodec.plain 1 (by decide)).decode packet
            (wallClock 0 2) = .ok frame := by
  have codec :
      FrameCodec.init .plain (List.replicate 16 7) (List.replicate 32 9)
          FrameCodec.defaultClockSkewSeconds (some (2 : Nat)) [] =
        .ok twoMessagesAgent.codec :=
    FrameCodec.init_plain 2 (by decide)
  have punctual :
      Punctual 1 (1 / 2) 0 0 (sendTwice ++ (2, .pump 2) :: []) :=
    ⟨by decide +kernel, by decide +kernel, by decide +kernel,
      by decide +kernel⟩
  have withinSkew :
      1 / 2 + (twoMessages.pace twoMessages_accepted 1
        (by decide +kernel)).longest ≤ 600 := by
    decide +kernel
  refine ⟨by decide +kernel, fun packet pumped => ?_⟩
  obtain ⟨_, _, _, _, _, _, _, _, passes⟩ :=
    pumped_packet_age (Primitives.plain_lawful _ _) codec
      (FrameCodec.init_plain 1 (by decide)) twoMessages_accepted
      twoMessagesAgent_sender rfl rfl (by decide +kernel) punctual
      sendTwice 2 2 [] rfl packet pumped
  exact passes withinSkew

/-- The turns of `reliability_loop`, one in each interval. -/
def reliabilityLoop (interval : Rat) (turns : Nat) :
    List (Time × Action) :=
  (List.range turns).map fun turn : Nat =>
    (turn * interval, .pump (turn * interval))

theorem reliabilityLoop_succ
    (interval : Rat)
    (turns : Nat) :
    reliabilityLoop interval (turns + 1) =
      reliabilityLoop interval turns ++
        [(turns * interval, .pump (turns * interval))] := by
  rw [reliabilityLoop, List.range_succ, List.map_append]
  rfl

namespace Punctual

variable
  {gap delay offset : Rat}
  {start time : Time}
  {moves : List (Time × Action)}

/-- One more `pump`, in time, keeps an agent punctual. -/
theorem concat_pump
    (punctual : Punctual gap delay offset start moves)
    (later : ∀ before ∈ start :: moves.map Prod.fst, before ≤ time)
    (soon : time ≤ lastPump start moves + gap) :
    Punctual gap delay offset start (moves ++ [(time, .pump time)]) where
  nondecreasing := by
    rw [List.map_append, ← List.cons_append]
    refine List.pairwise_append.mpr
      ⟨punctual.nondecreasing, List.pairwise_singleton _ _, ?_⟩
    intro before member last isLast
    rw [List.mem_singleton.mp isLast]
    exact later before member
  reads move member := by
    rcases List.mem_append.mp member with isEarlier | isLast
    · exact punctual.reads move isEarlier
    · rw [List.mem_singleton.mp isLast]
      exact rfl
  pumps := by
    rw [pumpTimes_append, ← List.cons_append]
    refine List.isChain_append.mpr
      ⟨punctual.pumps, List.isChain_singleton _, ?_⟩
    intro before isLast next isNext
    rw [List.getLast?_cons, ← List.getLastD_eq_getLast?] at isLast
    cases isLast
    cases isNext
    exact soon
  sends := by
    refine List.pairwise_append.mpr
      ⟨punctual.sends, List.pairwise_singleton _ _, ?_⟩
    rintro ⟨before, action⟩ _ last isLast
    rw [List.mem_singleton.mp isLast]
    cases action <;> exact trivial

/-- Turns of `reliability_loop` from zero on keep an agent punctual. -/
theorem reliabilityLoop
    (punctual : Punctual gap delay offset start moves)
    (gapNonnegative : 0 ≤ gap)
    (started : ∀ before ∈ start :: moves.map Prod.fst, before ≤ 0)
    (soon : 0 ≤ lastPump start moves + gap)
    (turns : Nat) :
    Punctual gap delay offset start
      (moves ++ H3ntun.reliabilityLoop gap turns) := by
  have turn :
      Punctual gap delay offset start
          (moves ++ H3ntun.reliabilityLoop gap turns) ∧
        (∀ before ∈
            start ::
              (moves ++ H3ntun.reliabilityLoop gap turns).map Prod.fst,
          before ≤ turns * gap) ∧
        turns * gap ≤
          lastPump start (moves ++ H3ntun.reliabilityLoop gap turns) +
            gap := by
    induction turns with
    | zero =>
        rw [Nat.cast_zero, zero_mul]
        exact ⟨by simpa [H3ntun.reliabilityLoop] using punctual,
          by simpa [H3ntun.reliabilityLoop] using started,
          by simpa [H3ntun.reliabilityLoop] using soon⟩
    | succ turns inductionHypothesis =>
        obtain ⟨soFar, before, inTime⟩ := inductionHypothesis
        rw [reliabilityLoop_succ, ← List.append_assoc]
        refine ⟨soFar.concat_pump before inTime, ?_, ?_⟩
        · intro time member
          rw [Nat.cast_succ]
          rw [List.map_append, ← List.cons_append] at member
          rcases List.mem_append.mp member with isEarlier | isLast
          · linarith [before time isEarlier]
          · rw [List.mem_singleton.mp isLast]
            dsimp only
            linarith
        · rw [lastPump, pumpTimes_append, Nat.cast_succ]
          refine le_of_eq ?_
          rw [add_one_mul]
          exact congrArg (· + gap) List.getLastD_concat.symm
  exact turn.1

end Punctual

/-- Nothing is queued and no message in flight is due. -/
structure ReliableSender.Waits
    (sender : ReliableSender)
    (now : Time) : Prop where
  queue :
    sender.queue = []
  notDue :
    ∀ transmission ∈ sender.pending.values,
      ∀ lastSentAt,
        transmission.lastSentAt = some lastSentAt →
          now - lastSentAt < sender.timeout transmission

/-- A sender that waits is left as it is by `pump`. -/
theorem ReliableSender.Waits.pump
    {sender : ReliableSender}
    {now : Time}
    (waits : sender.Waits now) :
    sender.pump now = (sender, { packets := [], exhaustedMessages := 0 }) := by
  have unchanged :
      ∀ transmissions : List Transmission,
        (∀ transmission ∈ transmissions,
          transmission ∈ sender.pending.values) →
        transmissions.foldl (resend now)
            (sender, { packets := [], exhaustedMessages := 0 }) =
          (sender, { packets := [], exhaustedMessages := 0 }) := by
    intro transmissions inFlight
    induction transmissions with
    | nil =>
        rfl
    | cons transmission rest inductionHypothesis =>
        have same :
            resend now (sender, { packets := [], exhaustedMessages := 0 })
                transmission =
              (sender, { packets := [], exhaustedMessages := 0 }) := by
          unfold resend
          cases sentAt : transmission.lastSentAt with
          | none =>
              rfl
          | some lastSentAt =>
              exact if_pos (waits.notDue transmission
                (inFlight transmission List.mem_cons_self) lastSentAt
                sentAt)
        rw [List.foldl_cons, same]
        exact inductionHypothesis fun other member =>
          inFlight other (List.mem_cons_of_mem _ member)
  have queue := waits.queue
  unfold ReliableSender.pump
  rw [unchanged _ fun _ member => member]
  cases sender
  cases queue
  rfl

/-- Turns of `reliability_loop` leave an agent that waits as it is. -/
theorem Agent.run_reliabilityLoop
    {agent : Agent}
    {interval : Rat}
    {turns : Nat}
    (waits :
      ∀ turn < turns, agent.sender.Waits (turn * interval)) :
    timeline.run agent (reliabilityLoop interval turns) = agent := by
  induction turns with
  | zero =>
      rfl
  | succ turns inductionHypothesis =>
      rw [reliabilityLoop_succ, Machine.run_concat,
        inductionHypothesis fun turn fewer => waits turn (by omega)]
      have same := (waits turns (Nat.lt_succ_self turns)).pump
      simp only [timeline, act, Agent.pump, same]
      split <;> rfl

/-- A configuration that `load_config` accepts. -/
def slowSettings : CommonSettings where
  retransmitTimeoutSeconds := .finite 1000

/-- An agent with that setting. -/
def slowAgent : Agent :=
  { Agent.plain .foreign with
    sender :=
      { ReliableSender.fresh with
        retransmitTimeoutSeconds := 1000
        timeoutPositive := by decide +kernel } }

theorem slowAgent_sender :
    slowSettings.sender = .ok slowAgent.sender :=
  ReliableSender.init_eq_ok_iff.mpr
    ⟨⟨by decide +kernel, by decide, by decide⟩, rfl, rfl, rfl, rfl, rfl,
      rfl, rfl⟩

/-- A packet is sent, and `pump` is called twenty times in each second. -/
def waitForAck : List (Time × Action) :=
  (sendAtZero ++ [(0, .pump 0)]) ++ reliabilityLoop (1 / 20) 20000

/-- After the timeout it is sent again, and the peer refuses it. -/
theorem retransmitted_packet_too_old :
    slowSettings.checkLimits = .ok () ∧
      slowSettings.sender = .ok slowAgent.sender ∧
      slowAgent.reliable = true ∧
      Punctual (1 / 20) 0 0 0 (waitForAck ++ [(1000, .pump 1000)]) ∧
      ∃ packet ∈
          ((Agent.timeline.run slowAgent waitForAck).act
            (.pump 1000)).pumped,
        (FrameCodec.plain 1 (by decide)).decode packet
            (wallClock 0 1000) =
          .error (.protocolError
            "frame timestamp is outside the accepted window") := by
  have sent :
      Punctual (1 / 20) 0 0 0 (sendAtZero ++ [(0, .pump 0)]) :=
    ⟨by decide +kernel, by decide +kernel, by decide +kernel,
      by decide +kernel⟩
  have punctual :=
    sent.reliabilityLoop (by decide +kernel) (by decide +kernel)
      (by decide +kernel) 20001
  have nextTurn : ((20000 : Nat) : Rat) * (1 / 20) = 1000 := by
    norm_num
  rw [reliabilityLoop_succ, nextTurn, ← List.append_assoc] at punctual
  have inFlight :
      (Agent.timeline.run slowAgent
          (sendAtZero ++ [(0, .pump 0)])).sender.queue = [] ∧
        ∀ transmission ∈
            (Agent.timeline.run slowAgent
              (sendAtZero ++ [(0, .pump 0)])).sender.pending.values,
          transmission.lastSentAt = some 0 ∧
            (Agent.timeline.run slowAgent
              (sendAtZero ++ [(0, .pump 0)])).sender.timeout
                transmission = 1000 := by
    decide +kernel
  have unchanged :
      Agent.timeline.run slowAgent waitForAck =
        Agent.timeline.run slowAgent (sendAtZero ++ [(0, .pump 0)]) := by
    rw [waitForAck, Machine.run_append]
    refine Agent.run_reliabilityLoop fun turn fewer =>
      ⟨inFlight.1, ?_⟩
    intro transmission member lastSentAt sentAt
    obtain ⟨atZero, timeout⟩ := inFlight.2 transmission member
    rw [atZero] at sentAt
    cases sentAt
    rw [timeout]
    have early : (turn : Rat) < 20000 := by
      exact_mod_cast fewer
    linarith
  refine ⟨by decide +kernel, slowAgent_sender, rfl, punctual, ?_⟩
  rw [unchanged]
  decide +kernel

end H3ntun

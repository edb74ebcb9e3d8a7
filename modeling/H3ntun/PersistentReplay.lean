import H3ntun.ReplayState

namespace H3ntun

/-!
# The replay window with asynchronous checkpoints

`accept` leaves a snapshot in a slot for one checkpoint, and a writer thread
takes it from there and stores it in a file.  Each critical section is one
step.  The file is replaced atomically, and only a finished write is known to
survive a crash.
-/

/-- A snapshot with the number of frames accepted before it. -/
structure Checkpoint where
  generation : Nat
  state : JsonValue
  queuedAt : Time

/-- Where the writer thread stands. -/
inductive Writer where
  /-- About to look at the slot. -/
  | running
  /-- In `wait`, with the time at which it ends. -/
  | waiting (deadline : Option Time)
  /-- In `_write_snapshot`, before `os.replace`. -/
  | writing (checkpoint : Checkpoint)
  /-- In `_write_snapshot`, after `os.replace`. -/
  | replaced (checkpoint : Checkpoint)
  | finished

namespace Writer

/-- `notify` wakes the writer if it waits. -/
def notified : Writer → Writer
  | .waiting _ => .running
  | writer => writer

/-- The checkpoint the writer has taken from the slot. -/
def inflight? : Writer → Option Checkpoint
  | .writing checkpoint => some checkpoint
  | .replaced checkpoint => some checkpoint
  | _ => none

@[simp] theorem inflight?_notified
    (writer : Writer) :
    writer.notified.inflight? = writer.inflight? := by
  cases writer <;> rfl

@[simp] theorem notified_eq_replaced_iff
    {writer : Writer}
    {checkpoint : Checkpoint} :
    writer.notified = .replaced checkpoint ↔
      writer = .replaced checkpoint := by
  cases writer <;> simp [notified]

@[simp] theorem notified_eq_finished_iff
    {writer : Writer} :
    writer.notified = .finished ↔ writer = .finished := by
  cases writer <;> simp [notified]

end Writer

/-- Arguments the constructor accepts, with the hash of the tunnel. -/
structure CheckpointSettings where
  size : Nat
  fingerprint : String
  intervalSeconds : Time
  batchFrames : Nat
  sizeLarge : 64 ≤ size
  intervalPositive : 0 < intervalSeconds
  batchPositive : 1 ≤ batchFrames

theorem CheckpointSettings.size_pos
    (settings : CheckpointSettings) :
    0 < settings.size :=
  lt_of_lt_of_le (by decide) settings.sizeLarge

/-- The window in memory, and what is to be written of it. -/
structure PersistentReplay where
  window : ReplayWindow
  pending : Option Checkpoint
  inflightSince : Option Time
  acceptedCount : Nat
  persistedCount : Nat
  pendingFrames : Nat
  stopping : Bool
  lastAttemptAt : Time
  retryAt : Time
  writer : Writer

namespace PersistentReplay

/-- The constructor, with the value read from the file if there is one. -/
def init
    (settings : CheckpointSettings)
    (content : Option JsonValue)
    (now : Time) :
    Except Failure PersistentReplay :=
  let started (window : ReplayWindow) : PersistentReplay := {
    window := window
    pending := none
    inflightSince := none
    acceptedCount := 0
    persistedCount := 0
    pendingFrames := 0
    stopping := false
    lastAttemptAt := now
    retryAt := 0
    writer := .running }
  match content with
  | none => .ok (started (.fresh settings.size))
  | some content =>
      match (ReplayWindow.fresh settings.size).load settings.fingerprint
          (.ok content) with
      | (window, .ok _) => .ok (started window)
      | (_, .error failure) => .error failure

/-- The rest of `accept`, once the window has accepted a frame. -/
def queueSnapshot
    (settings : CheckpointSettings)
    (replay : PersistentReplay)
    (window : ReplayWindow)
    (now : Time) : PersistentReplay :=
  let acceptedCount := replay.acceptedCount + 1
  let pendingFrames := replay.pendingFrames + 1
  { replay with
    window := window
    acceptedCount := acceptedCount
    pendingFrames := pendingFrames
    pending := some {
      generation := acceptedCount
      state := window.snapshot
      queuedAt :=
        match replay.pending with
        | some waiting => waiting.queuedAt
        | none => now }
    writer :=
      if replay.pending.isNone ∨
          pendingFrames ≥ settings.batchFrames then
        replay.writer.notified
      else
        replay.writer }

/-- `PersistentReplayWindow.accept`. -/
def accept
    (settings : CheckpointSettings)
    (replay : PersistentReplay)
    (sequence sessionId : Int)
    (now : Time) :
    PersistentReplay × Except Failure Bool :=
  if replay.stopping then
    (replay, .error
      (.protocolError "replay checkpoint writer is closing"))
  else
    match replay.window.acceptLocked sequence sessionId with
    | (window, false) => ({ replay with window := window }, .ok false)
    | (window, true) =>
        (replay.queueSnapshot settings window now, .ok true)

theorem queueSnapshot_writer
    (settings : CheckpointSettings)
    (replay : PersistentReplay)
    (window : ReplayWindow)
    (now : Time) :
    (replay.queueSnapshot settings window now).writer = replay.writer ∨
      (replay.queueSnapshot settings window now).writer =
        replay.writer.notified := by
  unfold queueSnapshot
  dsimp only
  split
  · exact .inr rfl
  · exact .inl rfl

/-- A queued snapshot wakes the writer at most. -/
theorem queueSnapshot_keeps
    (settings : CheckpointSettings)
    (replay : PersistentReplay)
    (window : ReplayWindow)
    (now : Time) :
    (replay.queueSnapshot settings window now).writer.inflight? =
        replay.writer.inflight? ∧
      (∀ checkpoint,
        (replay.queueSnapshot settings window now).writer =
            .replaced checkpoint ↔
          replay.writer = .replaced checkpoint) ∧
      ((replay.queueSnapshot settings window now).writer = .finished ↔
        replay.writer = .finished) := by
  rcases replay.queueSnapshot_writer settings window now with
    same | notified
  · rw [same]
    exact ⟨rfl, fun _ => Iff.rfl, Iff.rfl⟩
  · rw [notified]
    exact ⟨Writer.inflight?_notified _,
      fun _ => Writer.notified_eq_replaced_iff,
      Writer.notified_eq_finished_iff⟩

/-- Whether the writer takes a pending checkpoint. -/
def Ready
    (settings : CheckpointSettings)
    (replay : PersistentReplay)
    (now : Time) : Prop :=
  replay.retryAt ≤ now ∧
    (replay.stopping = true ∨
      settings.batchFrames ≤ replay.pendingFrames ∨
      settings.intervalSeconds ≤ now - replay.lastAttemptAt)

instance
    (settings : CheckpointSettings)
    (replay : PersistentReplay)
    (now : Time) :
    Decidable (replay.Ready settings now) :=
  inferInstanceAs (Decidable (_ ∧ _))

/-- One turn of the inner loop of the writer, up to `wait`. -/
def look
    (settings : CheckpointSettings)
    (replay : PersistentReplay)
    (now : Time) : PersistentReplay :=
  match replay.pending with
  | none =>
      if replay.stopping then
        { replay with writer := .finished }
      else
        { replay with writer := .waiting none }
  | some checkpoint =>
      if replay.Ready settings now then
        { replay with
          pending := none
          pendingFrames := 0
          inflightSince := some checkpoint.queuedAt
          lastAttemptAt := now
          writer := .writing checkpoint }
      else
        let dueAt :=
          if replay.stopping ∨
              replay.pendingFrames ≥ settings.batchFrames then
            now
          else
            replay.lastAttemptAt + settings.intervalSeconds
        let waitUntil := max replay.retryAt dueAt
        { replay with
          writer :=
            .waiting (some (now + max (1 / 1000) (waitUntil - now))) }

/-- A ready writer takes the pending checkpoint. -/
theorem writer_look
    {settings : CheckpointSettings}
    {replay : PersistentReplay}
    {checkpoint : Checkpoint}
    {now : Time}
    (waiting : replay.pending = some checkpoint)
    (ready : replay.Ready settings now) :
    (replay.look settings now).writer = .writing checkpoint := by
  rw [look, waiting]
  exact congrArg writer (if_pos ready)

/-- The writer after a write that raised `OSError`. -/
def writeFailed
    (settings : CheckpointSettings)
    (replay : PersistentReplay)
    (checkpoint : Checkpoint)
    (now : Time) : PersistentReplay :=
  { replay with
    inflightSince := none
    pending :=
      match replay.pending with
      | none => some checkpoint
      | some newer =>
          some { newer with
            queuedAt := min checkpoint.queuedAt newer.queuedAt }
    retryAt := now + settings.intervalSeconds
    writer := .running }

/-- The writer after a write that returned. -/
def writeSucceeded
    (replay : PersistentReplay)
    (checkpoint : Checkpoint) : PersistentReplay :=
  { replay with
    inflightSince := none
    persistedCount := checkpoint.generation
    writer := .running }

/-- The critical section of `close`. -/
def stop (replay : PersistentReplay) : PersistentReplay :=
  { replay with
    stopping := true
    writer := replay.writer.notified }

/-- Frames accepted that no checkpoint holds yet. -/
def lagFrames (replay : PersistentReplay) : Int :=
  replay.acceptedCount - replay.persistedCount

/-- What `close` returns once `join` has. -/
def closed (replay : PersistentReplay) : Bool :=
  match replay.writer with
  | .finished => replay.lagFrames = 0
  | _ => false

end PersistentReplay

/-- Contents a file has had, with the generation they belong to. -/
structure FileVersion where
  generation : Nat
  content : Option JsonValue

/-- The file, and the versions of it a crash may leave behind. -/
structure StateFile where
  visible : FileVersion
  survivors : List FileVersion

namespace StateFile

/-- A file that no process has written since the last crash. -/
def settled (content : Option JsonValue) : StateFile where
  visible := { generation := 0, content := content }
  survivors := [{ generation := 0, content := content }]

/-- `os.replace`. -/
def replace
    (file : StateFile)
    (fingerprint : String)
    (checkpoint : Checkpoint) : StateFile :=
  let version : FileVersion := {
    generation := checkpoint.generation
    content := some
      (ReplayWindow.envelope fingerprint checkpoint.state) }
  { visible := version, survivors := version :: file.survivors }

/-- The directory has been synced. -/
def sync (file : StateFile) : StateFile where
  visible := file.visible
  survivors := [file.visible]

end StateFile

/-- A running process and its file, with the calls it has answered. -/
structure Checkpointing where
  replay : PersistentReplay
  file : StateFile
  /-- The window the process started with. -/
  initial : ReplayWindow
  calls : List (Int × Int)
  answers : List Bool

namespace Checkpointing

/-- A process that has just been started over a file. -/
def Starts
    (settings : CheckpointSettings)
    (content : Option JsonValue)
    (now : Time)
    (state : Checkpointing) : Prop :=
  ∃ replay,
    PersistentReplay.init settings content now = .ok replay ∧
      state = {
        replay := replay
        file := .settled content
        initial := replay.window
        calls := []
        answers := [] }

/-- One critical section, one event of a write, or a crash. -/
inductive Event where
  | accept (sequence sessionId : Int) (now : Time)
  | look (now : Time)
  | timeout (now : Time)
  | replace
  | succeed
  | failBefore (now : Time)
  | failAfter (now : Time)
  | stop
  | crash (now : Time)

/-- The process after an `accept` call. -/
def afterAccept
    (settings : CheckpointSettings)
    (state : Checkpointing)
    (sequence sessionId : Int)
    (now : Time) : Checkpointing :=
  match state.replay.accept settings sequence sessionId now with
  | (replay, .ok answer) =>
      { state with
        replay := replay
        calls := state.calls ++ [(sequence, sessionId)]
        answers := state.answers ++ [answer] }
  | (replay, .error _) => { state with replay := replay }

/-- The steps of the receive loop, the writer and the machine. -/
inductive Step
    (settings : CheckpointSettings)
    (state : Checkpointing) :
    Event → Checkpointing → Prop where
  | accept (sequence sessionId : Int) (now : Time) :
      Step settings state (.accept sequence sessionId now)
        (state.afterAccept settings sequence sessionId now)
  | look
      (now : Time)
      (running : state.replay.writer = .running) :
      Step settings state (.look now)
        { state with replay := state.replay.look settings now }
  | timeout
      (now deadline : Time)
      (waiting : state.replay.writer = .waiting (some deadline))
      (expired : deadline ≤ now) :
      Step settings state (.timeout now)
        { state with replay := { state.replay with writer := .running } }
  | replace
      (checkpoint : Checkpoint)
      (writing : state.replay.writer = .writing checkpoint) :
      Step settings state .replace
        { state with
          replay := { state.replay with writer := .replaced checkpoint }
          file := state.file.replace settings.fingerprint checkpoint }
  | succeed
      (checkpoint : Checkpoint)
      (replaced : state.replay.writer = .replaced checkpoint) :
      Step settings state .succeed
        { state with
          replay := state.replay.writeSucceeded checkpoint
          file := state.file.sync }
  | failBefore
      (now : Time)
      (checkpoint : Checkpoint)
      (writing : state.replay.writer = .writing checkpoint) :
      Step settings state (.failBefore now)
        { state with
          replay := state.replay.writeFailed settings checkpoint now }
  | failAfter
      (now : Time)
      (checkpoint : Checkpoint)
      (replaced : state.replay.writer = .replaced checkpoint) :
      Step settings state (.failAfter now)
        { state with
          replay := state.replay.writeFailed settings checkpoint now }
  | stop :
      Step settings state .stop
        { state with replay := state.replay.stop }
  | crash
      (now : Time)
      (version : FileVersion)
      (survives : version ∈ state.file.survivors)
      (restarted : Checkpointing)
      (starts : Starts settings version.content now restarted) :
      Step settings state (.crash now) restarted

/--
All runs of a checkpointed window: the first process finds no file, or the
snapshot of a window of its size that some run has led to.
-/
def system (settings : CheckpointSettings) :
    TransitionSystem Checkpointing Event where
  initial state :=
    ∃ now content,
      Starts settings content now state ∧
        ∀ stored ∈ content, ∃ calls,
          stored = ReplayWindow.envelope settings.fingerprint
            (ReplayWindow.machine.run (.fresh settings.size)
              calls).snapshot
  step := Step settings

end Checkpointing

end H3ntun

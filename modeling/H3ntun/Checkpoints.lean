import H3ntun.PersistentReplay
import H3ntun.RestoredWindows

namespace H3ntun

/-!
# Checkpoints survive crashes

The newest generation is in the slot, with the writer or in the file, and the
file is never behind what the process believes to be durable.  So a restarted
process refuses whatever was accepted up to the last durable checkpoint.
-/

namespace ReplayWindow

/-- The refused calls of a run do not matter. -/
theorem Refines.run_accepted
    {window : ReplayWindow}
    {size : Nat}
    {reference : ReplayReference}
    (refines : window.Refines size reference)
    (positive : 0 < size)
    (calls : List (Int × Int)) :
    machine.run window (machine.accepted window calls) =
        machine.run window calls ∧
      machine.accepted window (machine.accepted window calls) =
        machine.accepted window calls := by
  induction calls generalizing window reference with
  | nil =>
      exact ⟨rfl, rfl⟩
  | cons call rest inductionHypothesis =>
      rcases refines.accept positive call.1 call.2 with
        ⟨_, accepts, next⟩ | ⟨_, unchanged⟩
      · have accepts : (machine.step window call).2 = true := accepts
        obtain ⟨sameRun, sameAccepted⟩ := inductionHypothesis next
        simp only [Machine.accepted, Machine.run, accepts, if_true]
        exact ⟨sameRun, congrArg (List.cons call) sameAccepted⟩
      · have unchanged : machine.step window call = (window, false) :=
          unchanged
        simp only [Machine.accepted, Machine.run, unchanged]
        exact inductionHypothesis refines

/-- No call is accepted twice in a run. -/
theorem nodup_accepted
    {size : Nat}
    (positive : 0 < size)
    (calls : List (Int × Int)) :
    (machine.accepted (fresh size) calls).Nodup := by
  have nodup := reference_accepted_nodup size calls
  rw [(Refines.fresh size).accepted_run positive calls] at nodup
  have listed := (List.append_nil _) ▸ nodup
  exact (List.nodup_reverse.mp listed).of_map _

/-- What a run has accepted is not accepted again. -/
theorem not_accepted_again
    {size : Nat}
    (positive : 0 < size)
    {calls : List (Int × Int)}
    {call : Int × Int}
    (accepted : call ∈ machine.accepted (fresh size) calls)
    (later : List (Int × Int)) :
    call ∉ machine.accepted (machine.run (fresh size) calls) later := by
  have nodup := nodup_accepted positive (calls ++ later)
  rw [Machine.accepted_append] at nodup
  exact fun again => (List.nodup_append.mp nodup).2.2 call accepted call
    again rfl

end ReplayWindow

namespace Checkpointing

variable {settings : CheckpointSettings} {state later : Checkpointing}

/-- Calls the process has accepted, in order. -/
def accepted (state : Checkpointing) : List (Int × Int) :=
  ReplayWindow.machine.accepted state.initial state.calls

/-- The window right after a number of accepted calls. -/
def windowAt (state : Checkpointing) (generation : Nat) : ReplayWindow :=
  ReplayWindow.machine.run state.initial
    (state.accepted.take generation)

/-- A snapshot of the generation it claims. -/
structure Records
    (state : Checkpointing)
    (checkpoint : Checkpoint) : Prop where
  reached :
    checkpoint.generation ≤ state.accepted.length
  snapshot :
    checkpoint.state = (state.windowAt checkpoint.generation).snapshot

/-- A version of the file from the generation it claims. -/
structure Holds
    (settings : CheckpointSettings)
    (state : Checkpointing)
    (version : FileVersion) : Prop where
  reached :
    version.generation ≤ state.accepted.length
  content :
    version.content = some (ReplayWindow.envelope settings.fingerprint
        (state.windowAt version.generation).snapshot) ∨
      version.generation = 0 ∧ version.content = none ∧
        state.initial = .fresh settings.size

/-- What holds of a process and its file at all times. -/
structure Sound
    (settings : CheckpointSettings)
    (state : Checkpointing) : Prop where
  origin :
    ∃ earlier, state.initial =
      ReplayWindow.machine.run (.fresh settings.size) earlier
  answers :
    state.answers =
      ReplayWindow.machine.answers state.initial state.calls
  window :
    state.replay.window =
      ReplayWindow.machine.run state.initial state.calls
  counted :
    state.replay.acceptedCount = state.accepted.length
  pending :
    ∀ checkpoint ∈ state.replay.pending,
      state.Records checkpoint ∧
        checkpoint.generation = state.replay.acceptedCount
  inflight :
    ∀ checkpoint ∈ state.replay.writer.inflight?,
      state.Records checkpoint ∧
        state.replay.persistedCount ≤ checkpoint.generation ∧
        (state.replay.pending = none →
          checkpoint.generation = state.replay.acceptedCount)
  replaced :
    ∀ checkpoint,
      state.replay.writer = .replaced checkpoint →
      state.file.visible.generation = checkpoint.generation
  idle :
    state.replay.pending = none →
    state.replay.writer.inflight? = none →
    state.file.visible.generation = state.replay.acceptedCount
  visible :
    state.file.visible ∈ state.file.survivors
  survivors :
    ∀ version ∈ state.file.survivors,
      state.replay.persistedCount ≤ version.generation ∧
        state.Holds settings version
  finished :
    state.replay.writer = .finished →
    state.replay.stopping = true ∧ state.replay.pending = none

namespace Sound

theorem refines
    (sound : state.Sound settings) :
    ∃ reference, state.initial.Refines settings.size reference := by
  obtain ⟨earlier, same⟩ := sound.origin
  have positive := settings.size_pos
  rw [same]
  exact ⟨_, ((ReplayWindow.Refines.fresh settings.size).run positive
    earlier).2⟩

/-- The refused calls of the process do not matter. -/
theorem run_accepted
    (sound : state.Sound settings) :
    ReplayWindow.machine.run state.initial state.accepted =
      state.replay.window := by
  have positive := settings.size_pos
  obtain ⟨reference, refines⟩ := sound.refines
  rw [sound.window]
  exact (refines.run_accepted positive state.calls).1

/-- The newest generation is the window as it is. -/
theorem windowAt_newest
    (sound : state.Sound settings) :
    state.windowAt state.replay.acceptedCount = state.replay.window := by
  rw [windowAt, sound.counted, List.take_length, sound.run_accepted]

end Sound

section Extension

variable
  (sameInitial : later.initial = state.initial)
  (grows : state.accepted <+: later.accepted)

include sameInitial grows

/-- Later calls do not change earlier generations. -/
theorem windowAt_extended
    {generation : Nat}
    (reached : generation ≤ state.accepted.length) :
    later.windowAt generation = state.windowAt generation := by
  obtain ⟨added, shape⟩ := grows
  rw [windowAt, windowAt, sameInitial, ← shape,
    List.take_append_of_le_length reached]

theorem Records.extended
    {checkpoint : Checkpoint}
    (records : state.Records checkpoint) :
    later.Records checkpoint where
  reached := records.reached.trans grows.length_le
  snapshot := by
    rw [windowAt_extended sameInitial grows records.reached]
    exact records.snapshot

theorem Holds.extended
    {version : FileVersion}
    (holds : state.Holds settings version) :
    later.Holds settings version where
  reached := holds.reached.trans grows.length_le
  content := by
    rw [windowAt_extended sameInitial grows holds.reached, sameInitial]
    exact holds.content

end Extension

namespace Sound

/-- A step that answers no call. -/
theorem keep
    (sound : state.Sound settings)
    (replay : PersistentReplay)
    (file : StateFile)
    (sameWindow : replay.window = state.replay.window)
    (sameCount : replay.acceptedCount = state.replay.acceptedCount)
    (pending :
      ∀ checkpoint ∈ replay.pending,
        state.Records checkpoint ∧
          checkpoint.generation = state.replay.acceptedCount)
    (inflight :
      ∀ checkpoint ∈ replay.writer.inflight?,
        state.Records checkpoint ∧
          replay.persistedCount ≤ checkpoint.generation ∧
          (replay.pending = none →
            checkpoint.generation = state.replay.acceptedCount))
    (replaced :
      ∀ checkpoint,
        replay.writer = .replaced checkpoint →
        file.visible.generation = checkpoint.generation)
    (idle :
      replay.pending = none →
      replay.writer.inflight? = none →
      file.visible.generation = state.replay.acceptedCount)
    (visible : file.visible ∈ file.survivors)
    (survivors :
      ∀ version ∈ file.survivors,
        replay.persistedCount ≤ version.generation ∧
          state.Holds settings version)
    (finished :
      replay.writer = .finished →
      replay.stopping = true ∧ replay.pending = none) :
    Sound settings { state with replay := replay, file := file } where
  origin := sound.origin
  answers := sound.answers
  window := sameWindow.trans sound.window
  counted := sameCount.trans sound.counted
  pending checkpoint member := by
    obtain ⟨records, newest⟩ := pending checkpoint member
    exact ⟨records.extended (by rfl) (by exact List.prefix_refl _),
      newest.trans sameCount.symm⟩
  inflight checkpoint member := by
    obtain ⟨records, ahead, newest⟩ := inflight checkpoint member
    exact ⟨records.extended (by rfl) (by exact List.prefix_refl _), ahead,
      fun empty => (newest empty).trans sameCount.symm⟩
  replaced := replaced
  idle empty notWriting := (idle empty notWriting).trans sameCount.symm
  visible := visible
  survivors version member := by
    obtain ⟨durable, holds⟩ := survivors version member
    exact ⟨durable, holds.extended (by rfl) (by exact List.prefix_refl _)⟩
  finished := finished

/-- A call the window answers is answered by the window of its run. -/
theorem answered
    (sound : state.Sound settings)
    (sequence sessionId : Int) :
    ReplayWindow.machine.step
        (ReplayWindow.machine.run state.initial state.calls)
        (sequence, sessionId) =
      state.replay.window.acceptLocked sequence sessionId := by
  rw [← sound.window]
  rfl

/-- A new frame keeps the invariant and leaves a checkpoint to be written. -/
theorem acceptNew
    (sound : state.Sound settings)
    {sequence sessionId : Int}
    {window : ReplayWindow}
    (running : ¬ state.replay.stopping = true)
    (accepts :
      state.replay.window.acceptLocked sequence sessionId =
        (window, true))
    (now : Time) :
    ({ state with
        replay := state.replay.queueSnapshot settings window now
        calls := state.calls ++ [(sequence, sessionId)]
        answers := state.answers ++ [true] } : Checkpointing).Sound
          settings := by
  have answered := sound.answered sequence sessionId
  have sameAccepted :
      ({ state with
          replay := state.replay.queueSnapshot settings window now
          calls := state.calls ++ [(sequence, sessionId)]
          answers := state.answers ++ [true] } :
        Checkpointing).accepted =
          state.accepted ++ [(sequence, sessionId)] := by
    simp [Checkpointing.accepted, Machine.accepted_append,
      Machine.accepted, answered, accepts]
  have newWindow :
      window =
        ReplayWindow.machine.run state.initial
          (state.calls ++ [(sequence, sessionId)]) := by
    rw [Machine.run_concat, answered, accepts]
  have newest :
      ReplayWindow.machine.run state.initial
          (state.accepted ++ [(sequence, sessionId)]) = window := by
    rw [Machine.run_concat, sound.run_accepted]
    exact congrArg Prod.fst accepts
  obtain ⟨sameInflight, sameReplaced, sameFinished⟩ :=
    state.replay.queueSnapshot_keeps settings window now
  exact {
    origin := sound.origin
    answers := by
      rw [Machine.answers_append, sound.answers]
      simp [Machine.answers, answered, accepts]
    window := newWindow
    counted := by
      rw [sameAccepted, List.length_append]
      exact congrArg (· + 1) sound.counted
    pending := by
      intro checkpoint member
      cases member
      refine ⟨⟨?_, ?_⟩, rfl⟩
      · rw [sameAccepted, List.length_append]
        exact (congrArg (· + 1) sound.counted).le
      · rw [windowAt, sameAccepted]
        dsimp only
        rw [sound.counted, List.take_of_length_le (by simp), newest]
    inflight := by
      intro checkpoint member
      rw [sameInflight] at member
      obtain ⟨records, ahead, _⟩ := sound.inflight checkpoint member
      exact ⟨records.extended (by rfl)
        (by rw [sameAccepted]; exact List.prefix_append _ _), ahead,
        fun empty => by cases empty⟩
    replaced := fun checkpoint replaced =>
      sound.replaced checkpoint ((sameReplaced checkpoint).mp replaced)
    idle := fun empty => by cases empty
    visible := sound.visible
    survivors := fun version member =>
      have holds := sound.survivors version member
      ⟨holds.1, holds.2.extended (by rfl)
        (by rw [sameAccepted]; exact List.prefix_append _ _)⟩
    finished := fun finished =>
      absurd (sound.finished (sameFinished.mp finished)).1 running }

/-- A frame the window knows only adds to the calls. -/
theorem acceptKnown
    (sound : state.Sound settings)
    {sequence sessionId : Int}
    (unchanged :
      state.replay.window.acceptLocked sequence sessionId =
        (state.replay.window, false)) :
    ({ state with
        calls := state.calls ++ [(sequence, sessionId)]
        answers := state.answers ++ [false] } : Checkpointing).Sound
          settings := by
  have answered := sound.answered sequence sessionId
  have sameAccepted :
      ({ state with
          calls := state.calls ++ [(sequence, sessionId)]
          answers := state.answers ++ [false] } :
        Checkpointing).accepted = state.accepted := by
    simp [Checkpointing.accepted, Machine.accepted_append,
      Machine.accepted, answered, unchanged]
  exact {
    origin := sound.origin
    answers := by
      rw [Machine.answers_append, sound.answers]
      simp [Machine.answers, answered, unchanged]
    window := by
      rw [Machine.run_concat, answered, unchanged]
    counted := by
      rw [sameAccepted]
      exact sound.counted
    pending := fun checkpoint member =>
      have holds := sound.pending checkpoint member
      ⟨holds.1.extended (by rfl) (by rw [sameAccepted]), holds.2⟩
    inflight := fun checkpoint member =>
      have holds := sound.inflight checkpoint member
      ⟨holds.1.extended (by rfl) (by rw [sameAccepted]), holds.2⟩
    replaced := sound.replaced
    idle := sound.idle
    visible := sound.visible
    survivors := fun version member =>
      have holds := sound.survivors version member
      ⟨holds.1,
        holds.2.extended (by rfl) (by rw [sameAccepted])⟩
    finished := sound.finished }

/-- An `accept` call keeps the invariant. -/
theorem afterAccept
    (sound : state.Sound settings)
    (sequence sessionId : Int)
    (now : Time) :
    (state.afterAccept settings sequence sessionId now).Sound
      settings := by
  by_cases stopping : state.replay.stopping = true
  · have same :
        state.afterAccept settings sequence sessionId now = state := by
      simp [Checkpointing.afterAccept, PersistentReplay.accept, stopping]
    rw [same]
    exact sound
  have positive := settings.size_pos
  obtain ⟨start, startRefines⟩ := sound.refines
  have refines := (startRefines.run positive state.calls).2
  rw [← sound.window] at refines
  rcases refines.accept positive sequence sessionId with
    ⟨_, accepts, _⟩ | ⟨_, unchanged⟩
  · obtain ⟨window, accepts⟩ :
        ∃ window, state.replay.window.acceptLocked sequence sessionId =
          (window, true) :=
      ⟨_, Prod.ext rfl accepts⟩
    rw [Checkpointing.afterAccept, PersistentReplay.accept,
      if_neg stopping, accepts]
    exact sound.acceptNew stopping accepts now
  · have unchanged :
        state.replay.window.acceptLocked sequence sessionId =
          (state.replay.window, false) :=
      unchanged
    rw [Checkpointing.afterAccept, PersistentReplay.accept,
      if_neg stopping, unchanged]
    exact sound.acceptKnown unchanged

/-- What is durable has been accepted. -/
theorem persisted_le
    (sound : state.Sound settings) :
    state.replay.persistedCount ≤ state.replay.acceptedCount := by
  obtain ⟨durable, holds⟩ := sound.survivors _ sound.visible
  rw [sound.counted]
  exact durable.trans holds.reached

/-- A turn of the inner loop of the writer keeps the invariant. -/
theorem look
    (sound : state.Sound settings)
    (running : state.replay.writer = .running)
    (now : Time) :
    Sound settings
      { state with replay := state.replay.look settings now } := by
  have notWriting : state.replay.writer.inflight? = none := by
    rw [running]
    rfl
  unfold PersistentReplay.look
  split
  · rename_i empty
    have settled := sound.idle empty notWriting
    split
    · rename_i stopping
      exact sound.keep _ state.file rfl rfl sound.pending
        (fun _ member => by cases member)
        (fun _ replaced => by cases replaced)
        (fun _ _ => settled) sound.visible sound.survivors
        (fun _ => ⟨stopping, empty⟩)
    · exact sound.keep _ state.file rfl rfl sound.pending
        (fun _ member => by cases member)
        (fun _ replaced => by cases replaced)
        (fun _ _ => settled) sound.visible sound.survivors
        (fun finished => by cases finished)
  · rename_i checkpoint waiting
    obtain ⟨records, newest⟩ := sound.pending checkpoint waiting
    split
    · refine sound.keep _ state.file rfl rfl
        (fun _ member => by cases member) ?_
        (fun _ replaced => by cases replaced)
        (fun _ notTaken => by cases notTaken) sound.visible
        sound.survivors (fun finished => by cases finished)
      intro taken member
      cases member
      refine ⟨records, ?_, fun _ => newest⟩
      have behind := sound.persisted_le
      change state.replay.persistedCount ≤ checkpoint.generation
      omega
    · exact sound.keep _ state.file rfl rfl sound.pending
        (fun _ member => by cases member)
        (fun _ replaced => by cases replaced)
        (fun empty => by
          have empty : state.replay.pending = none := empty
          rw [waiting] at empty
          cases empty)
        sound.visible sound.survivors (fun finished => by cases finished)

/-- A failed write keeps the invariant, before and after `os.replace`. -/
theorem writeFailed
    (sound : state.Sound settings)
    {checkpoint : Checkpoint}
    (inflight : state.replay.writer.inflight? = some checkpoint)
    (now : Time) :
    Sound settings
      { state with
        replay := state.replay.writeFailed settings checkpoint now } := by
  obtain ⟨records, _, newest⟩ := sound.inflight checkpoint inflight
  refine sound.keep _ state.file rfl rfl ?_
    (fun _ member => by cases member) (fun _ replaced => by cases replaced)
    ?_ sound.visible sound.survivors (fun finished => by cases finished)
  · intro queued member
    cases waiting : state.replay.pending with
    | none =>
        simp only [PersistentReplay.writeFailed, waiting,
          Option.mem_def, Option.some.injEq] at member
        subst member
        exact ⟨records, newest waiting⟩
    | some newer =>
        simp only [PersistentReplay.writeFailed, waiting,
          Option.mem_def, Option.some.injEq] at member
        subst member
        obtain ⟨newerRecords, newerNewest⟩ := sound.pending newer waiting
        exact ⟨⟨newerRecords.reached, newerRecords.snapshot⟩, newerNewest⟩
  · intro empty
    simp only [PersistentReplay.writeFailed] at empty
    split at empty <;> cases empty

/-- Replacing the file keeps the invariant. -/
theorem replace
    (sound : state.Sound settings)
    {checkpoint : Checkpoint}
    (writing : state.replay.writer = .writing checkpoint) :
    Sound settings
      { state with
        replay := { state.replay with writer := .replaced checkpoint }
        file := state.file.replace settings.fingerprint checkpoint } := by
  have inflight : state.replay.writer.inflight? = some checkpoint := by
    rw [writing]
    rfl
  obtain ⟨records, ahead, newest⟩ := sound.inflight checkpoint inflight
  refine sound.keep _ _ rfl rfl sound.pending ?_ ?_
    (fun _ notTaken => by cases notTaken) List.mem_cons_self ?_
    (fun finished => by cases finished)
  · intro taken member
    cases member
    exact ⟨records, ahead, newest⟩
  · intro taken replaced
    cases replaced
    rfl
  · intro version member
    rcases List.mem_cons.mp member with isNew | old
    · rw [isNew]
      refine ⟨ahead, records.reached, .inl ?_⟩
      rw [← records.snapshot]
    · exact sound.survivors version old

/-- A finished write keeps the invariant. -/
theorem succeed
    (sound : state.Sound settings)
    {checkpoint : Checkpoint}
    (replaced : state.replay.writer = .replaced checkpoint) :
    Sound settings
      { state with
        replay := state.replay.writeSucceeded checkpoint
        file := state.file.sync } := by
  have inflight : state.replay.writer.inflight? = some checkpoint := by
    rw [replaced]
    rfl
  obtain ⟨records, _, newest⟩ := sound.inflight checkpoint inflight
  have stored := sound.replaced checkpoint replaced
  refine sound.keep _ _ rfl rfl sound.pending
    (fun _ member => by cases member) (fun _ replaced => by cases replaced)
    (fun empty _ => stored.trans (newest empty)) (List.mem_singleton.mpr rfl)
    ?_ (fun finished => by cases finished)
  intro version member
  rw [List.mem_singleton.mp member]
  exact ⟨stored.ge, (sound.survivors _ sound.visible).2⟩

/-- Stopping keeps the invariant. -/
theorem stop
    (sound : state.Sound settings) :
    Sound settings { state with replay := state.replay.stop } := by
  refine sound.keep _ state.file rfl rfl sound.pending ?_ ?_ ?_
    sound.visible sound.survivors ?_
  · intro checkpoint member
    rw [PersistentReplay.stop, Writer.inflight?_notified] at member
    exact sound.inflight checkpoint member
  · intro checkpoint replaced
    exact sound.replaced checkpoint
      (Writer.notified_eq_replaced_iff.mp replaced)
  · intro empty notWriting
    rw [PersistentReplay.stop, Writer.inflight?_notified] at notWriting
    exact sound.idle empty notWriting
  · intro finished
    exact ⟨rfl, (sound.finished
      (Writer.notified_eq_finished_iff.mp finished)).2⟩

/-- The end of a timed wait keeps the invariant. -/
theorem timeout
    (sound : state.Sound settings)
    {deadline : Time}
    (waiting : state.replay.writer = .waiting (some deadline)) :
    Sound settings
      { state with replay := { state.replay with writer := .running } } := by
  have notWriting : state.replay.writer.inflight? = none := by
    rw [waiting]
    rfl
  exact sound.keep _ state.file rfl rfl sound.pending
    (fun _ member => by cases member) (fun _ replaced => by cases replaced)
    (fun empty _ => sound.idle empty notWriting) sound.visible
    sound.survivors (fun finished => by cases finished)

end Sound

/-- Reading back what `_write_snapshot` stores for a reachable window. -/
theorem load_envelope
    (settings : CheckpointSettings)
    (calls : List (Int × Int)) :
    (ReplayWindow.fresh settings.size).load settings.fingerprint
        (.ok (ReplayWindow.envelope settings.fingerprint
          (ReplayWindow.machine.run (.fresh settings.size)
            calls).snapshot)) =
      (ReplayWindow.machine.run (.fresh settings.size) calls, .ok ()) := by
  have positive := settings.size_pos
  have sameSize :
      (ReplayWindow.machine.run (.fresh settings.size) calls).size =
        settings.size :=
    ((ReplayWindow.Refines.fresh settings.size).run positive
      calls).2.sameSize
  have restored :=
    ReplayWindow.restore_snapshot
      (ReplayWindow.wellFormed_of_reachable positive calls)
      (.fresh settings.size) sameSize.symm
  have own :
      ReplayWindow.belongs settings.fingerprint
        (ReplayWindow.envelope settings.fingerprint
          (ReplayWindow.machine.run (.fresh settings.size)
            calls).snapshot) = .ok true := by
    simp [ReplayWindow.belongs, ReplayWindow.envelope, JsonValue.get,
      JsonValue.equalsOne, JsonValue.equalsText, bind, Except.bind, pure,
      Except.pure]
  simp only [ReplayWindow.load, own]
  exact restored

/-- A process that starts over nothing, or over a reachable window. -/
theorem init_of_stored
    (settings : CheckpointSettings)
    (content : Option JsonValue)
    (calls : List (Int × Int))
    (stored :
      content = none ∧ calls = [] ∨
        content = some (ReplayWindow.envelope settings.fingerprint
          (ReplayWindow.machine.run (.fresh settings.size)
            calls).snapshot))
    (now : Time) :
    ∃ replay,
      PersistentReplay.init settings content now = .ok replay ∧
        replay.window =
          ReplayWindow.machine.run (.fresh settings.size) calls ∧
        replay.pending = none ∧
        replay.writer = .running ∧
        replay.acceptedCount = 0 ∧
        replay.persistedCount = 0 := by
  rcases stored with ⟨rfl, rfl⟩ | rfl
  · exact ⟨_, rfl, rfl, rfl, rfl, rfl, rfl⟩
  · rw [PersistentReplay.init, load_envelope]
    exact ⟨_, rfl, rfl, rfl, rfl, rfl, rfl⟩

/-- A process that has just started is sound. -/
theorem Sound.of_starts
    {content : Option JsonValue}
    {calls : List (Int × Int)}
    (stored :
      content = none ∧ calls = [] ∨
        content = some (ReplayWindow.envelope settings.fingerprint
          (ReplayWindow.machine.run (.fresh settings.size)
            calls).snapshot))
    {now : Time}
    (starts : Starts settings content now state) :
    state.Sound settings := by
  obtain ⟨replay, started, sameWindow, empty, running, noneAccepted,
    nonePersisted⟩ := init_of_stored settings content calls stored now
  obtain ⟨other, otherStarted, rfl⟩ := starts
  rw [started] at otherStarted
  obtain rfl := Except.ok.inj otherStarted
  have notWriting : replay.writer.inflight? = none := by
    rw [running]
    rfl
  exact {
    origin := ⟨calls, sameWindow⟩
    answers := rfl
    window := rfl
    counted := noneAccepted
    pending := fun checkpoint member => by
      have member : checkpoint ∈ replay.pending := member
      rw [empty] at member
      cases member
    inflight := fun checkpoint member => by
      have member : checkpoint ∈ replay.writer.inflight? := member
      rw [notWriting] at member
      cases member
    replaced := fun checkpoint replaced => by
      have replaced : replay.writer = .replaced checkpoint := replaced
      rw [running] at replaced
      cases replaced
    idle := fun _ _ => noneAccepted.symm
    visible := List.mem_singleton.mpr rfl
    survivors := by
      intro version member
      rw [List.mem_singleton.mp member]
      refine ⟨nonePersisted.le, Nat.zero_le _, ?_⟩
      rcases stored with ⟨rfl, rfl⟩ | rfl
      · exact .inr ⟨rfl, rfl, sameWindow⟩
      · refine .inl ?_
        rw [← sameWindow]
        rfl
    finished := fun finished => by
      have finished : replay.writer = .finished := finished
      rw [running] at finished
      cases finished }

namespace Sound

/-- What a surviving version of the file stores is a reachable window. -/
theorem stored_of_survivor
    (sound : state.Sound settings)
    {version : FileVersion}
    (survives : version ∈ state.file.survivors) :
    ∃ calls,
      (version.content = none ∧ calls = [] ∨
        version.content =
          some (ReplayWindow.envelope settings.fingerprint
            (ReplayWindow.machine.run (.fresh settings.size)
              calls).snapshot)) ∧
        ReplayWindow.machine.run (.fresh settings.size) calls =
          state.windowAt version.generation ∧
        state.accepted.take version.generation ⊆
          ReplayWindow.machine.accepted (.fresh settings.size) calls := by
  obtain ⟨_, holds⟩ := sound.survivors version survives
  rcases holds.content with stored | ⟨atStart, stored, sameInitial⟩
  · obtain ⟨earlier, sameInitial⟩ := sound.origin
    have continued :
        ReplayWindow.machine.run (.fresh settings.size)
            (earlier ++ state.accepted.take version.generation) =
          state.windowAt version.generation := by
      rw [Machine.run_append, ← sameInitial, windowAt]
    refine ⟨_, .inr (continued ▸ stored), continued, ?_⟩
    have positive := settings.size_pos
    obtain ⟨reference, refines⟩ := sound.refines
    have all := (refines.run_accepted positive state.calls).2
    rw [← accepted, ← List.take_append_drop version.generation
      state.accepted] at all
    rw [Machine.accepted_append, ← sameInitial,
      Machine.accepted_of_append all]
    exact List.subset_append_right _ _
  · refine ⟨[], .inl ⟨stored, rfl⟩, ?_, ?_⟩
    · rw [windowAt, atStart, List.take_zero, sameInitial]
    · rw [atStart, List.take_zero]
      exact List.nil_subset _

/-- Every event keeps the invariant. -/
theorem step
    (sound : state.Sound settings)
    {event : Event}
    (taken : Step settings state event later) :
    later.Sound settings := by
  cases taken with
  | accept sequence sessionId now =>
      exact sound.afterAccept sequence sessionId now
  | look now running => exact sound.look running now
  | timeout now deadline waiting expired => exact sound.timeout waiting
  | replace checkpoint writing => exact sound.replace writing
  | succeed checkpoint replaced => exact sound.succeed replaced
  | failBefore now checkpoint writing =>
      exact sound.writeFailed (by rw [writing]; rfl) now
  | failAfter now checkpoint replaced =>
      exact sound.writeFailed (by rw [replaced]; rfl) now
  | stop => exact sound.stop
  | crash now version survives restarted starts =>
      obtain ⟨calls, stored, _⟩ := sound.stored_of_survivor survives
      exact .of_starts stored starts

theorem of_reachable
    (reached : (system settings).Reachable state) :
    state.Sound settings := by
  refine reached.invariant (motive := Sound settings) ?_
    fun _ _ _ _ sound taken => sound.step taken
  rintro state ⟨now, content, starts, reachable⟩
  cases content with
  | none => exact .of_starts (.inl ⟨rfl, rfl⟩) starts
  | some stored =>
      obtain ⟨calls, rfl⟩ := reachable stored rfl
      exact .of_starts (.inr rfl) starts

end Sound

/-- Generations in the file, with the writer and in the slot. -/
def generations (state : Checkpointing) : List Nat :=
  state.file.visible.generation ::
    (state.replay.writer.inflight?.toList ++
      state.replay.pending.toList).map Checkpoint.generation

/-- No update is lost, and none that is durable is forgotten by a crash. -/
structure CrashConsistent
    (settings : CheckpointSettings)
    (state : Checkpointing) : Prop where
  /-- The calls are answered as by a window without checkpoints. -/
  answers :
    state.answers =
      ReplayWindow.machine.answers state.initial state.calls
  newest :
    state.replay.acceptedCount ∈ state.generations ∧
      ∀ generation ∈ state.generations,
        generation ≤ state.replay.acceptedCount
  snapshots :
    state.windowAt state.replay.acceptedCount = state.replay.window ∧
      (∀ checkpoint ∈ state.replay.pending, state.Records checkpoint) ∧
      (∀ checkpoint ∈ state.replay.writer.inflight?,
        state.Records checkpoint) ∧
      state.Holds settings state.file.visible
  durable :
    state.replay.persistedCount ≤ state.file.visible.generation
  monotone :
    ∀ event later,
      Step settings state event later →
      (∀ now, event ≠ .crash now) →
      state.replay.persistedCount ≤ later.replay.persistedCount
  /-- Whichever version survives, a process starts over it. -/
  restarts :
    ∀ version ∈ state.file.survivors, ∀ now, ∃ restarted,
      Starts settings version.content now restarted
  /--
  A restarted process never accepts what was accepted up to the persisted
  generation, nor what this process would never have accepted.
  -/
  refuses :
    ∀ now restarted,
      Step settings state (.crash now) restarted →
      ∀ call,
        (call ∈ state.accepted.take state.replay.persistedCount ∨
          ∀ calls, call ∉
            ReplayWindow.machine.accepted state.initial calls) →
        ∀ calls, call ∉
          ReplayWindow.machine.accepted restarted.initial calls
  /-- Once `close` has returned `True`, the file holds the last window. -/
  closed :
    state.replay.closed = true →
    state.file.visible.generation = state.replay.acceptedCount ∧
      (∀ sequence sessionId now, ∃ failure,
        state.replay.accept settings sequence sessionId now =
          (state.replay, .error failure)) ∧
      ∀ now restarted,
        Step settings state (.crash now) restarted →
        restarted.replay.window = state.replay.window

namespace Sound

theorem newest_generation
    (sound : state.Sound settings) :
    state.replay.acceptedCount ∈ state.generations ∧
      ∀ generation ∈ state.generations,
        generation ≤ state.replay.acceptedCount := by
  constructor
  · cases waiting : state.replay.pending with
    | some checkpoint =>
        obtain ⟨_, newest⟩ := sound.pending checkpoint waiting
        simp [generations, waiting, newest]
    | none =>
        cases inflight : state.replay.writer.inflight? with
        | some checkpoint =>
            obtain ⟨_, _, newest⟩ := sound.inflight checkpoint inflight
            simp [generations, inflight, newest waiting]
        | none =>
            simp [generations, sound.idle waiting inflight]
  · rw [sound.counted]
    intro generation member
    rcases List.mem_cons.mp member with stored | other
    · rw [stored]
      exact (sound.survivors _ sound.visible).2.reached
    · obtain ⟨checkpoint, somewhere, rfl⟩ := List.mem_map.mp other
      rcases List.mem_append.mp somewhere with inflight | waiting
      · exact (sound.inflight checkpoint
          (Option.mem_toList.mp inflight)).1.reached
      · exact (sound.pending checkpoint
          (Option.mem_toList.mp waiting)).1.reached

theorem afterAccept_replay
    (settings : CheckpointSettings)
    (state : Checkpointing)
    (sequence sessionId : Int)
    (now : Time) :
    (state.afterAccept settings sequence sessionId now).replay =
      (state.replay.accept settings sequence sessionId now).1 := by
  unfold Checkpointing.afterAccept
  split <;> simp_all

theorem accept_persistedCount
    (settings : CheckpointSettings)
    (replay : PersistentReplay)
    (sequence sessionId : Int)
    (now : Time) :
    (replay.accept settings sequence sessionId now).1.persistedCount =
      replay.persistedCount := by
  unfold PersistentReplay.accept
  split
  · rfl
  · split <;> rfl

theorem persisted_mono
    (sound : state.Sound settings)
    {event : Event}
    (taken : Step settings state event later)
    (noCrash : ∀ now, event ≠ .crash now) :
    state.replay.persistedCount ≤ later.replay.persistedCount := by
  cases taken with
  | accept sequence sessionId now =>
      rw [afterAccept_replay, accept_persistedCount]
  | look now running =>
      unfold PersistentReplay.look
      split
      · split <;> exact le_refl _
      · split <;> exact le_refl _
  | succeed checkpoint replaced =>
      have inflight : state.replay.writer.inflight? = some checkpoint := by
        rw [replaced]
        rfl
      exact (sound.inflight checkpoint inflight).2.1
  | timeout | replace | failBefore | failAfter | stop =>
      exact le_refl _
  | crash now => exact absurd rfl (noCrash now)

/-- Whichever version survives a crash, a process starts over it. -/
theorem restarts
    (sound : state.Sound settings)
    {version : FileVersion}
    (survives : version ∈ state.file.survivors)
    (now : Time) :
    ∃ restarted, Starts settings version.content now restarted := by
  obtain ⟨calls, stored, _⟩ := sound.stored_of_survivor survives
  obtain ⟨replay, started, _⟩ :=
    init_of_stored settings version.content calls stored now
  exact ⟨_, replay, started, rfl⟩

/-- A process restarts with the window of a durable generation. -/
theorem window_of_crash
    (sound : state.Sound settings)
    {now : Time}
    {restarted : Checkpointing}
    (taken : Step settings state (.crash now) restarted) :
    ∃ version ∈ state.file.survivors,
      restarted.initial = state.windowAt version.generation ∧
        restarted.replay.window = restarted.initial := by
  cases taken with
  | crash now version survives restarted starts =>
      obtain ⟨calls, stored, sameWindow, _⟩ :=
        sound.stored_of_survivor survives
      obtain ⟨replay, started, window, _⟩ :=
        init_of_stored settings version.content calls stored now
      obtain ⟨other, otherStarted, rfl⟩ := starts
      rw [started] at otherStarted
      obtain rfl := Except.ok.inj otherStarted
      exact ⟨version, survives, window.trans sameWindow, rfl⟩

/-- What was durable, or refused for good, stays refused after a crash. -/
theorem refused_of_crash
    (sound : state.Sound settings)
    {now : Time}
    {restarted : Checkpointing}
    (taken : Step settings state (.crash now) restarted)
    {call : Int × Int}
    (refused :
      call ∈ state.accepted.take state.replay.persistedCount ∨
        ∀ calls, call ∉
          ReplayWindow.machine.accepted state.initial calls)
    (calls : List (Int × Int)) :
    call ∉ ReplayWindow.machine.accepted restarted.initial calls := by
  obtain ⟨version, survives, sameInitial, _⟩ := sound.window_of_crash taken
  have positive := settings.size_pos
  rcases refused with durable | never
  · obtain ⟨earlier, _, sameWindow, includes⟩ :=
      sound.stored_of_survivor survives
    have behind := (sound.survivors version survives).1
    have included :
        call ∈ ReplayWindow.machine.accepted (.fresh settings.size)
          earlier :=
      includes ((List.take_subset_take_left _ behind) durable)
    rw [sameInitial, ← sameWindow]
    exact ReplayWindow.not_accepted_again positive included calls
  · intro again
    apply never (state.accepted.take version.generation ++ calls)
    rw [Machine.accepted_append]
    rw [sameInitial] at again
    exact List.mem_append_right _ again

/-- After `close` has returned `True` the file holds the last window. -/
theorem closed_durable
    (sound : state.Sound settings)
    (closed : state.replay.closed = true) :
    state.file.visible.generation = state.replay.acceptedCount ∧
      (∀ sequence sessionId now, ∃ failure,
        state.replay.accept settings sequence sessionId now =
          (state.replay, .error failure)) ∧
      ∀ now restarted,
        Step settings state (.crash now) restarted →
        restarted.replay.window = state.replay.window := by
  unfold PersistentReplay.closed at closed
  split at closed
  · rename_i finished
    obtain ⟨stopping, empty⟩ := sound.finished finished
    have noLag : state.replay.lagFrames = 0 := of_decide_eq_true closed
    have allPersisted :
        state.replay.persistedCount = state.replay.acceptedCount := by
      unfold PersistentReplay.lagFrames at noLag
      omega
    refine ⟨sound.idle empty (by rw [finished]; rfl), ?_, ?_⟩
    · intro sequence sessionId now
      rw [PersistentReplay.accept, if_pos stopping]
      exact ⟨_, rfl⟩
    · intro now restarted taken
      obtain ⟨version, survives, sameInitial, sameWindow⟩ :=
        sound.window_of_crash taken
      obtain ⟨durable, holds⟩ := sound.survivors version survives
      have reached := holds.reached
      have newest : version.generation = state.replay.acceptedCount := by
        rw [← sound.counted] at reached
        omega
      rw [sameWindow, sameInitial, newest, sound.windowAt_newest]
  · cases closed

end Sound

/--
In every run of accepting threads, the writer, failing and succeeding writes,
stops and crashes, the checkpoints are crash-consistent.
-/
theorem checkpoints_crash_consistent
    {settings : CheckpointSettings}
    {state : Checkpointing}
    (reached : (system settings).Reachable state) :
    state.CrashConsistent settings := by
  have sound := Sound.of_reachable reached
  exact {
    answers := sound.answers
    newest := sound.newest_generation
    snapshots := ⟨sound.windowAt_newest,
      fun checkpoint waiting => (sound.pending checkpoint waiting).1,
      fun checkpoint inflight => (sound.inflight checkpoint inflight).1,
      (sound.survivors _ sound.visible).2⟩
    durable := (sound.survivors _ sound.visible).1
    monotone := fun event later taken noCrash =>
      sound.persisted_mono taken noCrash
    restarts := fun version survives now => sound.restarts survives now
    refuses := fun now restarted taken call refused calls =>
      sound.refused_of_crash taken refused calls
    closed := sound.closed_durable }

/-- Default settings for a window of 64 frames. -/
def plainSettings : CheckpointSettings where
  size := 64
  fingerprint := "fingerprint"
  intervalSeconds := 1 / 20
  batchFrames := 128
  sizeLarge := le_refl 64
  intervalPositive := by decide +kernel
  batchPositive := by decide

/-- One frame is checkpointed and another one is not. -/
theorem checkpoints_crash_consistent_one_durable :
    ∃ state,
      (system plainSettings).Reachable state ∧
        state.replay.acceptedCount = 2 ∧
        state.replay.persistedCount = 1 ∧
        ∀ now restarted,
          Step plainSettings state (.crash now) restarted →
          ∀ calls, (5, 1) ∉
            ReplayWindow.machine.accepted restarted.initial calls := by
  obtain ⟨start, started⟩ :
      ∃ start, Starts plainSettings none 0 start := ⟨_, _, rfl, rfl⟩
  have step :
      ∀ {state event later},
        (system plainSettings).Reachable state →
        Step plainSettings state event later →
        (system plainSettings).Reachable later :=
    fun reached taken => .next _ reached taken
  have begun : (system plainSettings).Reachable start :=
    .start ⟨0, none, started, fun _ member => by cases member⟩
  obtain ⟨replay, initialized, rfl⟩ := started
  cases initialized
  have reached :=
    step (step (step (step (step begun
      (.accept 5 1 0)) (.look 1 rfl)) (.replace _
        (PersistentReplay.writer_look rfl (by decide +kernel))))
      (.succeed _ rfl))
      (.accept 6 1 2)
  refine ⟨_, reached, by decide +kernel, by decide +kernel, ?_⟩
  intro now restarted taken
  exact (checkpoints_crash_consistent reached).refuses now restarted
    taken _ (.inl (by decide +kernel))

end Checkpointing

end H3ntun

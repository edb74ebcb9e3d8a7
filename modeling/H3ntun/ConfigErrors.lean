import H3ntun.LoadConfig

namespace H3ntun

/-!
# Exceptions of loading a configuration

`h3ntun check` reports the exception classes `main` catches.  Everything
`load_config` does raises one of them, apart from the conversions of numbers:
`int` and `float` refuse some values with `TypeError` or `OverflowError`.
-/

/-- The exception classes of the `except` clause of `main`. -/
def Failure.isReported : Failure → Bool
  | .protocolError _ => true
  | .valueError _ => true
  | .jsonDecodeError _ => true
  | .recursionError => true
  | .probeError _ => true
  | .runtimeError _ => true
  | .osError => true
  | .keyError => true
  | _ => false

/-- Every exception of a computation is one `main` catches. -/
def Reports {α : Type} (result : Except Failure α) : Prop :=
  ∀ failure, result = .error failure → failure.isReported = true

/-- `h3ntun check`: the exit status, or what `main` lets through. -/
def checkCommand
    (conversions : Conversions)
    (raw : JsonValue) :
    Except Failure Nat :=
  match loadConfig conversions raw with
  | .ok _ => .ok 0
  | .error failure =>
      if failure.isReported then .ok 1 else .error failure

/-- The command exits with 0 or 1 exactly if loading reports. -/
theorem checkCommand_eq_ok_iff
    {conversions : Conversions}
    {raw : JsonValue} :
    (∃ status, status ≤ 1 ∧ checkCommand conversions raw = .ok status) ↔
      Reports (loadConfig conversions raw) := by
  unfold checkCommand Reports
  cases loadConfig conversions raw with
  | ok config =>
      simp
  | error failure =>
      cases reported : failure.isReported <;> simp [reported]

namespace Reports

variable {α β : Type}

/-- A configuration is returned. -/
theorem ok
    (value : α) :
    Reports (.ok value) := by
  intro failure raised
  cases raised

/-- A class that `main` catches is raised. -/
theorem error
    {failure : Failure}
    (reported : failure.isReported = true) :
    Reports (.error failure : Except Failure α) := by
  intro other raised
  cases raised
  exact reported

/-- What follows a value that was read reports as well. -/
theorem bind
    {first : Except Failure α}
    {rest : α → Except Failure β}
    (reports : Reports first)
    (later : ∀ value, Reports (rest value)) :
    Reports (first >>= rest) := by
  intro failure raised
  obtain raised | ⟨value, _, raised⟩ := bind_eq_error_iff.mp raised
  · exact reports failure raised
  · exact later value failure raised

/-- Wrapping a value changes nothing. -/
theorem map_iff
    {first : Except Failure α}
    {change : α → β} :
    Reports (first.map change) ↔ Reports first := by
  cases first with
  | ok value =>
      exact iff_of_true (ok _) (ok value)
  | error failure =>
      simp [Reports, Except.map]

/-- A check that raises a reported class, and what follows it. -/
theorem guard
    {condition : Prop}
    [Decidable condition]
    {failure : Failure}
    {rest : Except Failure α}
    (reported : failure.isReported = true)
    (later : Reports rest) :
    Reports (if condition then .error failure else rest) :=
  forall_guard_error reported later

end Reports

/-- Whether a computation fails, and how. -/
def discard {α : Type} (result : Except Failure α) :
    Except Failure Unit :=
  result.map fun _ => ()

/-- What follows may be discarded for every value alike. -/
theorem discard_bind
    {α β : Type}
    {first : Except Failure α}
    {rest : α → Except Failure β}
    {later : Except Failure Unit}
    (same : ∀ value, discard (rest value) = later) :
    discard (first >>= rest) = (discard first >>= fun _ => later) := by
  cases first with
  | error failure =>
      rfl
  | ok value =>
      exact same value

/-- There is nothing to discard. -/
theorem discard_unit
    (result : Except Failure Unit) :
    discard result = result := by
  cases result <;> rfl

/-- A computation may be followed by another one that fails alike. -/
theorem reports_bind_iff
    {α β : Type}
    {first : Except Failure α}
    {rest : α → Except Failure β}
    {later : Except Failure Unit}
    (same :
      ∀ value, first = .ok value →
        (Reports (rest value) ↔ Reports later)) :
    Reports (first >>= rest) ↔
      Reports (discard first >>= fun _ => later) := by
  cases first with
  | ok value =>
      exact same value rfl
  | error failure =>
      simp [Reports, discard, Except.map, bind, Except.bind]

section Conversions

variable (conversions : Conversions)

/-- A numeral that is refused raises a `ValueError`. -/
theorem readInt_reports
    (base : Nat)
    (text : List Char) :
    Reports (readInt base text) := by
  intro failure raised
  unfold readInt at raised
  dsimp only at raised
  split at raised <;> cases raised
  rfl

/-- `str` raises nothing but a `ValueError` for a long integer. -/
theorem toStr_reports
    (value : JsonValue) :
    Reports (value.toStr conversions) := by
  cases value with
  | int number =>
      refine Reports.map_iff.mpr (Reports.guard rfl ?_)
      split <;> exact Reports.ok _
  | null | bool | float | infinity | nan | string | array | object =>
      exact Reports.ok _

/-- A missing key is a `KeyError`. -/
theorem item_reports
    (settings : Settings)
    (key : String) :
    Reports (settings.item key) := by
  unfold Settings.item
  split
  · exact Reports.ok _
  · exact Reports.error rfl

/-- A placeholder is a `ConfigError`. -/
theorem rejectPlaceholder_reports
    (value : List Char)
    (field : String) :
    Reports (rejectPlaceholder value field) :=
  Reports.guard rfl (Reports.ok ())

/-- Only the two truth values are no `ConfigError`. -/
theorem parseBool_reports
    (value : JsonValue)
    (field : String) :
    Reports (parseBool value field) := by
  cases value with
  | bool value =>
      exact Reports.ok value
  | null | int | float | infinity | nan | string | array | object =>
      exact Reports.error rfl

/-- A host and a port are read or refused. -/
theorem splitHostPort_reports
    (value : JsonValue)
    (field : String) :
    Reports (splitHostPort value field) := by
  cases value with
  | string text =>
      unfold splitHostPort
      dsimp only
      split
      · exact Reports.error rfl
      · refine Reports.guard rfl ?_
        split
        · exact Reports.error rfl
        · exact Reports.guard rfl (Reports.ok _)
  | null | bool | int | float | infinity | nan | array | object =>
      exact Reports.error rfl

/-- The same of an address to send to. -/
theorem remoteHostPort_reports
    (value : JsonValue)
    (field : String) :
    Reports (remoteHostPort value field) :=
  Reports.bind (splitHostPort_reports value field) fun _ =>
    Reports.bind (rejectPlaceholder_reports _ _) fun _ =>
      Reports.guard rfl (Reports.ok _)

/-- An endpoint that has to be given is read in two steps. -/
theorem endpoint_reports
    {α : Type}
    {settings : Settings}
    {key field : String}
    {rest : String × Int → Except Failure α}
    (later : ∀ endpoint, Reports (rest endpoint)) :
    Reports (settings.item key >>= fun value =>
      splitHostPort value field >>= rest) :=
  (item_reports settings key).bind fun value =>
    (splitHostPort_reports value field).bind later

/-- An address is read or refused. -/
theorem parseIpv4_reports
    (value field : String) :
    Reports (parseIpv4 conversions value field) := by
  refine Reports.bind (rejectPlaceholder_reports _ _) fun _ => ?_
  split
  · split <;> exact Reports.error rfl
  · exact Reports.guard rfl (Reports.guard rfl (Reports.ok _))

/-- Hexadecimal and base64 texts are read or refused. -/
theorem decodeBytes_reports
    {field notText unreadable wrongLength : String}
    {read : List Char → Option Bytes}
    {isLength : Nat → Bool}
    (value : JsonValue) :
    Reports
      (decodeBytes field notText unreadable wrongLength read isLength
        value) := by
  cases value with
  | string text =>
      refine Reports.bind (rejectPlaceholder_reports _ _) fun _ => ?_
      split
      · exact Reports.error rfl
      · exact Reports.guard rfl (Reports.ok _)
  | null | bool | int | float | infinity | nan | array | object =>
      exact Reports.error rfl

/-- A limit that is passed is a `ConfigError`. -/
theorem checkLimits_reports
    (common : CommonSettings) :
    Reports common.checkLimits := by
  repeat refine Reports.guard rfl ?_
  exact Reports.ok ()

/-- A setting that may be absent reports if its conversion does. -/
theorem readOptional_reports
    {α : Type}
    {convert : String → Except Failure α}
    (settings : Settings)
    (key : String)
    (reports : ∀ text, Reports (convert text)) :
    Reports (readOptional conversions settings key convert) := by
  unfold readOptional
  split
  · exact Reports.bind (toStr_reports conversions _) fun text =>
      Reports.bind (reports text) fun _ => Reports.ok _
  · exact Reports.ok _

/-- The path is left out or converted by `str`. -/
theorem readReplayStateFile_reports
    (settings : Settings)
    (default : String) :
    Reports (readReplayStateFile conversions settings default) := by
  unfold readReplayStateFile
  dsimp only
  split
  · exact Reports.bind (toStr_reports conversions _) fun _ => Reports.ok _
  · exact Reports.ok _

/-- The role is one of the two, or refused. -/
theorem readRole_reports
    (settings : Settings) :
    Reports (readRole conversions settings) := by
  refine Reports.bind (toStr_reports conversions _) fun text => ?_
  split
  · exact Reports.ok _
  · split
    · exact Reports.ok _
    · exact Reports.error rfl

/-- The settings of the Iran agent are read or refused. -/
theorem readIran_reports
    (settings : Settings)
    (common : CommonConfig) :
    Reports (readIran conversions settings common) := by
  have source :=
    readOptional_reports conversions settings "expected_downlink_source"
      fun text =>
        parseIpv4_reports conversions text "expected_downlink_source"
  have peer :=
    readOptional_reports conversions settings "expected_inner_peer"
      fun text =>
        remoteHostPort_reports (.string text) "expected_inner_peer"
  refine source.bind fun _ => peer.bind fun _ => ?_
  refine endpoint_reports fun _ => ?_
  refine (splitHostPort_reports _ _).bind fun _ => ?_
  refine (item_reports settings _).bind fun _ =>
    (remoteHostPort_reports _ _).bind fun _ => ?_
  refine endpoint_reports fun _ => ?_
  exact (readReplayStateFile_reports conversions settings _).bind fun _ =>
    Reports.ok _

/-- The mode is `udp`, or refused. -/
theorem readDownlinkMode_reports
    (settings : Settings) :
    Reports (readDownlinkMode conversions settings) :=
  Reports.bind (toStr_reports conversions _) fun _ =>
    Reports.guard rfl (Reports.ok _)

/-- The source is absent, read or refused. -/
theorem readDownlinkSource_reports
    (settings : Settings) :
    Reports (readDownlinkSource conversions settings) :=
  readOptional_reports conversions settings "downlink_source" fun text =>
    parseIpv4_reports conversions text "downlink_source"

end Conversions

namespace JsonValue

/-- Values `float` refuses with an exception `main` does not catch. -/
def CrashesFloat : JsonValue → Prop
  | .null => True
  | .array _ => True
  | .object _ => True
  | .int value => (Binary64.overflowThreshold : Int) ≤ |value|
  | _ => False

/-- Values `int` refuses with an exception `main` does not catch. -/
def CrashesInt : JsonValue → Prop
  | .null => True
  | .array _ => True
  | .object _ => True
  | .infinity _ => True
  | _ => False

/-- `int` reports exactly where it does not crash. -/
theorem reports_toInt_iff
    {value : JsonValue} :
    Reports value.toInt ↔ ¬ value.CrashesInt := by
  cases value with
  | string text =>
      exact iff_of_true (readInt_reports 10 text.toList) not_false
  | bool | int | float =>
      exact iff_of_true (Reports.ok _) not_false
  | nan =>
      exact iff_of_true (Reports.error rfl) not_false
  | null | infinity | array | object =>
      refine iff_of_false (fun reports => ?_) (not_not.mpr trivial)
      exact absurd (reports _ rfl) (by decide)

/-- A number without a sign is read or refused. -/
theorem readUnsignedFloat_reports
    (negative : Bool)
    (text : List Char) :
    Reports (readUnsignedFloat negative text) := by
  unfold readUnsignedFloat
  dsimp only
  split
  · exact Reports.ok _
  · split
    · exact Reports.ok _
    · split
      · exact Reports.error rfl
      · split <;> exact Reports.ok _

/-- A number is read or refused. -/
theorem readFloat_reports
    (text : List Char) :
    Reports (readFloat text) := by
  unfold readFloat
  dsimp only
  split <;> exact readUnsignedFloat_reports _ _

/-- An integer is refused as a float only for its size. -/
theorem reports_ofInt_iff
    {number : Int} :
    Reports (Binary64.ofInt number) ↔
      ¬ (JsonValue.int number).CrashesFloat := by
  have threshold :
      (Binary64.overflowThreshold : Rat) ≤ |(number : Rat)| ↔
        (Binary64.overflowThreshold : Int) ≤ |number| := by
    exact_mod_cast Iff.rfl
  by_cases large : (Binary64.overflowThreshold : Int) ≤ |number|
  · have overflows : Binary64.round number = none :=
      if_pos (threshold.mpr large)
    rw [Binary64.ofInt, overflows]
    refine iff_of_false (fun reports => ?_) (not_not.mpr large)
    exact absurd (reports _ rfl) (by decide)
  · have rounds :
        Binary64.round number =
          some (Binary64.roundToEven (number / Binary64.ulp number) *
            Binary64.ulp number) :=
      if_neg (mt threshold.mp large)
    rw [Binary64.ofInt, rounds]
    exact iff_of_true (Reports.ok _) large

/-- `float` reports exactly where it does not crash. -/
theorem reports_toFloat_iff
    {value : JsonValue} :
    Reports value.toFloat ↔ ¬ value.CrashesFloat := by
  cases value with
  | string text =>
      exact iff_of_true (readFloat_reports text.toList) not_false
  | bool | float | infinity | nan =>
      exact iff_of_true (Reports.ok _) not_false
  | null | array | object =>
      refine iff_of_false (fun reports => ?_) (not_not.mpr trivial)
      exact absurd (reports _ rfl) (by decide)
  | int number =>
      exact reports_ofInt_iff

end JsonValue

/-- A step of `load_config` that may fail, in the order of the source. -/
inductive Reading where
  | check (outcome : Except Failure Unit) (reports : Reports outcome)
  | float (value : JsonValue)
  | int (value : JsonValue)

namespace Reading

/-- A step whose value does not matter. -/
def reported
    {α : Type}
    (result : Except Failure α)
    (reports : Reports result) : Reading :=
  .check (discard result) (Reports.map_iff.mpr reports)

/-- What reading the setting comes to. -/
def outcome : Reading → Except Failure Unit
  | .check outcome _ => outcome
  | .float value => discard value.toFloat
  | .int value => discard value.toInt

/-- Reading the setting raises. -/
def isRefused (reading : Reading) : Bool :=
  !reading.outcome.isOk

/-- The conversion of the value raises what `main` does not catch. -/
def Crashes : Reading → Prop
  | .check _ _ => False
  | .float value => value.CrashesFloat
  | .int value => value.CrashesInt

/-- A setting is reported exactly where its conversion does not crash. -/
theorem reports_outcome_iff
    {reading : Reading} :
    Reports reading.outcome ↔ ¬ reading.Crashes := by
  cases reading with
  | check outcome reports =>
      exact iff_of_true reports not_false
  | float value =>
      exact Reports.map_iff.trans JsonValue.reports_toFloat_iff
  | int value =>
      exact Reports.map_iff.trans JsonValue.reports_toInt_iff

/-- Readings in sequence fail as the first one that is refused. -/
theorem reports_forM_iff
    {readings : List Reading} :
    Reports (forM readings outcome) ↔
      ∀ reading, readings.find? isRefused = some reading →
        ¬ reading.Crashes := by
  rw [forM_eq_first]
  change Reports ((readings.find? isRefused).elim (.ok ()) outcome) ↔ _
  cases readings.find? isRefused with
  | none =>
      refine iff_of_true (Reports.ok ()) ?_
      intro reading isFirst
      cases isFirst
  | some first =>
      rw [Option.elim_some, reports_outcome_iff]
      simp

end Reading

section Readings

variable (conversions : Conversions) (settings : Settings)

/-- The settings both roles have, as `load_config` reads them. -/
def commonReadings : List Reading := [
  .reported (decodeTunnelId settings.tunnelId) (decodeBytes_reports _),
  .reported (decodeSecret settings.sharedSecret) (decodeBytes_reports _),
  .reported (splitHostPort settings.healthListen "health_listen")
    (splitHostPort_reports _ _),
  .reported (settings.metricsFile.toStr conversions)
    (toStr_reports conversions _),
  .float settings.keepaliveSeconds,
  .float settings.healthTimeoutSeconds,
  .int settings.recvBufferBytes,
  .int settings.fragmentPayloadBytes,
  .reported (parseBool settings.fecEnabled "fec_enabled")
    (parseBool_reports _ _),
  .reported (parseBool settings.reliable "reliable")
    (parseBool_reports _ _),
  .float settings.retransmitTimeoutSeconds,
  .int settings.maxRetries,
  .int settings.maxPendingMessages,
  .float settings.reassemblyTimeoutSeconds,
  .float settings.replayCheckpointIntervalSeconds,
  .int settings.replayCheckpointBatchFrames]

/-- The common settings are read one after the other. -/
theorem discard_readCommon
    (role : Side) :
    discard (readCommon conversions settings role) =
      forM (commonReadings conversions settings) Reading.outcome := by
  unfold readCommon commonReadings
  repeat refine discard_bind fun _ => ?_
  rfl

/-- The numbers among the common settings. -/
def readNumbers : Except Failure CommonSettings := do
  let keepaliveSeconds ← settings.keepaliveSeconds.toFloat
  let healthTimeoutSeconds ← settings.healthTimeoutSeconds.toFloat
  let recvBufferBytes ← settings.recvBufferBytes.toInt
  let fragmentPayloadBytes ← settings.fragmentPayloadBytes.toInt
  let retransmitTimeoutSeconds ← settings.retransmitTimeoutSeconds.toFloat
  let maxRetries ← settings.maxRetries.toInt
  let maxPendingMessages ← settings.maxPendingMessages.toInt
  let reassemblyTimeoutSeconds ← settings.reassemblyTimeoutSeconds.toFloat
  let replayCheckpointIntervalSeconds ←
    settings.replayCheckpointIntervalSeconds.toFloat
  let replayCheckpointBatchFrames ← settings.replayCheckpointBatchFrames.toInt
  return {
    keepaliveSeconds, healthTimeoutSeconds, recvBufferBytes,
    fragmentPayloadBytes, retransmitTimeoutSeconds, maxRetries,
    maxPendingMessages, reassemblyTimeoutSeconds,
    replayCheckpointIntervalSeconds, replayCheckpointBatchFrames }

/-- The limits on the numbers, once all of them are converted. -/
def limits : Except Failure Unit :=
  match readNumbers settings with
  | .ok numbers => numbers.checkLimits
  | .error _ => .ok ()

/-- The limits are reported. -/
theorem limits_reports :
    Reports (limits settings) := by
  unfold limits
  split
  · exact checkLimits_reports _
  · exact Reports.ok ()

variable {settings} in
/-- The limits are checked on the settings that were read. -/
theorem limits_eq
    {common : CommonConfig}
    (isRead : common.ReadFrom settings) :
    limits settings = common.checkLimits := by
  have numbers : readNumbers settings = .ok common.toCommonSettings := by
    rw [readNumbers, isRead.keepaliveSeconds, ok_bind,
      isRead.healthTimeoutSeconds, ok_bind, isRead.recvBufferBytes, ok_bind,
      isRead.fragmentPayloadBytes, ok_bind,
      isRead.retransmitTimeoutSeconds, ok_bind, isRead.maxRetries, ok_bind,
      isRead.maxPendingMessages, ok_bind, isRead.reassemblyTimeoutSeconds,
      ok_bind, isRead.replayCheckpointIntervalSeconds, ok_bind,
      isRead.replayCheckpointBatchFrames, ok_bind]
    rfl
  rw [limits, numbers]

/-- What the foreign side reads before its endpoints. -/
def foreignReadings : List Reading := [
  .reported (readDownlinkMode conversions settings)
    (readDownlinkMode_reports conversions settings),
  .reported (readDownlinkSource conversions settings)
    (readDownlinkSource_reports conversions settings),
  .int settings.downlinkSourcePort]

/-- After these nothing fails that `main` does not report. -/
theorem readForeign_reports_iff
    (common : CommonConfig) :
    Reports (readForeign conversions settings common) ↔
      Reports (forM (foreignReadings conversions settings)
        Reading.outcome) := by
  unfold readForeign foreignReadings
  refine reports_bind_iff fun _ _ => ?_
  refine reports_bind_iff fun _ _ => ?_
  refine reports_bind_iff fun _ _ => ?_
  refine iff_of_true (Reports.guard rfl ?_) (Reports.ok ())
  refine endpoint_reports fun _ => ?_
  refine endpoint_reports fun _ => ?_
  refine endpoint_reports fun _ => ?_
  refine (item_reports settings _).bind fun _ =>
    (remoteHostPort_reports _ _).bind fun _ => ?_
  exact (readReplayStateFile_reports conversions settings _).bind fun _ =>
    Reports.ok _

/-- The readings of a document that may decide which exception is raised. -/
def readings : JsonValue → List Reading
  | .object settings =>
      .reported (readRole conversions settings)
          (readRole_reports conversions settings) ::
        (commonReadings conversions settings ++
          .check (limits settings) (limits_reports settings) ::
            match readRole conversions settings with
            | .ok .foreign => foreignReadings conversions settings
            | _ => [])
  | _ => []

/-- The readings decide whether every exception is reported. -/
theorem loadConfig_reports_iff
    (raw : JsonValue) :
    Reports (loadConfig conversions raw) ↔
      Reports (forM (readings conversions raw) Reading.outcome) := by
  cases raw with
  | object settings =>
      rw [loadConfig, readings, List.forM_cons]
      refine reports_bind_iff fun role isRole => ?_
      rw [List.forM_append, List.forM_cons,
        ← discard_readCommon conversions settings role, isRole]
      refine reports_bind_iff fun common isCommon => ?_
      have sameLimits :
          (Reading.check (limits settings)
            (limits_reports settings)).outcome =
            discard common.checkLimits := by
        rw [discard_unit]
        exact limits_eq (readCommon_eq_ok isCommon)
      rw [sameLimits]
      refine reports_bind_iff fun _ _ => ?_
      cases role with
      | iran =>
          exact iff_of_true
            (Reports.map_iff.mpr
              (readIran_reports conversions settings common))
            (Reports.ok ())
      | foreign =>
          exact Reports.map_iff.trans
            (readForeign_reports_iff conversions settings common)
  | null | bool | int | float | infinity | nan | string | array =>
      refine iff_of_true ?_ (Reports.ok ())
      intro failure raised
      cases raised
      rfl

end Readings

/--
Every exception of loading a configuration is reported, exactly if the first
reading that is refused, where there is one, does not crash.
-/
theorem bad_configs_reported_iff
    (conversions : Conversions)
    (raw : JsonValue) :
    (Reports (loadConfig conversions raw) ∧
      ∃ status, status ≤ 1 ∧
        checkCommand conversions raw = .ok status) ↔
      ∀ reading,
        (readings conversions raw).find? Reading.isRefused =
            some reading →
          ¬ reading.Crashes := by
  rw [checkCommand_eq_ok_iff, and_self, loadConfig_reports_iff,
    Reading.reports_forM_iff]

/-- A document for the Iran side that sets the keepalive. -/
def keepaliveDocument (keepaliveSeconds : JsonValue) : JsonValue :=
  .object [
    ("role", .string "iran"),
    ("tunnel_id", .string "22222222222222222222222222222222"),
    ("shared_secret",
      .string "a2tra2tra2tra2tra2tra2tra2tra2tra2tra2tra2s="),
    ("inner_listen", .string "127.0.0.1:5000"),
    ("foreign_uplink", .string "127.0.0.1:7000"),
    ("downlink_listen", .string "127.0.0.1:7001"),
    ("keepalive_seconds", keepaliveSeconds)]

/-- Without a number for the keepalive the check command crashes. -/
theorem null_keepalive_crashes :
    ¬ ∀ conversions raw,
      Reports (loadConfig conversions raw) ∧
        ∃ status, status ≤ 1 ∧
          checkCommand conversions raw = .ok status := by
  intro reported
  have crashes :
      checkCommand .plain (keepaliveDocument .null) =
        .error .typeError := by
    decide +kernel
  obtain ⟨_, status, _, exits⟩ := reported .plain (keepaliveDocument .null)
  rw [crashes] at exits
  cases exits

end H3ntun

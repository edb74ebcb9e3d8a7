import H3ntun.Agent
import H3ntun.ConfigValues

namespace H3ntun

/-!
# Loading a configuration

`load_config` on the value of a configuration file.  Values are converted in
the order of the source, so the first conversion that fails decides which
exception is raised.
-/

/-- The fields of the root object. -/
abbrev Settings := List (String × JsonValue)

namespace Settings

/-- The value under a key; of equal keys the last counts. -/
def find? (settings : Settings) (key : String) : Option JsonValue :=
  (settings.reverse.find? (·.1 = key)).map Prod.snd

/-- `raw.get(key, default)` -/
def get
    (settings : Settings)
    (key : String)
    (default : JsonValue := .null) : JsonValue :=
  (settings.find? key).getD default

/-- `raw[key]` -/
def item (settings : Settings) (key : String) : Except Failure JsonValue :=
  match settings.find? key with
  | some value => .ok value
  | none => .error .keyError

/-! The settings that are read at the same place in every document. -/

variable (settings : Settings)

/-- `tunnel_id`, as given. -/
def tunnelId : JsonValue := settings.get "tunnel_id"

/-- `shared_secret`, as given. -/
def sharedSecret : JsonValue := settings.get "shared_secret"

/-- `health_listen`, as given or its default. -/
def healthListen : JsonValue :=
  settings.get "health_listen" (.string "127.0.0.1:9081")

/-- `metrics_file`, as given or its default. -/
def metricsFile : JsonValue :=
  settings.get "metrics_file" (.string "/var/lib/h3ntun/metrics.json")

/-- `keepalive_seconds`, as given or its default. -/
def keepaliveSeconds : JsonValue :=
  settings.get "keepalive_seconds" (.float 5)

/-- `health_timeout_seconds`, as given or its default. -/
def healthTimeoutSeconds : JsonValue :=
  settings.get "health_timeout_seconds" (.float 20)

/-- `recv_buffer_bytes`, as given or its default. -/
def recvBufferBytes : JsonValue :=
  settings.get "recv_buffer_bytes" (.int (4 * 1024 * 1024))

/-- `fragment_payload_bytes`, as given or its default. -/
def fragmentPayloadBytes : JsonValue :=
  settings.get "fragment_payload_bytes" (.int 1200)

/-- `fec_enabled`, as given or its default. -/
def fecEnabled : JsonValue := settings.get "fec_enabled" (.bool true)

/-- `reliable`, as given or its default. -/
def reliable : JsonValue := settings.get "reliable" (.bool true)

/-- `retransmit_timeout_seconds`, as given or its default. -/
def retransmitTimeoutSeconds : JsonValue :=
  settings.get "retransmit_timeout_seconds" (.float (1 / 2))

/-- `max_retries`, as given or its default. -/
def maxRetries : JsonValue := settings.get "max_retries" (.int 8)

/-- `max_pending_messages`, as given or its default. -/
def maxPendingMessages : JsonValue :=
  settings.get "max_pending_messages" (.int 2048)

/-- `reassembly_timeout_seconds`, as given or its default. -/
def reassemblyTimeoutSeconds : JsonValue :=
  settings.get "reassembly_timeout_seconds" (.float 30)

/-- `replay_checkpoint_interval_seconds`, as given or its default. -/
def replayCheckpointIntervalSeconds : JsonValue :=
  settings.get "replay_checkpoint_interval_seconds" (.float (1 / 20))

/-- `replay_checkpoint_batch_frames`, as given or its default. -/
def replayCheckpointBatchFrames : JsonValue :=
  settings.get "replay_checkpoint_batch_frames" (.int 128)

/-- `downlink_source_port`, as given or its default. -/
def downlinkSourcePort : JsonValue :=
  settings.get "downlink_source_port" (.int 0)

end Settings

/-- A setting that counts only if it is true. -/
inductive OptionalSetting (α : Type) where
  | given (value : α)
  /-- The setting as it stands, such as `null` or an empty text. -/
  | absent (raw : JsonValue)

/-- The settings of both roles. -/
structure CommonConfig extends CommonSettings where
  role : Side
  tunnelId : Bytes
  sharedSecret : Bytes
  healthListen : String × Int
  metricsFile : String
  fecEnabled : Bool
  reliable : Bool

/-- The configuration of the Iran agent. -/
structure IranConfig extends CommonConfig where
  innerListen : String × Int
  uplinkBind : String × Int
  foreignUplink : String × Int
  downlinkListen : String × Int
  expectedDownlinkSource : OptionalSetting String
  expectedInnerPeer : OptionalSetting (String × Int)
  replayStateFile : Option String

/-- The configuration of the foreign agent. -/
structure ForeignConfig extends CommonConfig where
  uplinkListen : String × Int
  innerBridgeListen : String × Int
  innerPeer : String × Int
  iranDownlink : String × Int
  downlinkMode : String
  downlinkSource : OptionalSetting String
  downlinkSourcePort : Int
  replayStateFile : Option String

/-- What `load_config` returns. -/
inductive LoadedConfig where
  | iran (config : IranConfig)
  | foreign (config : ForeignConfig)

/--
`text.strip().lower()`, up to letters outside ASCII: none of them turns into a
letter of the names this is compared with.
-/
def normalizedName (text : String) : String :=
  String.ofList ((strip text.toList).map Char.toLower)

section Reading

variable (conversions : Conversions) (settings : Settings)

/-- `role`, one of the two. -/
def readRole : Except Failure Side := do
  let text ← (settings.get "role" (.string "")).toStr conversions
  if normalizedName text = "iran" then
    .ok .iran
  else if normalizedName text = "foreign" then
    .ok .foreign
  else
    .error (.configError "role must be iran or foreign")

/-- The settings both roles have. -/
def readCommon (role : Side) : Except Failure CommonConfig := do
  let tunnelId ← decodeTunnelId settings.tunnelId
  let sharedSecret ← decodeSecret settings.sharedSecret
  let healthListen ← splitHostPort settings.healthListen "health_listen"
  let metricsFile ← settings.metricsFile.toStr conversions
  let keepaliveSeconds ← settings.keepaliveSeconds.toFloat
  let healthTimeoutSeconds ← settings.healthTimeoutSeconds.toFloat
  let recvBufferBytes ← settings.recvBufferBytes.toInt
  let fragmentPayloadBytes ← settings.fragmentPayloadBytes.toInt
  let fecEnabled ← parseBool settings.fecEnabled "fec_enabled"
  let reliable ← parseBool settings.reliable "reliable"
  let retransmitTimeoutSeconds ← settings.retransmitTimeoutSeconds.toFloat
  let maxRetries ← settings.maxRetries.toInt
  let maxPendingMessages ← settings.maxPendingMessages.toInt
  let reassemblyTimeoutSeconds ← settings.reassemblyTimeoutSeconds.toFloat
  let replayCheckpointIntervalSeconds ←
    settings.replayCheckpointIntervalSeconds.toFloat
  let replayCheckpointBatchFrames ← settings.replayCheckpointBatchFrames.toInt
  return {
    role, tunnelId, sharedSecret, healthListen, metricsFile,
    keepaliveSeconds, healthTimeoutSeconds, recvBufferBytes,
    fragmentPayloadBytes, fecEnabled, reliable, retransmitTimeoutSeconds,
    maxRetries, maxPendingMessages, reassemblyTimeoutSeconds,
    replayCheckpointIntervalSeconds, replayCheckpointBatchFrames }

/-- Common settings that were converted from a document. -/
structure CommonConfig.ReadFrom
    (settings : Settings)
    (common : CommonConfig) : Prop where
  tunnelId : decodeTunnelId settings.tunnelId = .ok common.tunnelId
  sharedSecret :
    decodeSecret settings.sharedSecret = .ok common.sharedSecret
  keepaliveSeconds :
    settings.keepaliveSeconds.toFloat = .ok common.keepaliveSeconds
  healthTimeoutSeconds :
    settings.healthTimeoutSeconds.toFloat = .ok common.healthTimeoutSeconds
  recvBufferBytes :
    settings.recvBufferBytes.toInt = .ok common.recvBufferBytes
  fragmentPayloadBytes :
    settings.fragmentPayloadBytes.toInt = .ok common.fragmentPayloadBytes
  retransmitTimeoutSeconds :
    settings.retransmitTimeoutSeconds.toFloat =
      .ok common.retransmitTimeoutSeconds
  maxRetries : settings.maxRetries.toInt = .ok common.maxRetries
  maxPendingMessages :
    settings.maxPendingMessages.toInt = .ok common.maxPendingMessages
  reassemblyTimeoutSeconds :
    settings.reassemblyTimeoutSeconds.toFloat =
      .ok common.reassemblyTimeoutSeconds
  replayCheckpointIntervalSeconds :
    settings.replayCheckpointIntervalSeconds.toFloat =
      .ok common.replayCheckpointIntervalSeconds
  replayCheckpointBatchFrames :
    settings.replayCheckpointBatchFrames.toInt =
      .ok common.replayCheckpointBatchFrames

variable {conversions settings} in
theorem readCommon_eq_ok
    {role : Side}
    {common : CommonConfig}
    (accepted : readCommon conversions settings role = .ok common) :
    common.ReadFrom settings := by
  simp only [readCommon, bind_eq_ok_iff] at accepted
  obtain ⟨_, tunnelId, _, sharedSecret, _, _, _, _, _, keepalive, _, health,
    _, buffer, _, fragment, _, _, _, _, _, retransmit, _, retries, _,
    pending, _, reassembly, _, interval, _, batch, same⟩ := accepted
  cases same
  exact ⟨tunnelId, sharedSecret, keepalive, health, buffer, fragment,
    retransmit, retries, pending, reassembly, interval, batch⟩

/-- A setting that is converted if it is true. -/
def readOptional
    {α : Type}
    (key : String)
    (convert : String → Except Failure α) :
    Except Failure (OptionalSetting α) :=
  if (settings.get key).isTrue then do
    let text ← (settings.get key).toStr conversions
    let value ← convert text
    return .given value
  else
    .ok (.absent (settings.get key))

/-- `replay_state_file`, converted if it is true. -/
def readReplayStateFile
    (default : String) :
    Except Failure (Option String) :=
  let value := settings.get "replay_state_file" (.string default)
  if value.isTrue then do
    let path ← value.toStr conversions
    return some path
  else
    .ok none

/-- The rest of the settings for the role `iran`. -/
def readIran (common : CommonConfig) : Except Failure IranConfig := do
  let expectedDownlinkSource ←
    readOptional conversions settings "expected_downlink_source"
      fun text => parseIpv4 conversions text "expected_downlink_source"
  let expectedInnerPeer ←
    readOptional conversions settings "expected_inner_peer"
      fun text => remoteHostPort (.string text) "expected_inner_peer"
  let innerListen ← splitHostPort
    (← settings.item "inner_listen") "inner_listen"
  let uplinkBind ← splitHostPort
    (settings.get "uplink_bind" (.string "0.0.0.0:0")) "uplink_bind"
  let foreignUplink ← remoteHostPort
    (← settings.item "foreign_uplink") "foreign_uplink"
  let downlinkListen ← splitHostPort
    (← settings.item "downlink_listen") "downlink_listen"
  let replayStateFile ← readReplayStateFile conversions settings
    "/var/lib/h3ntun/iran-replay.json"
  return {
    toCommonConfig := common
    innerListen, uplinkBind, foreignUplink, downlinkListen,
    expectedDownlinkSource, expectedInnerPeer, replayStateFile }

/-- `downlink_mode`, of which there is only one. -/
def readDownlinkMode : Except Failure String := do
  let text ← (settings.get "downlink_mode" (.string "udp")).toStr conversions
  if normalizedName text ≠ "udp" then
    .error (.configError "downlink_mode must be udp; live forged-source raw mode is intentionally not implemented")
  else
    .ok (normalizedName text)

/-- `downlink_source`, an address if it is given. -/
def readDownlinkSource :
    Except Failure (OptionalSetting String) :=
  readOptional conversions settings "downlink_source"
    fun text => parseIpv4 conversions text "downlink_source"

/-- The rest of the settings for the role `foreign`. -/
def readForeign (common : CommonConfig) :
    Except Failure ForeignConfig := do
  let downlinkMode ← readDownlinkMode conversions settings
  let downlinkSource ← readDownlinkSource conversions settings
  let downlinkSourcePort ← settings.downlinkSourcePort.toInt
  if ¬ (0 ≤ downlinkSourcePort ∧ downlinkSourcePort ≤ 65535) then
    .error (.configError "downlink_source_port is outside 0..65535")
  else do
    let uplinkListen ← splitHostPort
      (← settings.item "uplink_listen") "uplink_listen"
    let innerBridgeListen ← splitHostPort
      (← settings.item "inner_bridge_listen") "inner_bridge_listen"
    let innerPeer ← splitHostPort
      (← settings.item "inner_peer") "inner_peer"
    let iranDownlink ← remoteHostPort
      (← settings.item "iran_downlink") "iran_downlink"
    let replayStateFile ← readReplayStateFile conversions settings
      "/var/lib/h3ntun/foreign-replay.json"
    return {
      toCommonConfig := common
      uplinkListen, innerBridgeListen, innerPeer, iranDownlink,
      downlinkMode, downlinkSource, downlinkSourcePort, replayStateFile }

end Reading

/-- `load_config`, on the value of the file. -/
def loadConfig
    (conversions : Conversions)
    (raw : JsonValue) :
    Except Failure LoadedConfig :=
  match raw with
  | .object settings => do
      let role ← readRole conversions settings
      let common ← readCommon conversions settings role
      common.checkLimits
      match role with
      | .iran => (readIran conversions settings common).map .iran
      | .foreign => (readForeign conversions settings common).map .foreign
  | _ => .error (.configError "configuration root must be an object")

end H3ntun

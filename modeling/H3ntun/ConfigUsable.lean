import H3ntun.Fragment
import H3ntun.FrameCodec
import H3ntun.LoadConfig
import H3ntun.PersistentReplay

namespace H3ntun

/-!
# Loaded configurations are usable

`BaseAgent.__init__` passes the values of a configuration on to constructors
that check them once more.  `load_config` admits only values that pass there,
and only destinations with a port, apart from `inner_peer`: it is the one
destination read by `split_host_port`, which takes port zero.
-/

/-- Argument checks of `PersistentReplayWindow.__init__`. -/
def CheckpointSettings.init
    (size : Nat)
    (fingerprint : String)
    (intervalSeconds : FloatValue)
    (batchFrames : Int) :
    Except Failure CheckpointSettings :=
  if sizeLarge : size < 64 then
    .error (.valueError "replay window must be at least 64")
  else if positive :
      ¬ intervalSeconds.isFinite ∨ intervalSeconds.isNonpositive ∨
        batchFrames < 1 then
    .error (.valueError
      "checkpoint interval and batch size must be positive")
  else
    .ok {
      size := size
      fingerprint := fingerprint
      intervalSeconds := intervalSeconds.toRat
      batchFrames := batchFrames.toNat
      sizeLarge := Nat.not_lt.mp sizeLarge
      intervalPositive := by
        simp only [not_or, not_not] at positive
        exact FloatValue.toRat_pos positive.1 positive.2.1
      batchPositive := by
        simp only [not_or, not_lt] at positive
        exact Int.lt_toNat.mpr positive.2.2
    }

/-- The replay window of an agent. -/
inductive AgentReplay where
  | inMemory (window : ReplayWindow)
  | checkpointed (path : String) (settings : CheckpointSettings)

namespace CommonConfig

/-- `FrameCodec(config.tunnel_id, config.shared_secret)` -/
def codec
    (common : CommonConfig)
    (primitives : Primitives)
    (token : Bytes) :
    Except Failure FrameCodec :=
  FrameCodec.init primitives common.tunnelId common.sharedSecret
    FrameCodec.defaultClockSkewSeconds none token

/-- The replay window; `fingerprint` stands for the hash of the tunnel. -/
def replay
    (common : CommonConfig)
    (fingerprint : Bytes → String)
    (replayStateFile : Option String) :
    Except Failure AgentReplay :=
  match replayStateFile with
  | none => (ReplayWindow.init ReplayWindow.defaultSize).map .inMemory
  | some path =>
      if path = "" then
        (ReplayWindow.init ReplayWindow.defaultSize).map .inMemory
      else
        (CheckpointSettings.init ReplayWindow.defaultSize
          (fingerprint common.tunnelId)
          common.replayCheckpointIntervalSeconds
          common.replayCheckpointBatchFrames).map (.checkpointed path)

/-- The call of the constructor of `Reassembler`. -/
def reassembler (common : CommonConfig) : Except Failure Reassembler :=
  Reassembler.init common.reassemblyTimeoutSeconds.toRat
    common.maxPendingMessages Reassembler.defaultCompletedTtlSeconds

/-- The call of `fragment_message` for one payload. -/
def fragments (common : CommonConfig) (payload : Bytes) :
    Except Failure (List FragmentSpec) :=
  fragmentMessage payload common.fragmentPayloadBytes.toNat
    common.fecEnabled

end CommonConfig

namespace LoadedConfig

/-- The settings both roles have. -/
def common : LoadedConfig → CommonConfig
  | .iran config => config.toCommonConfig
  | .foreign config => config.toCommonConfig

/-- Where the replay state is stored, if anywhere. -/
def replayStateFile : LoadedConfig → Option String
  | .iran config => config.replayStateFile
  | .foreign config => config.replayStateFile

/-- The configured addresses the agent sends to. -/
def destinations : LoadedConfig → List (String × Int)
  | .iran config => [config.foreignUplink]
  | .foreign config => [config.iranDownlink, config.innerPeer]

/-- The components can be built, and everything sent has an address. -/
structure Usable (config : LoadedConfig) : Prop where
  codec :
    ∀ primitives token, token.length = 8 →
      ∃ codec, config.common.codec primitives token = .ok codec
  replay :
    ∀ fingerprint, ∃ replay,
      config.common.replay fingerprint config.replayStateFile = .ok replay
  reassembler :
    ∃ reassembler, config.common.reassembler = .ok reassembler
  sender :
    ∃ sender, config.common.sender = .ok sender
  fragments :
    ∀ payload : Bytes, payload.length ≤ 60000 →
      ∃ specs, config.common.fragments payload = .ok specs
  destinations :
    ∀ address ∈ config.destinations, 1 ≤ address.2 ∧ address.2 ≤ 65535

end LoadedConfig

/-- Common settings that passed every check of `load_config`. -/
structure CommonConfig.Checked (common : CommonConfig) : Prop where
  tunnelIdLength : common.tunnelId.length = 16
  secretLength : 32 ≤ common.sharedSecret.length
  limits : common.checkLimits = .ok ()

namespace CommonConfig.Checked

variable {common : CommonConfig}

theorem codec
    (checked : common.Checked)
    (primitives : Primitives)
    {token : Bytes}
    (tokenLength : token.length = 8) :
    ∃ codec, common.codec primitives token = .ok codec := by
  have bound := StructPack.ofBigEndian_lt token
  rw [tokenLength] at bound
  have fits :
      ¬ ¬ ((0 : Int) ≤
            (none : Option Int).getD (StructPack.ofBigEndian token) ∧
          (none : Option Int).getD (StructPack.ofBigEndian token) ≤
            0xFFFFFFFFFFFFFFFF) := by
    simp only [Option.getD_none]
    omega
  have skew : ¬ ¬ FrameCodec.defaultClockSkewSeconds > 0 := by
    decide +kernel
  rw [CommonConfig.codec, FrameCodec.init,
    dif_neg (not_not.mpr checked.tunnelIdLength),
    if_neg (not_lt.mpr checked.secretLength)]
  dsimp only
  rw [dif_neg fits, dif_neg skew]
  exact ⟨_, rfl⟩

/-- What the limits say about the values the components get. -/
theorem values
    (checked : common.Checked) :
    (256 ≤ common.fragmentPayloadBytes ∧
        common.fragmentPayloadBytes ≤ 1391) ∧
      1 ≤ common.maxPendingMessages ∧
      1 ≤ common.replayCheckpointBatchFrames ∧
      0 < common.reassemblyTimeoutSeconds.toRat ∧
      common.replayCheckpointIntervalSeconds.isFinite = true ∧
      ¬ common.replayCheckpointIntervalSeconds.isNonpositive = true := by
  have limits := checked.limits
  simp only [CommonSettings.checkLimits, guard_eq_ok_iff, not_or, not_not]
    at limits
  obtain ⟨⟨_, _, _, _, _, finiteTimeout, finiteInterval, _,
    positiveTimeout, positiveInterval⟩, _, size, _, pending, batch, _⟩ :=
    limits
  exact ⟨size, pending.1, batch.1,
    FloatValue.toRat_pos finiteTimeout positiveTimeout, finiteInterval,
    positiveInterval⟩

theorem replay
    (checked : common.Checked)
    (fingerprint : Bytes → String)
    (replayStateFile : Option String) :
    ∃ replay,
      common.replay fingerprint replayStateFile = .ok replay := by
  obtain ⟨_, _, batch, _, finite, positive⟩ := checked.values
  have large : ¬ ReplayWindow.defaultSize < 64 := by
    decide
  have inMemory :
      ∃ replay,
        (ReplayWindow.init ReplayWindow.defaultSize).map
          AgentReplay.inMemory = .ok replay := by
    rw [ReplayWindow.init, if_neg large]
    exact ⟨_, rfl⟩
  cases replayStateFile with
  | none =>
      exact inMemory
  | some path =>
      by_cases isEmpty : path = ""
      · rw [CommonConfig.replay, if_pos isEmpty]
        exact inMemory
      · have accepted :
            ¬ (¬ common.replayCheckpointIntervalSeconds.isFinite = true ∨
              common.replayCheckpointIntervalSeconds.isNonpositive = true ∨
              common.replayCheckpointBatchFrames < 1) := by
          simp only [not_or, not_not]
          exact ⟨finite, positive, not_lt.mpr batch⟩
        rw [CommonConfig.replay, if_neg isEmpty, CheckpointSettings.init,
          dif_neg large, dif_neg accepted]
        exact ⟨_, rfl⟩

/-- The call of the constructor of `Reassembler`. -/
theorem reassembler
    (checked : common.Checked) :
    ∃ reassembler, common.reassembler = .ok reassembler := by
  obtain ⟨_, pending, _, positive, _, _⟩ := checked.values
  have accepted :
      ¬ (common.reassemblyTimeoutSeconds.toRat ≤ 0 ∨
        common.maxPendingMessages < 1 ∨
        Reassembler.defaultCompletedTtlSeconds ≤ 0) := by
    simp only [not_or, not_le, not_lt]
    exact ⟨positive, pending, by decide +kernel⟩
  rw [CommonConfig.reassembler, Reassembler.init, dif_neg accepted]
  exact ⟨_, rfl⟩

theorem fragments
    (checked : common.Checked)
    {payload : Bytes}
    (fits : payload.length ≤ 60000) :
    ∃ specs, common.fragments payload = .ok specs := by
  obtain ⟨size, _⟩ := checked.values
  let message : Message := {
    payload := payload
    fragmentPayloadBytes := common.fragmentPayloadBytes.toNat
    fecEnabled := common.fecEnabled
    sizeInRange := by
      simp only [maxFragmentPayload]
      omega
    payloadFits := fits
  }
  exact ⟨message.fragments, message.fragmentMessage_eq⟩

/-- Whether a configuration is usable is a question of its ports. -/
theorem usable_iff
    {config : LoadedConfig}
    (checked : config.common.Checked) :
    config.Usable ↔
      ∀ address ∈ config.destinations,
        1 ≤ address.2 ∧ address.2 ≤ 65535 := by
  constructor
  · intro usable
    exact usable.destinations
  · intro destinations
    exact {
      codec := fun primitives _ => checked.codec primitives
      replay := fun fingerprint =>
        checked.replay fingerprint config.replayStateFile
      reassembler := checked.reassembler
      sender := CommonSettings.exists_sender checked.limits
      fragments := fun _ => checked.fragments
      destinations := destinations }

end CommonConfig.Checked

section Inversion

variable {conversions : Conversions} {settings : Settings}

theorem decodeBytes_length
    {field notText unreadable wrongLength : String}
    {read : List Char → Option Bytes}
    {isLength : Nat → Bool}
    {value : JsonValue}
    {decoded : Bytes}
    (accepted :
      decodeBytes field notText unreadable wrongLength read isLength
        value = .ok decoded) :
    isLength decoded.length = true := by
  cases value with
  | string text =>
      obtain ⟨_, _, result⟩ := bind_eq_ok_iff.mp accepted
      cases digits : read text.toList with
      | none =>
          simp [digits] at result
      | some bytes =>
          simp only [digits, guard_eq_ok_iff, not_not] at result
          obtain ⟨isLength, same⟩ := result
          cases same
          exact isLength
  | null | bool | int | float | infinity | nan | array | object =>
      cases accepted

theorem CommonConfig.ReadFrom.checked
    {common : CommonConfig}
    (isRead : common.ReadFrom settings)
    (limits : common.checkLimits = .ok ()) :
    common.Checked where
  tunnelIdLength :=
    of_decide_eq_true (decodeBytes_length isRead.tunnelId)
  secretLength :=
    of_decide_eq_true (decodeBytes_length isRead.sharedSecret)
  limits := limits

theorem splitHostPort_eq_ok
    {value : JsonValue}
    {field : String}
    {endpoint : String × Int}
    (accepted : splitHostPort value field = .ok endpoint) :
    (0 ≤ endpoint.2 ∧ endpoint.2 ≤ 65535) ∧
      ∃ text host digits,
        value = .string text ∧
          splitLastColon text.toList = some (host, digits) ∧
          readInt 10 digits = .ok endpoint.2 := by
  cases value with
  | string text =>
      simp only [splitHostPort] at accepted
      cases parts : splitLastColon text.toList with
      | none =>
          simp [parts] at accepted
      | some both =>
          obtain ⟨host, digits⟩ := both
          simp only [parts, guard_eq_ok_iff] at accepted
          cases number : readInt 10 digits with
          | error failure =>
              simp [number] at accepted
          | ok port =>
              simp only [number, guard_eq_ok_iff, not_not] at accepted
              obtain ⟨_, inRange, same⟩ := accepted
              cases same
              exact ⟨inRange, text, host, digits, rfl, parts, number⟩
  | null | bool | int | float | infinity | nan | array | object =>
      cases accepted

theorem remoteHostPort_range
    {value : JsonValue}
    {field : String}
    {endpoint : String × Int}
    (accepted : remoteHostPort value field = .ok endpoint) :
    1 ≤ endpoint.2 ∧ endpoint.2 ≤ 65535 := by
  obtain ⟨⟨host, port⟩, split, rest⟩ := bind_eq_ok_iff.mp accepted
  obtain ⟨_, _, rest⟩ := bind_eq_ok_iff.mp rest
  obtain ⟨nonzero, same⟩ := guard_eq_ok_iff.mp rest
  cases same
  have range := (splitHostPort_eq_ok split).1
  dsimp only at range ⊢
  omega

theorem readIran_eq_ok
    {common : CommonConfig}
    {config : IranConfig}
    (accepted : readIran conversions settings common = .ok config) :
    config.toCommonConfig = common ∧
      ∃ value,
        remoteHostPort value "foreign_uplink" =
          .ok config.foreignUplink := by
  simp only [readIran, bind_eq_ok_iff] at accepted
  obtain ⟨_, _, _, _, _, _, _, _, _, _, value, _, uplink, isUplink, _, _, _,
    _, _, _, same⟩ := accepted
  cases same
  exact ⟨rfl, value, isUplink⟩

theorem readForeign_eq_ok
    {common : CommonConfig}
    {config : ForeignConfig}
    (accepted : readForeign conversions settings common = .ok config) :
    config.toCommonConfig = common ∧
      (∃ value,
        settings.item "inner_peer" = .ok value ∧
          splitHostPort value "inner_peer" = .ok config.innerPeer) ∧
      ∃ value,
        remoteHostPort value "iran_downlink" =
          .ok config.iranDownlink := by
  simp only [readForeign, bind_eq_ok_iff, guard_eq_ok_iff] at accepted
  obtain ⟨_, _, _, _, _, _, _, _, _, _, _, _, _, _, _, value, isValue, peer,
    isPeer, downlinkValue, _, downlink, isDownlink, _, _, same⟩ := accepted
  cases same
  exact ⟨rfl, ⟨value, isValue, isPeer⟩, downlinkValue, isDownlink⟩

/-- A loaded configuration is what the reads of its role return. -/
theorem loadConfig_cases
    {raw : JsonValue}
    {config : LoadedConfig}
    (loaded : loadConfig conversions raw = .ok config) :
    ∃ settings, raw = .object settings ∧ config.common.Checked ∧
      ((readRole conversions settings = .ok .iran ∧
          ∃ common iran, config = .iran iran ∧
            readIran conversions settings common = .ok iran) ∨
        (readRole conversions settings = .ok .foreign ∧
          ∃ common foreign, config = .foreign foreign ∧
            readForeign conversions settings common = .ok foreign)) := by
  cases raw with
  | object settings =>
      obtain ⟨role, isRole, loaded⟩ := bind_eq_ok_iff.mp loaded
      obtain ⟨common, isCommon, loaded⟩ := bind_eq_ok_iff.mp loaded
      obtain ⟨_, limits, loaded⟩ := bind_eq_ok_iff.mp loaded
      have checked := (readCommon_eq_ok isCommon).checked limits
      refine ⟨settings, rfl, ?_⟩
      cases role with
      | iran =>
          cases read : readIran conversions settings common with
          | error failure =>
              simp [read, Except.map] at loaded
          | ok iran =>
              rw [read] at loaded
              cases loaded
              rw [← (readIran_eq_ok read).1] at checked
              exact ⟨checked, .inl ⟨isRole, common, iran, rfl, read⟩⟩
      | foreign =>
          cases read : readForeign conversions settings common with
          | error failure =>
              simp [read, Except.map] at loaded
          | ok foreign =>
              rw [read] at loaded
              cases loaded
              rw [← (readForeign_eq_ok read).1] at checked
              exact ⟨checked, .inr ⟨isRole, common, foreign, rfl, read⟩⟩
  | null | bool | int | float | infinity | nan | string | array =>
      cases loaded

end Inversion

/--
The document is not for the foreign side, or the digits after the last colon
of its `inner_peer` do not read as zero.
-/
def NamesInnerPort (conversions : Conversions) (raw : JsonValue) : Prop :=
  ∀ (settings : Settings) (text : String) (host digits : List Char),
    raw = .object settings →
    readRole conversions settings = .ok .foreign →
    settings.item "inner_peer" = .ok (.string text) →
    splitLastColon text.toList = some (host, digits) →
    readInt 10 digits ≠ .ok 0

/-- The foreign side is left with the port of `inner_peer`. -/
theorem namesInnerPort_iff
    {conversions : Conversions}
    {settings : Settings}
    {endpoint : String × Int}
    {value : JsonValue}
    (isForeign : readRole conversions settings = .ok .foreign)
    (isValue : settings.item "inner_peer" = .ok value)
    (accepted : splitHostPort value "inner_peer" = .ok endpoint) :
    NamesInnerPort conversions (.object settings) ↔ 1 ≤ endpoint.2 := by
  obtain ⟨range, text, host, digits, rfl, parts, number⟩ :=
    splitHostPort_eq_ok accepted
  constructor
  · intro named
    have nonzero := named settings text host digits rfl isForeign isValue
      parts
    rw [number] at nonzero
    have : endpoint.2 ≠ 0 := fun isZero => nonzero (by rw [isZero])
    omega
  · intro positive otherSettings otherText otherHost otherDigits same _
      isOther otherParts isZero
    cases same
    rw [isValue] at isOther
    cases isOther
    rw [parts] at otherParts
    cases otherParts
    rw [number] at isZero
    have : endpoint.2 = 0 := Except.ok.inj isZero
    omega

/--
A loaded configuration is usable exactly if it names a port for
`inner_peer`, where it has one.
-/
theorem loaded_config_usable_iff
    {conversions : Conversions}
    {raw : JsonValue}
    {config : LoadedConfig}
    (loaded : loadConfig conversions raw = .ok config) :
    config.Usable ↔ NamesInnerPort conversions raw := by
  obtain ⟨settings, rfl, checked, ⟨isIran, _, iran, rfl, read⟩ |
    ⟨isForeign, _, foreign, rfl, read⟩⟩ := loadConfig_cases loaded
  · obtain ⟨_, _, uplink⟩ := readIran_eq_ok read
    have named : NamesInnerPort conversions (.object settings) := by
      intro _ _ _ _ same isForeign
      cases same
      rw [isIran] at isForeign
      cases isForeign
    rw [checked.usable_iff]
    refine iff_of_true ?_ named
    intro address member
    rw [LoadedConfig.destinations, List.mem_singleton] at member
    rw [member]
    exact remoteHostPort_range uplink
  · obtain ⟨_, ⟨_, isValue, peer⟩, _, downlink⟩ := readForeign_eq_ok read
    have downlinkRange := remoteHostPort_range downlink
    have peerRange := (splitHostPort_eq_ok peer).1
    rw [checked.usable_iff, namesInnerPort_iff isForeign isValue peer]
    simp only [LoadedConfig.destinations, List.forall_mem_cons,
      List.not_mem_nil, false_implies, implies_true, and_true]
    exact ⟨fun ranges => ranges.2.1, fun positive =>
      ⟨downlinkRange, positive, peerRange.2⟩⟩

/-- A document for the foreign side. -/
def foreignDocument (innerPeer : String) : JsonValue :=
  .object [
    ("role", .string "foreign"),
    ("tunnel_id", .string "22222222222222222222222222222222"),
    ("shared_secret",
      .string "a2tra2tra2tra2tra2tra2tra2tra2tra2tra2tra2s="),
    ("uplink_listen", .string "0.0.0.0:7000"),
    ("inner_bridge_listen", .string "127.0.0.1:5001"),
    ("inner_peer", .string innerPeer),
    ("iran_downlink", .string "203.0.113.7:7001")]

theorem loaded_config_usable_iff_named_port :
    ∃ config,
      loadConfig .plain (foreignDocument "127.0.0.1:51820") =
          .ok config ∧
        config.Usable := by
  have loads :
      (loadConfig .plain
        (foreignDocument "127.0.0.1:51820")).toOption.isSome = true := by
    decide +kernel
  cases loaded : loadConfig .plain (foreignDocument "127.0.0.1:51820") with
  | error failure =>
      rw [loaded] at loads
      cases loads
  | ok config =>
      refine ⟨config, rfl, (loaded_config_usable_iff loaded).mpr ?_⟩
      intro settings text host digits same _ isText parts isZero
      cases same
      cases isText
      cases parts
      revert isZero
      decide +kernel

theorem peer_without_port_accepted :
    ¬ ∀ conversions raw config,
      loadConfig conversions raw = .ok config → config.Usable := by
  intro usable
  have destinations :
      (loadConfig .plain
        (foreignDocument "127.0.0.1:0")).toOption.map
          LoadedConfig.destinations =
        some [("203.0.113.7", 7001), ("127.0.0.1", 0)] := by
    decide +kernel
  cases loaded : loadConfig .plain (foreignDocument "127.0.0.1:0") with
  | error failure =>
      rw [loaded] at destinations
      cases destinations
  | ok config =>
      rw [loaded] at destinations
      have addresses := Option.some.inj destinations
      have range := (usable _ _ _ loaded).destinations ("127.0.0.1", 0) (by
        rw [addresses]
        simp)
      exact absurd range.1 (by decide)

end H3ntun

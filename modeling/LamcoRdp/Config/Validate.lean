/-
LamcoRdp/Config/Validate.lean

The configuration (`config/types.rs`) and its one validator (`Config::validate`,
`config/mod.rs`).

Of every section there are the fields that the validator or the video pipeline
reads.  An error is the chain that `anyhow` prints: the context first, then the
cause.  What `SocketAddr`, `ashpd::AppID` and `PasswordHash` accept is a
parameter, as is what counts as a letter or a digit.

`validate_withPipeline` is what the pipeline has to live with: the validator does
not look at the settings of its components.
-/
import LamcoRdp.Damage.Detector
import LamcoRdp.Performance.AdaptiveFps
import LamcoRdp.Performance.EncodingAdaptation
import LamcoRdp.Security.RateLimit

namespace LamcoRdp

/-! ### Sections -/

/-- `ServerConfig`, as far as it is validated. -/
structure ServerConfig where
  listenAddr : String

/-- `PortalConfig`, as far as it is validated. -/
structure PortalConfig where
  appId : Option String

/-- The credentials are in the order of the `BTreeMap`. -/
structure SecurityConfig where
  securityMode : String
  authMethod : String
  passwordCredentials : List (String × String)
  passwordUsername : String
  passwordHash : String
  password : String

/-- `VideoConfig`, as far as it is validated. -/
structure VideoConfig where
  cursorMode : String

/-- `CursorConfig`, as far as it is validated. -/
structure CursorConfig where
  mode : String

/-- `config::types::AdaptiveFpsConfig`. -/
structure AdaptiveFpsSettings where
  enabled : Bool
  minFps : UInt32
  maxFps : UInt32
  highActivityThreshold : Binary32
  mediumActivityThreshold : Binary32
  lowActivityThreshold : Binary32

/-- `PerformanceConfig`, as far as it is validated. -/
structure PerformanceConfig where
  adaptiveFps : AdaptiveFpsSettings

/-- `EgfxConfig`, as far as it is validated. -/
structure EgfxConfig where
  zgfxCompression : String
  codec : String
  qpMin : UInt8
  qpMax : UInt8
  qpDefault : UInt8
  encodingAdaptation : EncodingAdaptationConfig

/-- `DamageTrackingConfig`. -/
structure DamageTrackingConfig where
  enabled : Bool
  method : String
  tileSize : UInt64
  diffThreshold : Binary32
  pixelThreshold : UInt8
  mergeDistance : UInt32
  minRegionArea : UInt64

/-- `HardwareEncodingConfig`, as far as it is validated. -/
structure HardwareEncodingConfig where
  qualityPreset : String

/-- `Config`: the sections that `validate` reads, and those that the consumers take over. -/
structure Config where
  server : ServerConfig
  portal : PortalConfig
  security : SecurityConfig
  video : VideoConfig
  performance : PerformanceConfig
  egfx : EgfxConfig
  damageTracking : DamageTrackingConfig
  hardwareEncoding : HardwareEncodingConfig
  cursor : CursorConfig

/-- `Config::default`. -/
def Config.default : Config where
  server := { listenAddr := "[::]:3389" }
  portal := { appId := none }
  security :=
    { securityMode := "auto"
      authMethod := "none"
      passwordCredentials := []
      passwordUsername := ""
      passwordHash := ""
      password := "" }
  video := { cursorMode := "metadata" }
  performance :=
    { adaptiveFps :=
        { enabled := true
          minFps := 5
          maxFps := 30
          highActivityThreshold := .round (30 / 100)
          mediumActivityThreshold := .round (10 / 100)
          lowActivityThreshold := .round (1 / 100) } }
  egfx :=
    { zgfxCompression := "never"
      codec := "auto"
      qpMin := 10
      qpMax := 40
      qpDefault := 23
      encodingAdaptation := .default }
  damageTracking :=
    { enabled := true
      method := "diff"
      tileSize := 16
      diffThreshold := .round (1 / 100)
      pixelThreshold := 1
      mergeDistance := 16
      minRegionArea := 64 }
  hardwareEncoding := { qualityPreset := "balanced" }
  cursor := { mode := "metadata" }

open Checked

/-! ### The validator -/

/-- The messages of an error, from the context to the cause. -/
abbrev ConfigError := List String

/-- What the parsers of other crates say against a text, if anything. -/
structure Parsers where
  socketAddr : String → Option String
  appId : String → Option String
  passwordHash : String → Option String
  isAlphanumeric : Char → Bool

/-- `bail!` unless the condition holds. -/
def ensure (condition : Bool) (message : String) : Except ConfigError Unit :=
  if condition then .ok () else .error [message]

/-- A complaint, put into its context. -/
def withContext (complaint : Option String) (context : String) : Except ConfigError Unit :=
  match complaint with
  | none => .ok ()
  | some cause => .error [context, cause]

section Checks

variable {condition : Bool} {message context : String} {complaint : Option String} {u : Unit}

theorem ensure_eq_ok : ensure condition message = .ok u ↔ condition = true := by
  cases condition <;> simp [ensure]

theorem withContext_eq_ok : withContext complaint context = .ok u ↔ complaint = none := by
  cases complaint <;> simp [withContext]

end Checks

/-- The check of the application identity, if there is one. -/
def PortalConfig.validateAppId (parsers : Parsers) (portal : PortalConfig) :
    Except ConfigError Unit :=
  match portal.appId with
  | none => .ok ()
  | some appId => withContext (parsers.appId appId) ("Invalid portal.app_id: " ++ appId)

theorem PortalConfig.validateAppId_eq_ok {parsers : Parsers} {portal : PortalConfig} {u : Unit} :
    portal.validateAppId parsers = .ok u ↔
      ∀ appId ∈ portal.appId, parsers.appId appId = none := by
  unfold validateAppId
  cases portal.appId with
  | none => simp
  | some appId => simp [withContext_eq_ok]

namespace SecurityConfig

/-- One round of the loop over the credentials. -/
def validateCredential (parsers : Parsers) (credential : String × String) :
    Except ConfigError Unit := do
  let (username, passwordHash) := credential
  withContext (validateUsername parsers.isAlphanumeric username)
    ("Invalid password credential username '" ++ username ++ "'")
  match parsers.passwordHash passwordHash with
  | none => .ok ()
  | some e => .error ["Invalid password hash for user '" ++ username ++ "': " ++ e]

/-- The checks for `auth_method=password`. -/
def validatePassword (parsers : Parsers) (security : SecurityConfig) :
    Except ConfigError Unit := do
  ensure security.password.isEmpty
    "security.password is deprecated and unsafe; use security.password_credentials"
  ensure (security.passwordUsername.isEmpty && security.passwordHash.isEmpty)
    ("security.password_username/password_hash are deprecated; " ++
      "use security.password_credentials")
  ensure (!security.passwordCredentials.isEmpty)
    "auth_method=password requires security.password_credentials"
  security.passwordCredentials.forM (validateCredential parsers)
  ensure (security.securityMode ≠ "hybrid")
    ("password_credentials cannot be used with security_mode=hybrid; " ++
      "use security_mode=tls or auto")

/-- What the validator asks of the credentials. -/
structure PasswordValid (parsers : Parsers) (security : SecurityConfig) : Prop where
  password : security.password = ""
  passwordUsername : security.passwordUsername = ""
  passwordHash : security.passwordHash = ""
  credentials_ne_nil : security.passwordCredentials ≠ []
  credential : ∀ credential ∈ security.passwordCredentials,
    validateUsername parsers.isAlphanumeric credential.1 = none ∧
      parsers.passwordHash credential.2 = none
  securityMode : security.securityMode ≠ "hybrid"

theorem validateCredential_eq_ok {parsers : Parsers} {credential : String × String} {u : Unit} :
    validateCredential parsers credential = .ok u ↔
      validateUsername parsers.isAlphanumeric credential.1 = none ∧
        parsers.passwordHash credential.2 = none := by
  unfold validateCredential
  simp only [bind_eq_ok, withContext_eq_ok, exists_const]
  cases parsers.passwordHash credential.2 <;> simp

theorem validatePassword_eq_ok {parsers : Parsers} {security : SecurityConfig} {u : Unit} :
    security.validatePassword parsers = .ok u ↔ security.PasswordValid parsers := by
  have hloop : ∀ {credentials : List (String × String)} {u : Unit},
      credentials.forM (validateCredential parsers) = .ok u ↔
        ∀ credential ∈ credentials, validateUsername parsers.isAlphanumeric credential.1 = none ∧
          parsers.passwordHash credential.2 = none := by
    intro credentials u
    induction credentials with
    | nil => exact ⟨fun _ _ hmem => absurd hmem List.not_mem_nil, fun _ => rfl⟩
    | cons credential rest ih =>
        show (validateCredential parsers credential >>= fun _ =>
          rest.forM (validateCredential parsers)) = .ok u ↔ _
        simp only [bind_eq_ok, validateCredential_eq_ok, ih, exists_const, List.forall_mem_cons]
  unfold validatePassword
  simp only [bind_eq_ok, ensure_eq_ok, hloop, exists_const]
  constructor
  · rintro ⟨hpassword, husername, hcredentials, hall, hmode⟩
    rw [Bool.and_eq_true] at husername
    exact ⟨String.isEmpty_iff.mp hpassword, String.isEmpty_iff.mp husername.1,
      String.isEmpty_iff.mp husername.2, by simpa using hcredentials, hall, by simpa using hmode⟩
  · rintro ⟨hpassword, husername, hhash, hcredentials, hall, hmode⟩
    refine ⟨String.isEmpty_iff.mpr hpassword, ?_, by simpa using hcredentials, hall,
      by simpa using hmode⟩
    rw [Bool.and_eq_true]
    exact ⟨String.isEmpty_iff.mpr husername, String.isEmpty_iff.mpr hhash⟩

end SecurityConfig

namespace Config

/-- `validate`. -/
def validate (parsers : Parsers) (config : Config) : Except ConfigError Unit := do
  withContext (parsers.socketAddr config.server.listenAddr) "Invalid listen address"
  ensure (config.security.authMethod ∈ ["none", "pam", "password"])
    ("Invalid auth_method: " ++ config.security.authMethod ++
      " (expected none, pam, or password)")
  -- the credentials are looked at for this method only
  (if config.security.authMethod = "password" then config.security.validatePassword parsers
    else .ok ())
  ensure (config.security.securityMode ∈ ["tls", "hybrid", "auto"])
    ("Invalid security mode: " ++ config.security.securityMode ++
      " (expected tls, hybrid, or auto)")
  ensure (config.security.authMethod ≠ "pam" || config.security.securityMode = "tls")
    ("auth_method=pam requires security_mode=tls (CredSSP/Hybrid is " ++
      "incompatible with PAM authentication)")
  ensure (config.video.cursorMode ∈ ["embedded", "metadata", "hidden"])
    ("Invalid cursor mode: " ++ config.video.cursorMode)
  config.portal.validateAppId parsers
  ensure (config.cursor.mode ∈ ["metadata", "painted", "hidden", "predictive"])
    ("Invalid cursor strategy mode: " ++ config.cursor.mode)
  ensure (config.egfx.zgfxCompression ∈ ["never", "auto", "always"])
    ("Invalid ZGFX compression mode: " ++ config.egfx.zgfxCompression)
  ensure (config.egfx.codec ∈ ["avc420", "avc444", "auto"])
    ("Invalid EGFX codec: " ++ config.egfx.codec)
  ensure (config.damageTracking.method ∈ ["pipewire", "diff", "hybrid"])
    ("Invalid damage tracking method: " ++ config.damageTracking.method)
  ensure (config.hardwareEncoding.qualityPreset ∈ ["speed", "balanced", "quality"])
    ("Invalid quality preset: " ++ config.hardwareEncoding.qualityPreset)
  -- the QP bounds last: the default lies between them
  ensure (config.egfx.qpMin ≤ config.egfx.qpMax)
    ("qp_min (" ++ toString config.egfx.qpMin ++ ") cannot be greater than qp_max (" ++
      toString config.egfx.qpMax ++ ")")
  ensure (config.egfx.qpMin ≤ config.egfx.qpDefault && config.egfx.qpDefault ≤ config.egfx.qpMax)
    ("qp_default (" ++ toString config.egfx.qpDefault ++ ") must be between qp_min (" ++
      toString config.egfx.qpMin ++ ") and qp_max (" ++ toString config.egfx.qpMax ++ ")")

/-- What passes the validator. -/
structure Valid (parsers : Parsers) (config : Config) : Prop where
  listenAddr : parsers.socketAddr config.server.listenAddr = none
  authMethod : config.security.authMethod ∈ ["none", "pam", "password"]
  password : config.security.authMethod = "password" → config.security.PasswordValid parsers
  securityMode : config.security.securityMode ∈ ["tls", "hybrid", "auto"]
  pam : config.security.authMethod = "pam" → config.security.securityMode = "tls"
  cursorMode : config.video.cursorMode ∈ ["embedded", "metadata", "hidden"]
  appId : ∀ appId ∈ config.portal.appId, parsers.appId appId = none
  cursor : config.cursor.mode ∈ ["metadata", "painted", "hidden", "predictive"]
  zgfxCompression : config.egfx.zgfxCompression ∈ ["never", "auto", "always"]
  codec : config.egfx.codec ∈ ["avc420", "avc444", "auto"]
  method : config.damageTracking.method ∈ ["pipewire", "diff", "hybrid"]
  qualityPreset : config.hardwareEncoding.qualityPreset ∈ ["speed", "balanced", "quality"]
  qpMin_le : config.egfx.qpMin ≤ config.egfx.qpDefault
  le_qpMax : config.egfx.qpDefault ≤ config.egfx.qpMax

/-- The validator accepts what is valid, and nothing else. -/
theorem validate_eq_ok {parsers : Parsers} {config : Config} :
    config.validate parsers = .ok () ↔ config.Valid parsers := by
  have hpassword : ∀ {u : Unit}, (if config.security.authMethod = "password" then
      config.security.validatePassword parsers else .ok ()) = .ok u ↔
      (config.security.authMethod = "password" → config.security.PasswordValid parsers) := by
    intro u
    split
    · next h => simp only [h, SecurityConfig.validatePassword_eq_ok, forall_const]
    · next h => simp [h]
  unfold validate
  simp only [bind_eq_ok, ensure_eq_ok, withContext_eq_ok,
    PortalConfig.validateAppId_eq_ok, hpassword, exists_const, decide_eq_true_eq,
    Bool.or_eq_true, Bool.and_eq_true]
  constructor
  · rintro ⟨haddr, hauth, hpass, hmode, hpam, hvideo, happ, hcursor, hzgfx, hcodec, hmethod,
      hpreset, -, hlo, hhi⟩
    exact ⟨haddr, hauth, hpass, hmode, fun h => hpam.resolve_left (not_not.mpr h), hvideo, happ,
      hcursor, hzgfx, hcodec, hmethod, hpreset, hlo, hhi⟩
  · rintro ⟨haddr, hauth, hpass, hmode, hpam, hvideo, happ, hcursor, hzgfx, hcodec, hmethod,
      hpreset, hlo, hhi⟩
    exact ⟨haddr, hauth, hpass, hmode, (Decidable.em _).symm.imp_right hpam, hvideo, happ,
      hcursor, hzgfx, hcodec, hmethod, hpreset, UInt8.le_trans hlo hhi, hlo, hhi⟩

/-- The same configuration with other settings for the components of the pipeline. -/
def withPipeline (config : Config) (performance : PerformanceConfig)
    (encodingAdaptation : EncodingAdaptationConfig) (damageTracking : DamageTrackingConfig) :
    Config where
  server := config.server
  portal := config.portal
  security := config.security
  video := config.video
  performance := performance
  egfx := { config.egfx with encodingAdaptation }
  damageTracking := { damageTracking with method := config.damageTracking.method }
  hardwareEncoding := config.hardwareEncoding
  cursor := config.cursor

/-- **The validator does not look at the settings of the pipeline's components.** -/
theorem validate_withPipeline (parsers : Parsers) (config : Config)
    (performance : PerformanceConfig) (encodingAdaptation : EncodingAdaptationConfig)
    (damageTracking : DamageTrackingConfig) :
    (config.withPipeline performance encodingAdaptation damageTracking).validate parsers
      = config.validate parsers := rfl

/-- The default passes its own validation, if its address is one. -/
theorem validate_default {parsers : Parsers} (h : parsers.socketAddr "[::]:3389" = none) :
    Config.default.validate parsers = .ok () := by
  unfold validate
  simp only [Config.default, h]
  rfl

end Config

end LamcoRdp

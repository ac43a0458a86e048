/-
The settings of the program.

Five sections: where to listen, where to keep state, which gateway to ask, how often to report,
and how to judge rates.  All but the gateway's have defaults.  Settings are loaded first and
validated afterwards, because a file may be well formed and still make no sense.
-/
import HealthBoard.Fingerprint.Throttle
import HealthBoard.Health.Level
import HealthBoard.Settings.Source
import HealthBoard.Url.Address

namespace HealthBoard

/-- Where to listen. -/
structure ServerSettings where
  host : String := "127.0.0.1"
  portNumber : UInt16 := 5340

/-- Where the database is. -/
structure DatabaseSettings where
  path : String := "modelpulse.db"

/-- Which gateway to ask, and how. -/
structure GatewaySettings where
  baseUrl : String
  timeoutSeconds : UInt64 := 10
  /-- Is sent as a bearer token. -/
  accessToken : Option String := none
  /-- Is sent in a header of its own. -/
  userId : Option Int64 := none
  /-- How long the list of models is kept. -/
  modelsCacheSeconds : UInt64 := 60

/-- Whether and how often this machine is reported. -/
structure FingerprintSettings where
  enabled : Bool := true
  reportInterval : Int64 := Throttle.defaultInterval
  reportOnStartup : Bool := true

/-- How the two dashboards judge. -/
structure ThresholdSettings where
  forOperators : ThresholdSet := .forOperators
  forPublic : ThresholdSet := .forPublic

structure Settings where
  server : ServerSettings := {}
  database : DatabaseSettings := {}
  gateway : GatewaySettings
  fingerprint : FingerprintSettings := {}
  thresholds : ThresholdSettings := {}

/-! ### From settings of unknown form -/

def ServerSettings.ofSetting (s : Setting) : Except SettingsFault ServerSettings := do
  let s ← Section.ofSetting "ServerConfig" ["host", "port"] s
  let d : ServerSettings := {}
  let host ← s.get? "host" Setting.asText
  let portNumber ← s.get? "port" Setting.asPort
  return ⟨host.getD d.host, portNumber.getD d.portNumber⟩

def DatabaseSettings.ofSetting (s : Setting) : Except SettingsFault DatabaseSettings := do
  let s ← Section.ofSetting "DatabaseConfig" ["path"] s
  let path ← s.get? "path" Setting.asText
  return ⟨path.getD ({} : DatabaseSettings).path⟩

def GatewaySettings.ofSetting (s : Setting) : Except SettingsFault GatewaySettings := do
  let s ← Section.ofSetting "UpstreamConfig"
    ["base_url", "timeout_secs", "access_token", "user_id", "models_cache_ttl_secs"] s
  let baseUrl ← s.get? "base_url" Setting.asText
  let timeout ← s.get? "timeout_secs" Setting.asNatural
  let accessToken ← s.get? "access_token" (Setting.optional Setting.asText)
  let userId ← s.get? "user_id" (Setting.optional Setting.asInteger)
  let modelsCache ← s.get? "models_cache_ttl_secs" Setting.asNatural
  let d : GatewaySettings := { baseUrl := ← s.require "base_url" baseUrl }
  return { d with
    timeoutSeconds := timeout.getD d.timeoutSeconds
    accessToken := accessToken.getD d.accessToken
    userId := userId.getD d.userId
    modelsCacheSeconds := modelsCache.getD d.modelsCacheSeconds }

def FingerprintSettings.ofSetting (s : Setting) : Except SettingsFault FingerprintSettings := do
  let s ← Section.ofSetting "FingerprintConfig"
    ["enabled", "report_interval_ms", "report_on_startup"] s
  let d : FingerprintSettings := {}
  let enabled ← s.get? "enabled" Setting.asBoolean
  let interval ← s.get? "report_interval_ms" Setting.asInteger
  let onStartup ← s.get? "report_on_startup" Setting.asBoolean
  return ⟨enabled.getD d.enabled, interval.getD d.reportInterval, onStartup.getD d.reportOnStartup⟩

def LevelLabels.ofSetting (s : Setting) : Except SettingsFault LevelLabels := do
  let s ← Section.ofSetting "LevelLabels" ["excellent", "good", "warning", "poor", "critical"] s
  let excellent ← s.get? "excellent" Setting.asText
  let good ← s.get? "good" Setting.asText
  let warning ← s.get? "warning" Setting.asText
  let poor ← s.get? "poor" Setting.asText
  let critical ← s.get? "critical" Setting.asText
  return ⟨← s.require "excellent" excellent, ← s.require "good" good, ← s.require "warning" warning,
    ← s.require "poor" poor, ← s.require "critical" critical⟩

def ThresholdSet.ofSetting (s : Setting) : Except SettingsFault ThresholdSet := do
  let s ← Section.ofSetting "ThresholdSet" ["excellent", "good", "warning", "poor", "labels"] s
  let excellent ← s.get? "excellent" Setting.asNumber
  let good ← s.get? "good" Setting.asNumber
  let warning ← s.get? "warning" Setting.asNumber
  let poor ← s.get? "poor" Setting.asNumber
  let labels ← s.get? "labels" LevelLabels.ofSetting
  return ⟨← s.require "excellent" excellent, ← s.require "good" good, ← s.require "warning" warning,
    ← s.require "poor" poor, ← s.require "labels" labels⟩

def ThresholdSettings.ofSetting (s : Setting) : Except SettingsFault ThresholdSettings := do
  let s ← Section.ofSetting "ThresholdsConfig" ["operator", "public"] s
  let d : ThresholdSettings := {}
  let forOperators ← s.get? "operator" ThresholdSet.ofSetting
  let forPublic ← s.get? "public" ThresholdSet.ofSetting
  return ⟨forOperators.getD d.forOperators, forPublic.getD d.forPublic⟩

namespace Settings

def ofSetting (s : Setting) : Except SettingsFault Settings := do
  let s ← Section.ofSetting "AppConfig"
    ["server", "database", "upstream", "fingerprint", "thresholds"] s
  let server ← s.get? "server" ServerSettings.ofSetting
  let database ← s.get? "database" DatabaseSettings.ofSetting
  let gateway ← s.get? "upstream" GatewaySettings.ofSetting
  let fingerprint ← s.get? "fingerprint" FingerprintSettings.ofSetting
  let thresholds ← s.get? "thresholds" ThresholdSettings.ofSetting
  let d : Settings := { gateway := ← s.require "upstream" gateway }
  return { d with
    server := server.getD d.server
    database := database.getD d.database
    fingerprint := fingerprint.getD d.fingerprint
    thresholds := thresholds.getD d.thresholds }

/-- The settings of a file, if there is one, and of the environment, which is laid over it. -/
def load (file : Option SettingsFile) (environment : List (String × String)) :
    Except SettingsFault Settings := do
  let ofFile ← match file with
    | some file => file.settings
    | none => pure []
  ofSetting ((Setting.empty.lay ofFile).lay (Environment.settings environment))

/-! ### Do they make sense? -/

/-- What makes no sense. -/
inductive Nonsense where
  | badUrl (fault : Url.Fault)
  | otherScheme (scheme : String)
  | noTimeout
  | noInterval
  | operatorThresholds (fault : ThresholdSet.Fault)
  | publicThresholds (fault : ThresholdSet.Fault)

def Nonsense.message : Nonsense → String
  | .badUrl fault => "upstream.base_url is not a valid URL: " ++ fault.message
  | .otherScheme scheme => "upstream.base_url must use http or https, got " ++ scheme
  | .noTimeout => "upstream.timeout_secs must be greater than zero"
  | .noInterval => "fingerprint.report_interval_ms must be positive"
  | .operatorThresholds fault => "thresholds.operator: " ++ fault.message
  | .publicThresholds fault => "thresholds.public: " ++ fault.message

/-- The scheme of the gateway's address has to be one that requests can be sent by. -/
def validateUrl (baseUrl : String) : Except Nonsense Unit := do
  let address ← (Url.Address.parse baseUrl).mapError .badUrl
  let scheme := String.ofList address.scheme
  if scheme == "http" || scheme == "https" then return ()
  else throw (.otherScheme scheme)

/-- The first thing that makes no sense, if there is one. -/
def validate (s : Settings) : Except Nonsense Unit := do
  validateUrl s.gateway.baseUrl
  if s.gateway.timeoutSeconds == 0 then throw .noTimeout
  if s.fingerprint.reportInterval ≤ 0 then throw .noInterval
  s.thresholds.forOperators.validate.mapError .operatorThresholds
  s.thresholds.forPublic.validate.mapError .publicThresholds

end Settings
end HealthBoard

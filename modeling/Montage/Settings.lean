import Montage.Json.Operand
import Montage.Schema.Field

namespace Montage

/-!
# Settings

What an operator can choose. Every setting has a name and a default; values
come as texts of the environment or as typed values.
-/

/-- All settings of a server. -/
structure Settings where
  appName : String := "ffrender"
  appVersion : String := "0.1.0"
  debug : Bool := false
  host : String := "0.0.0.0"
  port : Int := 3000
  publicBaseUrl : String := "http://localhost:3000"
  corsOriginsText : String := "*"
  tempDirectory : String := "/tmp/ffrender"
  fontsDirectory : String := "/tmp/ffrender-fonts"
  ffmpegPath : String := "ffmpeg"
  ffprobePath : String := "ffprobe"
  audioBitrate : String := "128k"
  defaultFontPath : String := "/usr/share/fonts/truetype/dejavu/DejaVuSans.ttf"
  downloadsFontsOnStartup : Bool := true
  fontDownloadTimeout : Binary64 := 30
  fontDownloadBatchSize : Int := 5
  maxConcurrentJobs : Int := 5
  jobRegistryHighWater : Int := 100
  jobLifetime : Amount := .whole 3600
  minimumFreeDisk : Amount := .whole 200
  downloadTimeout : Binary64 := 300
  callbackTimeout : Binary64 := 30
  callbackAttempts : Int := 3
  callbackRetryUnit : Amount := .fraction 5
  bucketName : String := "ffrender-renders"
  bucketProject : String := ""
  storagePublicBaseUrl : String := ""
  usesLocalStorage : Bool := true
  localStoragePath : String := "/tmp/ffrender-storage"
deriving DecidableEq

/-- Read an amount: a number keeps its kind, and a text is a number. -/
def readAmount (value : Json) : Checked Amount :=
  match value.amount? with
  | some amount => .valid amount
  | none => (readNumber value).map .fraction

/-- Read a whole amount; what is chosen as a number is taken as it is. -/
def readCount : Json → Checked Amount
  | .number value => .valid (.fraction value)
  | value => (readInteger value).map .whole

namespace Settings

/-- The settings that hold when nothing is chosen. -/
def standard : Settings := {}

/-- Read settings on the ground of others. -/
def readOver
    (base : Settings)
    (fields : Fields) :
    Checked Settings :=
  mk
    <$> fields.withDefault "app_name" base.appName readText
    <*> fields.withDefault "app_version" base.appVersion readText
    <*> fields.withDefault "debug" base.debug readBoolean
    <*> fields.withDefault "host" base.host readText
    <*> fields.withDefault "port" base.port readInteger
    <*> fields.withDefault "public_base_url" base.publicBaseUrl readText
    <*> fields.withDefault "cors_origins_raw" base.corsOriginsText readText
    <*> fields.withDefault "temp_dir" base.tempDirectory readText
    <*> fields.withDefault "fonts_dir" base.fontsDirectory readText
    <*> fields.withDefault "ffmpeg_path" base.ffmpegPath readText
    <*> fields.withDefault "ffprobe_path" base.ffprobePath readText
    <*> fields.withDefault "audio_bitrate" base.audioBitrate readText
    <*> fields.withDefault "default_font_path" base.defaultFontPath readText
    <*> fields.withDefault "download_fonts_on_startup"
      base.downloadsFontsOnStartup
      readBoolean
    <*> fields.withDefault "font_download_timeout_seconds"
      base.fontDownloadTimeout
      readNumber
    <*> fields.withDefault "font_download_batch_size" base.fontDownloadBatchSize
      readInteger
    <*> fields.withDefault "max_concurrent_jobs" base.maxConcurrentJobs
      readInteger
    <*> fields.withDefault "job_registry_high_water" base.jobRegistryHighWater
      readInteger
    <*> fields.withDefault "job_ttl_seconds" base.jobLifetime readCount
    <*> fields.withDefault "min_free_disk_mb" base.minimumFreeDisk readCount
    <*> fields.withDefault "download_timeout_seconds" base.downloadTimeout
      readNumber
    <*> fields.withDefault "callback_timeout_seconds" base.callbackTimeout
      readNumber
    <*> fields.withDefault "callback_max_attempts" base.callbackAttempts
      readInteger
    <*> fields.withDefault "callback_retry_unit_seconds" base.callbackRetryUnit
      readAmount
    <*> fields.withDefault "gcs_bucket_name" base.bucketName readText
    <*> fields.withDefault "gcs_project_id" base.bucketProject readText
    <*> fields.withDefault "storage_public_base_url" base.storagePublicBaseUrl
      readText
    <*> fields.withDefault "use_local_storage" base.usesLocalStorage readBoolean
    <*> fields.withDefault "local_storage_path" base.localStoragePath readText

/-- The values of an environment by their names in lower case. -/
def environmentFields (environment : List (String × String)) : Fields :=
  fieldsOf <| environment.map fun entry =>
    (String.ofList (lowerText entry.1.toList), .text entry.2)

/-- Read settings from the environment. -/
def ofEnvironment (environment : List (String × String)) : Checked Settings :=
  readOver standard (environmentFields environment)

/-- Settings as JSON. -/
def toFields (settings : Settings) : Fields := [
  ("app_name", .text settings.appName),
  ("app_version", .text settings.appVersion),
  ("debug", .bool settings.debug),
  ("host", .text settings.host),
  ("port", .integer settings.port),
  ("public_base_url", .text settings.publicBaseUrl),
  ("cors_origins_raw", .text settings.corsOriginsText),
  ("temp_dir", .text settings.tempDirectory),
  ("fonts_dir", .text settings.fontsDirectory),
  ("ffmpeg_path", .text settings.ffmpegPath),
  ("ffprobe_path", .text settings.ffprobePath),
  ("audio_bitrate", .text settings.audioBitrate),
  ("default_font_path", .text settings.defaultFontPath),
  ("download_fonts_on_startup", .bool settings.downloadsFontsOnStartup),
  ("font_download_timeout_seconds", .number settings.fontDownloadTimeout),
  ("font_download_batch_size", .integer settings.fontDownloadBatchSize),
  ("max_concurrent_jobs", .integer settings.maxConcurrentJobs),
  ("job_registry_high_water", .integer settings.jobRegistryHighWater),
  ("job_ttl_seconds", settings.jobLifetime.toJson),
  ("min_free_disk_mb", settings.minimumFreeDisk.toJson),
  ("download_timeout_seconds", .number settings.downloadTimeout),
  ("callback_timeout_seconds", .number settings.callbackTimeout),
  ("callback_max_attempts", .integer settings.callbackAttempts),
  ("callback_retry_unit_seconds", settings.callbackRetryUnit.toJson),
  ("gcs_bucket_name", .text settings.bucketName),
  ("gcs_project_id", .text settings.bucketProject),
  ("storage_public_base_url", .text settings.storagePublicBaseUrl),
  ("use_local_storage", .bool settings.usesLocalStorage),
  ("local_storage_path", .text settings.localStoragePath)]

/-- The nonempty pieces between separators, without blanks around them. -/
def piecesAt
    (separator : Char)
    (text : List Char) :
    List Json :=
  (((splitAtChar separator text).map trim).filter (! ·.isEmpty)).map
    fun piece => .text (String.ofList piece)

/-- The pieces of a text at bars, or at commas if it has no bar. -/
def separatedOrigins (text : List Char) : List Json :=
  if text.contains '|' then piecesAt '|' text else piecesAt ',' text

/-- The origins that a browser may come from: a JSON array, or a list. -/
def originsOf (text : String) : Outcome (List Json) :=
  if text.toList.head? = some '[' then
    match Json.read text with
    | .ok (.array origins) => .ok origins
    | .ok _ => .ok (separatedOrigins text.toList)
    | .error error =>
        match ofReadLimit? error with
        | some failure => .error failure
        | none => .ok (separatedOrigins text.toList)
  else
    .ok (separatedOrigins text.toList)

/-- The origins that a browser may come from. -/
def allowedOrigins (settings : Settings) : Outcome (List Json) :=
  originsOf settings.corsOriginsText

end Settings

end Montage

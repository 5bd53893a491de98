import CourierTrack.Decimal.Literal
import CourierTrack.Ini.Reader
import CourierTrack.Settings.Basic
/-!
Reading settings from their text. What is missing or empty keeps its default; the first value that
is wrong is reported, in the order of the sections and keys here.
-/

namespace CourierTrack

inductive SettingsError where
  /-- The text is not made of sections and entries. -/
  | unreadable
  | value (place : String) (key : String) (value : String) (reason : String)
  deriving Repr, DecidableEq

def SettingsError.valueMessage (place key value reason : String) : String :=
  "Invalid configuration: " ++ place ++ "." ++ key ++ " = '" ++ value ++ "' - " ++ reason

namespace Settings

/-- The value of a key without blanks around it, if anything is left. -/
def value? (ini : Ini) (place key : String) : Option (List Char) :=
  match (ini.get? place key).map fun v => Text.trim v.toList with
  | some [] => none
  | value => value

/-- Reads a value; where it is wrong the reader tells why. -/
def field (ini : Ini) (place key : String) (fallback : α)
    (read : List Char → Except String α) : Except SettingsError α :=
  match value? ini place key with
  | none => .ok fallback
  | some value =>
    match read value with
    | .ok a => .ok a
    | .error reason => .error (.value place key (String.ofList value) reason)

def startsWith (start : String) (text : List Char) : Bool := start.toList.isPrefixOf text

def webOrigin (text : List Char) : Except String String :=
  if startsWith "http://" text || startsWith "https://" text then
    .ok (String.ofList (text.reverse.dropWhile (· = '/')).reverse)
  else .error "must start with http:// or https://"

def channelUrl (text : List Char) : Except String (Option String) :=
  if startsWith "ws://" text || startsWith "wss://" text then .ok (some (String.ofList text))
  else .error "must start with ws:// or wss://"

/-- A number that fits into a 64-bit word. -/
def whole (reason : String) (text : List Char) : Except String Nat :=
  match Decimal.natural? 64 text with
  | some n => .ok n
  | none => .error reason

def deliveryNumber (text : List Char) : Except String (Option DeliveryId) :=
  (whole "must be a positive integer" text).map fun n => some (UInt64.ofNat n)

def tick (text : List Char) : Except String Nat :=
  match whole "must be a positive integer (milliseconds)" text with
  | .ok 0 => .error "must be greater than zero"
  | result => result

def metres (text : List Char) : Except String Float :=
  match Decimal.float? text with
  | none => .error "must be a number (metres)"
  | some x => if !x.isFinite || x < 0 then .error "must be zero or greater" else .ok x

def speed (text : List Char) : Except String Float :=
  match Decimal.float? text with
  | none => .error "must be a number (km/h)"
  | some x => if !x.isFinite || x ≤ 0 then .error "must be greater than zero" else .ok x

def choice (text : List Char) : Except String Bool :=
  let word := String.ofList (text.map Char.toLower)
  if ["true", "yes", "on", "1"].contains word then .ok true
  else if ["false", "no", "off", "0"].contains word then .ok false
  else .error "must be true or false"

def words (text : List Char) : Except String String := .ok (String.ofList text)

/-- A path in which `~/` at the start stands for the home directory. -/
def homePath (home : String) (text : List Char) : Except String String :=
  match text with
  | '~' :: '/' :: rest => .ok (Files.Path.join home (String.ofList rest))
  | text => .ok (String.ofList text)

/-- The longest wait must not be shorter than the first one. -/
def checkBackoff (base limit : Nat) : Except SettingsError Unit :=
  if limit < base then
    .error (.value "transport" "backoff_max_ms" (toString limit)
      "must not be smaller than backoff_base_ms")
  else .ok ()

def ofIni (home : String) (ini : Ini) : Except SettingsError Settings := do
  let d := default home
  let millis := whole "must be a positive integer (milliseconds)"
  let origin ← field ini "session" "origin" d.origin webOrigin
  let delivery ← field ini "session" "delivery_id" d.delivery deliveryNumber
  let channel ← field ini "session" "channel_url" d.channel channelUrl
  let minIntervalSecs ← field ini "gate" "min_interval_secs" d.minIntervalSecs
    (whole "must be a non-negative integer (seconds)")
  let minDistance ← field ini "gate" "min_distance_m" d.minDistance metres
  let backoffBaseMs ← field ini "transport" "backoff_base_ms" d.backoffBaseMs millis
  let backoffMaxMs ← field ini "transport" "backoff_max_ms" d.backoffMaxMs millis
  checkBackoff backoffBaseMs backoffMaxMs
  let persist ← field ini "producer" "persist" d.persist choice
  let persistPath ← field ini "producer" "persist_path" d.persistPath words
  let status ← field ini "producer" "status" d.status words
  let tickMs ← field ini "producer" "simulate_tick_ms" d.tickMs tick
  let historyPath ← field ini "consumer" "history_path" d.historyPath words
  let historyLimit ← field ini "consumer" "history_limit" d.historyLimit fun text =>
    (whole "must be a positive integer" text).map Watcher.clampLimit
  let historyTimeoutSecs ← field ini "consumer" "history_timeout_secs" d.historyTimeoutSecs
    (whole "must be a positive integer (seconds)")
  let speedKmph ← field ini "consumer" "speed_kmph" d.speedKmph speed
  let logDirectory ← field ini "logging" "directory" d.logDirectory (homePath home)
  let logFile ← field ini "logging" "file" d.logFile words
  return { origin, delivery, channel, minIntervalSecs, minDistance, backoffBaseMs, backoffMaxMs,
           persist, persistPath, status, tickMs, historyPath, historyLimit, historyTimeoutSecs,
           speedKmph, logDirectory, logFile }

def ofText (home text : String) : Except SettingsError Settings :=
  match Ini.ofText? text with
  | none => .error .unreadable
  | some ini => ofIni home ini

end Settings

end CourierTrack

import CourierTrack.Settings.File
/-!
Why a command fails, and what the program says then.
-/

namespace CourierTrack.Command

inductive Error where
  | log (cause : Files.Error)
  | settings (cause : Settings.FileError)
  | noDelivery
  | site (cause : SiteError)
  | channelUrl (url : String)
  deriving Repr, DecidableEq

namespace Error

def noDeliveryText : String :=
  "No delivery id. Pass --delivery or set delivery_id in [session]"

def message : Error → String
  | .log cause => "Failed to initialize logging: " ++ cause.message
  | .settings cause => "Configuration error: " ++ cause.message
  | .noDelivery => "Configuration error: " ++ noDeliveryText
  | .site cause => "Invalid session: " ++ cause.message
  | .channelUrl url => "Channel error: " ++ Site.channelUrlMessage url

def hint : Error → List String
  | .site _ => [
    "Set the site origin with --origin or in the [session] section of",
    "the config file (livetrack config path shows where it is)."]
  | .channelUrl _ => ["A channel URL must start with ws:// or wss://"]
  | _ => []

def lines (e : Error) : List String :=
  let hint := if e.hint.isEmpty then [] else "" :: e.hint
  ("Error: " ++ e.message) :: hint

end Error

end CourierTrack.Command

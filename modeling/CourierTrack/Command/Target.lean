import CourierTrack.Command.Basic
import CourierTrack.Command.Error
/-!
Finding the delivery that a command is about.
-/

namespace CourierTrack.Command.Target

/-- The delivery that is named, or else the one of the settings. -/
def delivery? (t : Target) (s : Settings) : Option DeliveryId := t.delivery <|> s.delivery

/-- The settings with what is named in place of them. -/
def amend (t : Target) (s : Settings) : Settings :=
  { s with origin := t.origin.getD s.origin, channel := t.channel <|> s.channel }

def site (t : Target) (s : Settings) : Except Error Site :=
  match t.delivery? s with
  | none => .error .noDelivery
  | some id => ((t.amend s).site id).mapError .site

/-- The address of the site's channel, if a channel can be opened there. -/
def channelUrl (site : Site) : Except Error String :=
  if Site.isChannelUrl site.channelUrl then .ok site.channelUrl
  else .error (.channelUrl site.channelUrl)

def endpoint (site : Site) (path : String) : Except Error Url :=
  (site.endpoint path).mapError .site

end CourierTrack.Command.Target

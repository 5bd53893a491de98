import CourierTrack.Delivery.Basic
import CourierTrack.Text.Replace
import CourierTrack.Url.Reader
import CourierTrack.Watcher.History
/-!
Where a delivery lives: the origin of its server, and the addresses of its channel and endpoints.

The channel of delivery 7 at `https://shop.example` is
`wss://shop.example/ws/delivery/track/7/` unless another one is given. Endpoints are paths relative
to the origin, in which the delivery's number stands for every placeholder.
-/

namespace CourierTrack

inductive SiteError where
  | origin (text : String) (cause : Url.Error)
  | scheme (scheme : String)
  | path (text : String) (cause : Url.Error)
  deriving Repr, DecidableEq

def SiteError.message : SiteError → String
  | .origin given cause => "Invalid origin '" ++ given ++ "': " ++ cause.message
  | .scheme given => "Unsupported origin scheme '" ++ given ++ "' (expected http or https)"
  | .path given cause => "Invalid endpoint path '" ++ given ++ "': " ++ cause.message

structure Site where
  origin : Url
  delivery : DeliveryId
  /-- The channel's address, if it does not follow from the origin. -/
  channel : Option String := none
  deriving Repr

namespace Site

/-- A site served over the web. -/
def ofOrigin (origin : String) (delivery : DeliveryId) (channel : Option String) :
    Except SiteError Site :=
  match Url.parse origin with
  | .error cause => .error (.origin origin cause)
  | .ok url =>
    if url.scheme = "http" || url.scheme = "https" then .ok ⟨url, delivery, channel⟩
    else .error (.scheme url.scheme)

def number (s : Site) : String := toString s.delivery.toNat

def channelUrl (s : Site) : String :=
  match s.channel with
  | some url => url
  | none =>
    let scheme := if s.origin.scheme = "https" then "wss" else "ws"
    let path := "/ws/delivery/track/" ++ s.number ++ "/"
    ({ s.origin with scheme }.withPath path).toText

/-- What stands for the delivery's number in the paths of endpoints. -/
def placeholder : String := "\x7bid\x7d"

def endpoint (s : Site) (path : String) : Except SiteError Url :=
  let path := Text.replace placeholder s.number path
  match s.origin.join path with
  | .error cause => .error (.path path cause)
  | .ok url => .ok url

/-- The address from which a backfill of some length is asked. -/
def historyUrl (endpoint : Url) (limit : Nat) : Url :=
  endpoint.addQuery "limit" (toString (Watcher.clampLimit limit))

/-- A channel can be opened only at an address with one of its two schemes. -/
def isChannelUrl (url : String) : Bool :=
  "ws://".toList.isPrefixOf url.toList || "wss://".toList.isPrefixOf url.toList

def channelUrlMessage (url : String) : String :=
  "Invalid channel URL '" ++ url ++ "': scheme must be ws or wss"

end Site

end CourierTrack

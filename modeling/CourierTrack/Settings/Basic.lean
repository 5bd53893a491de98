import CourierTrack.Channel.Backoff
import CourierTrack.Courier.Basic
import CourierTrack.Files.Path
import CourierTrack.Site
import CourierTrack.Watcher.Basic
/-!
The settings of a session, with what follows from them: the gate, the backoff, the courier, the
watcher and the site.
-/

namespace CourierTrack

open Time

structure Settings where
  origin : String := "http://localhost:8000"
  /-- The delivery that is meant when none is named. -/
  delivery : Option DeliveryId := none
  /-- The channel's address, if it does not follow from the origin. -/
  channel : Option String := none
  minIntervalSecs : Nat := 8
  /-- Least metres between fixes that are sent. -/
  minDistance : Float := 25
  backoffBaseMs : Nat := 1000
  backoffMaxMs : Nat := 10000
  persist : Bool := false
  persistPath : String := "/orders/apis/driver/location/"
  status : String := "in_transit"
  tickMs : Nat := 900
  historyPath : String := "/orders/apis/delivery/\x7bid\x7d/pings/"
  historyLimit : Nat := Watcher.defaultLimit
  historyTimeoutSecs : Nat := 10
  speedKmph : Float := Estimator.defaultSpeed
  logDirectory : String
  logFile : String := "livetrack.log"
  deriving Repr

namespace Settings

def directory (home : String) : String := Files.Path.join home ".livetrack"

/-- The settings file that is read when none is named. -/
def defaultFile (home : String) : String := Files.Path.join (directory home) "config.ini"

/-- The settings without any file. -/
def default (home : String) : Settings :=
  { logDirectory := Files.Path.join (directory home) "logs" }

/-- Whether two settings are equal: floats as numbers, and paths up to their spelling. -/
def same (a b : Settings) : Bool :=
  a.origin == b.origin && a.delivery == b.delivery && a.channel == b.channel
    && a.minIntervalSecs == b.minIntervalSecs && a.minDistance == b.minDistance
    && a.backoffBaseMs == b.backoffBaseMs && a.backoffMaxMs == b.backoffMaxMs
    && a.persist == b.persist && a.persistPath == b.persistPath && a.status == b.status
    && a.tickMs == b.tickMs && a.historyPath == b.historyPath
    && a.historyLimit == b.historyLimit && a.historyTimeoutSecs == b.historyTimeoutSecs
    && a.speedKmph == b.speedKmph && Files.Path.same a.logDirectory b.logDirectory
    && a.logFile == b.logFile

def gate (s : Settings) : GateConfig := ⟨Span.seconds s.minIntervalSecs, s.minDistance⟩

def backoff (s : Settings) : Channel.Backoff :=
  ⟨Span.millis s.backoffBaseMs, Span.millis s.backoffMaxMs⟩

def courier (s : Settings) : Courier.Config :=
  { gate := s.gate, status := .ofText s.status, tick := Span.millis s.tickMs }

def watcher (s : Settings) : Watcher.Config :=
  { historyLimit := s.historyLimit, historyTimeout := Span.seconds s.historyTimeoutSecs
    speedKmph := s.speedKmph }

/-- Where a delivery lives by these settings. -/
def site (s : Settings) (delivery : DeliveryId) : Except SiteError Site :=
  Site.ofOrigin s.origin delivery s.channel

end Settings

end CourierTrack

import CourierTrack.Settings.Basic
/-!
The text of settings, with a comment for most of them.
-/

namespace CourierTrack.Settings

/-- Lines, each with its end. -/
def ofLines (lines : List String) : String := String.join (lines.map (· ++ "\n"))

def yesNo (b : Bool) : String := if b then "true" else "false"

def toText (s : Settings) : String :=
  ofLines [
    "[session]",
    "; Origin of the tracking site. The channel and HTTP endpoints are derived from it:",
    ";   channel: ws(s)://<host>/ws/delivery/track/<id>/",
    "origin = " ++ s.origin,
    "; Delivery to track when none is given on the command line",
    "delivery_id = " ++ (match s.delivery with
      | some id => toString id.toNat
      | none => ""),
    "; Full channel URL, replacing the derived one (ws:// or wss://)",
    "channel_url = " ++ s.channel.getD "",
    "",
    "[gate]",
    "; A sample is sent only when at least min_interval_secs have passed since the",
    "; last sent sample AND the device moved at least min_distance_m metres",
    "min_interval_secs = " ++ toString s.minIntervalSecs,
    "min_distance_m = " ++ Decimal.Layout.plain.format s.minDistance,
    "",
    "[transport]",
    "; Reconnect delay is min(backoff_max_ms, backoff_base_ms * 2^retry)",
    "backoff_base_ms = " ++ toString s.backoffBaseMs,
    "backoff_max_ms = " ++ toString s.backoffMaxMs,
    "",
    "[producer]",
    "; Also append every sent position to the durable store (fire-and-forget)",
    "persist = " ++ yesNo s.persist,
    "; Durable-store endpoint, relative to origin (tracking API lives under /orders/)",
    "persist_path = " ++ s.persistPath,
    "; Status carried on every position update",
    "status = " ++ s.status,
    "; Interval between waypoints in simulate mode",
    "simulate_tick_ms = " ++ toString s.tickMs,
    "",
    "[consumer]",
    "; History endpoint, relative to origin (\x7bid\x7d is replaced by the delivery id)",
    "; Drop the /orders/ prefix if the tracking API is mounted at the root",
    "history_path = " ++ s.historyPath,
    "; Points requested for the backfill (10 - 1000)",
    "history_limit = " ++ toString s.historyLimit,
    "history_timeout_secs = " ++ toString s.historyTimeoutSecs,
    "; Assumed average speed for straight-line ETAs",
    "speed_kmph = " ++ Decimal.Layout.plain.format s.speedKmph,
    "",
    "[logging]",
    "directory = " ++ s.logDirectory,
    "file = " ++ s.logFile]

end CourierTrack.Settings

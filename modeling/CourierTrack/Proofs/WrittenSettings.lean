import CourierTrack.Proofs.IniLines
import CourierTrack.Settings.Writer
/-!
The text of settings line by line, and what is read from it if all values stand for themselves.
-/

namespace CourierTrack.Proofs.WrittenSettings

open CourierTrack.Ini
open CourierTrack.Settings
open CourierTrack.Proofs.IniLines

variable {s : Settings}

def deliveryText (s : Settings) : String :=
  match s.delivery with
  | some id => toString id.toNat
  | none => ""

def lines (s : Settings) : List Line := [
  .header "session",
  .note " Origin of the tracking site. The channel and HTTP endpoints are derived from it:",
  .note "   channel: ws(s)://<host>/ws/delivery/track/<id>/",
  .entry "origin" s.origin,
  .note " Delivery to track when none is given on the command line",
  .entry "delivery_id" (deliveryText s),
  .note " Full channel URL, replacing the derived one (ws:// or wss://)",
  .entry "channel_url" (s.channel.getD ""),
  .gap,
  .header "gate",
  .note " A sample is sent only when at least min_interval_secs have passed since the",
  .note " last sent sample AND the device moved at least min_distance_m metres",
  .entry "min_interval_secs" (toString s.minIntervalSecs),
  .entry "min_distance_m" (Decimal.Layout.plain.format s.minDistance),
  .gap,
  .header "transport",
  .note " Reconnect delay is min(backoff_max_ms, backoff_base_ms * 2^retry)",
  .entry "backoff_base_ms" (toString s.backoffBaseMs),
  .entry "backoff_max_ms" (toString s.backoffMaxMs),
  .gap,
  .header "producer",
  .note " Also append every sent position to the durable store (fire-and-forget)",
  .entry "persist" (yesNo s.persist),
  .note " Durable-store endpoint, relative to origin (tracking API lives under /orders/)",
  .entry "persist_path" s.persistPath,
  .note " Status carried on every position update",
  .entry "status" s.status,
  .note " Interval between waypoints in simulate mode",
  .entry "simulate_tick_ms" (toString s.tickMs),
  .gap,
  .header "consumer",
  .note " History endpoint, relative to origin (\x7bid\x7d is replaced by the delivery id)",
  .note " Drop the /orders/ prefix if the tracking API is mounted at the root",
  .entry "history_path" s.historyPath,
  .note " Points requested for the backfill (10 - 1000)",
  .entry "history_limit" (toString s.historyLimit),
  .entry "history_timeout_secs" (toString s.historyTimeoutSecs),
  .note " Assumed average speed for straight-line ETAs",
  .entry "speed_kmph" (Decimal.Layout.plain.format s.speedKmph),
  .gap,
  .header "logging",
  .entry "directory" s.logDirectory,
  .entry "file" s.logFile]

theorem toText_eq (s : Settings) : s.toText = ofLines ((lines s).map Line.text) := by
  simp only [toText, lines, List.map_cons, List.map_nil, Line.text, String.reduceAppend]
  rfl

theorem toList_toText (s : Settings) : s.toText.toList = written (lines s) := by
  rw [toText_eq, ofLines, String.toList_join, List.flatMap_map, List.flatMap_map, written]
  simp only [String.toList_append, Line.toList_text]
  rfl

theorem formed_lines (s : Settings) : (lines s).all Line.formed = true := by
  simp only [lines, List.all_cons, Line.formed]
  decide +kernel

/-- A value as it is read. -/
def trimmed (value : String) : String := String.ofList (Text.trim value.toList)

/-- The sections and entries of the text if all values stand for themselves. -/
def writtenIni (s : Settings) : Ini := ⟨[
  ⟨none, []⟩,
  ⟨some "session", [("origin", trimmed s.origin), ("delivery_id", trimmed (deliveryText s)),
    ("channel_url", trimmed (s.channel.getD ""))]⟩,
  ⟨some "gate", [("min_interval_secs", trimmed (toString s.minIntervalSecs)),
    ("min_distance_m", trimmed (Decimal.Layout.plain.format s.minDistance))]⟩,
  ⟨some "transport", [("backoff_base_ms", trimmed (toString s.backoffBaseMs)),
    ("backoff_max_ms", trimmed (toString s.backoffMaxMs))]⟩,
  ⟨some "producer", [("persist", trimmed (yesNo s.persist)),
    ("persist_path", trimmed s.persistPath), ("status", trimmed s.status),
    ("simulate_tick_ms", trimmed (toString s.tickMs))]⟩,
  ⟨some "consumer", [("history_path", trimmed s.historyPath),
    ("history_limit", trimmed (toString s.historyLimit)),
    ("history_timeout_secs", trimmed (toString s.historyTimeoutSecs)),
    ("speed_kmph", trimmed (Decimal.Layout.plain.format s.speedKmph))]⟩,
  ⟨some "logging", [("directory", trimmed s.logDirectory), ("file", trimmed s.logFile)]⟩]⟩

theorem foldl_lines (s : Settings) : (lines s).foldl Line.add {} = writtenIni s := by
  simp [lines, Line.add, Ini.addSection, Ini.addEntry, writtenIni, trimmed]

/-- Whether entries hold the values of settings as they are read. -/
structure Holds (ini : Ini) (s : Settings) : Prop where
  origin : ini.get? "session" "origin" = some (trimmed s.origin)
  delivery : ini.get? "session" "delivery_id" = some (trimmed (deliveryText s))
  channel : ini.get? "session" "channel_url" = some (trimmed (s.channel.getD ""))
  minIntervalSecs : ini.get? "gate" "min_interval_secs" = some (trimmed (toString s.minIntervalSecs))
  minDistance : ini.get? "gate" "min_distance_m" =
    some (trimmed (Decimal.Layout.plain.format s.minDistance))
  backoffBaseMs : ini.get? "transport" "backoff_base_ms" = some (trimmed (toString s.backoffBaseMs))
  backoffMaxMs : ini.get? "transport" "backoff_max_ms" = some (trimmed (toString s.backoffMaxMs))
  persist : ini.get? "producer" "persist" = some (trimmed (yesNo s.persist))
  persistPath : ini.get? "producer" "persist_path" = some (trimmed s.persistPath)
  status : ini.get? "producer" "status" = some (trimmed s.status)
  tickMs : ini.get? "producer" "simulate_tick_ms" = some (trimmed (toString s.tickMs))
  historyPath : ini.get? "consumer" "history_path" = some (trimmed s.historyPath)
  historyLimit : ini.get? "consumer" "history_limit" = some (trimmed (toString s.historyLimit))
  historyTimeoutSecs : ini.get? "consumer" "history_timeout_secs" =
    some (trimmed (toString s.historyTimeoutSecs))
  speedKmph : ini.get? "consumer" "speed_kmph" =
    some (trimmed (Decimal.Layout.plain.format s.speedKmph))
  logDirectory : ini.get? "logging" "directory" = some (trimmed s.logDirectory)
  logFile : ini.get? "logging" "file" = some (trimmed s.logFile)

theorem holds_writtenIni (s : Settings) : Holds (writtenIni s) s := by
  constructor <;> simp [writtenIni, Ini.get?, Ini.section?, Section.get?]

theorem ofText_toText (h : ∀ l ∈ lines s, l.Plain) : Ini.ofText? s.toText = some (writtenIni s) := by
  rw [← foldl_lines]
  exact ofText_lines (toList_toText s) (formed_lines s) h

end CourierTrack.Proofs.WrittenSettings

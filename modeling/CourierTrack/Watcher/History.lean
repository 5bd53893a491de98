import CourierTrack.Frame.Decode
import CourierTrack.Time.Span
/-!
The backfill: the points a delivery passed before the watcher joined, asked for once.
-/

namespace CourierTrack.Watcher

open Time

inductive HistoryError where
  | client (text : String)
  | http (text : String)
  | status (code : Nat)
  | decode (text : String)
  | timeout (span : Span)
  deriving Repr, DecidableEq

def HistoryError.message : HistoryError → String
  | .client text => "Failed to build HTTP client: " ++ text
  | .http text => "HTTP request failed: " ++ text
  | .status code => "History endpoint returned HTTP " ++ toString code
  | .decode text => "Failed to parse history response: " ++ text
  | .timeout span => "History fetch timed out after " ++ span.display

def minLimit : Nat := 10

def maxLimit : Nat := 1000

def defaultLimit : Nat := 200

/-- The number of points that is asked for instead of `limit`. -/
def clampLimit (limit : Nat) : Nat := max minLimit (min limit maxLimit)

theorem clampLimit_bounds (limit : Nat) :
    minLimit ≤ clampLimit limit ∧ clampLimit limit ≤ maxLimit := by
  unfold clampLimit minLimit maxLimit
  omega

end CourierTrack.Watcher

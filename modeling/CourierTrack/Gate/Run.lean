import CourierTrack.Gate
/-!
A gate over a whole run: fixes that are offered to it or recorded, and resets, in any order and at
any clock readings, and what comes of each.
-/

namespace CourierTrack.Gate

open Time

inductive Request where
  | offer (point : Point) (now : Reading)
  | record (point : Point) (now : Reading)
  | reset
  deriving Repr

def Request.isOffer : Request → Bool
  | .offer _ _ => true
  | _ => false

inductive Outcome where
  | admitted (fix : Fix)
  | rejected
  | recorded (fix : Fix)
  | cleared
  deriving Repr, DecidableEq

@[simp] def Outcome.admitted? : Outcome → Option Fix
  | .admitted fix => some fix
  | _ => none

/-- What the last fix is after an outcome; one that is rejected leaves it as it is. -/
@[simp] def Outcome.last? : Outcome → Option (Option Fix)
  | .admitted fix => some (some fix)
  | .recorded fix => some (some fix)
  | .cleared => some none
  | .rejected => none

def respond (g : Gate) : Request → Outcome × Gate
  | .offer point now =>
    let (admitted, g) := g.offer point now
    (if admitted then .admitted ⟨point, now⟩ else .rejected, g)
  | .record point now => (.recorded ⟨point, now⟩, g.record point now)
  | .reset => (.cleared, g.reset)

def run (g : Gate) : List Request → List Outcome × Gate
  | [] => ([], g)
  | request :: rest =>
    let (outcome, g) := g.respond request
    let (more, g) := g.run rest
    (outcome :: more, g)

def admissions (outcomes : List Outcome) : List Fix := outcomes.filterMap Outcome.admitted?

/-- The fix that was admitted or recorded last, if there was no reset after it. -/
def lastFix (outcomes : List Outcome) : Option Fix :=
  ((outcomes.filterMap Outcome.last?).getLast?).join

end CourierTrack.Gate

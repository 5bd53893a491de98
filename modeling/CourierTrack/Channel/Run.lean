import CourierTrack.Channel.Basic
/-!
A channel over a whole run: the signals that it takes one after the other, in any order and at any
readings, and what it writes and announces meanwhile.
-/

namespace CourierTrack.Channel

open Time

@[simp] def Action.text? : Action → Option String
  | .write text => some text
  | _ => none

@[simp] def Action.event? : Action → Option Event
  | .announce event => some event
  | _ => none

@[simp] def Event.state? : Event → Option State
  | .status state => some state
  | .message _ => none

@[simp] def Event.message? : Event → Option Frame
  | .message frame => some frame
  | .status _ => none

/-- The texts whose writing succeeded, over all connections. -/
def written (actions : List Action) : List String := actions.filterMap Action.text?

def announced (actions : List Action) : List Event := actions.filterMap Action.event?

theorem written_append (before after : List Action) :
    written (before ++ after) = written before ++ written after :=
  List.filterMap_append

theorem announced_append (before after : List Action) :
    announced (before ++ after) = announced before ++ announced after :=
  List.filterMap_append

@[simp] theorem announced_writes (frames : List Frame) :
    announced (frames.map fun f => .write f.encode) = [] := by
  induction frames with
  | nil => rfl
  | cons _ _ ih => exact ih

def statuses (events : List Event) : List State := events.filterMap Event.state?

def messages (events : List Event) : List Frame := events.filterMap Event.message?

theorem messages_append (before after : List Event) :
    messages (before ++ after) = messages before ++ messages after :=
  List.filterMap_append

/-- The frames of texts; a text that is none is passed over. -/
def decoded (texts : List String) : List Frame :=
  texts.filterMap fun text => (Frame.decode text).toOption

theorem decoded_append (before after : List String) :
    decoded (before ++ after) = decoded before ++ decoded after :=
  List.filterMap_append

theorem messages_inbound (text : String) :
    messages (announced (inbound text)) = decoded [text] := by
  unfold inbound
  split <;> rename_i h <;> simp [messages, announced, decoded, h, Except.toOption]

/-- The state that was announced last; before any it is `idle`. -/
def lastStatus (events : List Event) : State := (statuses events).getLastD .idle

/-- The frames that the owner hands over until it leaves. -/
def handedOver : List Signal → List Frame
  | [] => []
  | .abandoned :: _ => []
  | .send frame _ :: rest => frame :: handedOver rest
  | _ :: rest => handedOver rest

/-- The frames that a channel takes: its owner's, unless the owner has left already. -/
def taken (c : Channel) (signals : List Signal) : List Frame :=
  if c.phase = .gone then [] else handedOver signals

/-- What a channel does on signals that it takes one after the other. -/
def run (c : Channel) : List (Reading × Signal) → List Action × Channel
  | [] => ([], c)
  | (now, signal) :: rest => andThen (c.step now signal) fun c => c.run rest

/-- What a channel hears of a signal: texts that come over an open connection. -/
def hearing (c : Channel) (signal : Signal) : List String :=
  match c.phase, signal with
  | .live, .received text => [text]
  | _, _ => []

/-- The texts that a channel takes from its connections. -/
def heard (c : Channel) : List (Reading × Signal) → List String
  | [] => []
  | (now, signal) :: rest => c.hearing signal ++ (c.step now signal).2.heard rest

/-! Runs in time -/

/-- What a channel does on signals, each action with the reading at which it is done. -/
def log (c : Channel) : List (Reading × Signal) → List (Reading × Action)
  | [] => []
  | (now, signal) :: rest => (c.step now signal).1.map (now, ·) ++ (c.step now signal).2.log rest

theorem map_snd_log (c : Channel) (signals : List (Reading × Signal)) :
    (c.log signals).map Prod.snd = (c.run signals).1 := by
  induction signals generalizing c with
  | nil => rfl
  | cons head rest ih =>
      rw [log, List.map_append, ih]
      simp [run, andThen, Function.comp_def]

/-- What can be seen of a channel from outside: what it does, and the snapshots that it publishes.
A signal after which nothing can be seen is left out. -/
def journal (c : Channel) : List (Reading × Signal) → List (Reading × List Action × Snapshot)
  | [] => []
  | (now, signal) :: rest =>
    let (actions, d) := c.step now signal
    if actions.isEmpty ∧ d.published = c.published then d.journal rest
    else (now, actions, d.published) :: d.journal rest

/-- Whether a channel that waits for its next attempt is never kept waiting for longer than it
means to. -/
def isPunctual (c : Channel) : List (Reading × Signal) → Bool
  | [] => true
  | (now, signal) :: rest =>
    (c.due?.all fun due => now ≤ due) && (c.step now signal).2.isPunctual rest

/-- When attempts begin. -/
def attempts (log : List (Reading × Action)) : List Reading :=
  log.filterMap fun
    | (now, .attempt) => some now
    | _ => none

/-- The next attempt: the first of those in sight, or else the one that is due. -/
def upcoming (log : List (Reading × Action)) (due : Option Reading) : Option Reading :=
  (attempts log).head?.or due

/-- When the order to connect is given. -/
def orders (signals : List (Reading × Signal)) : List Reading :=
  signals.filterMap fun
    | (now, .connect) => some now
    | _ => none

/-- The failures in a row after an action that came after `count` of them. -/
def tally (count : Nat) : Action → Nat
  | .announce (.status .live) => 0
  | .announce (.status .reconnecting) => count + 1
  | _ => count

def failuresFrom (count : Nat) (log : List (Reading × Action)) : Nat :=
  log.foldl (fun count entry => tally count entry.2) count

/-- The failures since a connection was opened last, or since the start. -/
def failures (log : List (Reading × Action)) : Nat := failuresFrom 0 log

end CourierTrack.Channel

import CourierTrack.Source.Line
/-!
Options among the words that a program is called with.

An option with two dashes has its value after `=` or in the next word. One with a single dash is one
character, several of which may share a dash; its value follows at once, after `=`, or in the next
word. A value in a word of its own does not start with a dash unless that is all of it. An option is
given once only unless it is `repeatable`.
-/

namespace CourierTrack.Command

/-- Why there is nothing to run. -/
inductive Stop where
  /-- The words are no command. -/
  | wrong
  | help
  | version
  deriving Repr, DecidableEq

inductive Value where
  /-- The option has no value, and was given. -/
  | present
  | natural (n : Nat)
  | float (x : Float)
  | point (p : Point)
  | text (s : String)
  deriving Repr

inductive ValueKind where
  | natural
  | float
  | point
  | text
  /-- A text that is not empty. -/
  | path
  deriving Repr, DecidableEq

def ValueKind.read? (kind : ValueKind) (text : String) : Option Value :=
  match kind with
  | .natural => (Decimal.natural? 64 text.toList).map .natural
  | .float => (Decimal.float? text.toList).map .float
  | .point =>
    match Source.parsePoint text.toList with
    | .ok p => some (.point p)
    | .error _ => none
  | .text => some (.text text)
  | .path => if text.isEmpty then none else some (.text text)

structure Flag where
  long : String
  short : Option Char := none
  value : Option ValueKind := none
  repeatable : Bool := false
  deriving Repr

/-- The options that were given, by their long names. -/
abbrev Given := List (String × Value)

namespace Given

def has (given : Given) (name : String) : Bool := given.any fun g => g.1 = name

/-- Adds an option, unless it is given twice and must not be. -/
def add (given : Given) (flag : Flag) (value : Value) : Except Stop Given :=
  if given.has flag.long && !flag.repeatable then .error .wrong
  else .ok (given ++ [(flag.long, value)])

def read (given : Given) (flag : Flag) (kind : ValueKind) (text : String) : Except Stop Given :=
  match kind.read? text with
  | some value => given.add flag value
  | none => .error .wrong

def value? (given : Given) (name : String) : Option Value := given.lookup name

def natural? (given : Given) (name : String) : Option Nat :=
  match given.value? name with
  | some (.natural n) => some n
  | _ => none

def float? (given : Given) (name : String) : Option Float :=
  match given.value? name with
  | some (.float x) => some x
  | _ => none

def text? (given : Given) (name : String) : Option String :=
  match given.value? name with
  | some (.text s) => some s
  | _ => none

def points (given : Given) (name : String) : List Point :=
  given.filterMap fun (other, value) =>
    match value with
    | .point p => if other = name then some p else none
    | _ => none

end Given

/-- What may stand at one level of the words: options, then perhaps a command of that level. -/
structure Level where
  flags : List Flag
  commands : List String := []
  /-- Whether the version can be asked for. -/
  versioned : Bool := false

/-- An option that was read, or one whose value is still to come. -/
inductive Step where
  | given (given : Given)
  | wants (flag : Flag) (kind : ValueKind)

def cutAtEquals (text : List Char) : List Char × Option (List Char) :=
  match text.dropWhile (· ≠ '=') with
  | [] => (text, none)
  | _ :: value => (text.takeWhile (· ≠ '='), some value)

/-- Reads a word that starts with two dashes, which are left out here. -/
def Level.longOption (level : Level) (given : Given) (word : List Char) : Except Stop Step :=
  let (long, attached) := cutAtEquals word
  let long := String.ofList long
  match level.flags.find? fun flag => flag.long = long with
  | some flag =>
    match flag.value, attached with
    | none, none => (given.add flag .present).map .given
    | none, some _ => .error .wrong
    | some kind, some text => (given.read flag kind (String.ofList text)).map .given
    | some kind, none => .ok (.wants flag kind)
  | none =>
    if attached.isSome then .error .wrong
    else if long = "help" then .error .help
    else if long = "version" && level.versioned then .error .version
    else .error .wrong

/-- Reads the options that share a dash. -/
def Level.shortOptions (level : Level) (given : Given) : List Char → Except Stop Step
  | [] => .ok (.given given)
  | c :: rest =>
    match level.flags.find? fun flag => flag.short = some c with
    | some flag =>
      match flag.value with
      | none =>
        match given.add flag .present with
        | .error stop => .error stop
        | .ok given => level.shortOptions given rest
      | some kind =>
        match rest with
        | [] => .ok (.wants flag kind)
        | '=' :: text => (given.read flag kind (String.ofList text)).map .given
        | text => (given.read flag kind (String.ofList text)).map .given
    | none =>
      if c = 'h' then .error .help
      else if c = 'V' && level.versioned then .error .version
      else .error .wrong

def Level.option (level : Level) (given : Given) (word : String) : Except Stop Step :=
  match word.toList with
  | '-' :: '-' :: word => level.longOption given word
  | '-' :: c :: rest => level.shortOptions given (c :: rest)
  | _ => .error .wrong

/-- Whether a word can be the value of the option before it. -/
def isValue (word : String) : Bool :=
  match word.toList with
  | '-' :: _ :: _ => false
  | _ => true

/-- Reads the options of a level, up to the command that follows with its own words. -/
def Level.scan (level : Level) (given : Given) :
    List String → Except Stop (Given × Option (String × List String))
  | [] => .ok (given, none)
  | word :: rest =>
    if level.commands.contains word then .ok (given, some (word, rest))
    else if word = "--" then if rest.isEmpty then .ok (given, none) else .error .wrong
    else match level.option given word with
      | .error stop => .error stop
      | .ok (.given given) => level.scan given rest
      | .ok (.wants flag kind) =>
        match rest with
        | [] => .error .wrong
        | value :: rest =>
          if isValue value then
            match given.read flag kind value with
            | .error stop => .error stop
            | .ok given => level.scan given rest
          else .error .wrong

end CourierTrack.Command

/-!
Settings in sections: each has a name and entries with a key and a value. Of sections with the same
name the first one counts, and so does the first of entries with the same key.
-/

namespace CourierTrack

namespace Ini

structure Section where
  /-- What stands before the first header has no name. -/
  name : Option String
  entries : List (String × String) := []
  deriving Repr, DecidableEq

def Section.get? (s : Section) (key : String) : Option String :=
  (s.entries.find? fun entry => entry.1 = key).map Prod.snd

end Ini

/-- Sections in the order of their headers. -/
structure Ini where
  sections : List Ini.Section := [⟨none, []⟩]
  deriving Repr, DecidableEq

namespace Ini

def section? (ini : Ini) (name : String) : Option Section :=
  ini.sections.find? fun s => s.name = some name

def get? (ini : Ini) (name key : String) : Option String :=
  (ini.section? name).bind fun s => s.get? key

def addSection (ini : Ini) (name : String) : Ini := ⟨ini.sections ++ [⟨some name, []⟩]⟩

def addEntry (ini : Ini) (key value : String) : Ini :=
  ⟨ini.sections.modify (ini.sections.length - 1) fun s =>
    { s with entries := s.entries ++ [(key, value)] }⟩

end Ini

end CourierTrack

/-! # Log levels

A level is a number, or a truth value, which counts as one or zero. The standard levels have names.

* `Level.name`: the name of a level, standard or not.
* `Level.ofName?`: the level that a capitalised word names, second names included. -/

namespace Typestate

/-- A log level. -/
inductive Level where
  | number (i : Int)
  | flag (b : Bool)
deriving DecidableEq

end Typestate

namespace Typestate.Level

/-- The standard levels. -/
def standard : List (String × Int) :=
  [("CRITICAL", 50), ("ERROR", 40), ("WARNING", 30), ("INFO", 20), ("DEBUG", 10), ("NOTSET", 0)]

/-- The number that a level counts as. -/
def value : Level → Int
  | .number i => i
  | .flag b => if b then 1 else 0

/-- The level of a log that is told none. -/
def warning : Int := 30

/-- What is written for a level without a name. -/
def unnamed (shown : String) : String := "Level " ++ shown

/-- The name of a standard level. -/
def standardName? (level : Int) : Option String :=
  (standard.find? fun entry => entry.2 == level).map Prod.fst

/-- The name of a level. -/
def name (level : Int) : String := (standardName? level).getD (unnamed (toString level))

/-- Second names of levels. -/
def aliases : List (String × Int) := [("WARN", 30), ("FATAL", 50)]

/-- The level that a word names. -/
def ofName? (word : String) : Option Int := (standard ++ aliases).lookup word

/-- **A standard level is found by its name.** -/
theorem ofName?_name {entry : String × Int} (h : entry ∈ standard) :
    ofName? (name entry.2) = some entry.2 := by
  revert entry
  decide

end Typestate.Level

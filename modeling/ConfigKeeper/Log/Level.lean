import ConfigKeeper.Log.Record

/-!
Log levels by name. Names are given in any case; some levels have two.
-/

namespace ConfigKeeper.Log

def levelNames : List (String × Nat) := [
  ("CRITICAL", criticalLevel), ("ERROR", errorLevel), ("WARNING", warningLevel),
  ("INFO", infoLevel), ("DEBUG", debugLevel), ("NOTSET", 0), ("FATAL", criticalLevel),
  ("WARN", warningLevel)]

def levelOf? (name : String) : Option Nat := levelNames.lookup name

/-- The first name of a level; a level without one is named by its number. -/
def levelText (level : Int) : String :=
  match levelNames.find? fun e => (e.2 : Int) = level with
  | some e => e.1
  | none => "Level " ++ toString level

/-- The capital of a letter, as far as names of levels are concerned: besides the small letters of
ASCII, a dotless i and a long s have theirs there. -/
def capital (c : Char) : Char :=
  if c = '\u0131' then 'I' else if c = '\u017f' then 'S' else c.toUpper

def capitals (s : String) : String := s.map capital

def levelNamed? (name : String) : Option Nat := levelOf? (capitals name)

theorem levelOf?_levelText (name : String) (level : Nat) (h : (name, level) ∈ levelNames) :
    levelOf? (levelText level) = some level := by
  have hall : ∀ e ∈ levelNames, levelOf? (levelText e.2) = some e.2 := by decide
  exact hall _ h

end ConfigKeeper.Log

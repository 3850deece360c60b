import ConfigKeeper.Report.ErrorView

/-!
Guarded blocks. A failure inside one is reported by one record and one panel and becomes exit code
one; a deliberate exit goes through with its own code and nothing is reported.
-/

namespace ConfigKeeper.CommandLine

inductive Interruption
  | exit (code : Int)
  | failure (f : Failure)
deriving DecidableEq, Repr

structure Guarded (α : Type) where
  result : Except Int α
  panel : Except Console.Markup.Unmatched (List (List Char))
  records : List Log.Record

def failureCode : Int := 1

variable {α : Type}

def guarded (width : Nat) (command title : String) : Except Interruption α → Guarded α
  | .ok a => ⟨.ok a, .ok [], []⟩
  | .error (.exit code) => ⟨.error code, .ok [], []⟩
  | .error (.failure f) =>
    ⟨.error failureCode, Report.renderError width f command title,
      [Report.errorRecord f command title]⟩

namespace Guarded

def printed (g : Guarded α) : List (List Char) := g.panel.toOption.getD []

end Guarded

end ConfigKeeper.CommandLine

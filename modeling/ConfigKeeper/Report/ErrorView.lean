import ConfigKeeper.Console.Panel
import ConfigKeeper.Log.Record
import ConfigKeeper.Problem

namespace ConfigKeeper.Report

open Console

def ofMarkup (_ : Markup.Unmatched) : Failure := .unexpected "MarkupError" ""

def reportedForm (f : Failure) (command : String) : Failure :=
  match f with
  | .reported _ _ _ => f
  | f => f.wrap command

def hintOf : Failure → Option String
  | .problem p => p.hint
  | .reported _ _ hint => hint
  | _ => none

def errorRecord (f : Failure) (command title : String) : Log.Record :=
  ⟨Log.errorLevel, "cli.errors", title ++ ": " ++ (reportedForm f command).message⟩

def errorMarkup (f : Failure) : List Char :=
  let hint := match hintOf f with
    | some h =>
      if h.isEmpty then []
      else "\n\n[yellow]💡 ".toList ++ Markup.escape h.toList ++ "[/yellow]".toList
    | none => []
  "[red]".toList ++ Markup.escape f.message.toList ++ "[/red]".toList ++ hint

def errorTitle (title : String) : String := "❌ " ++ title

def renderError (width : Nat) (f : Failure) (command title : String) :
    Except Markup.Unmatched (List (List Char)) := do
  let heading ← Markup.render (errorTitle title).toList
  let body ← Markup.render (errorMarkup (reportedForm f command))
  pure (panel width heading [body])

end ConfigKeeper.Report

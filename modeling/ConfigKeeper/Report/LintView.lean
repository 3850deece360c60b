import ConfigKeeper.Console.Panel
import ConfigKeeper.Lint.Engine

namespace ConfigKeeper.Report

open Console

def highlight : String := "bold red underline"

def formatExcerpt (d : Diagnostic) : StyledText :=
  let lead := d.leadIn
  let tail := d.after.takeWhile (· != '\n')
  (StyledText.ofText (lead ++ d.marked ++ tail)).stylize highlight lead.length
    (lead.length + d.marked.length)

def placeText (d : Diagnostic) : String :=
  "--> " ++ d.file ++ ":" ++ toString d.line ++ ":" ++ toString d.column

def diagnosticTitle (d : Diagnostic) : String := "⚠️  " ++ d.rule

def renderDiagnostic (width : Nat) (d : Diagnostic) : Except Markup.Unmatched (List (List Char)) :=
  (Markup.render (diagnosticTitle d).toList).map fun title =>
    panel width title [
      sanitized (placeText d).toList, [], (formatExcerpt d).plain, [], sanitized d.message.toList,
      sanitized ("Advice: " ++ d.advice).toList]

def renderDiagnostics (width : Nat) (ds : List Diagnostic) :
    Except Markup.Unmatched (List (List Char)) :=
  (ds.mapM (renderDiagnostic width)).map List.flatten

def markupLines (width : Nat) (s : List Char) : Except Markup.Unmatched (List (List Char)) :=
  (Markup.render s).map (wrap width)

def failedLine (file reason : String) : List Char :=
  "[red]❌ Failed to lint ".toList ++ Markup.escape file.toList ++ ": ".toList ++
    Markup.escape reason.toList ++ "[/red]".toList

def isSpotless (r : Lint.Report) : Bool := r.isClean && r.failedFiles.isEmpty

def foundLine (r : Lint.Report) : List Char :=
  ("[red]❌ " ++ toString r.diagnostics.length ++ " issue(s) found in " ++ toString r.filesChecked ++
    " file(s).[/red]").toList

def cleanLine (r : Lint.Report) : List Char :=
  ("[green]✅ No lint issues found in " ++ toString r.filesChecked ++ " file(s).[/green]").toList

def summaryMarkup (r : Lint.Report) : List (List Char) :=
  (r.failedFiles.map fun (file, reason) => failedLine file.toString reason) ++
    [if isSpotless r then cleanLine r else foundLine r]

def summaryRecords (r : Lint.Report) : List Log.Record :=
  if isSpotless r then []
  else [⟨Log.infoLevel, "formatting",
    "Lint finished: " ++ toString r.diagnostics.length ++ " diagnostic(s), " ++
      toString r.failedFiles.length ++ " failed file(s)"⟩]

def renderSummary (width : Nat) (r : Lint.Report) : Except Markup.Unmatched (List (List Char)) :=
  ((summaryMarkup r).mapM (markupLines width)).map List.flatten

def renderReport (width : Nat) (r : Lint.Report) : Except Markup.Unmatched (List (List Char)) := do
  let panels ← renderDiagnostics width r.diagnostics
  let summary ← renderSummary width r
  pure (panels ++ summary)

end ConfigKeeper.Report

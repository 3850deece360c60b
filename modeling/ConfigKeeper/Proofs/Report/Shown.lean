import ConfigKeeper.Proofs.Console.Escape
import ConfigKeeper.Report.ErrorView
import ConfigKeeper.Report.LintView

/-!
What is always shown. Whatever a failure says, its panel can be drawn: the message and the hint are
escaped, each in a style of its own. So can the closing line of a lint run that found nothing.
-/

namespace ConfigKeeper.Report

open Console

lemma hint_mild (h : String) :
    Markup.Mild ("\n\n[yellow]💡 ".toList ++ Markup.escape h.toList ++ "[/yellow]".toList) := by
  have hopening : "\n\n[yellow]💡 ".toList = "\n\n".toList ++ '[' :: ("yellow".toList ++ ']' :: "💡 ".toList) := by
    decide
  have hcloses := Markup.closes_of_mem "yellow" (by decide)
  have hstyled := Markup.Mild.nil.between hcloses hopening rfl (by decide) (by decide) h.toList
  rwa [List.append_nil] at hstyled

lemma errorMarkup_mild (f : Failure) : Markup.Mild (errorMarkup f) := by
  have hopening : "[red]".toList = [] ++ '[' :: ("red".toList ++ ']' :: []) := by decide
  have hcloses := Markup.closes_of_mem "red" (by decide)
  unfold errorMarkup
  refine Markup.Mild.between ?_ hcloses hopening rfl List.not_mem_nil List.not_mem_nil f.message.toList
  split
  · next h _ =>
    split
    · exact Markup.Mild.nil
    · exact hint_mild h
  · exact Markup.Mild.nil

theorem renderError_shown {title : String} (ht : '[' ∉ (errorTitle title).toList) (width : Nat) (f : Failure)
    (command : String) : ∃ heading body, Markup.render (errorTitle title).toList = .ok heading ∧
      Markup.render (errorMarkup (reportedForm f command)) = .ok body ∧
      renderError width f command title = .ok (panel width heading [body]) := by
  obtain ⟨heading, hheading⟩ := Markup.render_of_no_bracket ht
  obtain ⟨body, hbody⟩ := (errorMarkup_mild (reportedForm f command)).render
  refine ⟨heading, body, hheading, hbody, ?_⟩
  rw [renderError, hheading, hbody]
  rfl

lemma cleanLine_mild (r : Lint.Report) : Markup.Mild (cleanLine r) := by
  have hopening : "[green]✅ No lint issues found in ".toList =
      '[' :: ("green".toList ++ ']' :: "✅ No lint issues found in ".toList) := by decide
  have hclosing : " file(s).[/green]".toList = " file(s).".toList ++ '[' :: '/' :: ("green".toList ++ [']']) := by
    decide
  have hno : ∀ c : Char, c.isDigit = false → c ∉ "✅ No lint issues found in ".toList → c ∉ " file(s).".toList →
      c ∉ "✅ No lint issues found in ".toList ++ ((toString r.filesChecked).toList ++ " file(s).".toList) :=
    fun c hc hf hb => Markup.not_mem_numbered hc hf hb _
  unfold cleanLine
  rw [String.toList_append, String.toList_append]
  have hcloses := Markup.closes_of_mem "green" (by decide)
  exact Markup.Mild.plain hcloses hopening hclosing (hno '\\' (by decide) (by decide) (by decide))
    (hno '[' (by decide) (by decide) (by decide))

theorem renderReport_shown {r : Lint.Report} (h : isSpotless r = true) (width : Nat) :
    ∃ lines, renderReport width r = .ok lines := by
  obtain ⟨shown, hshown⟩ := (cleanLine_mild r).render
  rw [isSpotless, Lint.Report.isClean, Bool.and_eq_true, List.isEmpty_iff, List.isEmpty_iff] at h
  have hsummary : summaryMarkup r = [cleanLine r] := by
    rw [summaryMarkup, h.2, isSpotless, Lint.Report.isClean, h.1, h.2]
    rfl
  have hlines : renderSummary width r = .ok (wrap width shown) := by
    have hline : markupLines width (cleanLine r) = .ok (wrap width shown) := by
      rw [markupLines, hshown]
      rfl
    rw [renderSummary, hsummary, List.mapM_cons, hline]
    exact congrArg Except.ok (List.append_nil _)
  rw [renderReport, h.1, hlines]
  exact ⟨_, rfl⟩

end ConfigKeeper.Report

import ConfigKeeper.Proofs.Project.Search
import ConfigKeeper.Proofs.Wildcard.Faults

namespace ConfigKeeper.Discovery

variable {t : Project} {root : Path} {place : Place} {s : Selection} {wanted excluded : Wildcard.Patterns}
  {content : List UInt8}

def Selection.plain (s : Selection) : Selection := { s with useIgnoreFile := false }

structure Uses (t : Project) (root : Path) (place : Place) (s : Selection) (wanted excluded : Wildcard.Patterns)
    (content : List UInt8) : Prop where
  rooted : Rooted t root place
  file : t.entryAt (place ++ [ignoreFileName]) = some (.file content)
  used : s.useIgnoreFile = true
  wanted : Wildcard.ofLines s.wanted = .ok wanted
  excluded : Wildcard.ofLines s.excluded = .ok excluded

/-- If the content is a text, none of its lines is refused as a pattern. -/
def Harmless (content : List UInt8) : Prop :=
  ∀ text, textOfBytes content = .ok text → ∀ line ∈ linesOf text, ¬ Wildcard.IsRefused line.toList

def unreadable (root : Path) (f : Text.Utf8Fault) : Log.Record :=
  ⟨Log.warningLevel, "discovery", "Ignoring unreadable " ++ (ignoreFile root).toString ++ ": " ++ f.message⟩

lemma harmless_iff {text : String} (htext : textOfBytes content = .ok text) :
    Harmless content ↔ ∃ ps, Wildcard.ofLines (linesOf text) = .ok ps := by
  have hread : Harmless content ↔ ¬ ∃ line ∈ linesOf text, Wildcard.IsRefused line.toList := by
    rw [Harmless, htext]
    simp
  rw [hread, ← Wildcard.ofLines_error_iff]
  cases Wildcard.ofLines (linesOf text) <;> simp

lemma harmless_of_error {f : Text.Utf8Fault} (htext : textOfBytes content = .error f) : Harmless content := by
  rintro text h
  cases htext.symm.trans h

def searchWith (t : Project) (root : Path) (wanted excluded : Wildcard.Patterns) :
    Except Fault (Option Wildcard.Patterns) → Logged (Except Fault (List Path))
  | .error f => pure (.error f)
  | .ok ignored =>
    match tooLong? t root with
    | some p => pure (.error (.file (.refused .nameTooLong p)))
    | none => do
      let files := selectedFiles t root wanted excluded ignored
      Logged.debug "discovery" ("Discovered " ++ toString files.length ++ " file(s) under " ++ root.toString)
      pure (.ok files)

namespace Uses

variable (h : Uses t root place s wanted excluded content)
include h

lemma find_eq : find t root s = ignorePatterns t root >>= searchWith t root wanted excluded := by
  rw [find, h.rooted.isFile]
  simp only [h.wanted, h.excluded, h.used, if_true]
  rfl

lemma find_plain : find t root s.plain = searchWith t root wanted excluded (.ok none) := by
  rw [find, h.rooted.isFile]
  have hwanted : Wildcard.ofLines s.plain.wanted = .ok wanted := h.wanted
  have hexcluded : Wildcard.ofLines s.plain.excluded = .ok excluded := h.excluded
  simp only [hwanted, hexcluded]
  rfl

lemma value_plain (hlong : tooLong? t root = none) :
    (find t root s.plain).value = .ok (selectedFiles t root wanted excluded none) := by
  rw [h.find_plain, searchWith, hlong]
  rfl

lemma returns_plain_iff : (∃ files, (find t root s.plain).value = .ok files) ↔ tooLong? t root = none := by
  cases hlong : tooLong? t root with
  | none => exact iff_of_true ⟨_, h.value_plain hlong⟩ rfl
  | some p =>
    rw [h.find_plain, searchWith, hlong]
    exact iff_of_false (by rintro ⟨files, ⟨⟩⟩) (by simp)

lemma fits (hshort : tooLong? t root = none) : Fits t root place s := by
  have hbelow := (tooLong?_eq_none_iff h.rooted).1 hshort
  refine ⟨hbelow, fun _ => hbelow [ignoreFileName] (Project.mem_namesBelow.2 ⟨?_, by simp⟩)⟩
  have hentry := h.file
  rw [Project.entryAt_of_ne_nil t (by simp)] at hentry
  exact Association.lookup_isSome_iff_mem.1 ⟨_, hentry⟩

lemma ignorePatterns_eq (hs : Short (ignoreFile root)) : ignorePatterns t root =
    match textOfBytes content with
    | .error f => ⟨.ok none, [unreadable root f]⟩
    | .ok text => pure ((Wildcard.ofLines (linesOf text)).mapError Fault.pattern |>.map some) := by
  have hplace := place_ignoreFile h.rooted
  rw [if_neg (Nat.not_le.2 hs)] at hplace
  have hpath : root.join (Path.ofString ignoreFileName) = ignoreFile root := rfl
  rw [ignorePatterns, hpath, Project.isFile_of_file hplace h.file, Project.readText, Project.readFile_eq hplace h.file]
  cases htext : textOfBytes content with
  | error f =>
    simp only [htext]
    rfl
  | ok text =>
    simp only [htext]
    cases Wildcard.ofLines (linesOf text) <;> rfl

lemma find_unreadable {f : Text.Utf8Fault} (hs : Short (ignoreFile root)) (htext : textOfBytes content = .error f) :
    (find t root s).value = (find t root s.plain).value ∧
      (find t root s).records = unreadable root f :: (find t root s.plain).records := by
  rw [h.find_eq, h.find_plain, h.ignorePatterns_eq hs, htext]
  exact ⟨rfl, rfl⟩

lemma find_refused_line {text : String} {f : Wildcard.PatternFault} (hs : Short (ignoreFile root))
    (htext : textOfBytes content = .ok text) (hf : Wildcard.ofLines (linesOf text) = .error f) :
    find t root s = pure (.error (.pattern f)) := by
  rw [h.find_eq, h.ignorePatterns_eq hs, htext]
  simp only [hf]
  rfl

lemma accepts {text : String} {ps : Wildcard.Patterns} (hs : Short (ignoreFile root))
    (htext : textOfBytes content = .ok text) (hps : Wildcard.ofLines (linesOf text) = .ok ps) :
    Accepts t root s ⟨wanted, excluded, some ps⟩ := by
  refine ⟨h.wanted, h.excluded, ?_⟩
  rw [ignoreLines, if_pos h.used, readText_ignoreFile h.rooted hs h.file htext]
  simp [hps]

lemma tooLong?_of_returns {files : List Path} (hfiles : (find t root s).value = .ok files) :
    tooLong? t root = none := by
  rw [h.find_eq, Logged.value_bind] at hfiles
  cases hignored : (ignorePatterns t root).value with
  | error f =>
    rw [hignored] at hfiles
    cases hfiles
  | ok ignored =>
    rw [hignored, searchWith] at hfiles
    cases hlong : tooLong? t root with
    | none => rfl
    | some p =>
      rw [hlong] at hfiles
      cases hfiles

lemma returns_iff (hlong : tooLong? t root = none) :
    (∃ files, (find t root s).value = .ok files) ↔ Harmless content := by
  have hs := (h.fits hlong).ignoreFile h.used
  cases htext : textOfBytes content with
  | error f =>
    refine iff_of_true ?_ (harmless_of_error htext)
    obtain ⟨files, hfiles⟩ := h.returns_plain_iff.2 hlong
    exact ⟨files, (h.find_unreadable hs htext).1.trans hfiles⟩
  | ok text =>
    rw [harmless_iff htext]
    cases hps : Wildcard.ofLines (linesOf text) with
    | error f =>
      rw [h.find_refused_line hs htext hps]
      exact iff_of_false (by rintro ⟨files, ⟨⟩⟩) (by rintro ⟨ps, ⟨⟩⟩)
    | ok ps =>
      obtain ⟨files, hfiles⟩ := exists_finds h.rooted (h.accepts hs htext hps) (h.fits hlong)
      exact iff_of_true ⟨files, hfiles.returned⟩ ⟨ps, rfl⟩

end Uses

/-- An ignore file ends a search that returns without it exactly if it is a text with a refused line. One that is
no text changes nothing but for a warning, and any other leaves the files that it does not ignore. -/
theorem find_with_ignoreFile (h : Uses t root place s wanted excluded content) :
    ((∃ files, (find t root s).value = .ok files) ↔
      (∃ files, (find t root s.plain).value = .ok files) ∧ Harmless content) ∧
    ∀ files, (find t root s.plain).value = .ok files →
      (∀ f, textOfBytes content = .error f →
        (find t root s).value = .ok files ∧
          (find t root s).records = unreadable root f :: (find t root s.plain).records) ∧
      ∀ text, textOfBytes content = .ok text →
        (∀ ps, Wildcard.ofLines (linesOf text) = .ok ps →
          ∃ kept, Finds t root place s ⟨wanted, excluded, some ps⟩ kept) ∧
          ∀ f, Wildcard.ofLines (linesOf text) = .error f → find t root s = pure (.error (.pattern f)) := by
  refine ⟨?_, fun files hfiles => ?_⟩
  · rw [h.returns_plain_iff]
    constructor
    · rintro ⟨files, hfiles⟩
      have hlong := h.tooLong?_of_returns hfiles
      exact ⟨hlong, (h.returns_iff hlong).1 ⟨files, hfiles⟩⟩
    · rintro ⟨hlong, hharmless⟩
      exact (h.returns_iff hlong).2 hharmless
  · -- the plain search has looked at the ignore file too, so its path is not too long
    have hfits := h.fits (h.returns_plain_iff.1 ⟨files, hfiles⟩)
    have hs := hfits.ignoreFile h.used
    refine ⟨fun f htext => ?_, fun text htext => ⟨fun ps hps => ?_, fun f hf => h.find_refused_line hs htext hf⟩⟩
    · obtain ⟨hvalue, hrecords⟩ := h.find_unreadable hs htext
      exact ⟨hvalue.trans hfiles, hrecords⟩
    · exact exists_finds h.rooted (h.accepts hs htext hps) hfits

theorem find_with_ignoreFile_of_small :
    Uses smallTree ⟨.relative, []⟩ [] smallSelection smallCriteria.wanted smallCriteria.excluded
      (Text.encodeUtf8 "/b".toList) ∧
    ∃ files kept, (find smallTree ⟨.relative, []⟩ smallSelection.plain).value = .ok files ∧
      Finds smallTree ⟨.relative, []⟩ [] smallSelection smallCriteria kept := by
  have h : Uses smallTree ⟨.relative, []⟩ [] smallSelection smallCriteria.wanted smallCriteria.excluded
      (Text.encodeUtf8 "/b".toList) :=
    ⟨⟨by unfold Project.Distinct; decide, by decide, by decide⟩, by decide, rfl, by decide, by decide⟩
  have htext : textOfBytes (Text.encodeUtf8 "/b".toList) = .ok "/b" := by decide
  have hps : Wildcard.ofLines (linesOf "/b") = .ok [⟨false, .path [.glob [.literal 'b']] false⟩] := by decide
  obtain ⟨files, hfiles⟩ := h.returns_plain_iff.2 (by decide)
  obtain ⟨-, hplain⟩ := find_with_ignoreFile h
  obtain ⟨kept, hkept⟩ := ((hplain files hfiles).2 _ htext).1 _ hps
  exact ⟨h, files, kept, hfiles, hkept⟩

def barredTree : Project where
  workingDirectory := []
  entries := [([ignoreFileName], .file (Text.encodeUtf8 "!\n".toList)), (["config"], .directory),
    (["config", "dev.exs"], .file [])]

def barredSelection : Selection := ⟨["**/config/dev.exs"], [], true⟩

def barredWanted : Wildcard.Patterns :=
  [⟨false, .path [.directories, .glob ("config".toList.map .literal), .glob ("dev.exs".toList.map .literal)] false⟩]

theorem find_of_barred :
    (find barredTree ⟨.relative, []⟩ barredSelection.plain).value = .ok [⟨.relative, ["config", "dev.exs"]⟩] ∧
      ∀ files, (find barredTree ⟨.relative, []⟩ barredSelection).value ≠ .ok files := by
  have h : Uses barredTree ⟨.relative, []⟩ [] barredSelection barredWanted [] (Text.encodeUtf8 "!\n".toList) :=
    ⟨⟨by unfold Project.Distinct; decide, by decide, by decide⟩, by decide, rfl, by decide, rfl⟩
  have hlong : tooLong? barredTree ⟨.relative, []⟩ = none := by decide
  refine ⟨?_, fun files hfiles => ?_⟩
  · have hleads : barredTree.place ⟨.relative, []⟩ = .ok [] := by decide
    have hbelow : (barredTree.filesBelow []).filter (fun names => keeps barredWanted [] none ("/".intercalate names)) =
        [["config", "dev.exs"]] := by decide
    rw [h.value_plain hlong, selectedFiles, hleads]
    simp only [hbelow, List.map_singleton, List.mergeSort_singleton]
    rfl
  · have hharmless := (h.returns_iff hlong).1 ⟨files, hfiles⟩
    exact hharmless "!\n" (by decide) "!" (by decide) (by decide)

end ConfigKeeper.Discovery

import ConfigKeeper.Project.Discovery
import ConfigKeeper.Proofs.Project.Below
import ConfigKeeper.Proofs.Project.Descent
import ConfigKeeper.Proofs.Wildcard.Selection

/-!
A search returns exactly the files that its patterns select, in order, unless it has to look at a path that
is too long. What decides about a file is its path below the root, so the effect of one more pattern can be
followed through the whole search.
-/

namespace ConfigKeeper

namespace Discovery

variable {t t' : Project} {root : Path} {place : Place} {s : Selection} {names : List String}

def relative (names : List String) : String := "/".intercalate names

def ignoreFile (root : Path) : Path := root.under [ignoreFileName]

structure Criteria where
  wanted : Wildcard.Patterns
  excluded : Wildcard.Patterns
  ignored : Option Wildcard.Patterns

def ignoreLines (t : Project) (root : Path) (s : Selection) : Option (List String) :=
  if s.useIgnoreFile then
    match t.readText (ignoreFile root) with
    | .ok text => some (linesOf text)
    | .error _ => none
  else none

structure Accepts (t : Project) (root : Path) (s : Selection) (c : Criteria) : Prop where
  wanted : Wildcard.ofLines s.wanted = .ok c.wanted
  excluded : Wildcard.ofLines s.excluded = .ok c.excluded
  ignored : (ignoreLines t root s).map Wildcard.ofLines = c.ignored.map .ok

structure Rooted (t : Project) (root : Path) (place : Place) : Prop where
  distinct : t.Distinct
  leads : t.place root = .ok place
  directory : t.entryAt place = some .directory

def Short (p : Path) : Prop := p.toString.utf8ByteSize < Project.pathLimit

structure Fits (t : Project) (root : Path) (place : Place) (s : Selection) : Prop where
  below : ∀ names ∈ t.namesBelow place, Short (root.under names)
  ignoreFile : s.useIgnoreFile = true → Short (ignoreFile root)

structure Selected (t : Project) (place : Place) (c : Criteria) (names : List String) : Prop where
  below : names ≠ []
  file : ∃ content, t.entryAt (place ++ names) = some (.file content)
  wanted : Wildcard.selects c.wanted (relative names) = true
  kept : Wildcard.selects c.excluded (relative names) = false
  unignored : ∀ ps, c.ignored = some ps → Wildcard.ignores ps (relative names) = false

structure Finds (t : Project) (root : Path) (place : Place) (s : Selection) (c : Criteria) (files : List Path) :
    Prop where
  returned : (find t root s).value = .ok files
  sorted : files.Pairwise fun p q => p.less q = true
  nodup : files.Nodup
  mem_iff : ∀ p, p ∈ files ↔ ∃ names, p = root.under names ∧ Selected t place c names

lemma Rooted.isFile (h : Rooted t root place) : t.isFile root = .ok false := by
  rw [Project.isFile, Project.entry?, h.leads]
  simp only [h.directory]
  rfl

lemma keeps_iff (c : Criteria) (names : List String) :
    keeps c.wanted c.excluded c.ignored (relative names) = true ↔
      Wildcard.selects c.wanted (relative names) = true ∧ Wildcard.selects c.excluded (relative names) = false ∧
        ∀ ps, c.ignored = some ps → Wildcard.ignores ps (relative names) = false := by
  unfold keeps
  cases c.ignored with
  | none => simp [and_comm]
  | some ps => simp [and_comm, and_left_comm]

lemma mem_selectedFiles (h : Rooted t root place) (c : Criteria) (p : Path) :
    p ∈ selectedFiles t root c.wanted c.excluded c.ignored ↔
      ∃ names, p = root.under names ∧ Selected t place c names := by
  rw [selectedFiles, h.leads]
  simp only [List.mem_mergeSort, List.mem_map, List.mem_filter, Project.mem_filesBelow h.distinct]
  constructor
  · rintro ⟨names, ⟨⟨hn, hfile⟩, hkeeps⟩, rfl⟩
    obtain ⟨hwanted, hkept, hunignored⟩ := (keeps_iff c names).1 hkeeps
    exact ⟨names, rfl, hn, hfile, hwanted, hkept, hunignored⟩
  · rintro ⟨names, rfl, hs⟩
    exact ⟨names, ⟨⟨hs.below, hs.file⟩, (keeps_iff c names).2 ⟨hs.wanted, hs.kept, hs.unignored⟩⟩, rfl⟩

lemma sorted_selectedFiles (h : Rooted t root place) (c : Criteria) :
    (selectedFiles t root c.wanted c.excluded c.ignored).Pairwise fun p q => p.less q = true := by
  rw [selectedFiles, h.leads]
  exact Path.sorted_under root ((Project.nodup_filesBelow h.distinct place).filter _)

lemma nodup_of_sorted {files : List Path} (h : files.Pairwise fun p q => p.less q = true) : files.Nodup := by
  refine h.imp fun {p q} hpq => ?_
  rintro rfl
  rw [Path.less_irrefl] at hpq
  cases hpq

lemma place_ignoreFile (h : Rooted t root place) : t.place (ignoreFile root) =
    if Project.pathLimit ≤ (ignoreFile root).toString.utf8ByteSize then .error (.refused .nameTooLong (ignoreFile root))
    else .ok (place ++ [ignoreFileName]) := by
  have hroot := h.leads
  rw [Project.place] at hroot ⊢
  split at hroot
  · cases hroot
  · next hnul =>
    have hnul' : ¬ ((ignoreFile root).names.any fun n => n.toList.contains '\x00') = true := by
      change ¬ ((root.names ++ [ignoreFileName]).any fun n => n.toList.contains '\x00') = true
      rw [List.any_append, Bool.or_eq_true, not_or]
      exact ⟨hnul, by decide⟩
    rw [if_neg hnul']
    split at hroot
    · cases hroot
    · split at hroot
      · next own hfollow =>
        cases hroot
        have hend : t.follow place [ignoreFileName] = .ok (place ++ [ignoreFileName]) := by
          rw [Project.follow, h.directory]
          rfl
        have hstart : t.follow (t.start (ignoreFile root)) (ignoreFile root).names = .ok (place ++ [ignoreFileName]) :=
          (Project.follow_from hfollow _).trans hend
        rw [hstart]
      · cases hroot

lemma value_ignorePatterns (h : Rooted t root place) (hs : Short (ignoreFile root)) :
    (ignorePatterns t root).value = match t.readText (ignoreFile root) with
      | .error _ => .ok none
      | .ok text => (Wildcard.ofLines (linesOf text)).mapError Fault.pattern |>.map some := by
  have hplace := place_ignoreFile h
  rw [if_neg (Nat.not_le.2 hs)] at hplace
  have hpath : root.join (Path.ofString ignoreFileName) = ignoreFile root := rfl
  rw [ignorePatterns, hpath]
  by_cases hfile : ∃ content, t.entryAt (place ++ [ignoreFileName]) = some (.file content)
  · obtain ⟨content, he⟩ := hfile
    rw [Project.isFile_of_file hplace he]
    cases t.readText (ignoreFile root) with
    | error f => rfl
    | ok text => cases hps : Wildcard.ofLines (linesOf text) <;> simp only [hps] <;> rfl
  · obtain ⟨hisFile, e, hread⟩ := Project.isFile_of_no_file hplace hfile
    rw [hisFile, Project.readText, hread]
    rfl

lemma value_ignored {c : Criteria} (h : Rooted t root place) (hc : Accepts t root s c)
    (hs : s.useIgnoreFile = true → Short (ignoreFile root)) :
    (if s.useIgnoreFile then ignorePatterns t root else pure (.ok none)).value = .ok c.ignored := by
  have hignored := hc.ignored
  rw [ignoreLines] at hignored
  by_cases huse : s.useIgnoreFile = true
  · rw [if_pos huse] at hignored ⊢
    rw [value_ignorePatterns h (hs huse)]
    cases hread : t.readText (ignoreFile root) with
    | error f =>
      rw [hread] at hignored
      rw [Option.map_eq_none_iff.1 hignored.symm]
    | ok text =>
      rw [hread] at hignored
      obtain ⟨ps, hps, hlines⟩ := Option.map_eq_some_iff.1 hignored.symm
      rw [hps]
      simp only [← hlines]
      rfl
  · rw [if_neg huse] at hignored ⊢
    rw [Option.map_eq_none_iff.1 hignored.symm]
    rfl

lemma value_find {c : Criteria} (h : Rooted t root place) (hc : Accepts t root s c)
    (hs : s.useIgnoreFile = true → Short (ignoreFile root)) :
    (find t root s).value = match tooLong? t root with
      | some p => .error (.file (.refused .nameTooLong p))
      | none => .ok (selectedFiles t root c.wanted c.excluded c.ignored) := by
  have hignored := value_ignored h hc hs
  rw [find, h.isFile]
  simp only [hc.wanted, hc.excluded]
  by_cases huse : s.useIgnoreFile = true
  · rw [if_pos huse] at hignored ⊢
    rw [Logged.value_bind, hignored]
    cases tooLong? t root <;> rfl
  · rw [if_neg huse] at hignored ⊢
    rw [Logged.value_bind, hignored]
    cases tooLong? t root <;> rfl

lemma tooLong?_eq_none_iff (h : Rooted t root place) :
    tooLong? t root = none ↔ ∀ names ∈ t.namesBelow place, Short (root.under names) := by
  rw [tooLong?, h.leads]
  simp only [List.find?_eq_none, List.forall_mem_map, decide_eq_true_eq, Nat.not_le]
  rfl

theorem exists_finds {c : Criteria} (h : Rooted t root place) (hc : Accepts t root s c) (hf : Fits t root place s) :
    ∃ files, Finds t root place s c files := by
  have hvalue := value_find h hc hf.ignoreFile
  rw [(tooLong?_eq_none_iff h).2 hf.below] at hvalue
  exact ⟨_, hvalue, sorted_selectedFiles h c, nodup_of_sorted (sorted_selectedFiles h c), mem_selectedFiles h c⟩

theorem find_refused {c : Criteria} (h : Rooted t root place) (hc : Accepts t root s c) (hf : ¬ Fits t root place s) :
    ∃ p, ¬ Short p ∧ (find t root s).value = .error (.file (.refused .nameTooLong p)) := by
  by_cases hs : s.useIgnoreFile = true → Short (ignoreFile root)
  · have hvalue := value_find h hc hs
    cases hlong : tooLong? t root with
    | none => exact absurd ⟨(tooLong?_eq_none_iff h).1 hlong, hs⟩ hf
    | some p =>
      rw [hlong] at hvalue
      rw [tooLong?, h.leads] at hlong
      have hp := List.find?_some hlong
      exact ⟨p, Nat.not_lt.2 (of_decide_eq_true hp), hvalue⟩
  · obtain ⟨huse, hlong⟩ := Classical.not_imp.1 hs
    have hplace := place_ignoreFile h
    rw [if_pos (Nat.not_lt.1 hlong)] at hplace
    have hpath : root.join (Path.ofString ignoreFileName) = ignoreFile root := rfl
    have hignored : (ignorePatterns t root).value = .error (.file (.refused .nameTooLong (ignoreFile root))) := by
      rw [ignorePatterns, hpath, Project.isFile, Project.entry?, hplace]
      rfl
    refine ⟨ignoreFile root, hlong, ?_⟩
    rw [find, h.isFile]
    simp only [hc.wanted, hc.excluded]
    rw [if_pos huse, Logged.value_bind, hignored]
    rfl

def Appended (t t' : Project) (place : Place) (line : String) : Prop :=
  ∃ old new before after, t.entryAt (place ++ [ignoreFileName]) = some (.file old) ∧
    textOfBytes old = .ok before ∧ textOfBytes new = .ok after ∧ linesOf after = linesOf before ++ [line] ∧
    t' = t.insert (place ++ [ignoreFileName]) (.file new)

section Appending

variable {c : Criteria} {line : String} {ps : Wildcard.Patterns}

lemma readText_ignoreFile {content : List UInt8} {text : String} (h : Rooted t root place)
    (hs : Short (ignoreFile root)) (he : t.entryAt (place ++ [ignoreFileName]) = some (.file content))
    (htext : textOfBytes content = .ok text) : t.readText (ignoreFile root) = .ok text := by
  have hplace := place_ignoreFile h
  rw [if_neg (Nat.not_le.2 hs)] at hplace
  rw [Project.readText, Project.readFile_eq hplace he]
  simp only [htext]

lemma Appended.rooted (ha : Appended t t' place line) (h : Rooted t root place) : Rooted t' root place := by
  obtain ⟨old, new, -, -, he, -, -, -, rfl⟩ := ha
  have hgrows := Project.Grows.insert_file he (.file new)
  refine ⟨?_, hgrows.place h.leads, hgrows.directory _ h.directory⟩
  rw [Project.Distinct, Project.keys_insert he (by simp)]
  exact h.distinct

lemma Appended.fits (ha : Appended t t' place line) (hf : Fits t root place s) : Fits t' root place s := by
  obtain ⟨old, new, -, -, he, -, -, -, rfl⟩ := ha
  refine ⟨fun names hn => hf.below names ?_, hf.ignoreFile⟩
  rw [Project.mem_namesBelow] at hn ⊢
  rwa [Project.keys_insert he (by simp)] at hn

lemma Appended.accepts (ha : Appended t t' place line) (h : Rooted t root place) (hc : Accepts t root s c)
    (hf : Fits t root place s) (hl : Wildcard.ofLines [line] = .ok ps) :
    Accepts t' root s { c with ignored := c.ignored.map (· ++ ps) } := by
  have h' := ha.rooted h
  obtain ⟨old, new, before, after, he, hbefore, hafter, hlines, rfl⟩ := ha
  refine ⟨hc.wanted, hc.excluded, ?_⟩
  have hignored := hc.ignored
  rw [ignoreLines] at hignored ⊢
  by_cases huse : s.useIgnoreFile = true
  · have hown := Project.entryAt_insert_self t (p := place ++ [ignoreFileName]) (by simp) (.file new)
    rw [if_pos huse, readText_ignoreFile h (hf.ignoreFile huse) he hbefore] at hignored
    rw [if_pos huse, readText_ignoreFile h' (hf.ignoreFile huse) hown hafter]
    obtain ⟨qs, hqs, hold⟩ := Option.map_eq_some_iff.1 hignored.symm
    rw [hqs]
    simp only [Option.map_some, hlines, Wildcard.ofLines_append hold.symm hl]
  · rw [if_neg huse] at hignored ⊢
    rw [Option.map_eq_none_iff.1 hignored.symm]
    rfl

lemma Appended.selected (ha : Appended t t' place line) (hp : Wildcard.Plain ps)
    (hs : Selected t' place { c with ignored := c.ignored.map (· ++ ps) } names) : Selected t place c names := by
  obtain ⟨old, new, -, -, he, -, -, -, rfl⟩ := ha
  obtain ⟨hn, ⟨content, hfile⟩, hwanted, hkept, hunignored⟩ := hs
  refine ⟨hn, ?_, hwanted, hkept, fun qs hqs => ?_⟩
  · -- the ignore file was a file before, and no other file has changed
    by_cases hown : place ++ names = place ++ [ignoreFileName]
    · exact ⟨old, hown ▸ he⟩
    · rw [Project.entryAt_insert_of_ne t hown] at hfile
      exact ⟨content, hfile⟩
  · have hmore := hunignored (qs ++ ps) (by simp only [hqs, Option.map_some])
    rw [Bool.eq_false_iff] at hmore ⊢
    exact fun hq => hmore (Wildcard.ignores_append hp hq)

lemma find_more_wanted {files : List Path} (h : Rooted t root place) (hc : Accepts t root s c)
    (hf : Fits t root place s) (hfiles : Finds t root place s c files) (hl : Wildcard.ofLines [line] = .ok ps)
    (hp : Wildcard.Plain ps) :
    ∃ more, (find t root { s with wanted := s.wanted ++ [line] }).value = .ok more ∧ files ⊆ more := by
  have hc' : Accepts t root { s with wanted := s.wanted ++ [line] } { c with wanted := c.wanted ++ ps } :=
    ⟨Wildcard.ofLines_append hc.wanted hl, hc.excluded, hc.ignored⟩
  obtain ⟨more, hmore⟩ := exists_finds h hc' ⟨hf.below, hf.ignoreFile⟩
  refine ⟨more, hmore.returned, fun p hp' => (hmore.mem_iff p).2 ?_⟩
  obtain ⟨names, rfl, hs⟩ := (hfiles.mem_iff p).1 hp'
  exact ⟨names, rfl, hs.below, hs.file, Wildcard.selects_append hp hs.wanted, hs.kept, hs.unignored⟩

lemma find_more_excluded {files : List Path} (h : Rooted t root place) (hc : Accepts t root s c)
    (hf : Fits t root place s) (hfiles : Finds t root place s c files) (hl : Wildcard.ofLines [line] = .ok ps)
    (hp : Wildcard.Plain ps) :
    ∃ fewer, (find t root { s with excluded := s.excluded ++ [line] }).value = .ok fewer ∧ fewer ⊆ files := by
  have hc' : Accepts t root { s with excluded := s.excluded ++ [line] } { c with excluded := c.excluded ++ ps } :=
    ⟨hc.wanted, Wildcard.ofLines_append hc.excluded hl, hc.ignored⟩
  obtain ⟨fewer, hfewer⟩ := exists_finds h hc' ⟨hf.below, hf.ignoreFile⟩
  refine ⟨fewer, hfewer.returned, fun p hp' => (hfiles.mem_iff p).2 ?_⟩
  obtain ⟨names, rfl, hs⟩ := (hfewer.mem_iff p).1 hp'
  refine ⟨names, rfl, hs.below, hs.file, hs.wanted, ?_, hs.unignored⟩
  have hkept := hs.kept
  rw [Bool.eq_false_iff] at hkept ⊢
  exact fun hq => hkept (Wildcard.selects_append hp hq)

lemma find_more_ignored {files : List Path} (h : Rooted t root place) (hc : Accepts t root s c)
    (hf : Fits t root place s) (hfiles : Finds t root place s c files) (hl : Wildcard.ofLines [line] = .ok ps)
    (hp : Wildcard.Plain ps) (ha : Appended t t' place line) :
    ∃ fewer, (find t' root s).value = .ok fewer ∧ fewer ⊆ files := by
  obtain ⟨fewer, hfewer⟩ := exists_finds (ha.rooted h) (ha.accepts h hc hf hl) (ha.fits hf)
  refine ⟨fewer, hfewer.returned, fun p hp' => (hfiles.mem_iff p).2 ?_⟩
  obtain ⟨names, rfl, hs⟩ := (hfewer.mem_iff p).1 hp'
  exact ⟨names, rfl, ha.selected hp hs⟩

lemma not_mem_of_excluded {wanted : List String} {files : List Path} (h : Rooted t root place)
    (hc : Accepts t root s c) (hfind : (find t root { s with wanted := wanted }).value = .ok files)
    (hx : Wildcard.selects c.excluded (relative names) = true) : root.under names ∉ files := by
  intro hmem
  cases hlines : Wildcard.ofLines wanted with
  | error f =>
    rw [find, h.isFile] at hfind
    simp only [hlines] at hfind
    cases hfind
  | ok own =>
    have hc' : Accepts t root { s with wanted := wanted } { c with wanted := own } :=
      ⟨hlines, hc.excluded, hc.ignored⟩
    by_cases hf : Fits t root place { s with wanted := wanted }
    · obtain ⟨files', hfiles'⟩ := exists_finds h hc' hf
      cases hfind.symm.trans hfiles'.returned
      obtain ⟨names', heq, hs⟩ := (hfiles'.mem_iff _).1 hmem
      cases Path.components_under_injective root (congrArg Path.components heq)
      exact absurd (hs.kept.symm.trans hx) (by simp)
    · obtain ⟨p, -, hrefused⟩ := find_refused h hc' hf
      cases hfind.symm.trans hrefused

end Appending

/-- A search that can look at every path below its root returns exactly the selected files, in order. One more
pattern that only selects takes no file away if it is wanted, and adds none if it is excluded or ignored. -/
theorem find_selected {c : Criteria} (h : Rooted t root place) (hc : Accepts t root s c) :
    (¬ Fits t root place s → ∃ p, ¬ Short p ∧ (find t root s).value = .error (.file (.refused .nameTooLong p))) ∧
    (Fits t root place s → ∃ files, Finds t root place s c files ∧
      ∀ line ps, line.toList.head? ≠ some '!' → Wildcard.ofLines [line] = .ok ps →
        (∃ more, (find t root { s with wanted := s.wanted ++ [line] }).value = .ok more ∧ files ⊆ more) ∧
        (∃ fewer, (find t root { s with excluded := s.excluded ++ [line] }).value = .ok fewer ∧ fewer ⊆ files) ∧
        ∀ t', Appended t t' place line → ∃ fewer, (find t' root s).value = .ok fewer ∧ fewer ⊆ files) ∧
    ∀ wanted files names, (find t root { s with wanted := wanted }).value = .ok files →
      Wildcard.selects c.excluded (relative names) = true → root.under names ∉ files := by
  refine ⟨find_refused h hc, fun hf => ?_, fun wanted files names => not_mem_of_excluded h hc⟩
  obtain ⟨files, hfiles⟩ := exists_finds h hc hf
  refine ⟨files, hfiles, fun line ps hline hl => ?_⟩
  have hp := Wildcard.plain_ofLines hline hl
  exact ⟨find_more_wanted h hc hf hfiles hl hp, find_more_excluded h hc hf hfiles hl hp,
    fun t' => find_more_ignored h hc hf hfiles hl hp⟩

instance (p : Path) : Decidable (Short p) := inferInstanceAs (Decidable (_ < _))

def smallTree : Project where
  workingDirectory := []
  entries := [([ignoreFileName], .file (Text.encodeUtf8 "/b".toList)), (["a"], .file []), (["b"], .file [])]

def smallSelection : Selection := ⟨["*"], ["/" ++ ignoreFileName], true⟩

def smallCriteria : Criteria where
  wanted := [⟨false, .everything⟩]
  excluded := [⟨false, .path [.glob (ignoreFileName.toList.map .literal)] false⟩]
  ignored := some [⟨false, .path [.glob [.literal 'b']] false⟩]

theorem find_selected_of_small : Rooted smallTree ⟨.relative, []⟩ [] ∧
    Accepts smallTree ⟨.relative, []⟩ smallSelection smallCriteria ∧
    Fits smallTree ⟨.relative, []⟩ [] smallSelection ∧
    ∃ files, Finds smallTree ⟨.relative, []⟩ [] smallSelection smallCriteria files ∧
      ⟨.relative, ["a"]⟩ ∈ files ∧ ⟨.relative, ["b"]⟩ ∉ files := by
  have hrooted : Rooted smallTree ⟨.relative, []⟩ [] := ⟨by unfold Project.Distinct; decide, by decide, by decide⟩
  have haccepts : Accepts smallTree ⟨.relative, []⟩ smallSelection smallCriteria :=
    ⟨by decide, by decide, by decide⟩
  have hfits : Fits smallTree ⟨.relative, []⟩ [] smallSelection := ⟨by decide, by decide⟩
  obtain ⟨-, hfinds, -⟩ := find_selected hrooted haccepts
  obtain ⟨files, hfiles, -⟩ := hfinds hfits
  refine ⟨hrooted, haccepts, hfits, files, hfiles, (hfiles.mem_iff _).2 ?_, fun hb => ?_⟩
  · refine ⟨["a"], rfl, by decide, ⟨[], by decide⟩, by decide, by decide, ?_⟩
    rintro ps ⟨⟩
    decide
  · obtain ⟨names, ⟨⟩, hs⟩ := (hfiles.mem_iff _).1 hb
    exact absurd (hs.unignored _ rfl) (by decide)

def longRoot : Path := ⟨.relative, (List.replicate 372 ["..", "project"]).flatten⟩

def plainTree : Project where
  workingDirectory := ["outer", "project"]
  entries := [(["outer"], .directory), (["outer", "project"], .directory), (["outer", "project", "a.exs"], .file [])]

def scripts : Selection := ⟨["*.exs"], [], false⟩

def scriptCriteria : Criteria where
  wanted := [⟨false,
    .path [.directories, .glob [.anyRun, .literal '.', .literal 'e', .literal 'x', .literal 's']] false⟩]
  excluded := []
  ignored := none

lemma follow_cycle (count : ℕ) : plainTree.follow ["outer", "project"]
    (List.replicate count ["..", "project"]).flatten = .ok ["outer", "project"] := by
  induction count with
  | zero => rfl
  | succ count ih =>
    have hcycle : plainTree.follow ["outer", "project"] ["..", "project"] = .ok ["outer", "project"] := by decide
    rw [List.replicate_succ, List.flatten_cons, Project.follow_from hcycle, ih]

lemma size_longRoot (names : List String) : (longRoot.under names).toString.utf8ByteSize + 1 =
    4092 + (names.map fun n => n.utf8ByteSize + 1).sum := by
  have hn : longRoot.names ++ names ≠ [] := by
    rw [longRoot, List.replicate_succ]
    exact List.cons_ne_nil _ _
  have hcycle : (longRoot.names.map fun n => n.utf8ByteSize + 1).sum = 4092 := by
    simp only [longRoot, List.map_flatten, List.map_replicate, List.sum_flatten, List.sum_replicate]
    decide
  change (Path.mk .relative (longRoot.names ++ names)).toString.utf8ByteSize + 1 = _
  rw [Project.toString_of_ne_nil _ hn, String.utf8ByteSize_append, Anchor.text, add_assoc, Project.size_intercalate hn,
    List.map_append, List.sum_append, hcycle]
  exact Nat.zero_add _

theorem find_refused_of_longRoot : Rooted plainTree longRoot ["outer", "project"] ∧
    Accepts plainTree longRoot scripts scriptCriteria ∧
    Selected plainTree ["outer", "project"] scriptCriteria ["a.exs"] ∧
    ∀ files, (find plainTree longRoot scripts).value ≠ .ok files := by
  have hleads : plainTree.place longRoot = .ok ["outer", "project"] := by
    have hnul : ¬ (longRoot.names.any fun n => n.toList.contains '\x00') = true := by
      simp only [longRoot, List.any_flatten, List.any_eq_true, List.mem_replicate, not_exists, not_and]
      rintro front ⟨-, rfl⟩
      decide
    have hsize := size_longRoot []
    have hshort : longRoot.toString.utf8ByteSize + 1 = 4092 := by simpa [Path.under] using hsize
    rw [Project.place, if_neg hnul, if_neg (by rw [Project.pathLimit]; omega)]
    have hfollow : plainTree.follow (plainTree.start longRoot) longRoot.names = .ok ["outer", "project"] :=
      follow_cycle 372
    rw [hfollow]
  have hrooted : Rooted plainTree longRoot ["outer", "project"] :=
    ⟨by unfold Project.Distinct; decide, hleads, by decide⟩
  have haccepts : Accepts plainTree longRoot scripts scriptCriteria := ⟨by decide, by decide, rfl⟩
  refine ⟨hrooted, haccepts, ⟨by decide, ⟨[], by decide⟩, by decide, by decide, by simp [scriptCriteria]⟩, ?_⟩
  have hlong : ¬ Fits plainTree longRoot ["outer", "project"] scripts := by
    intro hfits
    have hshort : (longRoot.under ["a.exs"]).toString.utf8ByteSize < 4096 := hfits.below ["a.exs"] (by decide)
    have hsize := size_longRoot ["a.exs"]
    have hname : (["a.exs"].map fun n => n.utf8ByteSize + 1).sum = 6 := by decide
    omega
  obtain ⟨p, -, hrefused⟩ := find_refused hrooted haccepts hlong
  intro files hfiles
  cases hfiles.symm.trans hrefused

end Discovery

end ConfigKeeper

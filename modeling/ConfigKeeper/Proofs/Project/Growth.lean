import ConfigKeeper.Project.Source
import ConfigKeeper.Proofs.Association
import ConfigKeeper.Proofs.Text.Utf8

/-!
How a project grows. Making directories and writing files never takes a directory away, so a path
leads to the same place afterwards, and a file changes or comes to be only where it is written.
-/

namespace ConfigKeeper.Project

open Association

variable {t u v : Project} {p q : Place} {e : Entry}

lemma entryAt_of_ne_nil (t : Project) (h : p ≠ []) : t.entryAt p = t.entries.lookup p :=
  if_neg (by simpa using h)

lemma entryAt_insert_self (t : Project) (h : p ≠ []) (e : Entry) : (t.insert p e).entryAt p = some e := by
  rw [entryAt_of_ne_nil _ h, insert]
  split
  · next hm => exact lookup_replaced_self ((any_key_iff _ _).1 hm) e
  · next hm =>
    rw [List.lookup_append, lookup_eq_none (mt (any_key_iff _ _).2 hm)]
    simp

lemma entryAt_insert_of_ne (t : Project) (h : q ≠ p) (e : Entry) : (t.insert p e).entryAt q = t.entryAt q := by
  by_cases hq : q = []
  · subst hq
    rfl
  · rw [entryAt_of_ne_nil _ hq, entryAt_of_ne_nil _ hq, insert]
    split
    · exact lookup_replaced_of_ne h t.entries e
    · have hb : (q == p) = false := by simpa using h
      simp [List.lookup_append, List.lookup_cons, hb]

/-- From `t` to `u` nothing is lost, but the files at the places of `spare` may have changed. -/
structure Grows (spare : Set Place) (t u : Project) : Prop where
  workingDirectory : u.workingDirectory = t.workingDirectory
  directory : ∀ p, t.entryAt p = some .directory → u.entryAt p = some .directory
  file : ∀ p content, p ∉ spare → t.entryAt p = some (.file content) → u.entryAt p = some (.file content)

namespace Grows

variable {spare wide : Set Place}

lemma refl (spare : Set Place) (t : Project) : Grows spare t t := ⟨rfl, fun _ h => h, fun _ _ _ h => h⟩

lemma trans (h : Grows spare t u) (h' : Grows spare u v) : Grows spare t v where
  workingDirectory := h'.workingDirectory.trans h.workingDirectory
  directory p hp := h'.directory p (h.directory p hp)
  file p content hn hp := h'.file p content hn (h.file p content hn hp)

lemma mono (h : Grows spare t u) (hw : spare ⊆ wide) : Grows wide t u where
  workingDirectory := h.workingDirectory
  directory := h.directory
  file p content hn := h.file p content fun hp => hn (hw hp)

lemma insert_new (h : t.entryAt p = none) (e : Entry) : Grows ∅ t (t.insert p e) := by
  have hne : ∀ {q x}, t.entryAt q = some x → q ≠ p := by
    rintro q x hq rfl
    rw [h] at hq
    cases hq
  refine ⟨?_, fun q hq => ?_, fun q content _ hq => ?_⟩
  · rw [insert]
    split <;> rfl
  · rw [entryAt_insert_of_ne t (hne hq), hq]
  · rw [entryAt_insert_of_ne t (hne hq), hq]

lemma insert_file {old : List UInt8} (h : t.entryAt p = some (.file old)) (e : Entry) :
    Grows {p} t (t.insert p e) := by
  refine ⟨?_, fun q hq => ?_, fun q content hn hq => ?_⟩
  · rw [insert]
    split <;> rfl
  · have hne : q ≠ p := by
      rintro rfl
      rw [h] at hq
      cases hq
    rw [entryAt_insert_of_ne t hne, hq]
  · rw [entryAt_insert_of_ne t hn, hq]

lemma follow (h : Grows spare t u) {here : Place} {names : List String}
    (hf : t.follow here names = .ok p) : u.follow here names = .ok p := by
  induction names generalizing here with
  | nil => exact hf
  | cons name names ih =>
    rw [Project.follow] at hf
    cases hd : t.entryAt here with
    | none =>
      rw [hd] at hf
      cases hf
    | some e =>
      rw [hd] at hf
      cases e with
      | file content => cases hf
      | directory =>
        rw [Project.follow, h.directory here hd]
        simp only at hf ⊢
        split at hf
        · cases hf
        · next hl => rw [if_neg hl, ih hf]

lemma place (h : Grows spare t u) {path : Path} (hp : t.place path = .ok p) : u.place path = .ok p := by
  have hs : u.start path = t.start path := by rw [start, start, h.workingDirectory]
  rw [Project.place] at hp ⊢
  split at hp
  · cases hp
  · next hn =>
    split at hp
    · cases hp
    · next hl =>
      rw [if_neg hn, if_neg hl, hs]
      cases hf : t.follow (t.start path) path.names with
      | error f =>
        rw [hf] at hp
        cases hp
      | ok q =>
        rw [hf] at hp
        rw [h.follow hf, hp]

end Grows

/-- From `t` to `u` all that is new or changed is directories and the files at the places of `spare`. -/
structure Confined (spare : Set Place) (t u : Project) : Prop extends Grows spare t u where
  old : ∀ p content, p ∉ spare → u.entryAt p = some (.file content) → t.entryAt p = some (.file content)

namespace Confined

variable {spare wide : Set Place}

lemma refl (spare : Set Place) (t : Project) : Confined spare t t := ⟨.refl spare t, fun _ _ _ h => h⟩

lemma trans (h : Confined spare t u) (h' : Confined spare u v) : Confined spare t v :=
  ⟨h.toGrows.trans h'.toGrows, fun p content hn hp => h.old p content hn (h'.old p content hn hp)⟩

lemma mono (h : Confined spare t u) (hw : spare ⊆ wide) : Confined wide t u :=
  ⟨h.toGrows.mono hw, fun p content hn => h.old p content fun hp => hn (hw hp)⟩

lemma file_iff (h : Confined spare t u) (hp : p ∉ spare) (content : List UInt8) :
    u.entryAt p = some (.file content) ↔ t.entryAt p = some (.file content) :=
  ⟨h.old p content hp, h.file p content hp⟩

lemma insert_directory (h : t.entryAt p = none) : Confined ∅ t (t.insert p .directory) := by
  refine ⟨Grows.insert_new h _, fun q content _ hq => ?_⟩
  by_cases he : q = p
  · subst he
    have hne : q ≠ [] := by
      rintro rfl
      cases h
    rw [entryAt_insert_self t hne] at hq
    cases hq
  · rwa [entryAt_insert_of_ne t he] at hq

lemma insert_file {content : List UInt8} (h : Grows {p} t (t.insert p (.file content))) :
    Confined {p} t (t.insert p (.file content)) := by
  refine ⟨h, fun q own hn hq => ?_⟩
  rwa [entryAt_insert_of_ne t hn] at hq

end Confined

lemma makeDirectory_confined {path : Path} (h : t.makeDirectory path = .ok u) : Confined ∅ t u := by
  rw [makeDirectory] at h
  split at h
  · cases h
  · next q _ =>
    split at h
    · cases h
    · next hq =>
      split at h
      · cases h
        exact Confined.insert_directory hq
      · cases h
      · cases h

lemma allowPresent_eq {path : Path} {e : FileError} (h : t.allowPresent path e = .ok u) : u = t := by
  cases e with
  | nulInPath => cases h
  | refused fault q =>
    simp only [allowPresent] at h
    split at h
    · exact (Except.ok.inj h).symm
    · cases h
    · cases h

lemma allowPresent_confined {path : Path} {e : FileError} :
    Confined ∅ t (match t.allowPresent path e with
      | .ok t => (t, none)
      | .error e => (t, some e)).1 := by
  split
  · next h =>
    rw [allowPresent_eq h]
    exact Confined.refl ∅ t
  · exact Confined.refl ∅ t

lemma makeDirectories_confined (fuel : Nat) (t : Project) (path : Path) :
    Confined ∅ t (makeDirectories fuel t path).1 := by
  induction fuel generalizing t path with
  | zero => exact Confined.refl ∅ t
  | succ fuel ih =>
    rw [makeDirectories]
    split
    · next h => exact makeDirectory_confined h
    · split
      · exact Confined.refl ∅ t
      · have hu := ih t path.parent
        split
        · next h =>
          rw [h] at hu
          exact hu
        · next u h =>
          rw [h] at hu
          refine hu.trans ?_
          split
          · next h' => exact makeDirectory_confined h'
          · exact allowPresent_confined
    · exact allowPresent_confined

lemma ensureDirectory_confined (t : Project) (path : Path) : Confined ∅ t (t.ensureDirectory path).1 :=
  makeDirectories_confined _ t path

lemma ensureDirectory_grows (t : Project) (path : Path) : Grows ∅ t (t.ensureDirectory path).1 :=
  (ensureDirectory_confined t path).toGrows

lemma writeFile_confined {path : Path} {content : List UInt8} (h : t.writeFile path content = .ok u) :
    ∃ p, t.place path = .ok p ∧ Confined {p} t u ∧ u.entryAt p = some (.file content) := by
  rw [writeFile] at h
  split at h
  · cases h
  · next p hp =>
    have hw : t.entryAt p ≠ some .directory → Grows {p} t (t.insert p (.file content)) →
        ∃ q, t.place path = .ok q ∧ Confined {q} t (t.insert p (.file content)) ∧
          (t.insert p (.file content)).entryAt q = some (.file content) := by
      intro hd hg
      refine ⟨p, hp, Confined.insert_file hg, entryAt_insert_self t ?_ _⟩
      rintro rfl
      exact hd rfl
    split at h
    · cases h
    · next old ho =>
      cases h
      exact hw (by simp [ho]) (Grows.insert_file ho _)
    · next hn =>
      split at h
      · cases h
        exact hw (by simp [hn]) ((Grows.insert_new hn _).mono (Set.empty_subset _))
      · cases h
      · cases h

lemma writeFile_ok {path : Path} {content : List UInt8} (h : t.writeFile path content = .ok u) :
    ∃ p, t.place path = .ok p ∧ Grows {p} t u ∧ u.entryAt p = some (.file content) := by
  obtain ⟨p, hp, hc, he⟩ := writeFile_confined h
  exact ⟨p, hp, hc.toGrows, he⟩

def put (t : Project) (path : Path) (content : List UInt8) : Project × Option FileError :=
  match t.ensureDirectory path.parent with
  | (t, some e) => (t, some e)
  | (t, none) => match t.writeFile path content with
    | .ok t => (t, none)
    | .error e => (t, some e)

lemma put_ok {path : Path} {content : List UInt8} (h : t.put path content = (u, none)) :
    ∃ p, u.place path = .ok p ∧ Confined {p} t u ∧ u.entryAt p = some (.file content) := by
  have hd := ensureDirectory_confined t path.parent
  rw [put] at h
  rcases he : t.ensureDirectory path.parent with ⟨v, _ | e⟩
  · rw [he] at h hd
    simp only at h
    cases hw : v.writeFile path content with
    | error e =>
      rw [hw] at h
      cases h
    | ok w =>
      rw [hw] at h
      cases h
      obtain ⟨p, hp, hc, hf⟩ := writeFile_confined hw
      exact ⟨p, hc.place hp, (hd.mono (Set.empty_subset _)).trans hc, hf⟩
  · rw [he] at h
    cases h

lemma put_refused {path : Path} {content : List UInt8} {e : FileError} (h : t.put path content = (u, some e)) :
    Confined ∅ t u := by
  have hd := ensureDirectory_confined t path.parent
  rw [put] at h
  rcases he : t.ensureDirectory path.parent with ⟨v, _ | e'⟩
  · rw [he] at h hd
    simp only at h
    cases hw : v.writeFile path content with
    | error e' =>
      rw [hw] at h
      cases h
      exact hd
    | ok w =>
      rw [hw] at h
      cases h
  · rw [he] at h hd
    cases h
    exact hd

lemma readFile_eq {path : Path} {content : List UInt8} (hp : t.place path = .ok p)
    (he : t.entryAt p = some (.file content)) : t.readFile path = .ok content := by
  rw [readFile, hp]
  simp only [he]

lemma readText_eq {path : Path} {text : String} (hp : t.place path = .ok p)
    (he : t.entryAt p = some (.file (Text.encodeUtf8 text.toList))) (hr : '\r' ∉ text.toList) :
    t.readText path = .ok text := by
  rw [readText, readFile_eq hp he]
  simp only [textOfBytes_encodeUtf8, Text.unifyNewlines_eq_self hr, String.ofList_toList]

lemma isPresent_eq (hp : t.place path = .ok p) (he : t.entryAt p = some e) : t.isPresent path = .ok true := by
  rw [isPresent, entry?, hp]
  simp [he, Except.map]

end ConfigKeeper.Project

import ConfigKeeper.Secret.FromElixir
import ConfigKeeper.Secret.FromManifest
import Mathlib.Tactic

/-!
What reading the secrets of one file ends in. A problem is kept with the file; any other failure is
fatal to the run. A path with a NUL is fatal, and of a manifest also a whole number with too many
digits and a secret whose name is no text. Nothing else is.
-/

namespace ConfigKeeper

def isFatal {α : Type} : Except Failure α → Bool
  | .ok _ => false
  | .error (.problem _) => false
  | .error _ => true

@[simp] lemma isFatal_ok {α : Type} (a : α) : isFatal (.ok a) = false := rfl

lemma isFatal_map {α β : Type} (g : α → β) (r : Except Failure α) : isFatal (r.map g) = isFatal r := by
  cases r with
  | ok a => rfl
  | error f => cases f <;> rfl

lemma isFatal_mapError_problem {α : Type} (r : Except Problem α) :
    isFatal (r.mapError Failure.problem) = false := by
  cases r <;> rfl

def Path.HasNul (p : Path) : Prop := ∃ name ∈ p.names, '\x00' ∈ name.toList

namespace Project

variable {t : Project} {p : Path}

lemma place_eq_nul_iff : t.place p = .error .nulInPath ↔ p.HasNul := by
  have hany : (p.names.any fun n => n.toList.contains '\x00') = true ↔ p.HasNul := by
    simp [Path.HasNul]
  rw [place]
  by_cases h : (p.names.any fun n => n.toList.contains '\x00') = true
  · rw [if_pos h]
    exact iff_of_true rfl (hany.1 h)
  · rw [if_neg h]
    refine iff_of_false ?_ fun hn => h (hany.2 hn)
    split
    · simp
    · split <;> simp

lemma readFile_eq_nul_iff : t.readFile p = .error .nulInPath ↔ p.HasNul := by
  rw [← place_eq_nul_iff (t := t), readFile]
  cases t.place p with
  | error e => simp
  | ok q =>
    simp only [reduceCtorEq, iff_false]
    split <;> simp

lemma readText_eq_nul_iff : t.readText p = .error (.file .nulInPath) ↔ p.HasNul := by
  rw [← readFile_eq_nul_iff (t := t), readText]
  cases t.readFile p with
  | error e => simp
  | ok bytes =>
    simp only [reduceCtorEq, iff_false]
    split <;> simp

lemma value_readSource (t : Project) (p : Path) : (t.readSource p).value = match t.readText p with
    | .ok text => .ok text
    | .error (.file .nulInPath) => .error (.file .nulInPath)
    | .error fault => .error (.problem (.sourceRead p fault)) := by
  rw [readSource]
  rcases t.readText p with (⟨_, _⟩ | _) | _ <;> rfl

lemma value_readSource_eq_ok_iff {text : String} :
    (t.readSource p).value = .ok text ↔ t.readText p = .ok text := by
  rw [value_readSource]
  rcases t.readText p with (⟨_, _⟩ | _) | _ <;> simp

lemma isFatal_readSource : isFatal (t.readSource p).value = true ↔ p.HasNul := by
  rw [← readText_eq_nul_iff (t := t), value_readSource]
  rcases t.readText p with (⟨_, _⟩ | _) | _ <;> simp [isFatal]

end Project

namespace ElixirConfig

lemma value_extractFile (ns : String) (t : Project) (file : Path) : (extractFile ns t file).value =
    match (t.readSource file).value with
    | .error f => .error f
    | .ok text => (extract ns file text).value.mapError Failure.problem := by
  rw [extractFile, Logged.value_bind]
  cases (t.readSource file).value with
  | error f => rfl
  | ok text => rw [Logged.value_bind, Logged.value_pure]

lemma isFatal_extractFile {ns : String} {t : Project} {file : Path} :
    isFatal (extractFile ns t file).value = true ↔ file.HasNul := by
  rw [← Project.isFatal_readSource (t := t), value_extractFile]
  cases (t.readSource file).value with
  | error f => cases f <;> rfl
  | ok text => rw [isFatal_mapError_problem]; rfl

end ElixirConfig

namespace Manifest

def Entry.Misnamed (e : Entry) : Prop :=
  (∃ s, e.read = .ok s) ∧ ∃ v, e.name = some v ∧ v.isTruthy = true ∧ v.string? = none

inductive Defect (text : String) : Prop
  | digits {f : Toml.Fault} {count : Nat} (h : Toml.parse text.toList = .error f)
      (hf : f.reason = .fewerDigits count)
  | name {entries : Toml.Entries} {items : List Toml} {e : Entry} (h : Toml.parse text.toList = .ok entries)
      (hs : entries.lookup "secrets" = some (.array items)) (he : e ∈ items.flatMap entriesOf)
      (hm : e.Misnamed)

variable {file : Path}

lemma isFatal_secret (e : Entry) (file : Path) (s : Entry.Statement) : isFatal (e.secret file s) = true ↔
    ∃ v, e.name = some v ∧ v.isTruthy = true ∧ v.string? = none := by
  rw [Entry.secret, Entry.key]
  cases e.name with
  | none => simp [isFatal]
  | some v =>
    by_cases hv : v.isTruthy = true
    · cases v <;> simp [isFatal, hv, Toml.string?]
    · simp [isFatal, hv]

lemma isFatal_extract_entry (file : Path) (e : Entry) :
    isFatal (e.extract file).value = true ↔ e.Misnamed := by
  rw [Entry.extract, Entry.Misnamed]
  cases hr : e.read with
  | error o => simp [isFatal]
  | ok s =>
    rw [Logged.value_pure, isFatal_map, isFatal_secret]
    simp

lemma fatal_of_extract_entry {e : Entry} {f : Failure} (h : (e.extract file).value = .error f) :
    ∃ vs, f = .invalid SecretInfo.recordName vs := by
  rw [Entry.extract] at h
  cases hr : e.read with
  | error o => simp [hr] at h
  | ok s =>
    rw [hr, Logged.value_pure, Entry.secret] at h
    cases hk : e.key s.locator with
    | ok key => simp [hk, Except.map] at h
    | error vs => exact ⟨vs, by simpa [hk, Except.map, eq_comm] using h⟩

lemma isFatal_secretsOf (es : List Entry) :
    isFatal (secretsOf file es).value = true ↔ ∃ e ∈ es, e.Misnamed := by
  induction es with
  | nil => exact iff_of_false Bool.noConfusion (by simp)
  | cons e es ih =>
    rw [secretsOf, Logged.value_bind, List.exists_mem_cons_iff, ← ih, ← isFatal_extract_entry file]
    cases he : (e.extract file).value with
    | error f =>
      obtain ⟨vs, rfl⟩ := fatal_of_extract_entry he
      exact iff_of_true rfl (.inl rfl)
    | ok found =>
      rw [Logged.value_bind, Logged.value_pure, isFatal_map]
      simp

lemma isFatal_documentFailure {α : Type} (file : Path) (text : List Char) (f : Toml.Fault) :
    isFatal (.error (documentFailure file text f) : Except Failure α) = true ↔
      ∃ count, f.reason = .fewerDigits count := by
  rw [documentFailure]
  cases f.reason <;> simp [isFatal, invalidToml]

lemma value_extract (file : Path) (text : String) : (extract file text).value =
    match Toml.parse text.toList with
    | .error f => .error (documentFailure file text.toList f)
    | .ok entries => match entries.lookup "secrets" with
      | some (.array items) => (secretsOf file (items.flatMap entriesOf)).value
      | _ => .error (noArray file) := by
  rw [extract]
  cases Toml.parse text.toList with
  | error f => rfl
  | ok entries =>
    simp only
    cases entries.lookup "secrets" with
    | none => rfl
    | some v => cases v <;> rfl

lemma isFatal_extract {text : String} : isFatal (extract file text).value = true ↔ Defect text := by
  rw [value_extract]
  cases hp : Toml.parse text.toList with
  | error f =>
    rw [isFatal_documentFailure]
    constructor
    · rintro ⟨count, hf⟩
      exact .digits hp hf
    · rintro (⟨h, hf⟩ | ⟨h, -, -, -⟩)
      · rw [hp, Except.error.injEq] at h
        exact ⟨_, h ▸ hf⟩
      · cases hp.symm.trans h
  | ok entries =>
    simp only
    split
    · next items hs =>
      rw [isFatal_secretsOf]
      constructor
      · rintro ⟨e, he, hm⟩
        exact .name hp hs he hm
      · rintro (⟨h, -⟩ | ⟨h, hs', he, hm⟩)
        · cases hp.symm.trans h
        · cases hp.symm.trans h
          cases hs.symm.trans hs'
          exact ⟨_, he, hm⟩
    · next hno =>
      refine iff_of_false Bool.noConfusion ?_
      rintro (⟨h, -⟩ | ⟨h, hs', -, -⟩)
      · cases hp.symm.trans h
      · cases hp.symm.trans h
        exact hno _ hs'

lemma value_extractFile (t : Project) (file : Path) : (extractFile t file).value =
    match (t.readSource file).value with
    | .error f => .error f
    | .ok text => (extract file text).value := by
  rw [extractFile, Logged.value_bind]
  cases (t.readSource file).value <;> rfl

lemma isFatal_extractFile {t : Project} {file : Path} : isFatal (extractFile t file).value = true ↔
    file.HasNul ∨ ∃ text, t.readText file = .ok text ∧ Defect text := by
  rw [← Project.isFatal_readSource (t := t), value_extractFile]
  simp only [← Project.value_readSource_eq_ok_iff]
  cases (t.readSource file).value with
  | error f => cases f <;> simp [isFatal]
  | ok text => simp [isFatal_extract]

end Manifest

end ConfigKeeper

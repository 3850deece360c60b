import ConfigKeeper.Proofs.Secret.Reading
import ConfigKeeper.Sync.Extraction

namespace ConfigKeeper.Extraction

variable {es : List Extractor} {t : Project} {file : Path} {files : List Path} {x : Extraction}
  {ns : String}

def Records (es : List Extractor) (file : Path) (x : Extraction) : Prop :=
  if es.any fun e => e.handles file then
    (∃ found, x = ⟨[(file, found)], []⟩) ∨ ∃ p, x = ⟨[], [(file, p)]⟩
  else x = empty

inductive Stops (t : Project) (file : Path) : Prop
  | nul (h : ElixirConfig.handles file = true ∨ Manifest.handles file = true) (hn : file.HasNul)
  | manifest {text : String} (h : Manifest.handles file = true) (hr : t.readText file = .ok text)
      (hd : Manifest.Defect text)

section OneFile

lemma value_read (e : Extractor) (t : Project) (file : Path) : (read e t file).value =
    match (e.extract t file).value with
    | .ok found => .ok ⟨[(file, found)], []⟩
    | .error (.problem p) => .ok ⟨[], [(file, p)]⟩
    | .error f => .error f := by
  rw [read, Logged.value_bind]
  rcases (e.extract t file).value with (_ | _ | _ | _ | _ | _ | _) | found <;> rfl

lemma exists_read_iff (e : Extractor) : (∃ x, (read e t file).value = .ok x) ↔
    isFatal (e.extract t file).value = false := by
  rw [value_read]
  rcases (e.extract t file).value with (_ | _ | _ | _ | _ | _ | _) | found <;> simp [isFatal]

lemma ofFile_of_find {e : Extractor} (h : es.find? (fun e => e.handles file) = some e) :
    ofFile es t file = read e t file := by
  rw [ofFile, h]

lemma ofFile_of_not_find (h : es.find? (fun e => e.handles file) = none) :
    (ofFile es t file).value = .ok empty := by
  rw [ofFile, h]
  rfl

lemma records_of_ofFile (h : (ofFile es t file).value = .ok x) : Records es file x := by
  cases hf : es.find? (fun e => e.handles file) with
  | none =>
    rw [ofFile_of_not_find hf, Except.ok.injEq] at h
    have hno : ¬ (es.any fun e => e.handles file) = true := by
      simpa using List.find?_eq_none.1 hf
    rw [Records, if_neg hno, h]
  | some e =>
    have hhandles : e.handles file = true := by simpa using List.find?_some hf
    have hany : (es.any fun e => e.handles file) = true :=
      List.any_eq_true.2 ⟨e, List.mem_of_find?_eq_some hf, hhandles⟩
    rw [ofFile_of_find hf, value_read] at h
    rw [Records, if_pos hany]
    split at h
    · next found _ => exact .inl ⟨found, (Except.ok.inj h).symm⟩
    · next p _ => exact .inr ⟨p, (Except.ok.inj h).symm⟩
    · cases h

lemma not_elixir_of_manifest (h : Manifest.handles file = true) : ElixirConfig.handles file = false := by
  have hn : file.name = Manifest.fileName := by simpa [Manifest.handles] using h
  rw [ElixirConfig.handles, Path.suffix, hn]
  decide +kernel

lemma exists_ofFile_standard_iff :
    (∃ x, (ofFile (Extractor.standard ns) t file).value = .ok x) ↔ ¬ Stops t file := by
  -- The first extractor that handles the file reads it; no file is for both.
  by_cases he : ElixirConfig.handles file = true
  · have hf : (Extractor.standard ns).find? (fun e => e.handles file) =
        some ⟨ElixirConfig.name, ElixirConfig.handles, ElixirConfig.extractFile ns⟩ := by
      simp [Extractor.standard, he]
    rw [ofFile_of_find hf, exists_read_iff, ← Bool.not_eq_true, ElixirConfig.isFatal_extractFile]
    refine not_congr ⟨fun hn => .nul (.inl he) hn, ?_⟩
    rintro (⟨-, hn⟩ | ⟨hm, -, -⟩)
    · exact hn
    · exact absurd he (by simp [not_elixir_of_manifest hm])
  · by_cases hm : Manifest.handles file = true
    · have hf : (Extractor.standard ns).find? (fun e => e.handles file) =
          some ⟨Manifest.name, Manifest.handles, Manifest.extractFile⟩ := by
        simp [Extractor.standard, he, hm]
      rw [ofFile_of_find hf, exists_read_iff, ← Bool.not_eq_true, Manifest.isFatal_extractFile]
      refine not_congr ⟨?_, ?_⟩
      · rintro (hn | ⟨text, hr, hd⟩)
        · exact .nul (.inr hm) hn
        · exact .manifest hm hr hd
      · rintro (⟨-, hn⟩ | ⟨-, hr, hd⟩)
        · exact .inl hn
        · exact .inr ⟨_, hr, hd⟩
    · have hf : (Extractor.standard ns).find? (fun e => e.handles file) = none := by
        simp [Extractor.standard, he, hm]
      refine iff_of_true ⟨empty, ofFile_of_not_find hf⟩ ?_
      rintro (⟨h, -⟩ | ⟨h, -, -⟩)
      · exact h.elim he hm
      · exact hm h

end OneFile

section ManyFiles

def gather (xs : List Extraction) : Extraction :=
  ⟨xs.flatMap Extraction.entries, xs.flatMap Extraction.failures⟩

lemma ofFiles_cons (file : Path) (files : List Path) : (ofFiles es t (file :: files)).value =
    match (ofFile es t file).value with
    | .error f => .error f
    | .ok x => (ofFiles es t files).value.map x.append := by
  rw [ofFiles, Logged.value_bind]
  cases (ofFile es t file).value with
  | error f => rfl
  | ok x => rw [Logged.value_bind, Logged.value_pure]

lemma ofFiles_eq_ok_iff : (ofFiles es t files).value = .ok x ↔
    ∃ xs, List.Forall₂ (fun file y => (ofFile es t file).value = .ok y) files xs ∧ x = gather xs := by
  induction files generalizing x with
  | nil => simp [ofFiles, Logged.value_pure, gather, empty, eq_comm]
  | cons file files ih =>
    rw [ofFiles_cons]
    constructor
    · intro h
      cases hf : (ofFile es t file).value with
      | error f => simp [hf] at h
      | ok y =>
        rw [hf] at h
        cases hr : (ofFiles es t files).value with
        | error f => simp [hr, Except.map] at h
        | ok z =>
          obtain ⟨xs, hxs, rfl⟩ := ih.1 hr
          simp only [hr, Except.map, Except.ok.injEq] at h
          exact ⟨y :: xs, .cons hf hxs, h.symm⟩
    · rintro ⟨_, h, rfl⟩
      cases h with
      | cons hf hxs =>
        rw [hf, ih.2 ⟨_, hxs, rfl⟩]
        rfl

lemma ofFiles_single (es : List Extractor) (t : Project) (file : Path) :
    (ofFiles es t [file]).value = (ofFile es t file).value := by
  rw [ofFiles_cons]
  cases (ofFile es t file).value with
  | error f => rfl
  | ok x => simp [ofFiles, Logged.value_pure, Except.map, append, empty]

lemma exists_ofFiles_iff : (∃ x, (ofFiles es t files).value = .ok x) ↔
    ∀ file ∈ files, ∃ y, (ofFile es t file).value = .ok y := by
  induction files with
  | nil => simp [ofFiles, Logged.value_pure]
  | cons file files ih =>
    rw [List.forall_mem_cons, ← ih, ofFiles_cons]
    cases (ofFile es t file).value with
    | error f => simp
    | ok x => cases (ofFiles es t files).value <;> simp [Except.map]

/-- The secrets of several files are read to the end exactly if no file stops the run. Then each
file is recorded as it is when it is read alone: once, with its secrets or with its problem, or not
at all if nothing handles it. The records stand in the order of the files. -/
theorem files_isolated (ns : String) (t : Project) (files : List Path) :
    ((∃ x, (ofFiles (Extractor.standard ns) t files).value = .ok x) ↔ ∀ file ∈ files, ¬ Stops t file) ∧
      ∀ x, (ofFiles (Extractor.standard ns) t files).value = .ok x → ∃ xs,
        List.Forall₂ (fun file y => (ofFiles (Extractor.standard ns) t [file]).value = .ok y ∧
          Records (Extractor.standard ns) file y) files xs ∧
        x.entries = xs.flatMap Extraction.entries ∧ x.failures = xs.flatMap Extraction.failures := by
  constructor
  · rw [exists_ofFiles_iff]
    exact forall₂_congr fun _ _ => exists_ofFile_standard_iff
  · intro x hx
    obtain ⟨xs, hxs, rfl⟩ := ofFiles_eq_ok_iff.1 hx
    refine ⟨xs, hxs.imp fun file y hy => ⟨?_, records_of_ofFile hy⟩, rfl, rfl⟩
    rw [ofFiles_single, hy]

end ManyFiles

def manifestOf (more : String) : Entry :=
  .file (Text.encodeUtf8 ("[[secrets]]\n" ++ more ++
    "provider = \"bunker\"\nkind = \"generic\"\nsrc = \"vault:secret/g#k\"\ndst = \"out\"\n").toList)

def numberNamed : Project :=
  ⟨[], [([".wukong.toml"], manifestOf "name = 5\n"), (["sub"], .directory),
    (["sub", ".wukong.toml"], manifestOf "")]⟩

theorem stopped_by_number_name :
    let read := fun names => (ofFiles (Extractor.standard "n") numberNamed (names.map (Path.mk .relative))).value
    (read [["sub", ".wukong.toml"]]).map (fun x => x.secrets.map SecretInfo.key) = .ok ["k"] ∧
      isFatal (read [["sub", ".wukong.toml"], [".wukong.toml"]]) = true := by
  decide +kernel

end ConfigKeeper.Extraction

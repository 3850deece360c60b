import ConfigKeeper.Proofs.Project.Descent
import ConfigKeeper.Proofs.Secret.Entries
import ConfigKeeper.Proofs.Sync.Account

/-!
Where the secrets of a manifest go. A destination that starts at the top or at a home directory is
refused; one that climbs out of the manifest's directory by `..` is not. A pull writes each secret at
the place that its destination says.
-/

namespace ConfigKeeper

namespace Path

/-- The path leaves the directory that it is seen from: it starts at the top, or its text leads up. -/
def Leaves (p : Path) : Prop := p.isAbsolute = true ∨ 0 < (Descent.ofNames p.names).ups

def Climbs (p : Path) : Prop := ∃ front, front <+: p.names ∧ front.length < 2 * front.count ".."

instance (p : Path) : Decidable p.Leaves := inferInstanceAs (Decidable (_ ∨ _))

lemma leaves_iff (p : Path) : p.Leaves ↔ p.isAbsolute = true ∨ p.Climbs :=
  or_congr Iff.rfl (Descent.ups_pos_iff p.names)

lemma isAbsolute_ofString_iff (text : String) :
    (Path.ofString text).isAbsolute = true ↔ ['/'] <+: text.toList := by
  have hanchor : ∀ cs : List Char, anchorOf cs = .relative ↔ ¬ ['/'] <+: cs := by
    intro cs
    rw [anchorOf.eq_def]
    split
    · simp
    · simp
    · simp
    · next hno =>
      refine iff_of_true rfl ?_
      rintro ⟨rest, rfl⟩
      exact hno rest rfl
  rw [isAbsolute, ofString, bne_iff_ne, Ne, hanchor, not_not]

end Path

namespace Manifest

variable {file : Path} {text : String} {found : List SecretInfo} {i : SecretInfo}

lemma isOutside_iff (text : String) : Entry.isOutside text = true ↔
    (Path.ofString text).isAbsolute = true ∨ ['~', '/'] <+: text.toList := by
  have hstart : ∀ word : List Char, Text.startsWith word text.toList = true ↔ word <+: text.toList := by
    intro word
    rw [Text.startsWith, Option.isSome_iff_exists]
    exact exists_congr fun rest => Text.afterWord_eq_some_iff.trans eq_comm
  rw [Path.isAbsolute_ofString_iff, Entry.isOutside, Bool.or_eq_true, hstart, hstart]
  exact or_comm

lemma localPath_of_extract (h : (extract file text).value = .ok found) (hi : i ∈ found) :
    (Path.ofString i.destination).isAbsolute = false ∧
      i.localPath = ⟨file.anchor, file.parent.names ++ (Path.ofString i.destination).names⟩ := by
  obtain ⟨items, -, hsecrets⟩ := items_of_extract h
  obtain ⟨e, -, he⟩ := (mem_secretsOf hsecrets).1 hi
  obtain ⟨s, hread, hsecret⟩ := Entry.extract_entry_some_iff.1 he
  obtain ⟨-, hdestination, -, hfile⟩ := Entry.secret_repeats hsecret
  have hin := (Entry.offers_of_read hread).2
  have hrelative : (Path.ofString i.destination).isAbsolute = false := by
    rw [← Bool.not_eq_true, hdestination]
    intro habsolute
    rw [(isOutside_iff _).2 (.inl habsolute)] at hin
    cases hin
  refine ⟨hrelative, ?_⟩
  rw [SecretInfo.localPath, Path.join, if_neg (by rw [hrelative]; exact Bool.false_ne_true), hfile]
  rfl

end Manifest

lemma Extraction.exists_ofFile {es : List Extractor} {t : Project} {files : List Path} {x : Extraction}
    {y : Path × List SecretInfo} (h : (ofFiles es t files).value = .ok x) (hy : y ∈ x.entries) :
    ∃ file ∈ files, ∃ x', (ofFile es t file).value = .ok x' ∧ y ∈ x'.entries := by
  obtain ⟨xs, hxs, rfl⟩ := ofFiles_eq_ok_iff.1 h
  obtain ⟨x', hx', hy'⟩ := List.mem_flatMap.1 hy
  clear h hy
  induction hxs with
  | nil => cases hx'
  | @cons file z files zs hz _ ih =>
    rcases List.mem_cons.1 hx' with rfl | hx'
    · exact ⟨file, List.mem_cons_self, _, hz, hy'⟩
    · obtain ⟨own, hown, hrest⟩ := ih hx'
      exact ⟨own, List.mem_cons_of_mem _ hown, hrest⟩

namespace Sync

open Sync.Action

variable {σ π : Type} {k : Context σ π} {root : Path} {token : String}

def homes (t : Project) (is : List SecretInfo) : Set Place := {p | ∃ i ∈ is, t.place i.localPath = .ok p}

lemma pullEach_confined (is : List SecretInfo) (s : Session σ π) :
    let u := ((pullEach k token root is).result s).2.project
    Project.Confined (homes u is) s.project u := by
  induction is generalizing s with
  | nil => exact Project.Confined.refl _ _
  | cons i is ih =>
    intro u
    rcases hone : (pullOne k token root i).result s with ⟨r, s₁⟩
    obtain ⟨reason, hsettles, -⟩ : ∃ reason, Settles (fun _ _ => True) s.project i reason s₁.project ∧ _ :=
      settles_of_pullOne hone trivial
    have hfirst := hsettles.confined
    -- later pulls only make the tree grow, and a place that a path leads to stays its place
    have hend : ∀ {v : Project}, Project.Grows (homes v is) s₁.project v →
        writtenPlaces s₁.project [(i, reason)] ⊆ homes v (i :: is) := by
      rintro v hg p ⟨x, hx, -, hp⟩
      rw [List.mem_singleton.1 hx] at hp
      exact ⟨i, List.mem_cons_self, hg.place hp⟩
    rcases r with f | o
    · have hu : u = s₁.project := by
        simp only [u, pullEach, result_bind_error hone]
      rw [hu]
      exact hfirst.mono (hend (Project.Grows.refl _ _))
    · have hu : u = ((pullEach k token root is).result s₁).2.project := by
        simp only [u, pullEach, result_bind_ok hone]
        rw [result_bind_pure]
      have hrest := ih s₁
      rw [← hu] at hrest
      refine (hfirst.mono (hend hrest.toGrows)).trans (hrest.mono ?_)
      rintro p ⟨j, hj, hp⟩
      exact ⟨j, List.mem_cons_of_mem _ hj, hp⟩

lemma home_of_pull {s : Session σ π} {p : Place} {content : List UInt8}
    (hnew : ((pull k root).result s).2.project.entryAt p = some (.file content))
    (hold : s.project.entryAt p ≠ some (.file content)) :
    ∃ x s₁, (discover k root).result s = (.ok x, s₁) ∧
      p ∈ homes ((pull k root).result s).2.project x.secrets := by
  rcases hx : (discover k root).result s with ⟨f | x, s₁⟩
  · -- the secrets are not known, and the tree stays as it was
    have hkeeps : Keeps _ _ (discover k root) := discover_keeps (quiet_project s.project)
    have hsame := hkeeps.error rfl hx
    rw [pull, result_bind_error hx, hsame] at hnew
    exact absurd hnew hold
  · refine ⟨x, s₁, rfl, ?_⟩
    have hproject := project_discover hx
    cases ht : requireToken k.settings.token with
    | error e =>
      have htoken : (Sync.token k).result s₁ = (.error (.problem e), s₁) := by
        rw [Sync.token, result_lift, ht]
        rfl
      rw [pull, result_bind_ok hx, result_bind_error htoken, hproject] at hnew
      exact absurd hnew hold
    | ok token =>
      have hafter := (pull_of_pullEach hx ht).1
      have hconfined : Project.Confined (homes ((pullEach k token root x.secrets).result s₁).2.project x.secrets)
          s₁.project ((pullEach k token root x.secrets).result s₁).2.project := pullEach_confined x.secrets s₁
      rw [hproject, ← hafter] at hconfined
      by_contra hp
      exact hold (hconfined.old p content hp hnew)

lemma found_of_ofFile {ns : String} {t : Project} {file : Path} {x : Extraction} {y : Path × List SecretInfo}
    (h : (Extraction.ofFile (Extractor.standard ns) t file).value = .ok x) (hy : y ∈ x.entries)
    (hm : Manifest.handles y.1 = true) : ∃ text, (Manifest.extract y.1 text).value = .ok y.2 := by
  have hfile : y.1 = file := by
    have hrecords := Extraction.records_of_ofFile h
    rw [Extraction.Records] at hrecords
    split at hrecords
    · rcases hrecords with ⟨found, rfl⟩ | ⟨p, rfl⟩
      · rw [List.mem_singleton.1 hy]
      · cases hy
    · rw [hrecords] at hy
      cases hy
  rw [hfile] at hm ⊢
  have hfind : (Extractor.standard ns).find? (fun e => e.handles file) =
      some ⟨Manifest.name, Manifest.handles, Manifest.extractFile⟩ := by
    simp [Extractor.standard, hm, Extraction.not_elixir_of_manifest hm]
  rw [Extraction.ofFile_of_find hfind, Extraction.value_read] at h
  split at h
  · next found hfound =>
    cases h
    rw [List.mem_singleton.1 hy]
    rw [Manifest.value_extractFile] at hfound
    split at hfound
    · cases hfound
    · next text _ => exact ⟨text, hfound⟩
  · cases h
    cases hy
  · cases h

lemma found_of_discover {s s₁ : Session σ π} {x : Extraction} {y : Path × List SecretInfo}
    (h : (discover k root).result s = (.ok x, s₁)) (hy : y ∈ x.entries) (hm : Manifest.handles y.1 = true) :
    ∃ text, (Manifest.extract y.1 text).value = .ok y.2 := by
  rw [discover, result_bind_ok (result_project s)] at h
  obtain ⟨files, s₂, -, h⟩ := ok_of_bind h
  split at h
  · cases h
  · obtain ⟨x', s₃, hfiles, h⟩ := ok_of_bind h
    obtain ⟨_, _, -, h⟩ := ok_of_bind h
    obtain ⟨_, _, -, h⟩ := ok_of_bind h
    cases h
    rw [result_logged, Prod.mk.injEq] at hfiles
    obtain ⟨file, -, x', hfile, hy'⟩ := Extraction.exists_ofFile hfiles.1 hy
    exact found_of_ofFile hfile hy' hm

lemma place_of_manifest {t : Project} {file : Path} {text : String} {found : List SecretInfo} {i : SecretInfo}
    {p : Place} (h : (Manifest.extract file text).value = .ok found) (hi : i ∈ found)
    (hp : t.place i.localPath = .ok p) :
    ∃ base, t.place file.parent = .ok base ∧
      p = (Descent.ofNames (Path.ofString i.destination).names).placeFrom base ∧
      (¬ (Path.ofString i.destination).Climbs → base <+: p) := by
  rw [(Manifest.localPath_of_extract h hi).2] at hp
  obtain ⟨base, hbase, hfollow⟩ := Project.place_append hp
  have hplace := Project.follow_ofNames hfollow
  refine ⟨base, hbase, hplace, fun hstays => ?_⟩
  rw [Path.Climbs, ← Descent.ups_pos_iff, Nat.pos_iff_ne_zero, not_not] at hstays
  rw [hplace]
  exact Descent.prefix_placeFrom hstays base

/-- The files of a manifest's secrets. An entry that only its destination can stop is left out with a
warning if that starts at the top or at a home directory, and gives its secret otherwise. So the
destination of a secret leaves the manifest's directory exactly if it climbs out by `..`. All that a
pull makes or changes is files of secrets, and a manifest's secret that does not climb out has its file
below the manifest's directory. -/
theorem destinations_resolved (k : Context σ π) (root : Path) (start : Session σ π) (file : Path) (text : String) :
    let u := ((pull k root).result start).2.project
    (∀ found, (Manifest.extract file text).value = .ok found →
      (∀ i ∈ found, i.localPath = ⟨file.anchor, file.parent.names ++ (Path.ofString i.destination).names⟩ ∧
        ((Path.ofString i.destination).Leaves ↔ (Path.ofString i.destination).Climbs)) ∧
      ∃ items, Manifest.HasItems text items ∧ ∀ e ∈ items.flatMap Manifest.entriesOf, ∀ s, e.Offers s →
        if (Path.ofString s.destination).isAbsolute = true ∨ ['~', '/'] <+: s.destination.toList then
          (e.extract file).value = .ok none ∧
            (Manifest.Entry.Obstacle.outside s.destination).remark file e.label ∈ (Manifest.extract file text).records
        else ∃ i ∈ found, i.locator = s.locator ∧ i.destination = s.destination) ∧
    (∀ p content, u.entryAt p = some (.file content) → start.project.entryAt p ≠ some (.file content) →
      ∃ x s₁, (discover k root).result start = (.ok x, s₁) ∧ p ∈ homes u x.secrets) ∧
    ∀ x s₁, (discover k root).result start = (.ok x, s₁) →
      ∀ y ∈ x.entries, Manifest.handles y.1 = true → ∀ i ∈ y.2, ∀ p, u.place i.localPath = .ok p →
        ∃ base, u.place y.1.parent = .ok base ∧
          p = (Descent.ofNames (Path.ofString i.destination).names).placeFrom base ∧
          (¬ (Path.ofString i.destination).Climbs → base <+: p) := by
  intro u
  refine ⟨fun found h => ⟨fun i hi => ?_, ?_⟩, ?_, ?_⟩
  · obtain ⟨hrelative, hlocal⟩ := Manifest.localPath_of_extract h hi
    refine ⟨hlocal, (Path.leaves_iff _).trans (or_iff_right ?_)⟩
    rw [hrelative]
    exact Bool.false_ne_true
  · obtain ⟨items, hitems, hsecrets⟩ := Manifest.items_of_extract h
    refine ⟨items, hitems, fun e he s hs => ?_⟩
    split
    · next hout =>
      have hextract : e.extract file = _ := Manifest.Entry.remark_of_outside hs ((Manifest.isOutside_iff _).2 hout)
      refine ⟨by rw [hextract], Manifest.mem_records_of_entry hitems h he ?_⟩
      rw [hextract]
      exact List.mem_singleton_self _
    · next hin =>
      -- an entry that says all it has to can be refused for its destination only
      have hread := Manifest.Entry.read_eq_ok_iff.2
        ⟨hs, Bool.not_eq_true _ ▸ mt (Manifest.isOutside_iff _).1 hin⟩
      obtain ⟨i, hi⟩ := Manifest.exists_secret hsecrets he hread
      obtain ⟨hlocator, hdestination, -, -⟩ := Manifest.Entry.secret_repeats hi.2
      exact ⟨i, hi.1, hlocator, hdestination⟩
  · intro p content hnew hold
    exact home_of_pull hnew hold
  · intro x s₁ hx y hy hm i hi p hp
    obtain ⟨text, htext⟩ := found_of_discover hx hy hm
    exact place_of_manifest htext hi hp

section Small

def enclosed (destination : String) : Project :=
  ⟨["project"], [(["project"], .directory),
    (["project", ".wukong.toml"], .file (utf8 (manifestOf "vault:secret/g#k" destination)))]⟩

def secretTo (destination : String) : SecretInfo :=
  ⟨"k", ⟨"vault", "secret", "g", "k"⟩, destination, "vault:secret/g#k", "bunker", "generic", manifestPath⟩

def pulledTo (destination : String) : Project :=
  ((pull (Context.plain Memory.store) manifestPath).result (.start (enclosed destination) (storeOf "v") ())).2.project

theorem destinations_resolved_of_inner :
    (enclosed "conf/../x").entryAt ["project", "x"] = none ∧
      (pulledTo "conf/../x").entryAt ["project", "x"] = some (.file (utf8 "v")) ∧
      ∃ base, (pulledTo "conf/../x").place manifestPath.parent = .ok base ∧ base <+: ["project", "x"] := by
  have hrun : ((discover (Context.plain Memory.store) manifestPath).result
        (.start (enclosed "conf/../x") (storeOf "v") ())).1.map Extraction.entries =
          .ok [(manifestPath, [secretTo "conf/../x"])] ∧
      (pulledTo "conf/../x").place (secretTo "conf/../x").localPath = .ok ["project", "x"] ∧
      (pulledTo "conf/../x").entryAt ["project", "x"] = some (.file (utf8 "v")) := by
    decide +kernel
  obtain ⟨hfound, hplace, hwritten⟩ := hrun
  have hstays : ¬ (Path.ofString (secretTo "conf/../x").destination).Climbs := by
    rw [Path.Climbs, ← Descent.ups_pos_iff]
    decide +kernel
  obtain ⟨x, hx, hentries⟩ := ok_of_map hfound
  obtain ⟨base, hbase, -, hbelow⟩ :=
    (destinations_resolved (Context.plain Memory.store) manifestPath _ manifestPath "").2.2 x _ hx
      (manifestPath, [secretTo "conf/../x"]) (by rw [hentries]; exact List.mem_singleton_self _) (by decide)
      (secretTo "conf/../x") (List.mem_singleton_self _) ["project", "x"] hplace
  exact ⟨by decide, hwritten, base, hbase, hbelow hstays⟩

theorem destination_climbs_out :
    let extracted := Manifest.extract manifestPath (manifestOf "vault:secret/g#k" "../x")
    extracted.value = .ok [secretTo "../x"] ∧ extracted.records = [] ∧ (Path.ofString "../x").Leaves ∧
      (pulledTo "../x").place manifestPath.parent = .ok ["project"] ∧ (enclosed "../x").entryAt ["x"] = none ∧
      (pulledTo "../x").entryAt ["x"] = some (.file (utf8 "v")) := by
  decide +kernel

end Small

end Sync

end ConfigKeeper

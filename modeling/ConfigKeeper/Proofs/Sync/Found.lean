import ConfigKeeper.Proofs.Console.Escape
import ConfigKeeper.Proofs.Sync.Alongside
import ConfigKeeper.Proofs.Sync.Isolation
import ConfigKeeper.Proofs.Text.Utf8

/-!
What finding the secrets comes to. It depends on the project alone; in a project that is asked for by
its manifest it gives what the manifest says.
-/

namespace ConfigKeeper

lemma Project.readSource_of_text {t : Project} {path : Path} {p : Place} {text : String}
    (hp : t.place path = .ok p) (he : t.entryAt p = some (.file (Text.encodeUtf8 text.toList)))
    (hr : '\r' ∉ text.toList) : (t.readSource path).value = .ok text := by
  rw [readSource, readText_eq hp he hr]
  rfl

namespace Sync

open Sync.Action Console

variable {σ π α : Type} {k : Context σ π} {root : Path}

abbrev OfProject (a : Action σ π α) : Prop :=
  Along (fun s u : Session σ π => u.project = s.project) (fun _ => True) a

lemma OfProject.printMarkup (width : Nat) (text : List Char) :
    OfProject (Action.printMarkup width text : Action σ π Unit) :=
  Along.bind ⟨fun _ => trivial, fun h _ => ⟨rfl, h⟩⟩ fun _ => ⟨fun _ => trivial, fun h _ => ⟨rfl, h⟩⟩

lemma OfProject.logged (x : Logged (Except Failure α)) : OfProject (Action.logged x : Action σ π α) :=
  ⟨fun _ => trivial, fun h _ => ⟨rfl, h⟩⟩

lemma OfProject.printAll (line : α → List Char) (xs : List α) : OfProject (printAll k line xs) := by
  induction xs with
  | nil => exact Along.pure ()
  | cons x xs ih => exact (OfProject.printMarkup _ _).bind fun _ => ih

lemma ofProject_discover (k : Context σ π) (root : Path) : OfProject (discover k root) := by
  have hproject : OfProject (Action.project : Action σ π Project) :=
    ⟨fun _ => trivial, fun h _ => ⟨congrArg Except.ok h, h⟩⟩
  refine hproject.bind fun t => (OfProject.logged _).bind fun files => Along.ite ?_ ?_
  · exact ⟨fun _ => trivial, fun h _ => ⟨rfl, h⟩⟩
  · refine (OfProject.logged _).bind fun x => ?_
    exact (OfProject.printAll _ _).bind fun _ => (OfProject.printAll _ _).bind fun _ => Along.pure x

lemma quiet_project (t : Project) : Quiet (fun s : Session σ π => s.project = t) fun s => s.project = t :=
  ⟨fun _ _ _ hs => hs, fun _ hs => hs⟩

lemma project_discover {s s₁ : Session σ π} {x : Extraction} (h : (discover k root).result s = (.ok x, s₁)) :
    s₁.project = s.project := (discover_keeps (quiet_project s.project)).ok rfl h

theorem discover_again {x : Extraction} {s s₁ u : Session σ π} (hx : (discover k root).result s = (.ok x, s₁))
    (hu : u.project = s.project) : ∃ u₁, (discover k root).result u = (.ok x, u₁) := by
  obtain ⟨hv, -⟩ := (ofProject_discover k root).same hu trivial
  rw [hx] at hv
  exact ⟨((discover k root).result u).2, Prod.ext hv rfl⟩

def Gives (a : Action σ π α) (x : α) : Prop := ∀ s, ∃ s', a.result s = (.ok x, s')

namespace Gives

variable {β : Type} {a : Action σ π α}

lemma pure (x : α) : Gives (pure x : Action σ π α) x := fun s => ⟨s, rfl⟩

lemma bind {f : α → Action σ π β} {x : α} {y : β} (ha : Gives a x) (hf : Gives (f x) y) : Gives (a >>= f) y := by
  intro s
  obtain ⟨s₁, h₁⟩ := ha s
  obtain ⟨s₂, h₂⟩ := hf s₁
  exact ⟨s₂, by rw [result_bind_ok h₁, h₂]⟩

lemma logged {x : Logged (Except Failure α)} {y : α} (h : x.value = .ok y) :
    Gives (Action.logged x : Action σ π α) y := by
  intro s
  rw [result_logged, h]
  exact ⟨_, rfl⟩

lemma printMarkup {text : List Char} (h : ∃ shown, Markup.render text = .ok shown) (width : Nat) :
    Gives (Action.printMarkup width text : Action σ π Unit) () := by
  intro s
  obtain ⟨shown, hs⟩ := h
  obtain ⟨printed, hp⟩ := printMarkup_ok hs width s
  exact ⟨_, hp⟩

lemma printAll {line : α → List Char} {xs : List α} (h : ∀ x ∈ xs, ∃ shown, Markup.render (line x) = .ok shown) :
    Gives (Sync.printAll k line xs) () := by
  induction xs with
  | nil => exact Gives.pure ()
  | cons x xs ih =>
    obtain ⟨hx, hxs⟩ := List.forall_mem_cons.1 h
    exact (Gives.printMarkup hx _).bind (ih hxs)

end Gives

lemma find_of_isFile {t : Project} (h : t.isFile root = .ok true) (s : Discovery.Selection) :
    (Discovery.find t root s).value = .ok [root] := by
  rw [Discovery.find, h]
  rfl

lemma foundLine_shown (root path : Path) (count : Nat) :
    ∃ shown, Markup.render (foundLine root path count) = .ok shown := by
  have hfront : ∀ c : Char, c.isDigit = false → c ∉ "🔍 ".toList → c ∉ " annotation(s) found in ".toList →
      c ∉ ("🔍 " ++ toString count ++ " annotation(s) found in ").toList := by
    intro c hc h₁ h₂
    simp only [String.toList_append, List.append_assoc]
    exact Markup.not_mem_numbered hc h₁ h₂ count
  have hshown : ∃ shown, Markup.render (_ ++ Markup.escape _ ++ []) = .ok shown := Markup.render_escape_between
    (hfront '\\' (by decide) (by decide) (by decide)) (hfront '[' (by decide) (by decide) (by decide))
    List.not_mem_nil List.not_mem_nil (displayed root path).toList
  rwa [List.append_nil] at hshown

lemma read_manifest (ns : String) {t : Project} {text : String} {is : List SecretInfo}
    (hm : Manifest.handles root = true) (hr : (t.readSource root).value = .ok text)
    (hx : (Manifest.extract root text).value = .ok is) :
    (Extraction.ofFiles (Extractor.standard ns) t [root]).value = .ok ⟨[(root, is)], []⟩ := by
  have hfind : (Extractor.standard ns).find? (fun e => e.handles root) =
      some ⟨Manifest.name, Manifest.handles, Manifest.extractFile⟩ := by
    simp [Extractor.standard, hm, Extraction.not_elixir_of_manifest hm]
  have hextract : (Manifest.extractFile t root).value = .ok is := by
    rw [Manifest.extractFile, Logged.value_bind, hr]
    exact hx
  rw [Extraction.ofFiles_single, Extraction.ofFile_of_find hfind, Extraction.value_read]
  simp only [hextract]

lemma discover_manifest (k : Context σ π) {t : Project} {text : String} {is : List SecretInfo}
    (hf : t.isFile root = .ok true) (hm : Manifest.handles root = true)
    (hr : (t.readSource root).value = .ok text) (hx : (Manifest.extract root text).value = .ok is)
    {s : Session σ π} (hs : s.project = t) :
    ∃ s₁, (discover k root).result s = (.ok ⟨[(root, is)], []⟩, s₁) := by
  subst hs
  have hfind := find_of_isFile hf (selection k.settings)
  have hread := read_manifest k.settings.ns hm hr hx
  have hfiles : ((fun x => x.mapError Failure.ofDiscovery) <$>
      Discovery.find s.project root (selection k.settings)).value = .ok [root] := by
    change (Discovery.find s.project root (selection k.settings)).value.mapError Failure.ofDiscovery = _
    rw [hfind]
    rfl
  rw [discover, result_bind_ok (result_project s)]
  refine Gives.bind (Gives.logged hfiles) ?_ s
  rw [if_neg (by simp)]
  refine (Gives.logged hread).bind ?_
  refine (Gives.printAll fun _ hx => by cases hx).bind ((Gives.printAll ?_).bind (Gives.pure _))
  rintro x hx
  obtain rfl := List.mem_singleton.1 hx
  exact foundLine_shown root root is.length

def Project.under (text : String) (entries : List (Place × Entry)) : Project :=
  ⟨[], ([".wukong.toml"], .file (utf8 text)) :: entries⟩

lemma discover_under (k : Context σ π) {text : String} {entries : List (Place × Entry)} {is : List SecretInfo}
    (hr : '\r' ∉ text.toList) (hx : (Manifest.extract manifestPath text).value = .ok is) {s : Session σ π}
    (hs : s.project = Project.under text entries) :
    ∃ s₁, (discover k manifestPath).result s = (.ok ⟨[(manifestPath, is)], []⟩, s₁) := by
  have hplace : (Project.under text entries).place manifestPath = .ok [".wukong.toml"] := by
    rw [Project.place, if_neg (by decide), if_neg (by decide +kernel)]
    rfl
  have hentry : (Project.under text entries).entryAt [".wukong.toml"] = some (.file (utf8 text)) := by
    rw [Project.entryAt_of_ne_nil _ (by simp), Project.under, List.lookup_cons]
    rfl
  have hfile : (Project.under text entries).isFile manifestPath = .ok true := by
    rw [Project.isFile, Project.entry?, hplace]
    simp only [hentry]
    rfl
  exact discover_manifest k hfile (by decide) (Project.readSource_of_text hplace hentry hr) hx hs

end Sync

end ConfigKeeper

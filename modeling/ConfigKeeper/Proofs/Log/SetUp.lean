import ConfigKeeper.Log.Setup
import ConfigKeeper.Proofs.Project.Growth
import ConfigKeeper.Proofs.Text.Utf8
import ConfigKeeper.Proofs.Yaml.Tables

/-!
Setting up logging does not fail where the program's own configuration is used. Plain logging stands in
for most faults; the others need a section of loggers or handlers that is no mapping, a scalar without a
value, or a reference.
-/

namespace ConfigKeeper.Log

open Yaml (Heap Item Pairs)

variable {ε φ α β : Type} {rt : Runtime ε}

def EndsIn (P : φ → Prop) (x : Except φ α) : Prop := ∀ f, x = .error f → P f

namespace EndsIn

variable {P : φ → Prop}

lemma ok (a : α) : EndsIn P (.ok a) := by
  intro f hf
  cases hf

lemma error {f : φ} (h : P f) : EndsIn P (.error f : Except φ α) := by
  rintro g ⟨⟩
  exact h

lemma bind_of {x : Except φ α} {g : α → Except φ β} (hx : EndsIn P x) (hg : ∀ a, x = .ok a → EndsIn P (g a)) :
    EndsIn P (x >>= g) := by
  cases x with
  | error f => exact error (hx f rfl)
  | ok a => exact hg a rfl

lemma bind {x : Except φ α} {g : α → Except φ β} (hx : EndsIn P x) (hg : ∀ a, EndsIn P (g a)) : EndsIn P (x >>= g) :=
  hx.bind_of fun a _ => hg a

lemma map {x : Except φ α} (hx : EndsIn P x) (g : α → β) : EndsIn P (x.map g) := by
  cases x with
  | error f => exact error (hx f rfl)
  | ok a => exact ok (g a)

lemma mapError {ψ : Type} {g : ψ → φ} (hg : ∀ f, P (g f)) (x : Except ψ α) : EndsIn P (x.mapError g) := by
  cases x with
  | error f => exact error (hg f)
  | ok a => exact ok a

lemma foldlM {f : β → α → Except φ β} (hf : ∀ b a, EndsIn P (f b a)) (l : List α) (b : β) :
    EndsIn P (l.foldlM f b) := by
  induction l generalizing b with
  | nil => exact ok b
  | cons a l ih => exact (hf b a).bind fun b => ih b

end EndsIn

lemma ok_of_bind {x : Except φ α} {g : α → Except φ β} {b : β} (h : (x >>= g) = .ok b) :
    ∃ a, x = .ok a ∧ g a = .ok b := by
  cases x with
  | error f => cases h
  | ok a => exact ⟨a, rfl, h⟩

lemma bind_of_ok {x : Except φ α} {a : α} (hx : x = .ok a) (g : α → Except φ β) : (x >>= g) = g a := by
  rw [hx]
  rfl

lemma ok_of_map {x : Except φ α} {g : α → β} {b : β} (h : x.map g = .ok b) : ∃ a, x = .ok a ∧ g a = b := by
  cases x with
  | error f => cases h
  | ok a => exact ⟨a, rfl, Except.ok.inj h⟩

abbrev Handled (x : Except SetupFault α) : Prop := EndsIn (fun f => f.isHandled = true) x

def Halt.Mild : Halt ε → Prop
  | .fault f => f.isHandled = true
  | .other _ => True

abbrev Falls (x : Except (Halt ε) α) : Prop := EndsIn Halt.Mild x

lemma mild_wrapped (rt : Runtime ε) {f : SetupFault} (h : f.isHandled = true) (x : Halt ε) : (rt.wrapped f x).Mild := by
  cases x with
  | fault g => exact h
  | other e =>
    rw [Runtime.wrapped]
    split
    · exact h
    · trivial

section Parts

inductive Refilled (name : String) (config : Pairs) : Pairs → Prop
  | same : Refilled name config config
  | put (pairs : Pairs) : Refilled name config (Yaml.put config (.string name) (.mapping pairs))

lemma Refilled.find? {config changed : Pairs} {name other : String} (h : Refilled other config changed)
    (hn : name ≠ other) : Yaml.find? changed name = Yaml.find? config name := by
  cases h with
  | same => rfl
  | put pairs => exact Yaml.find?_put_of_ne hn config _

/-- What a configuration becomes while it is applied: flags are taken out, and sections are made. -/
inductive Stage (config : Pairs) : Pairs → Prop
  | start : Stage config config
  | taken {whole : Pairs} (h : Stage config whole) (name : String) : Stage config (Yaml.without whole name)
  | refilled {whole changed : Pairs} {name : String} (h : Stage config whole) (hc : Refilled name whole changed) :
    Stage config changed

lemma Stage.entered {config whole : Pairs} (h : Stage config whole) (key : String) :
    Stage config (Log.entered whole key) := by
  rw [Log.entered]
  split
  · exact h
  · exact h.refilled (.put [])

lemma Stage.made {config whole : Pairs} (h : Stage config whole) (key : String) :
    Stage config (withMade whole key) := by
  rw [withMade]
  split
  · exact h.refilled (.put _)
  · exact h

lemma Stage.text {config whole : Pairs} {name s : String} (h : Stage config whole)
    (hs : Yaml.find? whole name = some (.string s)) : Yaml.find? config name = some (.string s) := by
  induction h with
  | start => exact hs
  | taken _ other ih => exact ih (Yaml.find?_of_without hs)
  | @refilled _ _ other _ hc ih =>
    refine ih ?_
    by_cases hn : name = other
    · cases hc with
      | same => exact hs
      | put pairs =>
        rw [hn, Yaml.find?_put_self] at hs
        cases hs
    · rwa [← hc.find? hn]

/-- A part of a configuration is a reference that, as far as the configuration is applied, leads to a fault
that nothing stands in for. -/
def Astray (rt : Runtime ε) (config : Pairs) (name : String) : Prop :=
  ∃ s whole, Yaml.find? config name = some (.string s) ∧ Stage config whole ∧ ¬ Falls (valueIn rt whole (.string s))

def partNames : List String :=
  [versionKey, incrementalKey, disableKey, formattersKey, filtersKey, handlersKey, loggersKey, rootKey]

def Direct (rt : Runtime ε) (config : Pairs) : Prop := ∀ name ∈ partNames, ¬ Astray rt config name

lemma Direct.part_falls {config whole pairs : Pairs} {name : String} (h : Direct rt config) (hname : name ∈ partNames)
    (hwhole : Stage config whole) (hpairs : Stage config pairs) : Falls (part rt whole pairs name) := by
  rw [part]
  cases hv : Yaml.find? pairs name with
  | none => exact EndsIn.ok _
  | some v =>
    cases v with
    | string s =>
      by_contra hno
      exact h name hname ⟨s, whole, hpairs.text hv, hwhole, fun hs => hno (hs.map some)⟩
    | _ => exact EndsIn.ok _

lemma Direct.section_falls {config whole : Pairs} (h : Direct rt config) (hwhole : Stage config whole) {key : String}
    (hkey : key ∈ partNames) : Falls (section_ rt whole key) := by
  apply EndsIn.bind (h.part_falls hkey hwhole hwhole)
  intro v
  split
  · exact EndsIn.ok _
  · exact EndsIn.ok _
  · exact EndsIn.ok _
  · split
    · exact EndsIn.error rfl
    · exact EndsIn.ok _
  · exact EndsIn.error rfl

lemma makeAll_falls (what : String) (make : Yaml → Pairs → Except (Halt ε) α) (config pairs : Pairs) :
    Falls (makeAll rt what make config pairs) := by
  induction pairs with
  | nil => exact EndsIn.ok _
  | cons p pairs ih =>
    obtain ⟨name, v⟩ := p
    apply EndsIn.bind (EndsIn.mapError (mild_wrapped rt rfl) _)
    intro a
    exact ih.bind fun rest => EndsIn.ok _

lemma inOrder_falls (pairs : Pairs) : Falls ((inOrder pairs).mapError (Halt.fault (ε := ε))) := by
  rw [inOrder]
  split
  · exact EndsIn.error rfl
  · exact EndsIn.ok _

lemma makeParts_falls {config whole : Pairs} (h : Direct rt config) (hwhole : Stage config whole) :
    Falls (makeParts rt whole) := by
  have hformatters := hwhole.entered formattersKey
  have hfilters := (hformatters.made formattersKey).entered filtersKey
  have hhandlers := (hfilters.made filtersKey).entered handlersKey
  apply EndsIn.bind (h.section_falls hformatters (by decide))
  intro formatters
  apply EndsIn.bind (makeAll_falls _ _ _ _)
  intro formatters
  apply EndsIn.bind (h.section_falls hfilters (by decide))
  intro filters
  apply EndsIn.bind (makeAll_falls _ _ _ _)
  intro filters
  apply EndsIn.bind (h.section_falls hhandlers (by decide))
  intro handlers
  apply EndsIn.bind (inOrder_falls _)
  intro names
  apply EndsIn.bind (makeAll_falls _ _ _ _)
  intro handlers
  exact EndsIn.ok _

lemma stage_of_makeParts {config whole rest : Pairs} {made : Made} (hwhole : Stage config whole)
    (h : makeParts rt whole = .ok (made, rest)) : Stage config rest := by
  obtain ⟨_, -, h⟩ := ok_of_bind h
  obtain ⟨_, -, h⟩ := ok_of_bind h
  obtain ⟨_, -, h⟩ := ok_of_bind h
  obtain ⟨_, -, h⟩ := ok_of_bind h
  obtain ⟨_, -, h⟩ := ok_of_bind h
  obtain ⟨_, -, h⟩ := ok_of_bind h
  obtain ⟨_, -, h⟩ := ok_of_bind h
  rw [← (Prod.mk.inj (Except.ok.inj h)).2]
  have hformatters := hwhole.entered formattersKey
  have hfilters := (hformatters.made formattersKey).entered filtersKey
  have hhandlers := (hfilters.made filtersKey).entered handlersKey
  exact hhandlers.made handlersKey

lemma checkVersion_falls {config : Pairs} (h : Direct rt config) : Falls (checkVersion rt config) := by
  apply EndsIn.bind (h.part_falls (by decide) .start .start)
  intro v
  split
  · exact EndsIn.error rfl
  · split
    · exact EndsIn.ok _
    · exact EndsIn.error rfl

lemma takeFlag_falls {config whole : Pairs} (h : Direct rt config) (hwhole : Stage config whole) {name : String}
    (hname : name ∈ partNames) (default : Bool) : Falls (takeFlag rt whole name default) :=
  (h.part_falls hname (hwhole.taken name) hwhole).map _

lemma stage_of_takeFlag {config whole rest : Pairs} {name : String} {default flag : Bool} (hwhole : Stage config whole)
    (h : takeFlag rt whole name default = .ok (flag, rest)) : Stage config rest := by
  obtain ⟨v, -, hv⟩ := ok_of_map h
  obtain ⟨-, rfl⟩ := Prod.mk.inj hv
  exact hwhole.taken name

end Parts

section Apply

def FallsBack (out : Registry × Option (Halt ε)) : Prop := ∀ h, out.2 = some h → h.Mild

lemma FallsBack.none (r : Registry) : FallsBack (ε := ε) (r, none) := by
  intro h hh
  cases hh

lemma FallsBack.some {h : Halt ε} (hm : h.Mild) (r : Registry) : FallsBack (r, some h) := by
  rintro _ ⟨⟩
  exact hm

lemma applyLoggers_falls (rt : Runtime ε) (f : SetUp ε) (config : Pairs) (r : Registry) (pairs : Pairs) :
    FallsBack (applyLoggers rt f config r pairs) := by
  induction pairs generalizing r with
  | nil => exact FallsBack.none r
  | cons p pairs ih =>
    obtain ⟨name, v⟩ := p
    unfold applyLoggers
    split
    · split
      · exact ih _
      · exact FallsBack.some (mild_wrapped rt rfl _) _
    · have hm : (Halt.fault (unable "logger" name) : Halt ε).Mild := rfl
      exact FallsBack.some hm r

lemma applyRoot_falls {config whole : Pairs} (h : Direct rt config) (hwhole : Stage config whole) (f : SetUp ε)
    (r : Registry) : FallsBack (applyRoot rt f whole r) := by
  rw [applyRoot]
  split
  · next halt hh => exact FallsBack.some (h.part_falls (by decide) hwhole hwhole halt hh) r
  · exact FallsBack.none r
  · split
    · exact FallsBack.none r
    · split
      · intro halt hh
        obtain ⟨raised, -, rfl⟩ := Option.map_eq_some_iff.1 hh
        exact mild_wrapped rt rfl raised
      · have hm : (Halt.fault unableRoot : Halt ε).Mild := rfl
        exact FallsBack.some hm r

lemma applyWhole_falls {config whole : Pairs} (h : Direct rt config) (hwhole : Stage config whole) (r : Registry)
    (disable : Bool) : FallsBack (applyWhole rt r disable whole) := by
  rw [applyWhole]
  split
  · next halt hh => exact FallsBack.some (makeParts_falls h hwhole halt hh) r
  · next made rest hmade =>
    have hrest := (stage_of_makeParts hwhole hmade).entered loggersKey
    simp only
    split
    · next halt hh => exact FallsBack.some (h.section_falls hrest (by decide) halt hh) r
    · next loggers _ =>
      have hloggers := applyLoggers_falls rt (setUpLogger rt made) (entered rest loggersKey) r loggers
      split
      · next r' halt hh =>
        rw [hh] at hloggers
        exact FallsBack.some (hloggers halt rfl) r'
      · exact applyRoot_falls h hrest _ _

lemma applyLevels_falls {config whole : Pairs} (h : Direct rt config) (hwhole : Stage config whole) (r : Registry) :
    FallsBack (applyLevels rt r whole) := by
  have hhandlers := hwhole.entered handlersKey
  have hrest := hhandlers.entered loggersKey
  rw [applyLevels]
  simp only
  split
  · next halt hh => exact FallsBack.some (h.section_falls hhandlers (by decide) halt hh) r
  · refine FallsBack.some ?_ r
    split <;> rfl
  · split
    · next halt hh => exact FallsBack.some (h.section_falls hrest (by decide) halt hh) r
    · next loggers _ =>
      have hloggers :=
        applyLoggers_falls rt (setLoggerLevel rt) (entered (entered whole handlersKey) loggersKey) r loggers
      split
      · next r' halt hh =>
        rw [hh] at hloggers
        exact FallsBack.some (hloggers halt rfl) r'
      · exact applyRoot_falls h hrest _ _

/-- Of all faults only that of a reference that goes astray ends the program when a configuration is applied. -/
theorem configure_falls {config : Pairs} (h : Direct rt config) (r : Registry) : FallsBack (configure rt r config) := by
  rw [configure]
  split
  · next halt hh =>
    refine FallsBack.some ((EndsIn.bind (checkVersion_falls h) fun _ => ?_) halt hh) r
    exact takeFlag_falls h .start (by decide) false
  · next rest hrest =>
    obtain ⟨_, -, htake⟩ := ok_of_bind hrest
    exact applyLevels_falls h (stage_of_takeFlag .start htake) r
  · next rest hrest =>
    obtain ⟨_, -, htake⟩ := ok_of_bind hrest
    have hstage := stage_of_takeFlag .start htake
    split
    · next halt hh => exact FallsBack.some (takeFlag_falls h hstage (by decide) true halt hh) r
    · next disable whole hwhole => exact applyWhole_falls h (stage_of_takeFlag hstage hwhole) r disable

end Apply

section Override

namespace Configuration

variable {c changed : Configuration} {name : String}

def isSection (c : Configuration) (name : String) : Bool :=
  match c.part? name with
  | none | some (.table _) => true
  | some _ => false

lemma values_handled (h : c.isSection name = true) : Handled (c.values name) := by
  rw [values]
  split
  · exact EndsIn.ok _
  · exact EndsIn.ok _
  · next v hne hv =>
    rw [isSection, hv] at h
    cases v with
    | table id => exact absurd rfl (hne id)
    | _ => cases h

end Configuration

def SameParts (h h' : Heap) : Prop :=
  ∀ i name, name ≠ levelKey → Yaml.find? (h'.tables i) name = Yaml.find? (h.tables i) name

namespace SameParts

variable {h h' h'' : Heap}

lemma refl (h : Heap) : SameParts h h := fun _ _ _ => rfl

lemma trans (hs : SameParts h h') (hs' : SameParts h' h'') : SameParts h h'' :=
  fun i name hn => (hs' i name hn).trans (hs i name hn)

lemma putLevel (h : Heap) (id level : ℕ) : SameParts h (h.change id (Log.putLevel level)) := by
  intro i name hn
  by_cases hi : i = id
  · rw [hi, Heap.tables_change_self]
    exact Yaml.find?_put_of_ne hn _ _
  · rw [Heap.tables_change_of_ne h hi]

lemma overrideLogger {level : ℕ} {item : Item} (ho : Log.overrideLogger level h item = .ok h') : SameParts h h' := by
  cases item with
  | table id =>
    obtain rfl := Except.ok.inj ho
    exact putLevel h id level
  | _ => cases ho

lemma overrideHandler {level : ℕ} {item : Item} (ho : Log.overrideHandler level h item = .ok h') : SameParts h h' := by
  cases item with
  | table id =>
    rw [Log.overrideHandler] at ho
    split at ho
    · obtain rfl := Except.ok.inj ho
      exact refl h
    · split at ho
      · obtain rfl := Except.ok.inj ho
        split
        · exact putLevel h id level
        · exact refl h
      · cases ho
  | _ =>
    obtain rfl := Except.ok.inj ho
    exact refl h

lemma foldlM {f : Heap → Item → Except SetupFault Heap} (hf : ∀ {h h' item}, f h item = .ok h' → SameParts h h')
    {items : List Item} (ho : items.foldlM f h = .ok h') : SameParts h h' := by
  induction items generalizing h with
  | nil =>
    obtain rfl := Except.ok.inj ho
    exact refl h
  | cons item items ih =>
    obtain ⟨next, hnext, hrest⟩ := ok_of_bind ho
    exact (hf hnext).trans (ih hrest)

lemma part? (hs : SameParts h h') (top : ℕ) {name : String} (hn : name ≠ levelKey) :
    Configuration.part? ⟨top, h'⟩ name = Configuration.part? ⟨top, h⟩ name := hs top name hn

end SameParts

lemma isSection_handlers {level : ℕ} {c : Configuration} {items : List Item} {h : Heap}
    (ho : items.foldlM (overrideLogger level) c.heap = .ok h) :
    Configuration.isSection ⟨c.top, h⟩ handlersKey = c.isSection handlersKey := by
  have hsame := (SameParts.foldlM SameParts.overrideLogger ho).part? c.top (show handlersKey ≠ levelKey by decide)
  rw [Configuration.isSection, hsame, Configuration.isSection]

lemma resolveLevel_handled (name : String) : Handled (resolveLevel name) := by
  rw [resolveLevel]
  split
  · exact EndsIn.ok _
  · exact EndsIn.error rfl

lemma overrideLogger_handled (level : ℕ) (h : Heap) (item : Item) : Handled (overrideLogger level h item) := by
  cases item with
  | table id => exact EndsIn.ok _
  | _ => exact EndsIn.error rfl

lemma overrideHandler_handled (level : ℕ) (h : Heap) (item : Item) : Handled (overrideHandler level h item) := by
  cases item with
  | table id =>
    rw [overrideHandler]
    split
    · exact EndsIn.ok _
    · split
      · exact EndsIn.ok _
      · exact EndsIn.error rfl
  | _ => exact EndsIn.ok _

namespace Configuration

variable {c changed : Configuration} {name : String}

theorem override_handled (hl : c.isSection loggersKey = true) (hh : c.isSection handlersKey = true) (name : String) :
    Handled (c.override name) := by
  apply EndsIn.bind (resolveLevel_handled name)
  intro level
  apply EndsIn.bind ((values_handled hl).map _)
  intro loggers
  apply EndsIn.bind_of (EndsIn.foldlM (overrideLogger_handled level) _ _)
  intro heap hheap
  apply EndsIn.bind (values_handled ((isSection_handlers hheap).trans hh))
  intro handlers
  exact EndsIn.bind (EndsIn.foldlM (overrideHandler_handled level) _ _) fun heap => EndsIn.ok _

lemma part?_override {level : String} (h : c.override level = .ok changed) (hn : name ≠ levelKey) :
    changed.part? name = c.part? name := by
  obtain ⟨_, -, h⟩ := ok_of_bind h
  obtain ⟨_, -, h⟩ := ok_of_bind h
  obtain ⟨first, hfirst, h⟩ := ok_of_bind h
  obtain ⟨_, -, h⟩ := ok_of_bind h
  obtain ⟨second, hsecond, h⟩ := ok_of_bind h
  obtain rfl := Except.ok.inj h
  have hloggers := SameParts.foldlM SameParts.overrideLogger hfirst
  have hhandlers := SameParts.foldlM SameParts.overrideHandler hsecond
  exact (hloggers.trans hhandlers).part? c.top hn

def hasNoText (c : Configuration) : Bool :=
  partNames.all fun name => match c.part? name with
    | some (.leaf (.string _)) => false
    | _ => true

lemma hasNoText_override {level : String} (hc : c.hasNoText = true) (h : c.override level = .ok changed) :
    changed.hasNoText = true := by
  refine List.all_eq_true.2 fun name hname => ?_
  have hn : name ≠ levelKey := by
    rintro rfl
    exact absurd hname (by decide)
  rw [part?_override h hn]
  exact List.all_eq_true.1 hc name hname

lemma find?_tree (c : Configuration) (name : String) :
    Yaml.find? c.tree name = (c.part? name).map (c.heap.tree c.heap.size) := Yaml.find?_map _ _ name

lemma direct_of_hasNoText (h : c.hasNoText = true) (rt : Runtime ε) : Direct rt c.tree := by
  rintro name hname ⟨s, whole, hs, -⟩
  rw [find?_tree] at hs
  obtain ⟨item, hitem, hs⟩ := Option.map_eq_some_iff.1 hs
  have hno := List.all_eq_true.1 h name hname
  rw [hitem] at hno
  cases item with
  | leaf v =>
    rw [Heap.tree] at hs
    rw [hs] at hno
    cases hno
  | _ => cases hsize : c.heap.size <;> rw [hsize, Heap.tree] at hs <;> cases hs

end Configuration

end Override

section Packaged

section FallBack

variable {q : Request} {r : Registry}

lemma fallBack_of_mild {h : Halt Empty} (hm : h.Mild) (r : Registry) (q : Request) :
    ∃ out, Library.bare.fallBack r q h = .ok out := by
  cases h with
  | fault f =>
    have hf : f.isHandled = true := hm
    have hcaught : (Halt.fault f : Halt Empty).caught? = some f := if_pos hf
    refine ⟨(setUpPlain r q.level?, [fallbackRecord f]), ?_⟩
    rw [Library.fallBack, hcaught]
    rfl
  | other e => cases e

lemma setUp_of_handled {t : Project} (h : Handled (q.config t))
    (hfalls : ∀ path c, q.config t = .ok (path, c) → FallsBack (configure .bare r c.tree)) :
    ∃ out, setUp r t q = .ok out := by
  have hout : ∃ out, Library.bare.setUp r t q = .ok out := by
    rw [Library.setUp]
    split
    · exact ⟨_, rfl⟩
    · split
      · next f hf =>
        have hm : (Halt.fault f : Halt Empty).Mild := h f hf
        exact fallBack_of_mild hm r q
      · next path c hload =>
        have hc := hfalls path c hload
        have happly : Library.bare.apply r c = configure .bare r c.tree := rfl
        rw [happly]
        split
        · exact ⟨_, rfl⟩
        · next before halt hhalt =>
          rw [hhalt] at hc
          exact fallBack_of_mild (hc halt rfl) before q
  obtain ⟨out, hout⟩ := hout
  exact ⟨out, by rw [setUp, hout, Except.mapError]⟩

end FallBack

def packagedPath : Path := ⟨.relative, ["logging.yaml"]⟩

def packagedPlace : Place := configurationDirectory ++ ["logging.yaml"]

lemma place_packaged : resources.place packagedPath = .ok packagedPlace := by decide +kernel

lemma entryAt_packaged : resources.entryAt packagedPlace = some (.file (Text.encodeUtf8 packagedText.toList)) := rfl

lemma resourcePath_packaged : resourcePath "" = .ok packagedPath := by
  have hpath : Path.ofString ("logging" ++ ".yaml") = packagedPath := by decide +kernel
  have hfile : resources.isFile packagedPath = .ok true := by
    rw [Project.isFile, Project.entry?, place_packaged]
    rfl
  have h : (if "".isEmpty then "logging" else "") = "logging" := rfl
  simp only [resourcePath, h, hpath, hfile]

structure Sound (c : Configuration) : Prop where
  loggers : c.isSection loggersKey = true
  handlers : c.isSection handlersKey = true
  text : c.hasNoText = true

def givesSections (s : List Char) : Bool :=
  match Yaml.parse s with
  | .ok (.table top, heap) =>
    let c : Configuration := ⟨top, heap⟩
    c.isSection loggersKey && c.isSection handlersKey && c.hasNoText
  | _ => false

-- The characters are named so that the kernel reads the text without going through its bytes.
set_option maxRecDepth 10000 in
lemma packagedText_chars : ∃ s, packagedText = String.ofList s ∧ '\r' ∉ s ∧ givesSections s = true :=
  ⟨_, rfl, by decide +kernel, by decide +kernel⟩

lemma parseConfig_of_givesSections {s : List Char} (h : givesSections s = true) (path : Path) :
    ∃ c, parseConfig path (String.ofList s) = .ok c ∧ Sound c := by
  rw [givesSections] at h
  rw [parseConfig, String.toList_ofList]
  split at h
  · next top heap hparse =>
    rw [Bool.and_eq_true, Bool.and_eq_true] at h
    rw [hparse]
    exact ⟨⟨top, heap⟩, rfl, h.1.1, h.1.2, h.2⟩
  · cases h

lemma loadConfiguration_packaged : ∃ c, loadConfiguration resources packagedPath = .ok c ∧ Sound c := by
  obtain ⟨s, hs, hr, hsections⟩ := packagedText_chars
  have hchars : packagedText.toList = s := by rw [hs, String.toList_ofList]
  rw [loadConfiguration, Project.readText_eq place_packaged entryAt_packaged (by rwa [hchars]), hs]
  exact parseConfig_of_givesSections hsections packagedPath

lemma config_of_load {q : Request} {path : Path} {c : Configuration} (hq : q.path = none)
    (hpath : resourcePath "" = .ok path) (hload : loadConfiguration resources path = .ok c) (t : Project) :
    q.config t = match q.level? with
      | some level => c.override level >>= fun changed => .ok (path, changed)
      | none => .ok (path, c) := by
  rw [Request.config, hq]
  refine (bind_of_ok hpath _).trans ((bind_of_ok hload _).trans ?_)
  rfl

lemma config_packaged {q : Request} (hq : q.path = none) (t : Project) : ∃ c, Sound c ∧
    q.config t = match q.level? with
      | some level => Configuration.override c level >>= fun changed => .ok (packagedPath, changed)
      | none => .ok (packagedPath, c) := by
  obtain ⟨c, hload, hsound⟩ := loadConfiguration_packaged
  exact ⟨c, hsound, config_of_load hq resourcePath_packaged hload t⟩

lemma handled_packaged {q : Request} (hq : q.path = none) (t : Project) : Handled (q.config t) := by
  obtain ⟨c, hsound, hconfig⟩ := config_packaged hq t
  rw [hconfig]
  split
  · exact EndsIn.bind (Configuration.override_handled hsound.loggers hsound.handlers _) fun changed => EndsIn.ok _
  · exact EndsIn.ok _

lemma direct_packaged {q : Request} (hq : q.path = none) {t : Project} {path : Path} {c : Configuration}
    (h : q.config t = .ok (path, c)) (rt : Runtime ε) : Direct rt c.tree := by
  obtain ⟨packaged, hsound, hconfig⟩ := config_packaged hq t
  rw [hconfig] at h
  apply Configuration.direct_of_hasNoText
  split at h
  · obtain ⟨changed, hchanged, h⟩ := ok_of_bind h
    obtain ⟨-, rfl⟩ := Prod.mk.inj (Except.ok.inj h)
    exact Configuration.hasNoText_override hsound.text hchanged
  · obtain ⟨-, rfl⟩ := Prod.mk.inj (Except.ok.inj h)
    exact hsound.text

theorem setUp_packaged (r : Registry) (t : Project) (level : Option String) :
    ∃ out, setUp r t ⟨none, level, false⟩ = .ok out :=
  setUp_of_handled (handled_packaged rfl t) fun _ _ hconfig => configure_falls (direct_packaged rfl hconfig .bare) r

end Packaged

end ConfigKeeper.Log

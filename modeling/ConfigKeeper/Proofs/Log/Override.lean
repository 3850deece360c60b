import ConfigKeeper.Proofs.Association
import ConfigKeeper.Proofs.Log.SetUp

namespace ConfigKeeper.Log

open Yaml (Heap Item Table)

variable {t : Table} {name other : String} {level a b : ℕ}

section Levels

def levelIn? (t : Table) : Option ℕ := (Yaml.find? t levelKey).bind levelNamedBy?

def NamesLevel (t : Table) : Prop := Yaml.find? t levelKey = none ∨ (levelIn? t).isSome = true

def lowered (level : ℕ) (t : Table) : Table :=
  match levelIn? t with
  | none => t
  | some n => if level < n then putLevel level t else t

lemma mem_levelNames (h : levelNamed? name = some level) : (capitals name, level) ∈ levelNames :=
  Association.mem_of_lookup h

lemma capitals_levelText (h : (name, level) ∈ levelNames) : capitals (levelText level) = levelText level := by
  have hall : ∀ e ∈ levelNames, capitals (levelText e.2) = levelText e.2 := by decide +kernel
  exact hall _ h

lemma levelNamed?_levelText (h : levelNamed? name = some level) : levelNamed? (levelText level) = some level := by
  have hmem := mem_levelNames h
  rw [levelNamed?, capitals_levelText hmem, levelOf?_levelText _ _ hmem]

lemma levelIn?_putLevel (h : levelNamed? name = some level) (t : Table) : levelIn? (putLevel level t) = some level := by
  rw [levelIn?, putLevel, Yaml.find?_put_self]
  exact levelNamed?_levelText h

lemma putLevel_putLevel (a b : ℕ) (t : Table) : putLevel b (putLevel a t) = putLevel b t :=
  Yaml.put_put t levelKey _ _

lemma find?_putLevel_of_ne (hn : name ≠ levelKey) (level : ℕ) (t : Table) :
    Yaml.find? (putLevel level t) name = Yaml.find? t name := Yaml.find?_put_of_ne hn t _

lemma lowered_of_le {n : ℕ} (hn : levelIn? t = some n) (hle : n ≤ level) : lowered level t = t := by
  rw [lowered, hn]
  exact if_neg (Nat.not_lt.2 hle)

lemma lowered_of_none (hn : levelIn? t = none) (level : ℕ) : lowered level t = t := by rw [lowered, hn]

lemma lowered_putLevel (h : levelNamed? name = some level) (t : Table) :
    lowered level (putLevel level t) = putLevel level t := lowered_of_le (levelIn?_putLevel h t) le_rfl

lemma lowered_lowered (h : levelNamed? name = some b) (t : Table) : lowered a (lowered b t) = lowered (min a b) t := by
  cases hn : levelIn? t with
  | none => rw [lowered_of_none hn, lowered_of_none hn, lowered_of_none hn]
  | some n =>
    by_cases hb : b < n
    · have hput : lowered b t = putLevel b t := by simp [lowered, hn, hb]
      rw [hput, lowered, levelIn?_putLevel h, lowered, hn]
      simp only [if_pos (min_lt_of_right_lt hb)]
      split
      · next hab => rw [putLevel_putLevel, min_eq_left hab.le]
      · next hab => rw [min_eq_right (Nat.le_of_not_lt hab)]
    · have hle := Nat.le_of_not_lt hb
      rw [lowered_of_le hn hle]
      by_cases ha : a < n
      · rw [min_eq_left (ha.le.trans hle)]
      · rw [lowered_of_le hn (Nat.le_of_not_lt ha), lowered_of_le hn (le_min (Nat.le_of_not_lt ha) hle)]

lemma lowered_idem (h : levelNamed? name = some level) (t : Table) :
    lowered level (lowered level t) = lowered level t := by
  rw [lowered_lowered h, min_self]

lemma find?_lowered_of_ne (hn : name ≠ levelKey) (level : ℕ) (t : Table) :
    Yaml.find? (lowered level t) name = Yaml.find? t name := by
  rw [lowered]
  split
  · rfl
  · split
    · exact find?_putLevel_of_ne hn level t
    · rfl

lemma levelIn?_lowered (h : levelNamed? name = some level) (t : Table) :
    levelIn? (lowered level t) = (levelIn? t).map (min level) := by
  rw [lowered]
  cases hn : levelIn? t with
  | none => exact hn
  | some n =>
    simp only [Option.map_some]
    split
    · next hlt => rw [levelIn?_putLevel h, min_eq_left hlt.le]
    · next hge => rw [hn, min_eq_right (Nat.le_of_not_lt hge)]

lemma NamesLevel.lowered (h : levelNamed? name = some level) (ht : NamesLevel t) : NamesLevel (lowered level t) := by
  rcases ht with hnone | hsome
  · rw [lowered_of_none (by rw [levelIn?, hnone]; rfl)]
    exact .inl hnone
  · refine .inr ?_
    rw [levelIn?_lowered h, Option.isSome_map, hsome]

lemma namesLevel_putLevel (h : levelNamed? name = some level) (t : Table) : NamesLevel (putLevel level t) :=
  .inr (Option.isSome_of_eq_some (levelIn?_putLevel h t))

/-- A table whose level is this one and in which all else is as it was. -/
structure Levelled (level : ℕ) (old new : Table) : Prop where
  written : Yaml.find? new levelKey = some (.leaf (.string (levelText level)))
  asked : levelIn? new = some level
  others : Yaml.without new levelKey = Yaml.without old levelKey

/-- A table whose level, if it has one, is the lower one of what it was and this one. All else is as it was. -/
structure Lowered (level : ℕ) (old new : Table) : Prop where
  asked : levelIn? new = (levelIn? old).map (min level)
  others : Yaml.without new levelKey = Yaml.without old levelKey
  unlevelled : Yaml.find? old levelKey = none → new = old
  low : ∀ n, levelIn? old = some n → n ≤ level → new = old

lemma levelled_putLevel (h : levelNamed? name = some level) (t : Table) : Levelled level t (putLevel level t) where
  written := Yaml.find?_put_self t levelKey _
  asked := levelIn?_putLevel h t
  others := Yaml.without_put t levelKey _

lemma lowered_lowers (h : levelNamed? name = some level) (t : Table) : Lowered level t (lowered level t) where
  asked := levelIn?_lowered h t
  others := by
    rw [lowered]
    split
    · rfl
    · split
      · exact Yaml.without_put t levelKey _
      · rfl
  unlevelled hnone := lowered_of_none (by rw [levelIn?, hnone]; rfl) level
  low n hn hle := lowered_of_le hn hle

end Levels

section Folds

lemma overrideLoggers_of_tables (level : ℕ) (h : Heap) (ids : List ℕ) :
    (ids.map Item.table).foldlM (overrideLogger level) h = .ok (h.changeAll (putLevel level) ids) := by
  induction ids generalizing h with
  | nil => rfl
  | cons id ids ih => exact ih (h.change id (putLevel level))

lemma overrideHandler_of_namesLevel {h : Heap} {id : ℕ} (hn : NamesLevel (h.tables id)) (level : ℕ) :
    overrideHandler level h (.table id) = .ok (h.change id (lowered level)) := by
  rw [overrideHandler]
  cases hv : Yaml.find? (h.tables id) levelKey with
  | none =>
    have hnone : levelIn? (h.tables id) = none := by rw [levelIn?, hv]; rfl
    rw [Heap.change_of_fixed (lowered_of_none hnone level)]
  | some old =>
    have hold : levelIn? (h.tables id) = levelNamedBy? old := by rw [levelIn?, hv]; rfl
    cases hlevel : levelNamedBy? old with
    | none =>
      rw [NamesLevel, hold, hlevel, hv] at hn
      simp at hn
    | some n =>
      have hn := hold.trans hlevel
      simp only [hlevel]
      split
      · next hlt =>
        have hlowered : lowered level (h.tables id) = putLevel level (h.tables id) := by simp [lowered, hn, hlt]
        rw [Heap.change_congr hlowered]
      · next hge => rw [Heap.change_of_fixed (lowered_of_le hn (Nat.le_of_not_lt hge))]

lemma overrideHandlers_of_namesLevel (hname : levelNamed? name = some level) {h : Heap} {ids : List ℕ}
    (hn : ∀ id ∈ ids, NamesLevel (h.tables id)) :
    (ids.map Item.table).foldlM (overrideHandler level) h = .ok (h.changeAll (lowered level) ids) := by
  induction ids generalizing h with
  | nil => rfl
  | cons id ids ih =>
    obtain ⟨hid, hids⟩ := List.forall_mem_cons.1 hn
    rw [List.map_cons, List.foldlM_cons, bind_of_ok (overrideHandler_of_namesLevel hid level), Heap.changeAll_cons]
    refine ih fun i hi => ?_
    by_cases hsame : i = id
    · rw [hsame, Heap.tables_change_self]
      exact hid.lowered hname
    · rw [Heap.tables_change_of_ne h hsame]
      exact hids i hi

def relevel (level : ℕ) (loggers handlers : List ℕ) (h : Heap) : Heap :=
  (h.changeAll (putLevel level) loggers).changeAll (lowered level) handlers

variable {loggers handlers : List ℕ} {i : ℕ}

lemma tables_relevel (hname : levelNamed? name = some level) (loggers handlers : List ℕ) (h : Heap) (i : ℕ) :
    (relevel level loggers handlers h).tables i =
      if i ∈ loggers then putLevel level (h.tables i)
      else if i ∈ handlers then lowered level (h.tables i) else h.tables i := by
  have hput (t : Table) : putLevel level (putLevel level t) = putLevel level t := putLevel_putLevel _ _ t
  rw [relevel, Heap.tables_changeAll (lowered_idem hname), Heap.tables_changeAll hput]
  by_cases hi : i ∈ loggers
  · rw [if_pos hi, if_pos hi, lowered_putLevel hname, ite_self]
  · rw [if_neg hi, if_neg hi]

lemma tables_relevel_of_logger (hname : levelNamed? name = some level) (hi : i ∈ loggers) (h : Heap) :
    (relevel level loggers handlers h).tables i = putLevel level (h.tables i) := by
  rw [tables_relevel hname, if_pos hi]

lemma tables_relevel_of_handler (hname : levelNamed? name = some level) (hi : i ∉ loggers) (hh : i ∈ handlers)
    (h : Heap) : (relevel level loggers handlers h).tables i = lowered level (h.tables i) := by
  rw [tables_relevel hname, if_neg hi, if_pos hh]

lemma tables_relevel_of_fixed (hname : levelNamed? name = some level) {h : Heap} (hi : i ∉ loggers)
    (hlow : lowered level (h.tables i) = h.tables i) : (relevel level loggers handlers h).tables i = h.tables i := by
  rw [tables_relevel hname, if_neg hi, hlow, ite_self]

lemma relevel_relevel (hname : levelNamed? name = some level) (loggers handlers : List ℕ) (h : Heap) :
    relevel level loggers handlers (relevel level loggers handlers h) = relevel level loggers handlers h := by
  have hloggers : (relevel level loggers handlers h).changeAll (putLevel level) loggers =
      relevel level loggers handlers h :=
    Heap.changeAll_of_fixed fun id hid => by rw [tables_relevel_of_logger hname hid, putLevel_putLevel]
  rw [relevel.eq_1 level loggers handlers (relevel level loggers handlers h), hloggers]
  refine Heap.changeAll_of_fixed fun id hid => ?_
  by_cases hi : id ∈ loggers
  · rw [tables_relevel_of_logger hname hi, lowered_putLevel hname]
  · rw [tables_relevel_of_handler hname hi hid, lowered_idem hname]

end Folds

namespace Configuration

variable {c : Configuration} {loggers handlers : List ℕ}

section Fits

def TableOfTables (c : Configuration) (name : String) : Prop := ∃ ids : List ℕ, c.values name = .ok (ids.map Item.table)

def Holds (c : Configuration) (name : String) (id : ℕ) : Prop :=
  ∃ items, c.values name = .ok items ∧ Item.table id ∈ items

def IsLogger (c : Configuration) (id : ℕ) : Prop := c.Holds loggersKey id ∨ c.part? rootKey = some (.table id)

def IsHandler (c : Configuration) (id : ℕ) : Prop := c.Holds handlersKey id

structure Tabular (c : Configuration) : Prop where
  loggers : c.TableOfTables loggersKey
  handlers : c.TableOfTables handlersKey
  levels : ∀ id, c.IsHandler id → NamesLevel (c.heap.tables id)

/-- The root, if it is there, is a table as well, and no logger is at the same time the table of all loggers or of
all handlers. -/
structure Fits (c : Configuration) : Prop extends Tabular c where
  root : ∀ item, c.part? rootKey = some item → ∃ id, item = .table id
  apart : ∀ name ∈ [loggersKey, handlersKey], ∀ id, c.part? name = some (.table id) → ¬ c.IsLogger id

structure Targets (c : Configuration) (ls hs : List ℕ) : Prop where
  loggers : c.loggers = .ok (ls.map Item.table)
  handlers : c.values handlersKey = .ok (hs.map Item.table)
  isLogger : ∀ id, c.IsLogger id ↔ id ∈ ls
  isHandler : ∀ id, c.IsHandler id ↔ id ∈ hs

lemma holds_iff {ids : List ℕ} (h : c.values name = .ok (ids.map Item.table)) (id : ℕ) :
    c.Holds name id ↔ id ∈ ids := by
  constructor
  · rintro ⟨items, hitems, hid⟩
    obtain rfl := Except.ok.inj (hitems.symm.trans h)
    simpa using hid
  · intro hid
    exact ⟨_, h, List.mem_map_of_mem hid⟩

lemma Fits.targets (h : Fits c) : ∃ loggers handlers, Targets c loggers handlers := by
  obtain ⟨inner, hinner⟩ := h.loggers
  obtain ⟨handlers, hhandlers⟩ := h.handlers
  have hroot : ∃ root : List ℕ, (c.part? rootKey).toList = root.map Item.table ∧
      ∀ id, c.part? rootKey = some (.table id) ↔ id ∈ root := by
    cases hr : c.part? rootKey with
    | none => exact ⟨[], rfl, by simp⟩
    | some item =>
      obtain ⟨id, rfl⟩ := h.root item hr
      exact ⟨[id], rfl, by simp [eq_comm]⟩
  obtain ⟨root, hroot, hmem⟩ := hroot
  refine ⟨inner ++ root, handlers, ?_, hhandlers, fun id => ?_, holds_iff hhandlers⟩
  · rw [Configuration.loggers, hinner, hroot, List.map_append]
    rfl
  · rw [IsLogger, holds_iff hinner, hmem, List.mem_append]

lemma lowered_of_section (h : c.TableOfTables name) {id : ℕ} (hid : c.part? name = some (.table id)) (level : ℕ) :
    lowered level (c.heap.tables id) = c.heap.tables id := by
  apply lowered_of_none
  obtain ⟨ids, hids⟩ := h
  rw [values, hid] at hids
  have hitems : (c.heap.tables id).map Prod.snd = ids.map Item.table := Except.ok.inj hids
  rw [levelIn?, Option.bind_eq_none_iff]
  intro item hitem
  obtain ⟨p, hp, rfl⟩ := Option.map_eq_some_iff.1 hitem
  have hmem : p.2 ∈ ids.map Item.table := hitems ▸ List.mem_map_of_mem (List.mem_of_find?_eq_some hp)
  obtain ⟨inner, -, hinner⟩ := List.mem_map.1 hmem
  rw [← hinner]
  rfl

lemma part?_relevel (hname : levelNamed? name = some level) (hother : other ≠ levelKey) (loggers handlers : List ℕ) :
    part? ⟨c.top, relevel level loggers handlers c.heap⟩ other = c.part? other := by
  rw [part?, tables_relevel hname]
  split
  · exact find?_putLevel_of_ne hother level _
  · split
    · exact find?_lowered_of_ne hother level _
    · rfl

lemma ne_levelKey (h : other ∈ [loggersKey, handlersKey]) : other ≠ levelKey := by
  rcases List.mem_pair.1 h with rfl | rfl <;> decide

lemma values_relevel (hname : levelNamed? name = some level) (h : Fits c) (hother : other ∈ [loggersKey, handlersKey])
    (hloggers : ∀ id, c.IsLogger id ↔ id ∈ loggers) (handlers : List ℕ) :
    values ⟨c.top, relevel level loggers handlers c.heap⟩ other = c.values other := by
  have hsection : c.TableOfTables other := by
    rcases List.mem_pair.1 hother with rfl | rfl
    · exact h.loggers
    · exact h.handlers
  rw [values, part?_relevel hname (ne_levelKey hother), values]
  cases hpart : c.part? other with
  | none => rfl
  | some item =>
    cases item with
    | table id =>
      have hid : id ∉ loggers := fun hmem => h.apart other hother id hpart ((hloggers id).2 hmem)
      simp only [tables_relevel_of_fixed hname hid (lowered_of_section hsection hpart level)]
    | _ => rfl

end Fits

section Override

variable (hname : levelNamed? name = some level) (h : Fits c) (ht : Targets c loggers handlers)

include hname h ht

lemma override_of_fits : c.override name = .ok ⟨c.top, relevel level loggers handlers c.heap⟩ := by
  have hlevel : resolveLevel name = .ok level := by rw [resolveLevel, hname]
  have hvalues : values ⟨c.top, c.heap.changeAll (putLevel level) loggers⟩ handlersKey =
      .ok (handlers.map Item.table) :=
    (values_relevel hname h (by simp) ht.isLogger []).trans ht.handlers
  have hnames : ∀ id ∈ handlers, NamesLevel ((c.heap.changeAll (putLevel level) loggers).tables id) := by
    intro id hid
    rw [Heap.tables_changeAll fun t => putLevel_putLevel level level t]
    split
    · exact namesLevel_putLevel hname _
    · exact h.levels id ((ht.isHandler id).2 hid)
  rw [override, bind_of_ok hlevel, bind_of_ok ht.loggers, bind_of_ok (overrideLoggers_of_tables level _ _),
    bind_of_ok hvalues, bind_of_ok (overrideHandlers_of_namesLevel hname hnames)]
  rfl

lemma Targets.relevel : Targets ⟨c.top, relevel level loggers handlers c.heap⟩ loggers handlers := by
  have hvalues {section_ : String} (hs : section_ ∈ [loggersKey, handlersKey]) :=
    values_relevel hname h hs ht.isLogger handlers
  have hroot := part?_relevel (c := c) hname (show rootKey ≠ levelKey by decide) loggers handlers
  refine ⟨?_, (hvalues (by simp)).trans ht.handlers, fun id => ?_, fun id => ?_⟩
  · rw [Configuration.loggers, hvalues (by simp), hroot]
    exact ht.loggers
  · rw [IsLogger, Holds, hvalues (by simp), hroot]
    exact ht.isLogger id
  · rw [IsHandler, Holds, hvalues (by simp)]
    exact ht.isHandler id

lemma Fits.relevel : Fits ⟨c.top, relevel level loggers handlers c.heap⟩ where
  loggers := by
    obtain ⟨ids, hids⟩ := h.loggers
    exact ⟨ids, (values_relevel hname h (by simp) ht.isLogger handlers).trans hids⟩
  handlers := ⟨handlers, (ht.relevel hname h).handlers⟩
  levels id hid := by
    have hmem := ((ht.relevel hname h).isHandler id).1 hid
    rw [tables_relevel hname, if_pos hmem]
    split
    · exact namesLevel_putLevel hname _
    · exact (h.levels id ((ht.isHandler id).2 hmem)).lowered hname
  root item hitem := by
    rw [part?_relevel hname (by decide)] at hitem
    exact h.root item hitem
  apart other hother id hid hlogger := by
    rw [part?_relevel hname (ne_levelKey hother)] at hid
    exact h.apart other hother id hid ((ht.isLogger id).2 (((ht.relevel hname h).isLogger id).1 hlogger))

end Override

/-- One level is given to all loggers of a configuration and taken as a bound by its handlers. A table that is both is
a logger's. -/
structure Relevelled (level : ℕ) (c changed : Configuration) : Prop where
  top : changed.top = c.top
  lists : changed.heap.lists = c.heap.lists
  loggers : ∀ id, c.IsLogger id → Levelled level (c.heap.tables id) (changed.heap.tables id)
  handlers : ∀ id, ¬ c.IsLogger id → c.IsHandler id → Lowered level (c.heap.tables id) (changed.heap.tables id)
  others : ∀ id, ¬ c.IsLogger id → ¬ c.IsHandler id → changed.heap.tables id = c.heap.tables id
  sameLoggers : ∀ id, changed.IsLogger id ↔ c.IsLogger id
  sameHandlers : ∀ id, changed.IsHandler id ↔ c.IsHandler id

lemma relevelled_relevel (hname : levelNamed? name = some level) (h : Fits c) (ht : Targets c loggers handlers) :
    Relevelled level c ⟨c.top, relevel level loggers handlers c.heap⟩ where
  top := rfl
  lists := (Heap.lists_changeAll _ _ _).trans (Heap.lists_changeAll _ _ _)
  loggers id hid := by
    rw [tables_relevel_of_logger hname ((ht.isLogger id).1 hid)]
    exact levelled_putLevel hname _
  handlers id hno hid := by
    rw [tables_relevel_of_handler hname (fun hl => hno ((ht.isLogger id).2 hl)) ((ht.isHandler id).1 hid)]
    exact lowered_lowers hname _
  others id hno hno' := by
    rw [tables_relevel hname, if_neg fun hl => hno ((ht.isLogger id).2 hl),
      if_neg fun hh => hno' ((ht.isHandler id).2 hh)]
  sameLoggers id := ((ht.relevel hname h).isLogger id).trans (ht.isLogger id).symm
  sameHandlers id := ((ht.relevel hname h).isHandler id).trans (ht.isHandler id).symm

/-- Giving one level to all loggers works on every configuration that fits and changes nothing but levels. Another
time with the same level, however it is named, nothing changes, and two levels may be given in either order as far as
handlers are concerned. -/
theorem override_relevels (hname : levelNamed? name = some level) (h : Fits c) :
    ∃ changed, c.override name = .ok changed ∧ Relevelled level c changed ∧
      (∀ again, levelNamed? again = some level → changed.override again = .ok changed) ∧
      ∀ other b, levelNamed? other = some b → ∃ first second, changed.override other = .ok first ∧
        (c.override other >>= fun changed => changed.override name) = .ok second ∧
        ∀ id, ¬ c.IsLogger id → c.IsHandler id → first.heap.tables id = second.heap.tables id := by
  obtain ⟨loggers, handlers, ht⟩ := h.targets
  refine ⟨_, override_of_fits hname h ht, relevelled_relevel hname h ht, fun again hagain => ?_,
    fun other b hother => ?_⟩
  · rw [override_of_fits hagain (h.relevel hname ht) (ht.relevel hname h), relevel_relevel hname]
  · refine ⟨_, ⟨c.top, relevel level loggers handlers (relevel b loggers handlers c.heap)⟩,
      override_of_fits hother (h.relevel hname ht) (ht.relevel hname h), ?_, fun id hno hid => ?_⟩
    · rw [bind_of_ok (override_of_fits hother h ht)]
      exact override_of_fits hname (h.relevel hother ht) (ht.relevel hother h)
    · have hl : id ∉ loggers := fun hl => hno ((ht.isLogger id).2 hl)
      have hh := (ht.isHandler id).1 hid
      rw [tables_relevel_of_handler hother hl hh, tables_relevel_of_handler hname hl hh,
        tables_relevel_of_handler hname hl hh, tables_relevel_of_handler hother hl hh, lowered_lowered hname,
        lowered_lowered hother, min_comm]

section Tables

def ofTables (ts : List Table) : Configuration where
  top := 0
  heap.tables i := ts.getD i []
  heap.lists _ := []
  heap.size := ts.length

def text (s : String) : Item := .leaf (.string s)

def mixed : Configuration := ofTables [
  [(.string "handlers", .table 1), (.string "loggers", .table 5), (.string "root", .table 7)],
  [(.string "console", .table 2), (.string "file", .table 3), (.string "plain", .table 4)],
  [(.string "level", text "Warn"), (.string "stream", text "ext://sys.stderr")],
  [(.string "level", text "debug")],
  [],
  [(.string "httpx", .table 6), (.string "httpcore", .table 6)],
  [(.string "propagate", .leaf (.bool false))],
  [(.string "level", text "ERROR")]]

lemma targets_mixed : Targets mixed [6, 6, 7] [2, 3, 4] where
  loggers := rfl
  handlers := rfl
  isLogger id := by
    have hvalues : mixed.values loggersKey = .ok ([6, 6].map Item.table) := rfl
    have hroot : mixed.part? rootKey = some (.table 7) := rfl
    rw [IsLogger, holds_iff hvalues, hroot]
    simp [eq_comm]
  isHandler := holds_iff rfl

lemma fits_mixed : Fits mixed where
  loggers := ⟨[6, 6], rfl⟩
  handlers := ⟨[2, 3, 4], rfl⟩
  levels id hid := by
    have hlevels : ∀ id ∈ [2, 3, 4],
        (Yaml.find? (mixed.heap.tables id) levelKey).isNone || (levelIn? (mixed.heap.tables id)).isSome := by
      decide +kernel
    have hid := hlevels id ((targets_mixed.isHandler id).1 hid)
    rwa [Bool.or_eq_true, Option.isNone_iff_eq_none] at hid
  root item hitem := by
    obtain rfl := Option.some.inj hitem
    exact ⟨7, rfl⟩
  apart other hother id hid hlogger := by
    have hmem := (targets_mixed.isLogger id).1 hlogger
    rcases List.mem_pair.1 hother with rfl | rfl
    · obtain rfl := Item.table.inj (Option.some.inj hid)
      simp at hmem
    · obtain rfl := Item.table.inj (Option.some.inj hid)
      simp at hmem

theorem override_relevels_of_mixed :
    levelNamed? "Info" = some infoLevel ∧ Fits mixed ∧
    ∃ changed, mixed.override "Info" = .ok changed ∧ Relevelled infoLevel mixed changed ∧
      (∀ again, levelNamed? again = some infoLevel → changed.override again = .ok changed) ∧
      ∀ other b, levelNamed? other = some b → ∃ first second, changed.override other = .ok first ∧
        (mixed.override other >>= fun changed => changed.override "Info") = .ok second ∧
        ∀ id, ¬ mixed.IsLogger id → mixed.IsHandler id → first.heap.tables id = second.heap.tables id := by
  have hname : levelNamed? "Info" = some infoLevel := by decide +kernel
  exact ⟨hname, fits_mixed, override_relevels hname fits_mixed⟩

lemma tabular_of_values (ls hs : List ℕ) (hl : c.values loggersKey = .ok (ls.map Item.table))
    (hh : c.values handlersKey = .ok (hs.map Item.table))
    (hn : (hs.all fun id => (levelIn? (c.heap.tables id)).isSome) = true) : Tabular c where
  loggers := ⟨ls, hl⟩
  handlers := ⟨hs, hh⟩
  levels id hid := .inr (List.all_eq_true.1 hn id ((holds_iff hh id).1 hid))

lemma override_fails {level : String} (h : (c.override level).isOk = false) :
    ¬ ∃ changed, c.override level = .ok changed := by
  rintro ⟨changed, hchanged⟩
  rw [hchanged] at h
  cases h

lemma override_gives {level : String} {P : Configuration → Prop} [DecidablePred P]
    (h : (c.override level).toOption.any (fun changed => decide (P changed)) = true) :
    ∃ changed, c.override level = .ok changed ∧ P changed := by
  cases hc : c.override level with
  | error f =>
    rw [hc] at h
    cases h
  | ok changed =>
    rw [hc] at h
    exact ⟨changed, rfl, of_decide_eq_true h⟩

def emptyRoot : Configuration := ofTables [
  [(.string "handlers", .table 1), (.string "root", .leaf .null)],
  [(.string "console", .table 2)],
  [(.string "level", text "WARNING")]]

def sharedTable : Configuration := ofTables [
  [(.string "loggers", .table 1), (.string "handlers", .table 2)],
  [(.string "httpx", .table 3)],
  [(.string "console", .table 3)],
  [(.string "level", text "DEBUG")]]

def rootOfLoggers : Configuration := ofTables [
  [(.string "loggers", .table 1), (.string "root", .table 1)],
  []]

def rootOfHandlers : Configuration := ofTables [
  [(.string "handlers", .table 1), (.string "root", .table 1)],
  [(.string "level", .table 2)],
  [(.string "level", text "ERROR")]]

lemma tabular_emptyRoot : Tabular emptyRoot := tabular_of_values [] [2] rfl rfl (by decide +kernel)

lemma tabular_sharedTable : Tabular sharedTable := tabular_of_values [3] [3] rfl rfl (by decide +kernel)

lemma tabular_rootOfLoggers : Tabular rootOfLoggers := tabular_of_values [] [] rfl rfl (by decide +kernel)

lemma tabular_rootOfHandlers : Tabular rootOfHandlers := tabular_of_values [] [2] rfl rfl (by decide +kernel)

/-- That loggers and handlers are tables of tables is not enough: a root that is no table ends it, a handler that
shares its table with a logger becomes less verbose, and where the root is the table of all loggers or of all
handlers, a second time fails or a handler is passed over. -/
theorem override_limits :
    (Tabular emptyRoot ∧ ¬ ∃ changed, emptyRoot.override "INFO" = .ok changed) ∧
    (Tabular sharedTable ∧ sharedTable.IsHandler 3 ∧ levelIn? (sharedTable.heap.tables 3) = some debugLevel ∧
      ∃ changed, sharedTable.override "ERROR" = .ok changed ∧ levelIn? (changed.heap.tables 3) = some errorLevel) ∧
    (Tabular rootOfLoggers ∧
      ∃ changed, rootOfLoggers.override "INFO" = .ok changed ∧ ¬ ∃ again, changed.override "INFO" = .ok again) ∧
    (Tabular rootOfHandlers ∧ rootOfHandlers.IsHandler 2 ∧
      ∃ changed, rootOfHandlers.override "INFO" = .ok changed ∧
        levelIn? (changed.heap.tables 2) = some errorLevel) := by
  have hshared : sharedTable.IsHandler 3 := ⟨[.table 3], rfl, List.mem_singleton_self _⟩
  have hhandlers : rootOfHandlers.IsHandler 2 := ⟨[.table 2], rfl, List.mem_singleton_self _⟩
  refine ⟨⟨tabular_emptyRoot, override_fails ?_⟩, ⟨tabular_sharedTable, hshared, ?_, override_gives ?_⟩,
    ⟨tabular_rootOfLoggers, ?_⟩, tabular_rootOfHandlers, hhandlers, override_gives ?_⟩
  · decide +kernel
  · decide +kernel
  · decide +kernel
  · obtain ⟨changed, hchanged, hagain⟩ : ∃ changed, rootOfLoggers.override "INFO" = .ok changed ∧
        (changed.override "INFO").isOk = false := override_gives (by decide +kernel)
    exact ⟨changed, hchanged, override_fails hagain⟩
  · decide +kernel

end Tables

end Configuration

end ConfigKeeper.Log

import ConfigKeeper.Proofs.Lint.Clean

/-!
A registry over any history of calls. It holds the rules it was started from and those that were registered
since, a name keeps the first rule that was offered under it, and each rule adds its own diagnostics to every
file, whatever other rules there are.
-/

namespace ConfigKeeper.Lint

namespace Registry

inductive Call
  | register (r : Rule)
  | get (name : String)
  | rulesFor (path : String)

inductive Answer
  | registered
  | rule (r : Rule)
  | rules (rs : List Rule)
  | failed (p : Problem)

def call (g : Registry) : Call → Answer × Registry
  | .register r =>
    match g.register r with
    | .ok h => (.registered, h)
    | .error p => (.failed p, g)
  | .get name =>
    match g.get name with
    | .ok r => (.rule r, g)
    | .error p => (.failed p, g)
  | .rulesFor path => (.rules (g.rulesFor path), g)

def after (g : Registry) (calls : List Call) : Registry := calls.foldl (fun g c => (g.call c).2) g

def answers : Registry → List Call → List Answer
  | _, [] => []
  | g, c :: cs => (g.call c).1 :: answers (g.call c).2 cs

def Call.rule? : Call → Option Rule
  | .register r => some r
  | _ => none

def offered (calls : List Call) : List Rule := calls.filterMap Call.rule?

def successes (calls : List Call) (answers : List Answer) : List Rule :=
  (calls.zip answers).filterMap fun
    | (c, .registered) => c.rule?
    | _ => none

def only (r : Rule) : Registry := ⟨[r], List.nodup_singleton _⟩

/-- What holds of a registry that was started from `rules` and got these answers to these calls. -/
structure Lawful (rules : List Rule) (calls : List Call) (answers : List Answer) (h : Registry) : Prop where
  rules_eq : h.rules = rules ++ successes calls answers
  distinct : ((rules ++ successes calls answers).map Rule.name).Nodup
  first : ∀ name, h.get name =
    match (rules ++ offered calls).find? fun r => r.name = name with
    | some r => .ok r
    | none => .error (notRegistered name)
  refused : ∀ r, r.name ∈ h.names → h.call (.register r) = (.failed (alreadyRegistered r.name), h)
  accepted : ∀ r, r.name ∉ h.names → ∃ h', h.call (.register r) = (.registered, h') ∧
    h'.names = h.names ++ [r.name] ∧
    ∀ text file, (lintSource h' text file).value =
      (lintSource h text file).value ++ (lintSource (only r) text file).value
  still : ∀ c, c.rule? = none → (h.call c).2 = h
  applying : ∀ path, (h.rulesFor path).Sublist (rules ++ successes calls answers) ∧
    ∀ r, r ∈ h.rulesFor path ↔ r ∈ rules ++ successes calls answers ∧ r.appliesTo path = true

variable {g h : Registry} {r : Rule} {rules : List Rule} {calls : List Call}

section Calls

lemma register_of_mem (hr : r.name ∈ g.names) : g.register r = .error (alreadyRegistered r.name) := dif_pos hr

lemma register_of_not_mem (hr : r.name ∉ g.names) : ∃ h, g.register r = .ok h ∧ h.rules = g.rules ++ [r] :=
  ⟨_, dif_neg hr, rfl⟩

lemma call_register_of_mem (hr : r.name ∈ g.names) :
    g.call (.register r) = (.failed (alreadyRegistered r.name), g) := by
  rw [call, register_of_mem hr]

lemma call_register_of_not_mem (hr : r.name ∉ g.names) :
    ∃ h, g.call (.register r) = (.registered, h) ∧ h.rules = g.rules ++ [r] := by
  obtain ⟨h, hregister, hrules⟩ := register_of_not_mem hr
  exact ⟨h, by rw [call, hregister], hrules⟩

lemma get_eq (g : Registry) (name : String) : g.get name =
    match g.rules.find? fun r => r.name = name with
    | some r => .ok r
    | none => .error (notRegistered name) := rfl

lemma call_of_no_rule {c : Call} (hc : c.rule? = none) : (g.call c).2 = g := by
  cases c with
  | register r => cases hc
  | get name =>
    rw [call]
    cases g.get name <;> rfl
  | rulesFor path => rfl

lemma find?_skip {known : List Rule} (hr : r.name ∈ known.map Rule.name) (later : List Rule) (name : String) :
    (known ++ r :: later).find? (fun r => r.name = name) = (known ++ later).find? fun r => r.name = name := by
  rw [List.find?_append, List.find?_append]
  cases hfind : known.find? fun r => r.name = name with
  | some s => rfl
  | none =>
    have hne : r.name ≠ name := by
      rintro rfl
      obtain ⟨s, hs, hname⟩ := List.mem_map.1 hr
      exact List.find?_eq_none.1 hfind s hs (decide_eq_true hname)
    rw [List.find?_cons_of_neg (by simpa using hne)]

end Calls

section Histories

lemma call_lawful (g : Registry) (c : Call) (cs : List Call) (answers : List Answer) :
    (g.call c).2.rules ++ successes cs answers = g.rules ++ successes (c :: cs) ((g.call c).1 :: answers) ∧
      ∀ name, ((g.call c).2.rules ++ offered cs).find? (fun r => r.name = name) =
        (g.rules ++ offered (c :: cs)).find? fun r => r.name = name := by
  cases c with
  | register r =>
    by_cases hr : r.name ∈ g.names
    · rw [call_register_of_mem hr]
      exact ⟨rfl, fun name => (find?_skip hr _ name).symm⟩
    · obtain ⟨h, hcall, hrules⟩ := call_register_of_not_mem hr
      rw [hcall, hrules]
      exact ⟨List.append_assoc _ _ _, fun name => by rw [List.append_assoc]; rfl⟩
  | get name =>
    rw [call_of_no_rule rfl]
    refine ⟨?_, fun _ => rfl⟩
    cases (g.call (.get name)).1 <;> rfl
  | rulesFor path => exact ⟨rfl, fun _ => rfl⟩

lemma rules_after (g : Registry) (calls : List Call) :
    (g.after calls).rules = g.rules ++ successes calls (g.answers calls) := by
  induction calls generalizing g with
  | nil => exact (List.append_nil _).symm
  | cons c cs ih => exact (ih _).trans (call_lawful g c cs _).1

lemma find?_after (g : Registry) (calls : List Call) (name : String) :
    (g.after calls).rules.find? (fun r => r.name = name) =
      (g.rules ++ offered calls).find? fun r => r.name = name := by
  induction calls generalizing g with
  | nil => rw [offered, List.filterMap_nil, List.append_nil, after, List.foldl_nil]
  | cons c cs ih => exact (ih _).trans ((call_lawful g c cs []).2 name)

end Histories

section Linting

lemma value_lintSource_append (hrules : h.rules = g.rules ++ [r]) (text file : String) :
    (lintSource h text file).value = (lintSource g text file).value ++ (lintSource (only r) text file).value := by
  rw [value_lintSource, value_lintSource, value_lintSource, rulesFor, hrules, List.filter_append, List.flatMap_append]
  rfl

end Linting

section Starting

lemma rules_of_foldlM (hfold : rules.foldlM register g = .ok h) : h.rules = g.rules ++ rules := by
  induction rules generalizing g with
  | nil =>
    cases hfold
    exact (List.append_nil _).symm
  | cons r rules ih =>
    rw [List.foldlM_cons] at hfold
    by_cases hr : r.name ∈ g.names
    · rw [register_of_mem hr] at hfold
      cases hfold
    · obtain ⟨g', hregister, hrules⟩ := register_of_not_mem hr
      rw [hregister] at hfold
      rw [ih hfold, hrules, List.append_assoc]
      rfl

lemma exists_foldlM (hnodup : ((g.rules ++ rules).map Rule.name).Nodup) : ∃ h, rules.foldlM register g = .ok h := by
  induction rules generalizing g with
  | nil => exact ⟨g, rfl⟩
  | cons r rules ih =>
    have hr : r.name ∉ g.names := by
      rw [List.map_append, List.map_cons] at hnodup
      exact fun hmem => (List.nodup_append.1 hnodup).2.2 _ hmem _ List.mem_cons_self rfl
    obtain ⟨g', hregister, hrules⟩ := register_of_not_mem hr
    rw [List.foldlM_cons, hregister]
    refine ih ?_
    rwa [hrules, List.append_assoc]

lemma exists_repeated (hrepeats : ¬ (rules.map Rule.name).Nodup) : ∃ before r behind,
    rules = before ++ r :: behind ∧ (before.map Rule.name).Nodup ∧ r.name ∈ before.map Rule.name := by
  induction rules using List.reverseRecOn with
  | nil => exact absurd List.nodup_nil hrepeats
  | append_singleton rules r ih =>
    by_cases hfront : (rules.map Rule.name).Nodup
    · refine ⟨rules, r, [], rfl, hfront, ?_⟩
      by_contra hr
      exact hrepeats (nodup_append hfront hr)
    · obtain ⟨before, s, behind, rfl, hnodup, hs⟩ := ih hfront
      exact ⟨before, s, behind ++ [r], by simp, hnodup, hs⟩

lemma ofRules_repeated {before behind : List Rule} (hnodup : (before.map Rule.name).Nodup)
    (hr : r.name ∈ before.map Rule.name) :
    ofRules (before ++ r :: behind) = .error (alreadyRegistered r.name) := by
  obtain ⟨h, hfold⟩ := exists_foldlM (g := empty) hnodup
  have hmem : r.name ∈ h.names := by
    rw [names, rules_of_foldlM hfold]
    exact hr
  rw [ofRules, List.foldlM_append, hfold]
  exact congrArg (· >>= fun g => behind.foldlM register g) (register_of_mem hmem)

lemma lawful_after (hstart : ofRules rules = .ok g) (calls : List Call) :
    Lawful rules calls (g.answers calls) (g.after calls) := by
  obtain rfl : g.rules = rules := rules_of_foldlM hstart
  have hrules := rules_after g calls
  refine ⟨hrules, hrules ▸ (g.after calls).nodup, fun name => ?_, fun r => call_register_of_mem, fun r hr => ?_,
    fun c => call_of_no_rule, fun path => ⟨hrules ▸ List.filter_sublist, fun r => ?_⟩⟩
  · rw [get_eq, find?_after]
  · obtain ⟨h', hcall, hrules'⟩ := call_register_of_not_mem hr
    refine ⟨h', hcall, ?_, value_lintSource_append hrules'⟩
    rw [names, hrules', List.map_append]
    rfl
  · rw [← hrules, rulesFor, List.mem_filter]

end Starting

/-- A list of rules starts a registry if its names are distinct, and else its first repeated name is refused.
Whatever calls follow, the registry stays lawful. -/
theorem history_lawful (rules : List Rule) :
    ((rules.map Rule.name).Nodup → ∃ g, ofRules rules = .ok g) ∧
      (¬ (rules.map Rule.name).Nodup → ∃ before r behind, rules = before ++ r :: behind ∧
        (before.map Rule.name).Nodup ∧ r.name ∈ before.map Rule.name ∧
        ofRules rules = .error (alreadyRegistered r.name)) ∧
      ∀ g, ofRules rules = .ok g → ∀ calls, Lawful rules calls (g.answers calls) (g.after calls) := by
  refine ⟨fun hnodup => exists_foldlM (g := empty) hnodup, fun hrepeats => ?_, fun g => lawful_after⟩
  obtain ⟨before, r, behind, rfl, hnodup, hr⟩ := exists_repeated hrepeats
  exact ⟨before, r, behind, rfl, hnodup, hr, ofRules_repeated hnodup hr⟩

def impostor : Rule := { noEnvInMainConfig with name := noEnvInDevConfig.name }

def impostorCalls : List Call := [.register impostor, .get impostor.name, .register importsAreGuarded]

theorem history_lawful_of_impostor :
    (∃ p, ofRules [noEnvInDevConfig, impostor] = .error p) ∧
      ∃ g, ofRules [noEnvInDevConfig] = .ok g ∧
        Lawful [noEnvInDevConfig] impostorCalls (g.answers impostorCalls) (g.after impostorCalls) ∧
        (g.after impostorCalls).get impostor.name = .ok noEnvInDevConfig := by
  obtain ⟨-, hrefused, -⟩ := history_lawful [noEnvInDevConfig, impostor]
  obtain ⟨-, r, -, -, -, -, hr⟩ := hrefused (by decide)
  obtain ⟨hstarts, -, hlawful⟩ := history_lawful [noEnvInDevConfig]
  obtain ⟨g, hg⟩ := hstarts (by decide)
  have h := hlawful g hg impostorCalls
  exact ⟨⟨_, hr⟩, g, hg, h, h.first _⟩

end Registry

end ConfigKeeper.Lint

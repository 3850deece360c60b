import ConfigKeeper.Lint.Workers
import ConfigKeeper.Proofs.Lint.Clean

/-!
What a pool returns is settled by its tasks alone: whenever it comes to rest, its results are those of the
tasks in order, up to the first failure. It always comes to rest.
-/

namespace ConfigKeeper.Lint

namespace Pool

variable {α ε β : Type} {work : α → Except ε β} {workers : ℕ} {tasks : List α} {s u : Pool α ε β}
  {front back : List (α × Stage ε β)} {a : α} {old stage : Stage ε β}

/-- What holds of a pool at any time. What is done is what the work gives, the results that were taken are
those of the first tasks, and the next task is the one whose failure was read. -/
structure Sound (work : α → Except ε β) (tasks : List α) (s : Pool α ε β) : Prop where
  keys : s.slots.map Prod.fst = tasks
  done : ∀ a r, (a, Stage.done r) ∈ s.slots → r = work a
  taken : (tasks.take s.taken.length).map work = s.taken.map .ok
  failure : ∀ e, s.failure = some e → ∃ a, tasks[s.taken.length]? = some a ∧ work a = .error e
  cancelled : s.failure = none → ∀ a, (a, Stage.cancelled) ∉ s.slots

lemma sound_start (work : α → Except ε β) (tasks : List α) : Sound work tasks (start tasks) where
  keys := by
    rw [start, List.map_map]
    exact List.map_id tasks
  done := by simp [start]
  taken := rfl
  failure := by simp [start]
  cancelled := by simp [start]

namespace Sound

lemma put (h : Sound work tasks s) (hslots : s.slots = front ++ (a, old) :: back)
    (hdone : ∀ r, stage = .done r → r = work a) (hcancel : s.failure = none → stage ≠ .cancelled) :
    Sound work tasks (s.put front a stage back) where
  keys := by
    rw [← h.keys, hslots]
    simp [Pool.put]
  done b r hb := by
    rw [Pool.put, List.mem_append, List.mem_cons, Prod.mk.injEq] at hb
    rcases hb with hb | ⟨rfl, hr⟩ | hb
    · exact h.done b r (by simp [hslots, hb])
    · exact hdone r hr.symm
    · exact h.done b r (by simp [hslots, hb])
  taken := h.taken
  failure := h.failure
  cancelled hf b hb := by
    rw [Pool.put, List.mem_append, List.mem_cons, Prod.mk.injEq] at hb
    rcases hb with hb | ⟨-, hs⟩ | hb
    · exact h.cancelled hf b (by simp [hslots, hb])
    · exact hcancel hf hs.symm
    · exact h.cancelled hf b (by simp [hslots, hb])

lemma next {r : Except ε β} (h : Sound work tasks s) (hnext : s.slots[s.taken.length]? = some (a, .done r)) :
    tasks[s.taken.length]? = some a ∧ r = work a := by
  refine ⟨?_, h.done a r (List.mem_of_getElem? hnext)⟩
  rw [← h.keys, List.getElem?_map, hnext]
  rfl

lemma step (h : Sound work tasks s) (hs : Step work workers s u) : Sound work tasks u := by
  cases hs with
  | submit hslots _ => exact h.put hslots (by simp) (by simp)
  | begin hslots _ _ => exact h.put hslots (by simp) (by simp)
  | finish hslots => exact h.put hslots (fun r hr => (Stage.done.inj hr).symm) (by simp)
  | cancel hfailed hslots => exact h.put hslots (by simp) (fun hf => by simp [hf] at hfailed)
  | fail _ _ hnext =>
    obtain ⟨hnext, hwork⟩ := h.next hnext
    refine ⟨h.keys, h.done, h.taken, ?_, by simp⟩
    rintro e ⟨⟩
    exact ⟨_, hnext, hwork.symm⟩
  | read _ hreading hnext =>
    obtain ⟨hnext, hwork⟩ := h.next hnext
    refine ⟨h.keys, h.done, ?_, by simp [hreading], h.cancelled⟩
    rw [List.length_append, List.length_singleton, List.take_add_one, hnext, List.map_append, h.taken,
      List.map_append]
    simp [hwork]

lemma reaches (h : Sound work tasks s) (hr : Reaches work workers s u) : Sound work tasks u := by
  induction hr with
  | refl => exact h
  | next _ hstep ih => exact ih.step hstep

end Sound

theorem outcome_of_finished (h : Sound work tasks s) (hf : s.Finished) : s.outcome = tasks.mapM work := by
  rw [outcome]
  cases hfailure : s.failure with
  | none =>
    have hlength : s.taken.length = tasks.length := by
      rw [hf.read hfailure, ← h.keys, List.length_map]
    have htaken := h.taken
    rw [hlength, List.take_length] at htaken
    exact (mapM_of_map htaken).symm
  | some e =>
    obtain ⟨a, hnext, hwork⟩ := h.failure e hfailure
    obtain ⟨hlt, hget⟩ := List.getElem?_eq_some_iff.1 hnext
    have hsplit : tasks = tasks.take s.taken.length ++ a :: tasks.drop (s.taken.length + 1) := by
      rw [← hget, ← List.drop_eq_getElem_cons hlt, List.take_append_drop]
    rw [hsplit, List.mapM_append, mapM_of_map h.taken, List.mapM_cons, hwork]
    rfl

def weight : α × Stage ε β → ℕ
  | (_, .unsent) => 3
  | (_, .waiting) => 2
  | (_, .running) => 1
  | (_, .done _) => 0
  | (_, .cancelled) => 0

def left (s : Pool α ε β) : ℕ :=
  (s.slots.map weight).sum + (s.slots.length - s.taken.length) + (if s.failure.isSome then 0 else 1)

lemma left_put (hslots : s.slots = front ++ (a, old) :: back) (hw : weight (a, stage) < weight (a, old)) :
    (s.put front a stage back).left < s.left := by
  rw [left, left, put, hslots]
  simp only [List.map_append, List.map_cons, List.sum_append, List.sum_cons, List.length_append, List.length_cons]
  omega

lemma left_step (h : Step work workers s u) : u.left < s.left := by
  cases h with
  | submit hslots _ => exact left_put hslots (by simp [weight])
  | begin hslots _ _ => exact left_put hslots (by simp [weight])
  | finish hslots => exact left_put hslots (by simp [weight])
  | cancel _ hslots => exact left_put hslots (by simp [weight])
  | read _ hreading hnext =>
    have hlt := (List.getElem?_eq_some_iff.1 hnext).1
    rw [left, left]
    simp only [List.length_append, List.length_singleton]
    omega
  | fail _ hreading _ =>
    rw [left, left]
    simp [hreading]

lemma exists_first {xs : List α} {p : α → Prop} (h : ∃ x ∈ xs, p x) :
    ∃ front x back, xs = front ++ x :: back ∧ p x ∧ ∀ y ∈ front, ¬ p y := by
  classical
  obtain ⟨x, hx⟩ := Option.isSome_iff_exists.1 (List.find?_isSome.2 (by simpa using h) : (xs.find? (p ·)).isSome)
  obtain ⟨hp, front, back, hxs, hfront⟩ := List.find?_eq_some_iff_append.1 hx
  exact ⟨front, x, back, hxs, by simpa using hp, fun y hy => by simpa using hfront y hy⟩

lemma length_taken_le (h : Sound work tasks s) : s.taken.length ≤ s.slots.length := by
  have hlength := congrArg List.length h.taken
  rw [List.length_map, List.length_map, List.length_take, ← h.keys, List.length_map] at hlength
  omega

lemma exists_reading (h : Sound work tasks s) (hreading : s.failure = none)
    (hstill : ∀ x ∈ s.slots, x.2 ≠ .unsent ∧ x.2 ≠ .waiting ∧ x.2 ≠ .running)
    (hlt : s.taken.length < s.slots.length) : ∃ u, Step work workers s u := by
  have hsent : ∀ x ∈ s.slots, x.2 ≠ .unsent := fun x hx => (hstill x hx).1
  obtain ⟨⟨a, stage⟩, hx⟩ : ∃ x, s.slots[s.taken.length] = x := ⟨_, rfl⟩
  have hnext : s.slots[s.taken.length]? = some (a, stage) := List.getElem?_eq_some_iff.2 ⟨hlt, hx⟩
  have hmem := List.mem_of_getElem? hnext
  cases stage with
  | unsent => exact absurd rfl (hstill _ hmem).1
  | waiting => exact absurd rfl (hstill _ hmem).2.1
  | running => exact absurd rfl (hstill _ hmem).2.2
  | cancelled => exact absurd hmem (h.cancelled hreading a)
  | done r =>
    cases r with
    | ok b => exact ⟨_, .read hsent hreading hnext⟩
    | error e => exact ⟨_, .fail hsent hreading hnext⟩

lemma exists_step (h : Sound work tasks s) (hw : 0 < workers) (hn : ¬ s.Finished) : ∃ u, Step work workers s u := by
  by_cases hunsent : ∃ x ∈ s.slots, x.2 = .unsent
  · obtain ⟨front, ⟨a, -⟩, back, hslots, rfl, hfront⟩ := exists_first hunsent
    exact ⟨_, .submit hslots hfront⟩
  by_cases hrunning : ∃ x ∈ s.slots, x.2 = .running
  · obtain ⟨front, ⟨a, -⟩, back, hslots, rfl, -⟩ := exists_first hrunning
    exact ⟨_, .finish hslots⟩
  have hidle : ∀ x ∈ s.slots, x.2 ≠ .running := fun x hx he => hrunning ⟨x, hx, he⟩
  by_cases hwaiting : ∃ x ∈ s.slots, x.2 = .waiting
  · obtain ⟨front, ⟨a, -⟩, back, hslots, rfl, hfront⟩ := exists_first hwaiting
    have hfree : s.slots.countP isRunning = 0 := by
      rw [List.countP_eq_zero]
      rintro ⟨b, stage⟩ hb hrun
      cases stage with
      | running => exact hidle _ hb rfl
      | _ => cases hrun
    exact ⟨_, .begin hslots hfront (hfree ▸ hw)⟩
  have hstill : ∀ x ∈ s.slots, x.2 ≠ .unsent ∧ x.2 ≠ .waiting ∧ x.2 ≠ .running :=
    fun x hx => ⟨fun he => hunsent ⟨x, hx, he⟩, fun he => hwaiting ⟨x, hx, he⟩, hidle x hx⟩
  -- nothing is under way, so it is the reader's turn
  cases hfailure : s.failure with
  | some e => exact absurd ⟨hstill, by simp [hfailure]⟩ hn
  | none =>
    have hne : s.taken.length ≠ s.slots.length := fun he => hn ⟨hstill, fun _ => he⟩
    exact exists_reading h hfailure hstill (lt_of_le_of_ne (length_taken_le h) hne)

lemma exists_finished (h : Sound work tasks s) (hw : 0 < workers) : ∃ u, Reaches work workers s u ∧ u.Finished := by
  have hgoal : ∀ n u, u.left = n → Reaches work workers s u → ∃ v, Reaches work workers s v ∧ v.Finished := by
    intro n
    induction n using Nat.strong_induction_on with
    | _ n ih =>
      intro u hn hu
      by_cases hf : u.Finished
      · exact ⟨u, hu, hf⟩
      · obtain ⟨v, hv⟩ := exists_step (h.reaches hu) hw hf
        exact ih v.left (hn ▸ left_step hv) v rfl (hu.next hv)
  exact hgoal _ s rfl .refl

end Pool

end ConfigKeeper.Lint

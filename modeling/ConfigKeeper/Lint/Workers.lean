import ConfigKeeper.Lint.Engine

/-!
Linting on several threads. Tasks are handed to a pool in order, workers take the first that waits, and
results are read in the order of the tasks. The first failure that is read ends the run, and what still
waits is cancelled.
-/

namespace ConfigKeeper.Lint

inductive Stage (ε β : Type)
  | unsent
  | waiting
  | running
  | done (outcome : Except ε β)
  | cancelled

structure Pool (α ε β : Type) where
  slots : List (α × Stage ε β)
  taken : List β
  failure : Option ε

namespace Pool

variable {α ε β : Type}

def start (tasks : List α) : Pool α ε β := ⟨tasks.map fun a => (a, .unsent), [], none⟩

def isRunning : α × Stage ε β → Bool
  | (_, .running) => true
  | _ => false

def put (s : Pool α ε β) (front : List (α × Stage ε β)) (a : α) (stage : Stage ε β)
    (back : List (α × Stage ε β)) : Pool α ε β :=
  { s with slots := front ++ (a, stage) :: back }

inductive Step (work : α → Except ε β) (workers : Nat) : Pool α ε β → Pool α ε β → Prop
  | submit {s front a back} (h : s.slots = front ++ (a, .unsent) :: back)
      (first : ∀ x ∈ front, x.2 ≠ .unsent) : Step work workers s (s.put front a .waiting back)
  | begin {s front a back} (h : s.slots = front ++ (a, .waiting) :: back)
      (first : ∀ x ∈ front, x.2 ≠ .waiting) (free : s.slots.countP isRunning < workers) :
      Step work workers s (s.put front a .running back)
  | finish {s front a back} (h : s.slots = front ++ (a, .running) :: back) :
      Step work workers s (s.put front a (.done (work a)) back)
  | read {s a b} (sent : ∀ x ∈ s.slots, x.2 ≠ .unsent) (reading : s.failure = none)
      (h : s.slots[s.taken.length]? = some (a, .done (.ok b))) :
      Step work workers s { s with taken := s.taken ++ [b] }
  | fail {s a e} (sent : ∀ x ∈ s.slots, x.2 ≠ .unsent) (reading : s.failure = none)
      (h : s.slots[s.taken.length]? = some (a, .done (.error e))) :
      Step work workers s { s with failure := some e }
  | cancel {s front a back} (failed : s.failure.isSome)
      (h : s.slots = front ++ (a, .waiting) :: back) : Step work workers s (s.put front a .cancelled back)

inductive Reaches (work : α → Except ε β) (workers : Nat) (s : Pool α ε β) : Pool α ε β → Prop
  | refl : Reaches work workers s s
  | next {u v} (h : Reaches work workers s u) (step : Step work workers u v) : Reaches work workers s v

structure Finished (s : Pool α ε β) : Prop where
  still : ∀ x ∈ s.slots, x.2 ≠ .unsent ∧ x.2 ≠ .waiting ∧ x.2 ≠ .running
  read : s.failure = none → s.taken.length = s.slots.length

def outcome (s : Pool α ε β) : Except ε (List β) :=
  match s.failure with
  | some e => .error e
  | none => .ok s.taken

end Pool

def lintTask (g : Registry) (t : Project) (file : Path) : Except Failure FileResult := (lintOne g t file).value

inductive Answers (g : Registry) (t : Project) (workers : Nat) (files : List Path) : Except Failure Report → Prop
  | serial (h : workers ≤ 1 ∨ files.length ≤ 1) : Answers g t workers files (lintPaths g t files).value
  | pooled {s : Pool Path Failure FileResult} (several : 1 < workers) (more : 1 < files.length)
      (h : Pool.Reaches (lintTask g t) workers (Pool.start files) s) (finished : s.Finished) :
      Answers g t workers files (s.outcome.map fun results => Report.ofResults g (files.zip results))

end ConfigKeeper.Lint

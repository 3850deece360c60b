import ConfigKeeper.Store.Memory
import Mathlib.Tactic

namespace ConfigKeeper

inductive Exchange
  | fetch (token group : String) (answer : Except Failure Group)
  | update (token group : String) (data : Group) (answer : Except Failure Unit)
deriving DecidableEq

def Exchange.isUpdate : Exchange → Bool
  | .fetch _ _ _ => false
  | .update _ _ _ _ => true

def updates (transcript : List Exchange) : List Exchange := transcript.filter Exchange.isUpdate

@[simp] lemma updates_append (xs ys : List Exchange) : updates (xs ++ ys) = updates xs ++ updates ys :=
  List.filter_append ..

@[simp] lemma updates_fetch (token group : String) (answer : Except Failure Group) :
    updates [.fetch token group answer] = [] := rfl

@[simp] lemma updates_update (token group : String) (data : Group) (answer : Except Failure Unit) :
    updates [.update token group data answer] = [.update token group data answer] := rfl

namespace SecretStore

variable {σ : Type}

def transcribed (store : SecretStore σ) : SecretStore (σ × List Exchange) where
  fetch s token group :=
    let (answer, next) := store.fetch s.1 token group
    (answer, next, s.2 ++ [.fetch token group answer.value])
  update s token group data :=
    let (answer, next) := store.update s.1 token group data
    (answer, next, s.2 ++ [.update token group data answer.value])

end SecretStore

end ConfigKeeper

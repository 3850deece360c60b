import ConfigKeeper.Store.Basic

/-!
A store that keeps a list of what it was asked. It answers as the store it wraps, and each operation
adds one call to the list.
-/

namespace ConfigKeeper

inductive StoreCall
  | fetch (token group : String)
  | update (token group : String) (data : Group)
deriving DecidableEq, Repr

namespace SecretStore

variable {σ : Type}

def recorded (store : SecretStore σ) : SecretStore (σ × List StoreCall) where
  fetch s token group :=
    let (answer, next) := store.fetch s.1 token group
    (answer, next, s.2 ++ [.fetch token group])
  update s token group data :=
    let (answer, next) := store.update s.1 token group data
    (answer, next, s.2 ++ [.update token group data])

end SecretStore

end ConfigKeeper

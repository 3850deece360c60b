namespace ConfigKeeper.Log

def debugLevel : Nat := 10
def infoLevel : Nat := 20
def warningLevel : Nat := 30
def errorLevel : Nat := 40
def criticalLevel : Nat := 50

structure Record where
  level : Nat
  source : String
  text : String
deriving DecidableEq, Repr

end ConfigKeeper.Log

namespace ConfigKeeper

structure Logged (α : Type) where
  value : α
  records : List Log.Record
deriving Repr

namespace Logged

variable {α β : Type}

def pure (a : α) : Logged α := ⟨a, []⟩

def bind (x : Logged α) (f : α → Logged β) : Logged β :=
  ⟨(f x.value).value, x.records ++ (f x.value).records⟩

instance : Monad Logged where
  pure := Logged.pure
  bind := Logged.bind

def write (level : Nat) (source text : String) : Logged Unit := ⟨(), [⟨level, source, text⟩]⟩

def debug (source text : String) : Logged Unit := write Log.debugLevel source text

def info (source text : String) : Logged Unit := write Log.infoLevel source text

def warn (source text : String) : Logged Unit := write Log.warningLevel source text

theorem value_pure (a : α) : (Pure.pure a : Logged α).value = a := rfl

theorem value_bind (x : Logged α) (f : α → Logged β) : (x >>= f).value = (f x.value).value := rfl

theorem records_bind (x : Logged α) (f : α → Logged β) :
    (x >>= f).records = x.records ++ (f x.value).records := rfl

end Logged

end ConfigKeeper

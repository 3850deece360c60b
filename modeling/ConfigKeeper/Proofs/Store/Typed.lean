import ConfigKeeper.Proofs.Store.Wire

namespace ConfigKeeper.Vault

variable {σ α β : Type} {codecs : Text.Codecs} {carry : Transport σ} {base token group method body : String}
  {contentType : Option String} {reply : Reply}

def Typed (r : Except Failure α) : Prop := ∀ f, r = .error f → ∃ p : Problem, f = .problem p ∧ p.isStore = true

section Outcome

lemma Typed.ok (x : α) : Typed (.ok x : Except Failure α) := by
  intro f hf
  cases hf

lemma Typed.problem {p : Problem} (h : p.isStore = true) : Typed (.error (.problem p) : Except Failure α) := by
  rintro f ⟨⟩
  exact ⟨p, rfl, h⟩

end Outcome

section Requests

end Requests

example : ((store "https://vault.test:8200" fun (s : Unit) _ => (.answered 500 (some "utf-16") [0x6e, 0x6f], s)).fetch
    () "t" "a/b").1.value = .error (.unexpected "UnicodeError" "UTF-16 stream does not start with BOM") := by
  decide +kernel

end ConfigKeeper.Vault

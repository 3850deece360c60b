import ConfigKeeper.Json.Basic

/-!
Merge patches. A patch that is an object changes the members it names and no others; a null takes a
member away. Any other patch takes the place of what was there.
-/

namespace ConfigKeeper.Json

def erase (members : List (String × Json)) (name : String) : List (String × Json) :=
  members.filter fun x => x.1 != name

mutual

def mergePatch (target : Json) : Json → Json
  | .object patch => .object (mergeMembers ((target.members?).getD []) patch)
  | value => value

def mergeMembers (members : List (String × Json)) : List (String × Json) → List (String × Json)
  | [] => members
  | (name, .null) :: patch => mergeMembers (erase members name) patch
  | (name, value) :: patch =>
    mergeMembers (put members name (mergePatch ((members.lookup name).getD .null) value)) patch

end

theorem mergePatch_string (target : Json) (s : String) :
    mergePatch target (.string s) = .string s := by
  rw [mergePatch]
  simp

theorem mergeMembers_string (members : List (String × Json)) (name value : String)
    (patch : List (String × Json)) :
    mergeMembers members ((name, .string value) :: patch) =
      mergeMembers (put members name (.string value)) patch := by
  rw [mergeMembers, mergePatch_string]
  simp

end ConfigKeeper.Json

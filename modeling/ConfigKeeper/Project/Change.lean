import ConfigKeeper.Project.Tree

namespace ConfigKeeper.Project

def files (t : Project) : List (Place × List UInt8) :=
  t.entries.filterMap fun
    | (place, .file content) => some (place, content)
    | (_, .directory) => none

def removed (before after : Project) : List Place :=
  (before.files.filter fun f => (after.files.lookup f.1).isNone).map Prod.fst

def written (before after : Project) : List (Place × List UInt8) :=
  after.files.filter fun f => before.files.lookup f.1 != some f.2

def changes (before after : Project) : List (Place × Option (List UInt8)) :=
  (removed before after).map (fun p => (p, none)) ++
    (written before after).map fun f => (f.1, some f.2)

end ConfigKeeper.Project

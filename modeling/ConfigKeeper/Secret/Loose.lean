import ConfigKeeper.Secret.Info
import ConfigKeeper.Validation

namespace ConfigKeeper

namespace Annotation

def recordName : String := "SecretAnnotation"

def ofMembers (ms : List (String × Json)) : Checked Annotation :=
  let text (name : String) := Checked.required ms name Checked.string
  match text "key", text "source", text "engine", text "secret_path", text "secret_name",
    text "destination_file", text "raw" with
  | .ok key, .ok source, .ok engine, .ok path, .ok name, .ok destination, .ok raw =>
    .ok ⟨key, ⟨source, engine, path, name⟩, destination, raw⟩
  | key, source, engine, path, name, destination, raw =>
    .error ([key, source, engine, path, name, destination, raw].flatMap Checked.violations)

end Annotation

namespace SecretInfo

def recordName : String := "SecretInfo"

def ofLoose (a : Annotation) (provider kind file : Json) (key : Option Json) : Checked SecretInfo :=
  let key := Checked.string [.field "key"] (key.getD (.string a.raw))
  let provider := Checked.string [.field "provider"] provider
  let kind := Checked.string [.field "kind"] kind
  let file := Checked.path [.field "annotated_file"] file
  match key, provider, kind, file with
  | .ok key, .ok provider, .ok kind, .ok file =>
    .ok (.annotated a provider kind (Path.ofString file) (some key))
  | key, provider, kind, file =>
    .error ([key, provider, kind, file].flatMap Checked.violations)

end SecretInfo

end ConfigKeeper

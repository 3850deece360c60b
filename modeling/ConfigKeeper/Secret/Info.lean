import ConfigKeeper.Path
import ConfigKeeper.Secret.Annotation

namespace ConfigKeeper

structure SecretInfo where
  key : String
  locator : Locator
  destination : String
  raw : String
  provider : String
  kind : String
  annotatedFile : Path
deriving DecidableEq, Repr

namespace SecretInfo

def annotated (a : Annotation) (provider kind : String) (file : Path) (key : Option String) :
    SecretInfo where
  key := key.getD a.raw
  locator := a.locator
  destination := a.destination
  raw := a.raw
  provider := provider
  kind := kind
  annotatedFile := file

def groupPath (i : SecretInfo) : String := i.locator.path

def name (i : SecretInfo) : String := i.locator.name

def localPath (i : SecretInfo) : Path := i.annotatedFile.parent.join (Path.ofString i.destination)

end SecretInfo

end ConfigKeeper

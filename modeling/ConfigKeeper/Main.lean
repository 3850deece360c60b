import ConfigKeeper.Calendar.Moment
import ConfigKeeper.CommandLine.Run
import ConfigKeeper.Project.Change
import Std.Time.Zoned

/-!
The command line. The files below the working directory are read first; a run of the program is a
pure function of them, and what it changed is written back. No connections are made, so a store is
always out of reach and only `lint` comes to its end.
-/

namespace ConfigKeeper.CommandLine

def noConnection : Vault.Transport Unit :=
  fun s _ => (.unreachable "connections are not supported", s)

def diskPath (place : Place) : String := "/" ++ "/".intercalate place

def placeOf (path : String) : Place := (Path.ofString path).names

def ancestors (place : Place) : List (Place × Entry) :=
  (List.range (place.length + 1)).map fun n => (place.take n, .directory)

partial def readTree (place : Place) : IO (List (Place × Entry)) := do
  try
    let here ← IO.FS.realPath (diskPath place)
    if ← here.isDir then
      let mut found := [(place, .directory)]
      for item in ← here.readDir do
        unless (← item.path.symlinkMetadata).type matches .symlink do
          found := found ++ (← readTree (place ++ [item.fileName]))
      return found
    else
      return [(place, .file (← IO.FS.readBinFile here).toList)]
  catch _ => return []

def readProject (words : List String) : IO Project := do
  let here := placeOf (← IO.currentDir).toString
  let mut entries := ancestors here ++ (← readTree here)
  for word in words do
    try
      let place := placeOf (← IO.FS.realPath word).toString
      unless here.isPrefixOf place do
        entries := entries ++ ancestors place.dropLast ++ (← readTree place)
    catch _ => pure ()
  return ⟨here, entries⟩

/-- The variables of the process. What stands in a `.env` file is to be loaded into it beforehand. -/
def readEnvironment : IO Environment := do
  let mut found := []
  for name in Settings.variableNames do
    if let some value ← IO.getEnv name then found := found ++ [(name, value)]
  return found

def readWidth : IO Nat := do
  return ((← IO.getEnv "COLUMNS").bind String.toNat?).getD 80

def writeChange : Place × Option (List UInt8) → IO Unit
  | (place, none) => IO.FS.removeFile (diskPath place)
  | (place, some content) => do
    IO.FS.createDirAll (diskPath place.dropLast)
    IO.FS.writeBinFile (diskPath place) ⟨content.toArray⟩

def timeStamp : IO String := do
  let t ← Std.Time.PlainDateTime.now
  let day : Day := ⟨t.date.year.toNat, t.date.month.toNat, t.date.day.toNat⟩
  let clock : Clock := ⟨t.time.hour.toNat, t.time.minute.toNat, t.time.second.toNat, 0⟩
  return (Moment.both day clock none).text

def report (f : Finish Unit) : IO Unit := do
  for line in f.printed do IO.println (String.ofList line)
  let time ← timeStamp
  for record in f.records do
    for line in f.loggers.lines .standardError time record do IO.eprintln line

def runOnDisk (words : List String) : IO UInt32 := do
  let project ← readProject words
  let s : Surroundings Unit :=
    ⟨project, ← readEnvironment, ← readWidth, "", noConnection, (), .unicode,
      fun _ => Lint.lintPaths .default project⟩
  match s.run words with
  | .error fault =>
    IO.eprintln fault.message
    return UsageFault.exitCode.toNat.toUInt32
  | .ok f =>
    report f
    for change in project.changes f.project do writeChange change
    return f.exitCode.toNat.toUInt32

end ConfigKeeper.CommandLine

def main (words : List String) : IO UInt32 := ConfigKeeper.CommandLine.runOnDisk words

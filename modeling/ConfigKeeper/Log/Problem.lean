import ConfigKeeper.Project.Source
import ConfigKeeper.Yaml.Scalar

namespace ConfigKeeper.Log

inductive Problem
  | noConfiguration (expected : Path)
  | unreadable (path : Path) (e : FileError)
  | invalidYaml (path : Path) (reason : String)
  | notMapping (path : Path)
  | unknownLevel (name : String)
deriving DecidableEq, Repr

inductive SetupFault
  | problem (p : Problem)
  | undecodable (f : Text.Utf8Fault)
  | badKey (text : String)
  | badValue (text : String)
  | badType (text : String)
  | noAttribute (text : String)
  | badIndex (text : String)
  | overflow (text : String)
  | endless (text : String)
deriving DecidableEq, Repr

def Problem.message : Problem → String
  | .noConfiguration expected =>
    "No logging configuration found. Expected at: " ++ expected.toString
  | .unreadable path e => "Failed to read config file " ++ path.toString ++ ": " ++ e.message
  | .invalidYaml path reason => "Failed to parse YAML config " ++ path.toString ++ ": " ++ reason
  | .notMapping path => "Invalid configuration format in " ++ path.toString
  | .unknownLevel name => "Invalid log level: " ++ name

namespace SetupFault

def message : SetupFault → String
  | .problem p => p.message
  | .undecodable f => f.message
  | .badKey text | .badValue text | .badType text => text
  | .noAttribute text | .badIndex text | .overflow text | .endless text => text

def isHandled : SetupFault → Bool
  | .noAttribute _ | .badIndex _ | .overflow _ | .endless _ => false
  | _ => true

end SetupFault

/-- What the logging library raises: a fault that setting up has a name for, or anything else. -/
inductive Halt (ε : Type)
  | fault (f : SetupFault)
  | other (e : ε)

namespace Halt

variable {ε : Type}

def caught? : Halt ε → Option SetupFault
  | .fault f => if f.isHandled then some f else none
  | .other _ => none

def toFault : Halt Empty → SetupFault
  | .fault f => f

end Halt

def misfit : Yaml.Misfit → SetupFault
  | .word text => .badKey (quoted text)
  | .digits base text =>
    .badValue ("invalid literal for int() with base " ++ toString base ++ ": " ++ quoted text)
  | .manyDigits count =>
    .badValue ("Exceeds the limit (" ++ toString Yaml.mostDigits ++ " digits) for integer string " ++
      "conversion: value has " ++ toString count ++
      " digits; use sys.set_int_max_str_digits() to increase the limit")
  | .decimal text => .badValue ("could not convert string to float: " ++ quoted text)
  | .nothing => .badIndex "string index out of range"
  | .manyParts => .overflow "int too large to convert to float"
  | .noMoment => .noAttribute "'NoneType' object has no attribute 'groupdict'"
  | .moment reason => .badValue reason
  | .character n =>
    if n < 0x80000000 then .badValue "chr() arg not in range(0x110000)"
    else .overflow "number too large for a character"

end ConfigKeeper.Log

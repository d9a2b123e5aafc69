import Decomposition.Fault
import Decomposition.Text.Case

namespace Decomposition.LogLevel

def notset : Int := 0
def debug : Int := 10
def info : Int := 20
def warning : Int := 30
def error : Int := 40
def critical : Int := 50

/-- The name shown for a level comes before its second name. -/
def names : List (String × Int) :=
  [("CRITICAL", critical), ("FATAL", critical), ("ERROR", error), ("WARNING", warning),
    ("WARN", warning), ("INFO", info), ("DEBUG", debug), ("NOTSET", notset)]

def ofName? (name : String) : Option Int := names.lookup name

/-- An unnamed level is shown by its number. -/
def name (level : Int) : String :=
  match names.find? (·.2 == level) with
  | some entry => entry.1
  | none => "Level " ++ toString level

/-- A level is given as a number or as a name in any case. -/
def resolve : Datum → Except Fault Int
  | .int n => .ok n
  | .bool b => .ok (if b then 1 else 0)
  | .text s =>
      let wanted := Text.upper s
      match ofName? wanted with
      | some level => .ok level
      | none => .error (.unknownLevel wanted)
  | _ => .error .badType

/-- A logger without a level of its own takes the standard one. -/
def effective (level : Int) : Int := if level = notset then warning else level

/-- Records at level zero and below are never written. -/
def admits (loggerLevel recordLevel : Int) : Bool :=
  0 < recordLevel && effective loggerLevel ≤ recordLevel

end Decomposition.LogLevel

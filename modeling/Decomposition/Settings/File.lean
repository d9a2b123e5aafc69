import Decomposition.Settings.Table

namespace Decomposition.SettingsFile
open Text

def quotedLine (name : String) (value : Datum) : List Char :=
  name.toList ++ " = \"".toList ++ value.plain.toList ++ ['"']

def plainLine (name value : String) : List Char := name.toList ++ " = ".toList ++ value.toList

def lines (s : Settings) : List (List Char) :=
  ["# OpenDW Configuration".toList,
    [],
    "[general]".toList,
    quotedLine "log_level" s.logLevel,
    quotedLine "default_solver" s.defaultSolver,
    plainLine "num_threads" s.numThreads.plain,
    plainLine "max_nb_elems" s.maxElems.plain,
    [],
    "[tolerances]".toList]
    ++ s.tolerances.entries.map fun entry => plainLine entry.1 (Number.text entry.2)

/-- No line feed follows the last line. -/
def render (s : Settings) : List Char := ['\n'].intercalate (lines s)

/-- Points, minus signs and exponent letters. -/
def isNumberMark (c : Char) : Bool := c = '.' || c = 'e' || c = '-'

/-- Digits alone are an integer, and what is digits alone once its number marks are taken out is a
float. A value that looks like a number has to be one. -/
def valueOf (cs : List Char) : Except Fault Datum :=
  if allDigits cs then
    match Number.readInt? cs with
    | some n => .ok (.int n)
    | none => .error .badValue
  else if allDigits (cs.filter fun c => !isNumberMark c) then
    match Number.readFloat? cs with
    | some x => .ok (.float x)
    | none => .error .badValue
  else .ok (.text (String.ofList cs))

/-- The number that a tolerance is set to. -/
def numberOf : Datum → Except Fault Float
  | .int n =>
      match Binary64.ofInt? n with
      | some x => .ok x
      | none => .error .overflow
  | .float x => .ok x
  | .text s =>
      match Number.readFloat? s.toList with
      | some x => .ok x
      | none => .error .badValue
  | _ => .error .badType

/-- One line of a file, without the white space around it. -/
inductive Line where
  | ignored
  | heading (name : List Char)
  | setting (name : List Char) (value : List Char)
  deriving DecidableEq

/-- The part before the first equality sign and the part after it. -/
def splitSetting (cs : List Char) : Option (List Char × List Char) :=
  if cs.contains '=' then some (cs.takeWhile (· != '='), (cs.dropWhile (· != '=')).drop 1)
  else none

/-- Quotation marks around a value are dropped, however many there are. -/
def unquote (cs : List Char) : List Char := stripBy (· == '"') (strip cs)

def lineOf (raw : List Char) : Line :=
  let cs := strip raw
  if cs.isEmpty || cs.head? == some '#' then .ignored
  else if cs.head? == some '[' && cs.getLast? == some ']' then .heading (cs.drop 1).dropLast
  else
    match splitSetting cs with
    | some (name, value) => .setting (strip name) (unquote value)
    | none => .ignored

/-- What has been read so far, and whether the section of tolerances is open. -/
structure Reading where
  table : SettingsTable
  inTolerances : Bool

def Reading.start : Reading := ⟨.empty, false⟩

def Reading.set (r : Reading) (name : String) (value : Datum) : Except Fault Reading := do
  if r.inTolerances then
    let number ← numberOf value
    let table ← r.table.setTolerance name number
    .ok { r with table := table }
  else .ok { r with table := r.table.setGeneral name value }

def Reading.step (r : Reading) : Line → Except Fault Reading
  | .ignored => .ok r
  | .heading name => .ok { r with inTolerances := name == SettingsTable.toleranceName.toList }
  | .setting name value => do r.set (String.ofList name) (← valueOf value)

/-- Lines before any section, and lines in sections with other names, set general values. The first
line that cannot be read decides. -/
def readLines (r : Reading) : List (List Char) → Except Fault Reading
  | [] => .ok r
  | raw :: rest => do readLines (← r.step (lineOf raw)) rest

/-- Carriage returns are read as line feeds. -/
def parse (env : Environment) (cs : List Char) : Except Fault Settings := do
  let reading ← readLines .start (splitLines (normalizeNewlines cs))
  Settings.ofTable env reading.table

end Decomposition.SettingsFile

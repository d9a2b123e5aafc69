namespace Decomposition

/-- The place that a path leads to: some folders up from where it starts, and then down. -/
structure Location where
  fromRoot : Bool
  above : Nat
  below : List String
  deriving DecidableEq

inductive PathStep where
  | up
  | stay
  | enter (name : String)
  deriving DecidableEq

/-- A path leads from the working folder, or from the root if a slash stands in front, one step
after another. Empty parts are no steps. -/
structure FilePath where
  start : Location
  steps : List PathStep

/-- The largest number of bytes in a name. -/
def longestName : Nat := 255

/-- The largest number of bytes in a path. -/
def longestPath : Nat := 4095

namespace Location

def workingFolder : Location := ⟨false, 0, []⟩

def root : Location := ⟨true, 0, []⟩

/-- There is nothing above the root. -/
def step (l : Location) : PathStep → Location
  | .enter name => { l with below := l.below ++ [name] }
  | .stay => l
  | .up =>
      if !l.below.isEmpty then { l with below := l.below.dropLast }
      else if l.fromRoot then l
      else { l with above := l.above + 1 }

end Location

namespace PathStep

/-- The name that the step enters has a null character. -/
def impossible : PathStep → Bool
  | .up | .stay => false
  | .enter name => name.contains '\x00'

def tooLong : PathStep → Bool
  | .up | .stay => false
  | .enter name => longestName < name.utf8ByteSize

def text : PathStep → String
  | .up => ".."
  | .stay => "."
  | .enter name => name

end PathStep

namespace FilePath

def stepOf? (part : String) : Option PathStep :=
  if part = "" then none
  else if part = "." then some .stay
  else if part = ".." then some .up
  else some (.enter part)

/-- A single dot is a step of its own. -/
def ofSpelling (text : String) : FilePath :=
  ⟨if text.startsWith "/" then .root else .workingFolder, (text.splitOn "/").filterMap stepOf?⟩

def ofText (text : String) : FilePath :=
  let spelled := ofSpelling text
  { spelled with steps := spelled.steps.filter (· ≠ .stay) }

/-- The path that a text spells up to its last slash. -/
def upToLastSlash (text : String) : FilePath :=
  ofSpelling ("/".intercalate (text.splitOn "/").dropLast)

/-- One step more. -/
def extend (p : FilePath) (s : PathStep) : FilePath := { p with steps := p.steps ++ [s] }

/-- A slash at the end asks for a folder, as a dot after it does. -/
def ofFullSpelling (text : String) : FilePath :=
  if text.endsWith "/" then (ofSpelling text).extend .stay else ofSpelling text

/-- The steps are taken whether or not the folders on the way exist. -/
def target (p : FilePath) : Location := p.steps.foldl Location.step p.start

/-- The path of the folder that a file lies in. -/
def folder (p : FilePath) : FilePath := { p with steps := p.steps.dropLast }

/-- The path itself, and the paths to the places that it passes, back to its start. -/
def stages (p : FilePath) : List FilePath :=
  (List.range (p.steps.length + 1)).reverse.map fun n => { p with steps := p.steps.take n }

/-- One slash stands between two steps. -/
def text (p : FilePath) : String :=
  (if p.start = .root then "/" else "") ++ "/".intercalate (p.steps.map PathStep.text)

def impossible (p : FilePath) : Bool := p.steps.any PathStep.impossible

def tooLong (p : FilePath) : Bool := longestPath < p.text.utf8ByteSize

end FilePath

end Decomposition

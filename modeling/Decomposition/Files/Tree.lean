import Decomposition.Fault
import Decomposition.Files.Path
import Decomposition.OrderedMap

namespace Decomposition

/-- Folders, and files with their contents. A path is followed through folders that exist. -/
structure FileTree where
  folders : List Location
  files : OrderedMap Location String

namespace FileTree

def empty : FileTree := ⟨[], .empty⟩

/-- The working folder, the root and what lies above always exist. -/
def hasFolder (t : FileTree) (l : Location) : Bool := l.below.isEmpty || t.folders.contains l

def hasFile (t : FileTree) (l : Location) : Bool := t.files.contains l

/-- Only a folder that exists can be left again. -/
def follow (t : FileTree) (l : Location) : List PathStep → Except FileFault Location
  | [] => .ok l
  | s :: rest =>
      if t.hasFile l then .error .notFolder
      else if !t.hasFolder l then .error .missing
      else if s.tooLong then .error .nameTooLong
      else t.follow (l.step s) rest

/-- Where a file is to be looked for. -/
def place (t : FileTree) (p : FilePath) : Except Fault Location :=
  if p.impossible then .error .badValue
  else if p.tooLong then .error (.file .nameTooLong)
  else (t.follow p.start p.steps).mapError .file

/-- The content of the file at a location, if there is one. A folder has none to be read. -/
def content (t : FileTree) (l : Location) : Except Fault (Option String) :=
  if t.hasFolder l then .error (.file .isFolder) else .ok (t.files.get? l)

/-- Only what is too long keeps a path from being looked for. -/
def read (t : FileTree) (p : FilePath) : Except Fault (Option String) :=
  match t.place p with
  | .error (.file .nameTooLong) => .error (.file .nameTooLong)
  | .error _ => .ok none
  | .ok l => t.content l

/-- Whatever keeps a path from leading anywhere, nothing is found. -/
def find (t : FileTree) (p : FilePath) : Except Fault (Option String) :=
  match t.place p with
  | .error _ => .ok none
  | .ok l => t.content l

/-- A file is made or overwritten. -/
def put (t : FileTree) (p : FilePath) (content : String) : Except Fault FileTree := do
  let l ← t.place p
  if t.hasFolder l then .error (.file .isFolder)
  else .ok { t with files := t.files.insert l content }

/-- A step into a folder makes it unless it exists. A file in its place is found out later. -/
def makeStep (t : FileTree) (p : FilePath) (s : PathStep) : Except Fault FileTree :=
  let next := p.extend s
  if s.impossible then .error .badValue
  else if next.tooLong then .error (.file .nameTooLong)
  else if t.hasFile p.target then .error (.file .notFolder)
  else if s.tooLong then .error (.file .nameTooLong)
  else if t.hasFile next.target || t.hasFolder next.target then .ok t
  else .ok { t with folders := t.folders ++ [next.target] }

/-- Every place on the way becomes a folder. Those that were made before a refusal stay. -/
def makeFolders (t : FileTree) (p : FilePath) : List PathStep → Outcome FileTree Unit
  | [] => if t.hasFile p.target then .refuse t (.file .occupied) else .ok t ()
  | s :: rest =>
      (Outcome.ofChange t (t.makeStep p s)).andThen fun made _ => made.makeFolders (p.extend s) rest

/-- A folder on the way is missing. -/
def lacksFolder (t : FileTree) (p : FilePath) : Bool :=
  match t.place p with
  | .error (.file .missing) => true
  | _ => false

/-- Neither a file nor a folder is found. -/
def leadsNowhere (t : FileTree) (p : FilePath) : Bool :=
  match t.place p with
  | .error _ => true
  | .ok l => !t.hasFile l && !t.hasFolder l

/-- The largest number of missing folders that are made one after another. -/
def longestChain : Nat := 985

/-- The folders of a path are made on the way from its start, unless there are too many missing
places at its end. -/
def makePath (t : FileTree) (isMissing : FilePath → Bool) (p : FilePath) : Outcome FileTree Unit :=
  if longestChain < p.steps.length && longestChain < (p.stages.takeWhile isMissing).length then
    .refuse t (.file .tooDeep)
  else t.makeFolders ⟨p.start, []⟩ p.steps

/-- The folders on the way are made first, unless one of them is impossible or their path is too
long. -/
def write (t : FileTree) (p : FilePath) (content : String) : Outcome FileTree Unit :=
  if p.folder.impossible then .refuse t .badValue
  else if p.folder.tooLong then .refuse t (.file .nameTooLong)
  else (t.makePath t.lacksFolder p.folder).andThen fun made _ => .ofChange made (made.put p content)

/-- A file that exists is left alone, and another one is made empty. The steps up of the path are
taken without looking at the folders. -/
def touch (t : FileTree) (p : FilePath) : Except Fault FileTree :=
  if p.impossible then .error .badValue
  else if p.tooLong || p.steps.any PathStep.tooLong then .error (.file .nameTooLong)
  else if t.hasFolder p.target then .error (.file .isFolder)
  else .ok { t with files := t.files.insertIfNew p.target "" }

/-- The folders up to the last slash are made, and then the file unless it exists. -/
def create (t : FileTree) (name : String) : Outcome FileTree Unit :=
  (t.makePath t.leadsNowhere (.upToLastSlash name)).andThen fun made _ =>
    .ofChange made (made.touch (.ofText name))

/-- A file that does not exist is not made. -/
def append (t : FileTree) (p : FilePath) (text : String) : FileTree :=
  { t with files := t.files.modify p.target (· ++ text) }

end FileTree

end Decomposition

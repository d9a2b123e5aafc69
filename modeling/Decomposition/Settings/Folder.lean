import Decomposition.Files.Tree
import Decomposition.Settings.File

namespace Decomposition

/-- The settings file of the home folder, if there is one, and the files of the working folder. -/
structure SettingsFolder where
  home : Option String
  tree : FileTree

namespace SettingsFolder

def empty : SettingsFolder := ⟨none, .empty⟩

/-- The path of the local file. -/
def standardPath : FilePath := .ofText "opendw.toml"

/-- The text to read. -/
def text (folder : SettingsFolder) : Option FilePath → Except Fault (Option String)
  | some path => folder.tree.read path
  | none => (folder.tree.read standardPath).map (·.or folder.home)

/-- A file may be asked for by its path. Otherwise the local file is read, or the one in the home
folder if there is no local one. Without a file the settings are the standard ones. -/
def load (folder : SettingsFolder) (env : Environment) (path : Option FilePath) :
    Except Fault Settings := do
  match ← folder.text path with
  | some text => SettingsFile.parse env text.toList
  | none => .ok (.standard env)

/-- The folders on the way to the file are made. -/
def write (folder : SettingsFolder) (path : FilePath) (text : String) :
    Outcome SettingsFolder Unit :=
  let done := folder.tree.write path text
  ⟨{ folder with tree := done.state }, done.result⟩

/-- The folder of the file has to exist. -/
def save (folder : SettingsFolder) (s : Settings) (path : Option FilePath) :
    Except Fault SettingsFolder :=
  (folder.tree.put (path.getD standardPath) (String.ofList (SettingsFile.render s))).map
    fun tree => { folder with tree := tree }

end SettingsFolder

end Decomposition

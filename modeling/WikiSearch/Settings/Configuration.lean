import WikiSearch.FileTree
import WikiSearch.Settings

/-!
# WikiSearch — settings from files

The files are given with the closest first. Each is read whole before anything is
merged, so that the first file that cannot be used decides what is reported.
-/

namespace WikiSearch.Settings

/-- Why the text of a file is of no use. -/
inductive Defect where
  | malformed
  | unsuitable (problem : Problem)
deriving DecidableEq, Repr

/-- What a reader is told. -/
def Defect.message : Defect → String
  | malformed => "the file is not TOML"
  | unsuitable problem => problem.message

/-- What the text of a file sets, as a library reads it. -/
def Layer.ofTextBy (lib : Toml.Library) (text : String) : Except Defect Layer :=
  match lib.read text with
  | none => .error .malformed
  | some table => (Layer.ofTable table).mapError .unsuitable

/-- What the text of a file sets. -/
def Layer.ofText (text : String) : Except Defect Layer := Layer.ofTextBy Toml.library text

/-- Why settings could not be loaded. -/
inductive LoadError where
  | unreadable (path : String) (reason : ReadError)
  | defective (path : String) (defect : Defect)
deriving DecidableEq, Repr

/-- What a reader is told, up to the explanation of a defect. -/
def LoadError.message : LoadError → String
  | unreadable path reason => "failed to read config file " ++ path ++ ": " ++ reason.message
  | defective path _ => "failed to parse config file " ++ path ++ ":"

/-- What the text of a file sets whose path is to be reported, as a library reads it. -/
def Layer.ofFileBy (lib : Toml.Library) (path text : String) : Except LoadError Layer :=
  (Layer.ofTextBy lib text).mapError (.defective path)

/-- What the text of a file sets whose path is to be reported. -/
def Layer.ofFile (path text : String) : Except LoadError Layer :=
  Layer.ofFileBy Toml.library path text

/-- The path only shows in what is reported. -/
theorem Layer.ofFile_eq (path text : String) :
    Layer.ofFile path text = (Layer.ofText text).mapError (.defective path) :=
  rfl

/-- What a file of a tree sets. -/
def Layer.load (tree : FileTree) (path : Path) : Except LoadError Layer :=
  match tree.read path with
  | .error reason => .error (.unreadable path.text reason)
  | .ok text => Layer.ofFile path.text text

/-- Settings together with where they come from. -/
structure Configuration where
  settings : Settings := {}
  directory : Option String := none
  sources : List String := []
deriving DecidableEq, Repr

namespace Configuration

/-- What some files leave, the closest first. -/
def ofLayers (files : List (String × Layer)) : Configuration where
  settings := Settings.ofLayers (files.map (·.2))
  directory := files.head?.bind fun file => (Path.ofText file.1).parent?.map Path.text
  sources := files.map (·.1)

/-- Reads texts with their paths, the closest first, and merges them. -/
def ofTexts (files : List (String × String)) : Except LoadError Configuration :=
  (files.mapM fun (path, text) => (Layer.ofFile path text).map (path, ·)).map ofLayers

/-- Reads files of a tree, the closest first, and merges them. -/
def load (tree : FileTree) (paths : List Path) : Except LoadError Configuration :=
  (paths.mapM fun path => (Layer.load tree path).map (path.text, ·)).map ofLayers

end Configuration

end WikiSearch.Settings

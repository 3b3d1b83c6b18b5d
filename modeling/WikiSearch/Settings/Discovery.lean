import WikiSearch.Settings.Configuration

/-!
# WikiSearch — finding settings files

Settings files apply to the directory that they are in and to all below it. They are
looked for from a directory upwards. A file that says it is the root ends the search;
otherwise the file in the home directory is taken last, unless it was found already.
-/

namespace WikiSearch.Settings

/-- The name of settings files. -/
def fileName : String := ".sieve.toml"

/-- Why the search ended. -/
inductive WalkEnd where
  | rootFile (path : Path)
  | top
deriving DecidableEq, Repr

/-- The settings files that apply to a directory. -/
structure Discovery where
  walked : List Path
  /-- The file in the home directory, if it applies as well. -/
  global : Option Path
  walkEnd : WalkEnd
deriving DecidableEq, Repr

/-- Whether a file says that it is the root. A file that is of no use does not. -/
def isRoot (tree : FileTree) (path : Path) : Bool :=
  match Layer.load tree path with
  | .ok layer => layer.root == some true
  | .error _ => false

/-- Looks for files in some directories in turn. -/
def walk (tree : FileTree) : List Path → List Path × WalkEnd
  | [] => ([], .top)
  | dir :: dirs =>
    let path := dir.child fileName
    -- a directory of that name is passed over
    if !tree.isFile path then walk tree dirs
    else if isRoot tree path then ([path], .rootFile path)
    else
      let (found, walkEnd) := walk tree dirs
      (path :: found, walkEnd)

/-- The settings file of a home directory. -/
def homeFile (home : Path) : Path := home.child fileName

/-- Finds the settings files that apply to a directory. -/
def discover (tree : FileTree) (home : Option Path) (dir : Path) : Discovery :=
  let (walked, walkEnd) := walk tree dir.ancestors
  -- the home directory may lie on the way up
  let global := match walkEnd with
    | .rootFile _ => none
    | .top => (home.map homeFile).filter fun path => tree.isFile path && !walked.any path.sameAs
  ⟨walked, global, walkEnd⟩

namespace Discovery

/-- All files, the closest first and the one in the home directory last. -/
def files (d : Discovery) : List Path := d.walked ++ d.global.toList

/-- Whether no file applies. -/
def isEmpty (d : Discovery) : Bool := d.files.isEmpty

end Discovery

/-- Loads the settings that apply to a directory. -/
def Configuration.discover (tree : FileTree) (home : Option Path) (dir : Path) :
    Except LoadError Configuration :=
  load tree (Settings.discover tree home dir).files

end WikiSearch.Settings

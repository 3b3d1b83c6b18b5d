import WikiSearch.FileTree.Path

/-!
# WikiSearch — file trees

A file tree says where a path leads: to a file, to a directory, or nowhere and why. Only
the files in it matter here, and of a file only its text, or why it has none.

A tree of known entries is walked name by name. Every name but the last must lead to a
directory, and so must a name in front of another one that itself leads nowhere.
-/

namespace WikiSearch

/-- Why a file cannot be read as text. -/
inductive ReadError where
  | notFound
  | notText
  | isDirectory
  /-- The path leads through a file. -/
  | notADirectory
  | nameTooLong
  | badName
  | other (reason : String)
deriving DecidableEq, Repr

/-- What a reader is told. -/
def ReadError.message : ReadError → String
  | notFound => "No such file or directory (os error 2)"
  | notText => "stream did not contain valid UTF-8"
  | isDirectory => "Is a directory (os error 21)"
  | notADirectory => "Not a directory (os error 20)"
  | nameTooLong => "File name too long (os error 36)"
  | badName => "file name contained an unexpected NUL byte"
  | other reason => reason

/-- What there is at a place of a file tree. -/
inductive Entry where
  | file (content : Except ReadError String)
  | directory

/-- A file whose content is given as bytes. -/
def Entry.ofBytes (bytes : ByteArray) : Entry :=
  match String.fromUTF8? bytes with
  | some text => .file (.ok text)
  | none => .file (.error .notText)

/-- Files and directories. -/
structure FileTree where
  find : Path → Except ReadError Entry

namespace FileTree

/-- Whether there is a file where a path leads. -/
def isFile (tree : FileTree) (path : Path) : Bool :=
  match tree.find path with
  | .ok (.file _) => true
  | _ => false

/-- The text of the file where a path leads. -/
def read (tree : FileTree) (path : Path) : Except ReadError String :=
  match tree.find path with
  | .ok (.file content) => content
  | .ok .directory => .error .isDirectory
  | .error reason => .error reason

end FileTree

/-! ## Walking among known entries -/

/-- A place in a tree: the names that lead to it from the root, none of them idle. -/
abbrev Place := List String

namespace Place

/-- The path of a place. -/
def toPath (place : Place) : Path := ⟨true, place⟩

/-- The place that a name leads to; nothing is known above the root. -/
def step? (place : Place) (name : String) : Option Place :=
  if name = "" ∨ name = "." then some place
  else if name = ".." then if place = [] then none else some place.dropLast
  else some (place ++ [name])

/-- All places that a path leads through from the root, its end included. -/
def along (path : Path) : List Place :=
  path.names.foldl (fun places name =>
    ((places.head?.getD []).step? name).toList ++ places) [[]]

end Place

namespace FileTree

/-- What there is at a place among known entries. A place that leads to an entry is a
directory. -/
def entryAt (entries : List (Place × Entry)) (place : Place) : Except ReadError Entry :=
  match entries.lookup place with
  | some entry => .ok entry
  | none =>
    if place = [] ∨ entries.any (place.isPrefixOf ·.1) then .ok .directory else .error .notFound

/-- The longest name that an entry can have, in bytes. -/
def maxNameBytes : Nat := 255

/-- What there is where names lead above the root, where only directories are known. -/
def findAbove (names : List String) : Except ReadError Entry :=
  if names.all fun name => name = "" || name = "." || name = ".." then .ok .directory
  else .error .notFound

/-- What there is where names lead from a place. -/
def findFrom (entries : List (Place × Entry)) (place : Place) :
    List String → Except ReadError Entry
  | [] => entryAt entries place
  | name :: names =>
    match entryAt entries place with
    | .error reason => .error reason
    | .ok (.file _) => .error .notADirectory
    | .ok .directory =>
      if maxNameBytes < name.utf8ByteSize then .error .nameTooLong
      else match place.step? name with
        | some next => findFrom entries next names
        | none => findAbove names

/-- The tree with some entries and the directories that they are in. -/
def ofEntries (entries : List (Place × Entry)) : FileTree where
  find path :=
    if path.names.any (·.contains '\x00') then .error .badName
    else findFrom entries [] path.names

end FileTree

end WikiSearch

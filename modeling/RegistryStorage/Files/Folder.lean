import RegistryStorage.Dict
import RegistryStorage.Files.Content

/-!
A directory in memory.

A `Folder` holds files by their paths below it; the directories in between exist as long as a
file lies in them. A path that leaves the folder leads nowhere. Writing a file makes the
directories that it lies in, and is refused where a file or a directory is in the way.
-/

set_option autoImplicit false

namespace RegistryStorage

/-- The files below a directory, by their paths. -/
structure Folder where
  files : Dict String Content := {}

namespace Folder

/-! ## Paths -/

/-- The place that a path leads to, and whether only a directory can be meant. -/
structure Place where
  parts : List String
  isDirectory : Bool
deriving DecidableEq, Repr, Inhabited

/-- Follows the parts of a path from a place. -/
def follow : List String → List String → Option (List String)
  | here, [] => some here
  | here, part :: r =>
    if part = "" ∨ part = "." then follow here r
    else if part = ".." then (if here.isEmpty then none else follow here.dropLast r)
    else follow (here ++ [part]) r

/-- The place that a path leads to, if it stays below the folder. -/
def place? (path : String) : Option Place :=
  let parts := path.splitOn "/"
  if path.toList.head? = some '/' then none
  else do
    let last := parts.getLast?.getD ""
    return ⟨← follow [] parts, last = "" || last = "." || last = ".."⟩

/-- The name of a place. -/
def Place.name (p : Place) : String := "/".intercalate p.parts

/-- Whether there is a directory at a place. -/
def hasDirectory (f : Folder) (p : Place) : Bool :=
  p.parts.isEmpty || f.files.keys.any fun name => (p.name ++ "/").isPrefixOf name

/-- Whether a file is in the way to a place. -/
def isBlocked (f : Folder) (p : Place) : Bool :=
  (List.range p.parts.length).any fun n => f.files.contains ("/".intercalate (p.parts.take n))

/-! ## Files -/

/-- What is found at a path. -/
def read (f : Folder) (path : String) : Content :=
  match place? path with
  | none => .missing
  | some p =>
    match f.files.get? p.name with
    | some content => if p.isDirectory then .missing else content
    | none => if f.hasDirectory p then Content.directory else .missing

/-- The folder with a text written to a path, if that is possible. -/
def write? (f : Folder) (path text : String) : Option Folder :=
  match place? path with
  | none => none
  | some p =>
    if p.isDirectory ∨ f.hasDirectory p ∨ f.isBlocked p then none
    else some ⟨f.files.insert p.name (.text text)⟩

/-- The files that differ from those of another folder, with their texts. -/
def changedSince (f before : Folder) : List (String × Content) :=
  f.files.toList.filter fun e => before.files.get? e.1 != some e.2

end Folder

end RegistryStorage

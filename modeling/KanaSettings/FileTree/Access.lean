import KanaSettings.FileTree.Basic
import KanaSettings.FileTree.OsError
import KanaSettings.FileTree.Path

/-!
# Files by their paths

An operation takes a path, follows it through the tree, and either does its work or fails with the
cause that the system would give.  What is looked at may be named in any way.  What is made or
taken away has to be the entry of a directory, so the last part of its path has to be a name.
-/

namespace KanaSettings.FileTree

/-! ## Following a path -/

/-- Refuse a path before any part of it is looked at: one that the system cannot be given, the empty
one, and one that is too long. -/
def checkPath (path : Path) : Except OsError Unit :=
  if path.holdsNul then .error .nulInPath
  else if path.text.isEmpty then .error .notFound
  else if Path.sizeLimit ≤ path.size then .error .nameTooLong
  else .ok ()

/-- What a directory would call an entry of that name: the location of the entry, there or not. -/
def entry (directory : Location) (name : String) : Except OsError Location :=
  if Path.maxNameSize < name.utf8ByteSize then .error .nameTooLong else .ok (directory ++ [name])

/-- Follow the moves of a path from a location.  Every move starts in a directory; what the last
one names need not be there. -/
def follow (tree : FileTree) : Location → List Path.Move → Except OsError Location
  | place, [] => .ok place
  | place, move :: moves =>
    match tree.node? place with
    | none => .error .notFound
    | some .directory =>
      match move with
      | .stay => follow tree place moves
      | .back => follow tree place.above moves
      | .enter name =>
        match entry place name with
        | .error cause => .error cause
        | .ok place => follow tree place moves
    | some _ => .error .notADirectory

/-- The location that a path names. -/
def locate (tree : FileTree) (path : Path) : Except OsError Location := do
  checkPath path
  tree.follow [] path.moves

/-- The location at which an entry of a directory can be made or taken away by a path; none if the
path leads back to a directory that it has passed.  Slashes at the end count for nothing. -/
def target? (tree : FileTree) (path : Path) : Except OsError (Option Location) := do
  checkPath path
  let (above, last) := path.lastMove
  let directory ← tree.follow [] above
  match last with
  | .enter name => return some (← entry directory name)
  | .stay | .back => return none

/-- What a path names. -/
def find (tree : FileTree) (path : Path) : Except OsError Node := do
  match tree.node? (← tree.locate path) with
  | some node => return node
  | none => .error .notFound

/-- Whether a path names anything. -/
def has (tree : FileTree) (path : Path) : Bool :=
  match tree.find path with
  | .ok _ => true
  | .error _ => false

/-! ## Reading and removing -/

/-- The contents of a file. -/
def read (tree : FileTree) (path : Path) : Except OsError ByteArray := do
  match ← tree.find path with
  | .file contents => return contents
  | .directory => .error .isADirectory
  | .socket => .error .noDevice

/-- Whether a path names a directory. -/
def hasDirectory (tree : FileTree) (path : Path) : Bool :=
  match tree.find path with
  | .ok .directory => true
  | _ => false

/-- The tree without the file or socket that a path names. -/
def remove (tree : FileTree) (path : Path) : Except OsError FileTree := do
  match ← tree.target? path with
  | none => .error .isADirectory
  | some place =>
    match tree.node? place with
    | none => .error .notFound
    | some .directory => .error .isADirectory
    | some _ => if path.namesDirectory then .error .notADirectory else return tree.erase place

/-- The tree with a socket at a path that names nothing yet, and the location of the socket. -/
def addSocket (tree : FileTree) (path : Path) : Except OsError (FileTree × Location) := do
  match ← tree.target? path with
  | none => .error .addressInUse
  | some place =>
    if (tree.node? place).isSome then .error .addressInUse
    else if path.namesDirectory then .error .notFound
    else return (tree.set place .socket, place)

/-- The name of an entry of a directory, if a location is one. -/
def nameIn? (directory : Location) (place : Location) : Option String :=
  match place.getLast? with
  | none => none
  | some name => if place.above = directory then some name else none

/-- The names in a directory, in ascending order. -/
def names (tree : FileTree) (directory : Location) : List String :=
  (tree.entries.filterMap fun entry => nameIn? directory entry.1).mergeSort (· ≤ ·)

end KanaSettings.FileTree

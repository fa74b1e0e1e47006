import KanaSettings.FileTree.Directories

/-!
# Replacing a file

New contents are written to a temporary file in the same directory, which is then renamed onto
the file.  Whatever fails on the way, the file is still what it was, and the temporary file is
gone.
-/

namespace KanaSettings

/-- The steps of replacing a file. -/
inductive ReplaceStep where
  /-- Make the directory; this many of those missing can still be made. -/
  | directory (room : Nat)
  | create
  /-- Write the contents; this many bytes can still be written. -/
  | write (room : Nat)
  /-- Hand the contents over to the device. -/
  | flush
  | rename
deriving DecidableEq

/-- A step that fails. -/
structure Fault where
  step : ReplaceStep
  cause : OsError
deriving DecidableEq

/-- The limit that a fault puts on making directories. -/
def Fault.limit? : Fault → Option FileTree.Limit
  | ⟨.directory room, cause⟩ => some ⟨room, cause⟩
  | _ => none

namespace FileTree

/-- The length of the longest name in a list. -/
def longest (names : List String) : Nat := names.foldl (fun n name => max n name.length) 0

/-- A name that nothing in a tree bears: it is longer than all of them. -/
def freshName (tree : FileTree) : String :=
  String.ofList ('.' :: List.replicate (longest (tree.entries.flatMap Prod.fst)) 't')

/-- The location that a file comes to when it is renamed to a path. -/
def destination (tree : FileTree) (path : Path) : Except OsError Location :=
  if path.holdsNul then .error .invalid
  else
    match tree.target? path with
    | .error cause => .error cause
    | .ok none => .error .busy
    | .ok (some place) =>
      if path.namesDirectory then .error .notADirectory
      else if tree.isDirectory place then .error .isADirectory
      else .ok place

/-- Fill a temporary file and rename it. -/
def fill (tree : FileTree) (fault : Option Fault) (temporary : Location) (path : Path)
    (contents : ByteArray) : FileTree × Except OsError Unit :=
  let full := tree.set temporary (.file contents)
  match fault with
  | some ⟨.write room, cause⟩ =>
    (tree.set temporary (.file (contents.extract 0 room)), .error cause)
  | some ⟨.flush, cause⟩ => (full, .error cause)
  | some ⟨.rename, cause⟩ => (full, .error cause)
  | _ =>
    match full.destination path with
    | .error cause => (full, .error cause)
    | .ok place => ((full.erase temporary).set place (.file contents), .ok ())

/-- Put contents into a file by way of a temporary one in a directory, which does not outlive a
failure. -/
def exchange (tree : FileTree) (fault : Option Fault) (directory : Location) (path : Path)
    (contents : ByteArray) : FileTree × Except OsError Unit :=
  match fault with
  | some ⟨.create, cause⟩ => (tree, .error cause)
  | _ =>
    let temporary := directory ++ [tree.freshName]
    match (tree.set temporary (.file .empty)).fill fault temporary path contents with
    | (tree, .error cause) => (tree.erase temporary, .error cause)
    | (tree, .ok ()) => (tree, .ok ())

/-- Put contents into a file, and make its directory if that is missing.  A fault makes one step
fail. -/
def replace (tree : FileTree) (path : Path) (contents : ByteArray) (fault : Option Fault) :
    FileTree × Except OsError Unit :=
  let directory := path.directory
  match tree.makeDirectory directory (fault.bind Fault.limit?) with
  | (tree, .error cause) => (tree, .error cause)
  | (tree, .ok ()) =>
    match tree.locate directory with
    | .error cause => (tree, .error cause)
    | .ok directory => tree.exchange fault directory path contents

end FileTree

end KanaSettings

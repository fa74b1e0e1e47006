/-!
# File trees

The part of a file system that matters here: files with their contents, directories and
sockets, each at a location, the list of names that leads to it from the root.
-/

namespace KanaSettings

/-- What can stand at a location. -/
inductive Node where
  | file (contents : ByteArray)
  | directory
  | socket

/-- The names that lead from the root to a place. -/
abbrev Location := List String

/-- The location above. -/
def Location.above (place : Location) : Location := place.dropLast

/-- A tree of files.  The root is always there. -/
structure FileTree where
  /-- What stands where, the root left out. -/
  entries : List (Location × Node)

namespace FileTree

/-- The tree that holds nothing. -/
def empty : FileTree := ⟨[]⟩

/-- What stands at a location. -/
def node? (tree : FileTree) (place : Location) : Option Node :=
  match place with
  | [] => some .directory
  | _ => (tree.entries.find? fun entry => entry.1 = place).map Prod.snd

/-- The tree without what stands at a location. -/
def erase (tree : FileTree) (place : Location) : FileTree :=
  ⟨tree.entries.filter fun entry => entry.1 ≠ place⟩

/-- The tree with something at a location. -/
def set (tree : FileTree) (place : Location) (node : Node) : FileTree :=
  ⟨(place, node) :: (tree.erase place).entries⟩

/-- Whether a location is a directory. -/
def isDirectory (tree : FileTree) (place : Location) : Bool :=
  match tree.node? place with
  | some .directory => true
  | _ => false

theorem node?_erase_of_ne {place other : Location} (h : other ≠ place) (tree : FileTree) :
    (tree.erase place).node? other = tree.node? other := by
  cases other with
  | nil => rfl
  | cons name rest =>
    simp only [node?, erase, List.find?_filter]
    congr 2
    funext entry
    by_cases he : entry.1 = name :: rest
    · simp [he, h]
    · simp [he]

theorem node?_erase_self {place : Location} (h : place ≠ []) (tree : FileTree) :
    (tree.erase place).node? place = none := by
  cases place with
  | nil => exact absurd rfl h
  | cons name rest =>
    simp only [node?, erase, Option.map_eq_none_iff, List.find?_eq_none, List.mem_filter]
    rintro entry ⟨_, hne⟩
    simpa using hne

theorem node?_set_self {place : Location} (h : place ≠ []) (tree : FileTree) (node : Node) :
    (tree.set place node).node? place = some node := by
  cases place with
  | nil => exact absurd rfl h
  | cons name rest => simp [node?, set]

theorem node?_set_of_ne {place other : Location} (h : other ≠ place) (tree : FileTree)
    (node : Node) : (tree.set place node).node? other = tree.node? other := by
  rw [← node?_erase_of_ne h tree]
  cases other with
  | nil => rfl
  | cons name rest => simp [node?, set, Ne.symm h]

end FileTree

end KanaSettings

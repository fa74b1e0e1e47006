import KanaSettings.FileTree.Access

/-!
# Making directories

A directory is made together with those above it, as far as they are missing.  First the directory
itself is tried, and only where it has no place yet, the one above it is made before.  So what is
in the way is found out there and not earlier, and what was made up to then stays.
-/

namespace KanaSettings.FileTree

/-- A system in which only so many more directories can be made before one fails. -/
structure Limit where
  /-- How many can be made. -/
  room : Nat
  /-- What the next one fails with. -/
  cause : OsError

/-- A tree in which directories are made, up to a limit if there is one. -/
structure Site where
  tree : FileTree
  limit : Option Limit

namespace Site

/-- Make one directory, in one that is there. -/
def makeOne (site : Site) (path : Path) : Except OsError Site := do
  match ← site.tree.target? path with
  | none => .error .alreadyExists
  | some place =>
    if (site.tree.node? place).isSome then .error .alreadyExists
    else
      let tree := site.tree.set place .directory
      match site.limit with
      | none => return ⟨tree, none⟩
      | some ⟨0, cause⟩ => .error cause
      | some ⟨room + 1, cause⟩ => return ⟨tree, some ⟨room, cause⟩⟩

/-- Make one directory, or let it be if it is there. -/
def ensureOne (site : Site) (path : Path) : Site × Except OsError Unit :=
  match site.makeOne path with
  | .ok site => (site, .ok ())
  | .error cause => (site, if site.tree.hasDirectory path then .ok () else .error cause)

/-- Make the first directory of a list, each of which lies in the next one.  If it has no place yet,
the others are made before. -/
def ensure : List Path → Site → Site × Except OsError Unit
  | [], site => (site, .ok ())
  | path :: above, site =>
    match site.makeOne path with
    | .error .notFound =>
      match ensure above site with
      | (site, .ok ()) => site.ensureOne path
      | (site, .error cause) => (site, .error cause)
    | _ => site.ensureOne path

end Site

/-- Make a directory and those above it, as far as they are missing.  The tree that is returned
holds what was made also when that fails. -/
def makeDirectory (tree : FileTree) (path : Path) (limit : Option Limit) :
    FileTree × Except OsError Unit :=
  match Site.ensure path.ancestors ⟨tree, limit⟩ with
  | (site, result) => (site.tree, result)

/-! ## Planting -/

/-- The tree without what stands at a location or below it. -/
def prune (tree : FileTree) (place : Location) : FileTree :=
  ⟨tree.entries.filter fun entry => !place.isPrefixOf entry.1⟩

/-- The tree with something new at a path, or with nothing there.  What is new needs the directories
above it, which are made as far as they are missing, and stays away where something is in the
way. -/
def plant (tree : FileTree) (path : Path) (node : Option Node) : FileTree :=
  let cleared := match tree.locate path with
    | .ok place => tree.prune place
    | .error _ => tree
  match node with
  | none => cleared
  | some node =>
    let ready := (cleared.makeDirectory path.directory none).1
    match ready.locate path with
    | .ok place => ready.set place node
    | .error _ => ready

end KanaSettings.FileTree

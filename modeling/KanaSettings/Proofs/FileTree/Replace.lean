import KanaSettings.FileTree.Replace
import KanaSettings.Proofs.FileTree.Growth

/-!
# What replacing a file leaves behind

However it ends, the directory of the file is made first as far as it can be.  If anything fails
then or later, that is all that has happened: `eq_makeDirectory_of_replace` names the tree exactly,
and no temporary file is in it.  If nothing fails, the file has the new contents and nothing else is
different: `placed_of_replace`.
-/

namespace KanaSettings.FileTree

variable {tree tree' : FileTree} {place directory : Location} {name : String} {path : Path}

/-! ## The temporary file -/

lemma length_le_longest {names : List String} (h : name ∈ names) : name.length ≤ longest names := by
  unfold longest
  induction names using List.reverseRecOn with
  | nil => cases h
  | append_singleton names last ih =>
    rw [List.foldl_append, List.foldl_cons, List.foldl_nil]
    rcases List.mem_append.1 h with h | h
    · exact (ih h).trans (le_max_left _ _)
    · rw [List.mem_singleton.1 h]
      exact le_max_right _ _

/-- Nothing in a tree bears the new name. -/
lemma ne_freshName (directory : Location) {entry : Location × Node} (h : entry ∈ tree.entries) :
    entry.1 ≠ directory ++ [tree.freshName] := by
  intro same
  have mem : tree.freshName ∈ tree.entries.flatMap Prod.fst := by
    rw [List.mem_flatMap]
    exact ⟨entry, h, by simp [same]⟩
  have short := length_le_longest mem
  rw [freshName, String.length_ofList, List.length_cons, List.length_replicate] at short
  omega

lemma erase_set_self (tree : FileTree) (place : Location) (node : Node) :
    (tree.set place node).erase place = tree.erase place := by
  simp [set, erase, List.filter_filter]

lemma set_set_self (tree : FileTree) (place : Location) (first second : Node) :
    (tree.set place first).set place second = tree.set place second := by
  simp [set, erase, List.filter_filter]

/-- To take away what bears the new name takes nothing away. -/
lemma erase_freshName (tree : FileTree) (directory : Location) :
    tree.erase (directory ++ [tree.freshName]) = tree := by
  have same : tree.entries.filter (fun entry => entry.1 ≠ directory ++ [tree.freshName]) =
      tree.entries :=
    List.filter_eq_self.2 fun entry mem => by simpa using ne_freshName directory mem
  rw [erase, same]

lemma node?_freshName (tree : FileTree) (directory : Location) :
    tree.node? (directory ++ [tree.freshName]) = none := by
  have taken := node?_erase_self (show directory ++ [tree.freshName] ≠ [] by simp) tree
  rwa [erase_freshName] at taken

/-- The temporary file is no directory on any way. -/
lemma directory_of_set_freshName {contents : ByteArray}
    (h : (tree.set (directory ++ [tree.freshName]) (.file contents)).node? place =
      some .directory) :
    tree.node? place = some .directory := by
  by_cases same : place = directory ++ [tree.freshName]
  · rw [same, node?_set_self (by simp)] at h
    cases h
  · rwa [node?_set_of_ne same] at h

/-- What a file comes to by being renamed is the entry of a directory and no directory. -/
lemma exists_of_destination (h : tree.destination path = .ok place) :
    ∃ directory name, place = directory ++ [name] ∧ tree.LeadsInto path directory name ∧
      path.namesDirectory = false ∧ tree.node? place ≠ some .directory := by
  unfold destination at h
  split at h
  · cases h
  · split at h
    · cases h
    · cases h
    · rename_i target ht
      split at h
      · cases h
      · rename_i slash
        split at h
        · cases h
        · rename_i other
          cases h
          obtain ⟨directory, name, rfl, leads⟩ := exists_of_target? ht
          refine ⟨directory, name, rfl, leads, by simpa using slash, ?_⟩
          intro found
          simp [isDirectory, found] at other

/-- To fill the temporary file and to rename it puts the contents into the file, or leaves nothing
but the temporary file behind. -/
lemma fill_cases (tree : FileTree) (fault : Option Fault) (temporary : Location) (path : Path)
    (contents : ByteArray) :
    (∃ place, (tree.set temporary (.file contents)).destination path = .ok place ∧
      tree.fill fault temporary path contents =
        (((tree.set temporary (.file contents)).erase temporary).set place (.file contents),
          .ok ())) ∨
    ∃ cause written, tree.fill fault temporary path contents =
      (tree.set temporary (.file written), .error cause) := by
  unfold fill
  -- Writing, flushing and renaming can be made to fail, and the path can refuse the file.
  split
  · exact .inr ⟨_, _, rfl⟩
  · exact .inr ⟨_, _, rfl⟩
  · exact .inr ⟨_, _, rfl⟩
  · dsimp only
    split
    · exact .inr ⟨_, _, rfl⟩
    · rename_i place h
      exact .inl ⟨place, h, rfl⟩

/-! ## The file -/

/-- A file was replaced: the path leads into a directory, and the entry there, which was none, is a
file with the contents. -/
structure Placed (path : Path) (contents : ByteArray) (before after : FileTree) : Prop where
  entry : ∃ directory name, before.LeadsInto path directory name ∧
    before.node? (directory ++ [name]) ≠ some .directory ∧
    after = before.set (directory ++ [name]) (.file contents)
  slash : path.namesDirectory = false

/-- The contents are exchanged, or the tree is what it was. -/
lemma exchange_cases (tree : FileTree) (fault : Option Fault) (directory : Location) (path : Path)
    (contents : ByteArray) :
    (∃ after, tree.exchange fault directory path contents = (after, .ok ()) ∧
      Placed path contents tree after) ∨
    ∃ cause, tree.exchange fault directory path contents = (tree, .error cause) := by
  unfold exchange
  split
  · exact .inr ⟨_, rfl⟩
  · dsimp only
    rcases (tree.set (directory ++ [tree.freshName]) (.file .empty)).fill_cases fault
      (directory ++ [tree.freshName]) path contents with ⟨place, found, h⟩ | ⟨cause, written, h⟩
    · rw [set_set_self] at found h
      rw [erase_set_self, erase_freshName] at h
      obtain ⟨above, name, rfl, leads, slash, other⟩ := exists_of_destination found
      -- The way to the file was found beside the temporary one, which is on no way.
      refine .inl ⟨_, by rw [h], ⟨above, name, ?_, ?_, rfl⟩, slash⟩
      · exact leads.mono directory_of_set_freshName
      · intro found
        refine other ?_
        rwa [node?_set_of_ne]
        intro same
        rw [same, node?_freshName] at found
        cases found
    · -- What was written so far is taken away with the temporary file.
      rw [set_set_self] at h
      refine .inr ⟨cause, ?_⟩
      rw [h]
      dsimp only
      rw [erase_set_self, erase_freshName]

/-- Replacing a file makes its directory as far as it can be, and then puts the contents into the
file or leaves everything as it is. -/
theorem replace_cases (tree : FileTree) (path : Path) (contents : ByteArray)
    (fault : Option Fault) :
    (∃ after, tree.replace path contents fault = (after, .ok ()) ∧
      Placed path contents (tree.makeDirectory path.directory (fault.bind Fault.limit?)).1 after) ∨
    ∃ cause, tree.replace path contents fault =
      ((tree.makeDirectory path.directory (fault.bind Fault.limit?)).1, .error cause) := by
  unfold replace
  dsimp only
  split
  · rename_i made cause h
    exact .inr ⟨cause, by rw [h]⟩
  · rename_i made h
    rw [h]
    split
    · exact .inr ⟨_, rfl⟩
    · rename_i directory _
      exact made.exchange_cases fault directory path contents

namespace Placed

variable {contents : ByteArray} {before after : FileTree}

/-- Only directories hold something, and the file took the place of none. -/
lemma rooted (h : Placed path contents before after) (rooted : before.Rooted) : after.Rooted := by
  obtain ⟨directory, name, leads, other, rfl⟩ := h.entry
  exact rooted.set leads.found other _

/-- The file is where the path leads if nothing is in the way. -/
lemma eq_set (h : Placed path contents before after) :
    before.node? path.location ≠ some .directory ∧
      after = before.set path.location (.file contents) := by
  obtain ⟨directory, name, leads, other, rfl⟩ := h.entry
  rw [← eq_location_of_locate (leads.locate (.inl h.slash))]
  exact ⟨other, rfl⟩

/-- The contents are those that the path names. -/
lemma read (h : Placed path contents before after) : after.read path = .ok contents := by
  obtain ⟨directory, name, leads, other, rfl⟩ := h.entry
  have kept {q : Location} (found : before.node? q = some .directory) :
      (before.set (directory ++ [name]) (.file contents)).node? q = some .directory := by
    rwa [node?_set_of_ne]
    rintro rfl
    exact other found
  have found : (before.set (directory ++ [name]) (.file contents)).find path =
      .ok (.file contents) :=
    find_eq_ok.2 ⟨_, (leads.mono kept).locate (.inl h.slash), node?_set_self (by simp) _ _⟩
  exact read_eq_ok.2 found

end Placed

/-- If a file could not be replaced, its directory was made as far as it could be, and that is all. -/
lemma eq_makeDirectory_of_replace {contents : ByteArray} {fault : Option Fault} {cause : OsError}
    (h : tree.replace path contents fault = (tree', .error cause)) :
    tree' = (tree.makeDirectory path.directory (fault.bind Fault.limit?)).1 := by
  rcases tree.replace_cases path contents fault with ⟨after, done, -⟩ | ⟨other, failed⟩
  · rw [done] at h
    cases h
  · rw [failed] at h
    cases h
    rfl

/-- If it could, the contents were put into the file when its directory was there. -/
lemma placed_of_replace {contents : ByteArray} {fault : Option Fault}
    (h : tree.replace path contents fault = (tree', .ok ())) :
    Placed path contents (tree.makeDirectory path.directory (fault.bind Fault.limit?)).1 tree' := by
  rcases tree.replace_cases path contents fault with ⟨after, done, placed⟩ | ⟨other, failed⟩
  · rw [done] at h
    cases h
    exact placed
  · rw [failed] at h
    cases h

/-- A file that could not be replaced is where and what it was, and so is all else: only directories
may be new, less deep than the file. -/
theorem outgrows_of_replace {contents : ByteArray} {fault : Option Fault} {cause : OsError}
    (h : tree.replace path contents fault = (tree', .error cause)) :
    Outgrows path.directory.depth tree tree' := by
  rw [eq_makeDirectory_of_replace h]
  exact outgrows_makeDirectory _ _ _

/-- A file that was replaced has the new contents. -/
theorem read_of_replace {contents : ByteArray} {fault : Option Fault}
    (h : tree.replace path contents fault = (tree', .ok ())) : tree'.read path = .ok contents :=
  (placed_of_replace h).read

/-- A step that fails after the directories are made is never passed over. -/
lemma exists_error_of_fault (tree : FileTree) (path : Path) (contents : ByteArray) {fault : Fault}
    (late : fault.limit? = none) :
    ∃ cause, (tree.replace path contents fault).2 = .error cause := by
  -- Once there is a temporary file, whichever step fails, the fault is what comes of it.
  have filled (temporary : Location) (tree : FileTree) (early : fault.step ≠ .create) :
      ∃ written cause, tree.fill fault temporary path contents =
        (tree.set temporary (.file written), .error cause) := by
    obtain ⟨step, cause⟩ := fault
    cases step with
    | directory room => cases late
    | create => exact absurd rfl early
    | write room => exact ⟨_, _, rfl⟩
    | flush => exact ⟨_, _, rfl⟩
    | rename => exact ⟨_, _, rfl⟩
  unfold replace
  dsimp only
  split
  · exact ⟨_, rfl⟩
  · split
    · exact ⟨_, rfl⟩
    · unfold exchange
      split
      · exact ⟨_, rfl⟩
      · rename_i made _ _ directory _ _ early
        obtain ⟨written, cause, h⟩ := filled (directory ++ [made.freshName])
          (made.set (directory ++ [made.freshName]) (.file .empty)) (by
            rintro same
            exact early fault.cause (by rw [← same]))
        dsimp only
        rw [h]
        exact ⟨cause, rfl⟩

/-- However it ends, everything stands in a directory. -/
theorem Rooted.replace (rooted : tree.Rooted) (path : Path) (contents : ByteArray)
    (fault : Option Fault) : (tree.replace path contents fault).1.Rooted := by
  have made := (outgrows_makeDirectory tree path.directory (fault.bind Fault.limit?)).rooted rooted
  rcases tree.replace_cases path contents fault with ⟨after, done, placed⟩ | ⟨other, failed⟩
  · rw [done]
    exact placed.rooted made
  · rw [failed]
    exact made

end KanaSettings.FileTree

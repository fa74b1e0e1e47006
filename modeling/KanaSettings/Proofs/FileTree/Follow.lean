import KanaSettings.FileTree.Access
import KanaSettings.Proofs.FileTree.Path

/-!
# Where paths lead

To follow a path is to go from directory to directory.  `Leads` says that without the ways in which
it can fail, so that what holds of it is shown along the moves: a tree with more directories leads
to the same place, and a path that never goes back leads as deep as it has names.
-/

namespace KanaSettings

/-- Where moves lead from a place if nothing is in the way. -/
def Location.after : Location → List Path.Move → Location
  | place, [] => place
  | place, .stay :: moves => after place moves
  | place, .back :: moves => after place.above moves
  | place, .enter name :: moves => after (place ++ [name]) moves

/-- The location that a path names if nothing is in the way. -/
def Path.location (path : Path) : Location := Location.after [] path.moves

namespace Location

lemma after_append (place : Location) (front back : List Path.Move) :
    place.after (front ++ back) = (place.after front).after back := by
  induction front generalizing place with
  | nil => rfl
  | cons move front ih => cases move <;> exact ih _

@[simp] lemma after_replicate_stay (place : Location) (count : Nat) :
    place.after (List.replicate count .stay) = place := by
  induction count with
  | zero => rfl
  | succ count ih => exact ih

lemma length_after_le (place : Location) (moves : List Path.Move) :
    (place.after moves).length ≤ place.length + Path.depthOf moves := by
  induction moves generalizing place with
  | nil => simp [after]
  | cons move moves ih =>
    cases move with
    | stay =>
      rw [Path.depthOf_stay]
      exact ih place
    | back =>
      have above : place.above.length ≤ place.length := by simp [above]
      rw [Path.depthOf_back]
      exact (ih place.above).trans (Nat.add_le_add_right above _)
    | enter name =>
      have below := ih (place ++ [name])
      rw [List.length_append, List.length_singleton] at below
      rw [Path.depthOf_enter, after]
      omega

end Location

lemma Path.length_location_le (path : Path) : path.location.length ≤ path.depth := by
  have := Location.length_after_le [] path.moves
  rwa [List.length_nil, Nat.zero_add] at this

namespace FileTree

variable {tree tree' : FileTree} {place goal : Location} {moves : List Path.Move}

/-- Whether moves lead from one place to another, which need not be there. -/
inductive Leads (tree : FileTree) : Location → List Path.Move → Location → Prop where
  | here (place : Location) : Leads tree place [] place
  | stay {place goal : Location} {moves : List Path.Move}
      (directory : tree.node? place = some .directory)
      (rest : Leads tree place moves goal) : Leads tree place (.stay :: moves) goal
  | back {place goal : Location} {moves : List Path.Move}
      (directory : tree.node? place = some .directory)
      (rest : Leads tree place.above moves goal) : Leads tree place (.back :: moves) goal
  /-- From a directory one can go into anything that is or could be in it. -/
  | enter {place goal : Location} {moves : List Path.Move} {name : String}
      (directory : tree.node? place = some .directory)
      (short : name.utf8ByteSize ≤ Path.maxNameSize)
      (rest : Leads tree (place ++ [name]) moves goal) :
      Leads tree place (.enter name :: moves) goal

lemma entry_eq_ok {name : String} :
    entry place name = .ok goal ↔
      name.utf8ByteSize ≤ Path.maxNameSize ∧ goal = place ++ [name] := by
  unfold entry
  split
  · rename_i long
    simp [Nat.not_le.2 long]
  · rename_i short
    simp [Nat.not_lt.1 short, eq_comm]

lemma follow_eq_ok : tree.follow place moves = .ok goal ↔ tree.Leads place moves goal := by
  constructor
  · intro h
    induction moves generalizing place with
    | nil =>
      cases h
      exact .here _
    | cons move moves ih =>
      unfold follow at h
      split at h
      · cases h
      · rename_i directory
        cases move with
        | stay => exact .stay directory (ih h)
        | back => exact .back directory (ih h)
        | enter name =>
          dsimp only at h
          split at h
          · cases h
          · rename_i next hentry
            obtain ⟨short, rfl⟩ := entry_eq_ok.1 hentry
            exact .enter directory short (ih h)
      · cases h
  · intro h
    induction h with
    | here => rfl
    | stay directory _ ih => rw [follow, directory]; exact ih
    | back directory _ ih => rw [follow, directory]; exact ih
    | enter directory short _ ih =>
      rw [follow, directory]
      simpa [entry_eq_ok.2 ⟨short, rfl⟩] using ih

/-- What is in the way on a path is still in the way in a tree that has all that was there. -/
lemma follow_eq_error {cause : OsError} (h : tree.follow place moves = .error cause)
    (there : cause ≠ .notFound)
    (kept : ∀ {q node}, tree.node? q = some node → tree'.node? q = some node) :
    tree'.follow place moves = .error cause := by
  induction moves generalizing place with
  | nil => cases h
  | cons move moves ih =>
    unfold follow at h ⊢
    split at h
    · -- What is missing here may be there in the other tree.
      cases h
      exact absurd rfl there
    · rename_i directory
      rw [kept directory]
      cases move with
      | stay => exact ih h
      | back => exact ih h
      | enter name =>
        dsimp only at h ⊢
        split at h
        · exact h
        · exact ih h
    · rename_i node other found
      rw [kept found]
      cases node with
      | directory => exact absurd rfl other
      | file contents => exact h
      | socket => exact h

namespace Leads

lemma append {middle : Location} {more : List Path.Move} (h : tree.Leads place moves middle)
    (h' : tree.Leads middle more goal) : tree.Leads place (moves ++ more) goal := by
  induction h with
  | here => exact h'
  | stay directory _ ih => exact .stay directory (ih h')
  | back directory _ ih => exact .back directory (ih h')
  | enter directory short _ ih => exact .enter directory short (ih h')

lemma exists_of_append {more : List Path.Move} (h : tree.Leads place (moves ++ more) goal) :
    ∃ middle, tree.Leads place moves middle ∧ tree.Leads middle more goal := by
  induction moves generalizing place with
  | nil => exact ⟨place, .here place, h⟩
  | cons move moves ih =>
    cases h with
    | stay directory rest =>
      obtain ⟨middle, front, back⟩ := ih rest
      exact ⟨middle, .stay directory front, back⟩
    | back directory rest =>
      obtain ⟨middle, front, back⟩ := ih rest
      exact ⟨middle, .back directory front, back⟩
    | enter directory short rest =>
      obtain ⟨middle, front, back⟩ := ih rest
      exact ⟨middle, .enter directory short front, back⟩

lemma eq_after (h : tree.Leads place moves goal) : goal = place.after moves := by
  induction h with
  | here => rfl
  | stay _ _ ih => exact ih
  | back _ _ ih => exact ih
  | enter _ _ _ ih => exact ih

lemma mono (h : tree.Leads place moves goal)
    (more : ∀ {q}, tree.node? q = some .directory → tree'.node? q = some .directory) :
    tree'.Leads place moves goal := by
  induction h with
  | here place => exact .here place
  | stay directory _ ih => exact .stay (more directory) ih
  | back directory _ ih => exact .back (more directory) ih
  | enter directory short _ ih => exact .enter (more directory) short ih

/-- Moves that never go back only go deeper. -/
lemma prefix_of_straight (h : tree.Leads place moves goal) (straight : .back ∉ moves) :
    place <+: goal ∧ goal.length = place.length + Path.depthOf moves := by
  induction h with
  | here place => simp
  | stay _ _ ih => simpa using ih (by simpa using straight)
  | back => simp at straight
  | enter _ _ _ ih =>
    obtain ⟨below, length⟩ := ih (by simpa using straight)
    refine ⟨(List.prefix_append _ _).trans below, ?_⟩
    rw [length, List.length_append, List.length_singleton, Path.depthOf_enter]
    omega

/-- Where moves lead that never go back is decided by the directories on the way. -/
lemma mono_of_straight (h : tree.Leads place moves goal) (straight : .back ∉ moves)
    (more : ∀ {q}, q <+: goal → tree.node? q = some .directory → tree'.node? q = some .directory) :
    tree'.Leads place moves goal := by
  induction h with
  | here place => exact .here place
  | stay directory rest ih =>
    have straight : Path.Move.back ∉ _ := fun mem => straight (List.mem_cons_of_mem _ mem)
    exact .stay (more (rest.prefix_of_straight straight).1 directory) (ih straight more)
  | back => simp at straight
  | enter directory short rest ih =>
    have straight : Path.Move.back ∉ _ := fun mem => straight (List.mem_cons_of_mem _ mem)
    have below := (List.prefix_append _ _).trans (rest.prefix_of_straight straight).1
    exact .enter (more below directory) short (ih straight more)

/-- One that stays in the end is in a directory then. -/
lemma directory_of_stay (h : tree.Leads place (moves ++ [.stay]) goal) :
    tree.node? goal = some .directory ∧ tree.Leads place moves goal := by
  obtain ⟨middle, front, back⟩ := h.exists_of_append
  cases back with
  | stay directory rest =>
    cases rest
    exact ⟨directory, front⟩

lemma replicate_stay (directory : tree.node? place = some .directory) (count : Nat) :
    tree.Leads place (List.replicate count .stay) place := by
  induction count with
  | zero => exact .here place
  | succ count ih => exact .stay directory ih

end Leads

/-! ## Paths -/

lemma locate_eq_ok {path : Path} :
    tree.locate path = .ok goal ↔ checkPath path = .ok () ∧ tree.Leads [] path.moves goal := by
  rw [← follow_eq_ok, locate]
  cases checkPath path with
  | error cause => simp [bind, Except.bind]
  | ok _ => simp [bind, Except.bind]

lemma eq_location_of_locate {path : Path} (h : tree.locate path = .ok goal) :
    goal = path.location :=
  (locate_eq_ok.1 h).2.eq_after

lemma find_eq_ok {path : Path} {node : Node} : tree.find path = .ok node ↔
    ∃ place, tree.locate path = .ok place ∧ tree.node? place = some node := by
  unfold find
  cases tree.locate path with
  | error cause => simp [bind, Except.bind]
  | ok place =>
    cases h : tree.node? place with
    | none => simp [bind, Except.bind, h]
    | some other => simp [bind, Except.bind, h, pure, Except.pure]

lemma read_eq_ok {path : Path} {contents : ByteArray} :
    tree.read path = .ok contents ↔ tree.find path = .ok (.file contents) := by
  unfold read
  cases tree.find path with
  | error cause => simp [bind, Except.bind]
  | ok node => cases node <;> simp [bind, Except.bind, pure, Except.pure]

lemma read_eq_notFound {path : Path} :
    tree.read path = .error .notFound ↔ tree.find path = .error .notFound := by
  unfold read
  cases tree.find path with
  | error cause => simp [bind, Except.bind]
  | ok node => cases node <;> simp [bind, Except.bind, pure, Except.pure]

/-- A path that names nothing in a tree names nothing in one that lacks something of it, and nothing
is in the way there. -/
lemma find_eq_notFound {path : Path} (h : tree'.find path = .error .notFound)
    (kept : ∀ {q node}, tree.node? q = some node → tree'.node? q = some node) :
    tree.find path = .error .notFound := by
  cases before : tree.find path with
  | ok node =>
    obtain ⟨place, located, found⟩ := find_eq_ok.1 before
    obtain ⟨valid, leads⟩ := locate_eq_ok.1 located
    rw [find_eq_ok.2 ⟨place, locate_eq_ok.2 ⟨valid, leads.mono kept⟩, kept found⟩] at h
    cases h
  | error cause =>
    by_cases there : cause = .notFound
    · rw [there]
    · -- Anything else in the way would be in the way in the other tree too.
      have same : tree'.find path = .error cause := by
        unfold find locate at before ⊢
        cases valid : checkPath path with
        | error other => simpa [valid, bind, Except.bind] using before
        | ok _ =>
          cases hf : tree.follow [] path.moves with
          | error other =>
            simp only [valid, hf, bind, Except.bind, Except.error.injEq] at before
            subst before
            simp [follow_eq_error hf there kept, bind, Except.bind]
          | ok place =>
            simp only [valid, hf, bind, Except.bind] at before
            split at before
            · cases before
            · cases before
              exact absurd rfl there
      rw [same] at h
      cases h
      exact absurd rfl there

/-- A path whose last part names an entry of a directory. -/
structure LeadsInto (tree : FileTree) (path : Path) (directory : Location) (name : String) :
    Prop where
  valid : checkPath path = .ok ()
  found : tree.node? directory = some .directory
  short : name.utf8ByteSize ≤ Path.maxNameSize
  /-- What stands before the last part leads to the directory, and nothing but slashes comes after.
  -/
  moves : ∃ front count, tree.Leads [] front directory ∧
    path.moves = front ++ .enter name :: List.replicate count .stay ∧
      (path.namesDirectory = false → count = 0)

/-- What can be made or taken away by a path is the entry of a directory. -/
lemma exists_of_target? {path : Path} (h : tree.target? path = .ok (some place)) :
    ∃ directory name, place = directory ++ [name] ∧ tree.LeadsInto path directory name := by
  obtain ⟨front, count, above, moves, slashes⟩ := path.exists_moves_eq_lastMove
  unfold target? at h
  generalize path.lastMove = parts at above moves h
  obtain ⟨_, last⟩ := parts
  subst above
  cases valid : checkPath path with
  | error cause => simp [valid, bind, Except.bind] at h
  | ok _ =>
    -- What stands before the last part is followed into a directory, and the last part is looked at.
    cases hf : tree.follow [] (front ++ [.stay]) with
    | error cause => simp [valid, hf, bind, Except.bind] at h
    | ok directory =>
      obtain ⟨found, leads⟩ := (follow_eq_ok.1 hf).directory_of_stay
      cases last with
      | stay => simp [valid, hf, bind, Except.bind, pure, Except.pure] at h
      | back => simp [valid, hf, bind, Except.bind, pure, Except.pure] at h
      | enter name =>
        cases he : entry directory name with
        | error cause => simp [valid, hf, he, bind, Except.bind] at h
        | ok goal =>
          obtain ⟨short, rfl⟩ := entry_eq_ok.1 he
          simp only [valid, hf, he, bind, Except.bind, pure, Except.pure, Except.ok.injEq,
            Option.some.injEq] at h
          exact ⟨directory, name, h.symm, valid, found, short, front, count, leads, moves, slashes⟩

namespace LeadsInto

variable {path : Path} {directory : Location} {name : String}

/-- The entry is where the path leads if nothing is in the way. -/
lemma eq_location (h : tree.LeadsInto path directory name) : directory ++ [name] = path.location := by
  obtain ⟨front, count, leads, moves, -⟩ := h.moves
  rw [Path.location, moves, Location.after_append, ← leads.eq_after, Location.after,
    Location.after_replicate_stay]

lemma mono (h : tree.LeadsInto path directory name)
    (more : ∀ {q}, tree.node? q = some .directory → tree'.node? q = some .directory) :
    tree'.LeadsInto path directory name := by
  obtain ⟨front, count, leads, moves⟩ := h.moves
  exact ⟨h.valid, more h.found, h.short, front, count, leads.mono more, moves⟩

/-- The path names the entry; one that ends in a slash does so if the entry is a directory. -/
lemma locate (h : tree.LeadsInto path directory name)
    (slash : path.namesDirectory = false ∨ tree.node? (directory ++ [name]) = some .directory) :
    tree.locate path = .ok (directory ++ [name]) := by
  obtain ⟨front, count, leads, moves, slashes⟩ := h.moves
  have entered : tree.Leads (directory ++ [name]) (List.replicate count .stay)
      (directory ++ [name]) := by
    rcases slash with none | found
    · rw [slashes none]
      exact .here _
    · exact Leads.replicate_stay found count
  rw [locate_eq_ok, moves]
  exact ⟨h.valid, leads.append (.enter h.found h.short entered)⟩

end LeadsInto

end FileTree

end KanaSettings

import KanaSettings.FileTree.Directories
import KanaSettings.Proofs.FileTree.Follow

/-!
# Trees that grow

Directories are made one below the other, and what was made stays even if the next one cannot be
made.  So what can be said of every outcome is that the tree has grown: all that was there is there,
and only directories are new.

In a tree of a file system everything stands in a directory.  That is not part of what a tree is
here; it is `Rooted`, and no operation gives it up.
-/

namespace KanaSettings.FileTree

variable {tree : FileTree} {place directory : Location} {name : String} {node : Node}

/-! ## Rooted trees -/

/-- A tree in which everything stands in a directory. -/
structure Rooted (tree : FileTree) : Prop where
  /-- What stands anywhere but at the root has a directory above it. -/
  above : ∀ {place : Location} {node : Node}, tree.node? place = some node → place ≠ [] →
    tree.node? place.above = some .directory

lemma rooted_empty : Rooted empty := by
  constructor
  intro place node h some
  cases place with
  | nil => exact absurd rfl some
  | cons name rest => cases h

@[simp] lemma above_append_singleton (directory : Location) (name : String) :
    Location.above (directory ++ [name]) = directory := by
  simp [Location.above]

/-- All that something stands below is a directory. -/
lemma Rooted.directory_of_prefix (rooted : tree.Rooted) (found : tree.node? place = some node)
    {above : Location} (below : above <+: place) (proper : above ≠ place) :
    tree.node? above = some .directory := by
  induction place using List.reverseRecOn generalizing node with
  | nil => exact absurd (List.prefix_nil.1 below) proper
  | append_singleton directory name ih =>
    have here : tree.node? directory = some .directory := by
      simpa using rooted.above found (by simp)
    rcases List.prefix_concat_iff.1 below with same | below
    · exact absurd same proper
    · by_cases same : above = directory
      · rw [same, here]
      · exact ih here below same

/-- To put something into a directory keeps a tree rooted, unless it takes the place of a directory
that could hold something. -/
lemma Rooted.set (rooted : tree.Rooted) (found : tree.node? directory = some .directory)
    (free : tree.node? (directory ++ [name]) ≠ some .directory) (node : Node) :
    (tree.set (directory ++ [name]) node).Rooted := by
  have apart : directory ≠ directory ++ [name] := by simp
  constructor
  intro place other hplace some
  by_cases same : place = directory ++ [name]
  · rw [same, above_append_singleton, node?_set_of_ne apart]
    exact found
  · rw [node?_set_of_ne same] at hplace
    have above := rooted.above hplace some
    -- The entry is above nothing, or it would be a directory.
    rwa [node?_set_of_ne]
    rintro h
    exact free (h ▸ above)

/-! ## Growth -/

/-- A tree in which all that was there is there, and in which only directories are new, none of them
below a depth. -/
structure Grown (depth : Nat) (before after : FileTree) : Prop where
  kept : ∀ {place node}, before.node? place = some node → after.node? place = some node
  made : ∀ {place node}, before.node? place = none → after.node? place = some node →
    node = .directory ∧ place.length ≤ depth

lemma Grown.refl (depth : Nat) (tree : FileTree) : Grown depth tree tree :=
  ⟨fun h => h, fun h h' => by rw [h] at h'; cases h'⟩

/-- A tree in which all that was there is there, and in which only directories are new, each of them
where one of certain paths leads. -/
structure Raised (paths : List Path) (before after : FileTree) : Prop where
  kept : ∀ {place node}, before.node? place = some node → after.node? place = some node
  made : ∀ {place node}, before.node? place = none → after.node? place = some node →
    node = .directory ∧ ∃ path ∈ paths, place = path.location

namespace Raised

variable {paths : List Path}

lemma refl (paths : List Path) (tree : FileTree) : Raised paths tree tree :=
  ⟨fun h => h, fun h h' => by rw [h] at h'; cases h'⟩

lemma trans {a b c : FileTree} (hab : Raised paths a b) (hbc : Raised paths b c) :
    Raised paths a c := by
  refine ⟨fun h => hbc.kept (hab.kept h), ?_⟩
  intro place node absent found
  cases middle : b.node? place with
  | none => exact hbc.made middle found
  | some other =>
    rw [hbc.kept middle] at found
    cases found
    exact hab.made absent middle

lemma set_directory {path : Path} (mem : path ∈ paths) (leads : tree.LeadsInto path directory name)
    (absent : tree.node? (directory ++ [name]) = none) :
    Raised paths tree (tree.set (directory ++ [name]) .directory) := by
  have self := node?_set_self (show directory ++ [name] ≠ [] by simp) tree .directory
  constructor
  · intro place node found
    have apart : place ≠ directory ++ [name] := by
      rintro rfl
      rw [absent] at found
      cases found
    rwa [node?_set_of_ne apart]
  · intro place node none found
    by_cases same : place = directory ++ [name]
    · subst same
      rw [self] at found
      cases found
      exact ⟨rfl, path, mem, leads.eq_location⟩
    · rw [node?_set_of_ne same, none] at found
      cases found

/-- What a path names it still names. -/
lemma find {before after : FileTree} (raised : Raised paths before after) {path : Path} {node : Node}
    (found : before.find path = .ok node) : after.find path = .ok node := by
  obtain ⟨place, located, there⟩ := find_eq_ok.1 found
  obtain ⟨valid, leads⟩ := locate_eq_ok.1 located
  exact find_eq_ok.2 ⟨place, locate_eq_ok.2 ⟨valid, leads.mono raised.kept⟩, raised.kept there⟩

/-- Where paths lead is no deeper than they go. -/
lemma grown {before after : FileTree} {depth : Nat} (raised : Raised paths before after)
    (deep : ∀ path ∈ paths, path.depth ≤ depth) : Grown depth before after := by
  refine ⟨raised.kept, fun absent found => ?_⟩
  obtain ⟨made, path, mem, rfl⟩ := raised.made absent found
  exact ⟨made, path.length_location_le.trans (deep path mem)⟩

end Raised

/-- Where a path leads that never goes back is not changed by new directories that are less deep
than the path has names. -/
lemma Grown.leads_of_straight {before after : FileTree} {depth : Nat} {moves : List Path.Move}
    (grown : Grown depth before after) (rooted : before.Rooted) (straight : .back ∉ moves)
    (shallow : Path.depthOf moves ≠ 0 → depth < Path.depthOf moves)
    (leads : after.Leads [] moves place) (found : after.node? place = some node) :
    before.Leads [] moves place ∧ before.node? place = some node := by
  have length : place.length = Path.depthOf moves := by
    simpa using (leads.prefix_of_straight straight).2
  have old : before.node? place = some node := by
    cases h : before.node? place with
    | some other => rw [← found, grown.kept h]
    | none =>
      -- It cannot be new: it is deeper than all new directories, and the root is always there.
      have deep := (grown.made h found).2
      have some : place ≠ [] := by
        rintro rfl
        cases h
      have := List.length_pos_iff.2 some
      omega
  -- So all directories on the way to it were there too.
  refine ⟨leads.mono_of_straight straight ?_, old⟩
  intro above below directory
  by_cases same : above = place
  · rw [same] at directory ⊢
    rw [old, ← found, directory]
  · exact rooted.directory_of_prefix old below same

/-- So what such a path names is the same before and after. -/
lemma Grown.find_eq_ok_iff {before after : FileTree} {depth : Nat} {path : Path}
    (grown : Grown depth before after) (rooted : before.Rooted) (straight : .back ∉ path.moves)
    (shallow : path.depth ≠ 0 → depth < path.depth) :
    after.find path = .ok node ↔ before.find path = .ok node := by
  rw [find_eq_ok, find_eq_ok]
  constructor
  · rintro ⟨place, located, found⟩
    obtain ⟨valid, leads⟩ := locate_eq_ok.1 located
    obtain ⟨leads, found⟩ := grown.leads_of_straight rooted straight shallow leads found
    exact ⟨place, locate_eq_ok.2 ⟨valid, leads⟩, found⟩
  · rintro ⟨place, located, found⟩
    obtain ⟨valid, leads⟩ := locate_eq_ok.1 located
    exact ⟨place, locate_eq_ok.2 ⟨valid, leads.mono grown.kept⟩, grown.kept found⟩

lemma Grown.toOption_find {before after : FileTree} {depth : Nat} {path : Path}
    (grown : Grown depth before after) (rooted : before.Rooted) (straight : .back ∉ path.moves)
    (shallow : path.depth ≠ 0 → depth < path.depth) :
    (after.find path).toOption = (before.find path).toOption := by
  have toOption_eq_some (x : Except OsError Node) (node : Node) :
      x.toOption = some node ↔ x = .ok node := by
    cases x <;> simp [Except.toOption]
  refine Option.ext fun node => ?_
  rw [toOption_eq_some, toOption_eq_some, grown.find_eq_ok_iff rooted straight shallow]

/-- A tree that has grown and is as rooted as it was. -/
structure Outgrows (depth : Nat) (before after : FileTree) : Prop where
  grown : Grown depth before after
  rooted : before.Rooted → after.Rooted

lemma Outgrows.refl (depth : Nat) (tree : FileTree) : Outgrows depth tree tree :=
  ⟨.refl depth tree, fun rooted => rooted⟩

/-! ## Making directories -/

lemma hasDirectory_eq_true {path : Path} :
    tree.hasDirectory path = true ↔ tree.find path = .ok .directory := by
  unfold hasDirectory
  split
  · rename_i h
    simp [h]
  · rename_i h
    simpa using h

namespace Site

variable {site site' : Site} {path : Path}

/-- One directory is made where nothing was, in a directory. -/
lemma exists_of_makeOne (h : site.makeOne path = .ok site') :
    ∃ directory name, site.tree.LeadsInto path directory name ∧
      site.tree.node? (directory ++ [name]) = none ∧
      site'.tree = site.tree.set (directory ++ [name]) .directory := by
  unfold makeOne at h
  cases ht : site.tree.target? path with
  | error cause => simp [ht, bind, Except.bind] at h
  | ok target =>
    cases target with
    | none => simp [ht, bind, Except.bind] at h
    | some place =>
      obtain ⟨directory, name, rfl, leads⟩ := exists_of_target? ht
      simp only [ht, bind, Except.bind] at h
      split at h
      · cases h
      · rename_i absent
        refine ⟨directory, name, leads, by simpa using absent, ?_⟩
        split at h <;> cases h <;> rfl

/-- To make a directory with those above it is to make it in the end, unless one above cannot be
made. -/
lemma ensure_cons (path : Path) (above : List Path) (site : Site) :
    ensure (path :: above) site = site.ensureOne path ∨
      ensure (path :: above) site = (ensure above site).1.ensureOne path ∨
      ∃ cause, ensure (path :: above) site = ((ensure above site).1, .error cause) := by
  simp only [ensure]
  split
  · split
    · rename_i h
      exact .inr (.inl (by rw [h]))
    · rename_i cause h
      exact .inr (.inr ⟨cause, by rw [h]⟩)
  · exact .inl rfl

/-- What holds between trees of which the second has one more directory holds between a tree and what
becomes of it when directories are made. -/
lemma ensure_induction {motive : FileTree → FileTree → Prop} (refl : ∀ tree, motive tree tree)
    (trans : ∀ {a b c}, motive a b → motive b c → motive a c) {paths : List Path}
    (one : ∀ path ∈ paths, ∀ {site site' : Site}, site.makeOne path = .ok site' →
      motive site.tree site'.tree) (site : Site) :
    motive site.tree (ensure paths site).1.tree := by
  induction paths with
  | nil => exact refl _
  | cons path above ih =>
    have ih := ih fun p mem => one p (List.mem_cons_of_mem _ mem)
    have last (site : Site) : motive site.tree (site.ensureOne path).1.tree := by
      unfold ensureOne
      split
      · rename_i h
        exact one path List.mem_cons_self h
      · exact refl _
    rcases ensure_cons path above site with h | h | ⟨cause, h⟩
    · rw [h]
      exact last site
    · rw [h]
      exact trans ih (last _)
    · rw [h]
      exact ih

lemma raised_ensure (paths : List Path) (site : Site) :
    Raised paths site.tree (ensure paths site).1.tree := by
  refine ensure_induction (.refl paths) .trans (fun path mem _ _ h => ?_) site
  obtain ⟨directory, name, leads, absent, tree⟩ := exists_of_makeOne h
  rw [tree]
  exact .set_directory mem leads absent

lemma rooted_ensure (paths : List Path) (site : Site) :
    site.tree.Rooted → (ensure paths site).1.tree.Rooted := by
  refine ensure_induction (motive := fun before after => before.Rooted → after.Rooted)
    (fun _ rooted => rooted) (fun hab hbc rooted => hbc (hab rooted))
    (fun path _ _ _ h rooted => ?_) site
  obtain ⟨directory, name, leads, absent, tree⟩ := exists_of_makeOne h
  rw [tree]
  exact rooted.set leads.found (by simp [absent]) _

end Site

/-- To make a directory makes nothing but directories, where its path and those above it lead. -/
theorem raised_makeDirectory (tree : FileTree) (path : Path) (limit : Option Limit) :
    Raised path.ancestors tree (tree.makeDirectory path limit).1 :=
  Site.raised_ensure path.ancestors ⟨tree, limit⟩

/-- So they are at most as deep as the path goes, and stand in directories. -/
theorem outgrows_makeDirectory (tree : FileTree) (path : Path) (limit : Option Limit) :
    Outgrows path.depth tree (tree.makeDirectory path limit).1 where
  grown := (raised_makeDirectory tree path limit).grown fun _ mem =>
    Path.depth_of_mem_ancestors mem
  rooted := Site.rooted_ensure path.ancestors ⟨tree, limit⟩

end KanaSettings.FileTree

import KanaSettings.Proofs.FileTree.Replace

/-!
# Replacing a file that is there

Where a file can be read, nothing is in the way of replacing it: its path leads into a directory to
something that is no directory, and the path of its directory, which is made from the text of the path,
names this directory.  So a file that has been replaced can be replaced again.
-/

namespace KanaSettings.FileTree

variable {tree tree' : FileTree} {path : Path} {directory : Location} {name : String}

/-! ## Directories that are there -/

/-- Where the last part of a path goes, once what stands before it has led to a directory. -/
lemma target?_of_leads {front : List Path.Move} (valid : checkPath path = .ok ())
    (leads : tree.Leads [] front directory) (found : tree.node? directory = some .directory)
    (above : path.lastMove.1 = front ++ [.stay]) :
    tree.target? path = match path.lastMove.2 with
      | .enter name => (entry directory name).map some
      | .stay | .back => .ok none := by
  have followed : tree.follow [] (front ++ [.stay]) = .ok directory :=
    follow_eq_ok.2 (leads.append (.stay found (.here _)))
  unfold target?
  generalize path.lastMove = parts at above
  obtain ⟨_, last⟩ := parts
  subst above
  cases last with
  | stay => simp [valid, followed, bind, Except.bind, pure, Except.pure]
  | back => simp [valid, followed, bind, Except.bind, pure, Except.pure]
  | enter name =>
    cases entry directory name <;>
      simp [valid, followed, bind, Except.bind, pure, Except.pure, Except.map]

/-- A path that leads into a directory and has no slash at its end comes to the entry. -/
lemma target?_of_leadsInto (leads : tree.LeadsInto path directory name)
    (slash : path.namesDirectory = false) :
    tree.target? path = .ok (some (directory ++ [name])) := by
  obtain ⟨front, count, before, moves, slashes⟩ := leads.moves
  obtain ⟨front', count', above, moves', slashes'⟩ := path.exists_moves_eq_lastMove
  -- Without slashes at the end, the last move is that of the last part.
  rw [slashes slash] at moves
  rw [slashes' slash, moves] at moves'
  obtain ⟨rfl, last⟩ := List.append_inj' moves' rfl
  have last : path.lastMove.2 = .enter name := (List.singleton_inj.1 last).symm
  rw [target?_of_leads leads.valid before leads.found above, last]
  dsimp only
  rw [entry_eq_ok.2 ⟨leads.short, rfl⟩]
  rfl

lemma makeOne_of_hasDirectory {site : Site} (there : site.tree.hasDirectory path = true) :
    site.makeOne path = .error .alreadyExists := by
  obtain ⟨place, located, found⟩ := find_eq_ok.1 (hasDirectory_eq_true.1 there)
  obtain ⟨valid, leads⟩ := locate_eq_ok.1 located
  obtain ⟨front, count, above, moves, -⟩ := path.exists_moves_eq_lastMove
  rw [moves] at leads
  obtain ⟨middle, before, last⟩ := leads.exists_of_append
  unfold Site.makeOne
  generalize hm : path.lastMove.2 = move at last
  cases last with
  | stay directory rest =>
    rw [target?_of_leads valid before directory above, hm]
    rfl
  | back directory rest =>
    rw [target?_of_leads valid before directory above, hm]
    rfl
  | @enter _ _ _ name directory short rest =>
    have same : place = middle ++ [name] := by simpa using rest.eq_after
    rw [target?_of_leads valid before directory above, hm]
    dsimp only
    rw [entry_eq_ok.2 ⟨short, rfl⟩, ← same]
    simp [Except.map, bind, Except.bind, found]

lemma makeDirectory_of_hasDirectory (limit : Option Limit) (there : tree.hasDirectory path = true) :
    tree.makeDirectory path limit = (tree, .ok ()) := by
  have some : path.text.isEmpty = false := by
    by_contra empty
    obtain ⟨text⟩ := path
    obtain rfl : text = "" := by simpa using empty
    cases there
  obtain ⟨above, ancestors⟩ := Path.exists_ancestors_eq_cons some
  have refused : (⟨tree, limit⟩ : Site).makeOne path = .error .alreadyExists :=
    makeOne_of_hasDirectory there
  rw [makeDirectory, ancestors]
  simp [Site.ensure, Site.ensureOne, refused, there]

/-! ## Paths that lead to a file -/

lemma checkPath_eq_ok : checkPath path = .ok () ↔
    path.holdsNul = false ∧ path.text.isEmpty = false ∧ path.size < Path.sizeLimit := by
  unfold checkPath
  split_ifs with nul empty long <;> simp_all

/-- The path of a directory can be given to the system if that of the file can. -/
lemma checkPath_directory (valid : checkPath path = .ok ()) :
    checkPath path.directory = .ok () := by
  rcases path.directory_cases with here | root | ⟨rest, begins⟩
  · rw [here]
    rfl
  · rw [root]
    rfl
  · obtain ⟨nul, -, short⟩ := checkPath_eq_ok.1 valid
    refine checkPath_eq_ok.2 ⟨?_, path.isEmpty_directory, ?_⟩
    · simp_all [Path.holdsNul, ← begins]
    · have text : path.text = path.directory.text ++ String.ofList rest :=
        String.toList_inj.1 (by rw [String.toList_append, String.toList_ofList, begins])
      rw [Path.size, text, String.utf8ByteSize_append] at short
      exact Nat.lt_of_le_of_lt (Nat.le_add_right _ _) short

lemma Leads.directory_of_prefix {place goal : Location} {moves : List Path.Move}
    (h : tree.Leads place moves goal)
    (above : ∀ q, q <+: place → q ≠ place → tree.node? q = some .directory) :
    ∀ q, q <+: goal → q ≠ goal → tree.node? q = some .directory := by
  induction h with
  | here => exact above
  | stay _ _ ih => exact ih above
  | @back place _ _ _ _ ih =>
    refine ih fun q front apart => ?_
    have shorter : place.above <+: place := List.dropLast_prefix place
    refine above q (front.trans shorter) ?_
    rintro rfl
    exact apart (front.eq_of_length_le shorter.length_le)
  | @enter place _ _ _ directory _ _ ih =>
    refine ih fun q front apart => ?_
    rcases List.prefix_concat_iff.1 front with whole | front
    · exact absurd whole apart
    · by_cases same : q = place
      · rwa [same]
      · exact above q front same

/-- A path that leads to something that is no directory leads into one. -/
lemma exists_leadsInto {place : Location} (located : tree.locate path = .ok place)
    (other : tree.node? place ≠ some .directory) :
    path.namesDirectory = false ∧
      ∃ directory name, place = directory ++ [name] ∧ tree.LeadsInto path directory name := by
  obtain ⟨valid, leads⟩ := locate_eq_ok.1 located
  have slash : path.namesDirectory = false := by
    cases slash : path.namesDirectory with
    | false => rfl
    | true =>
      obtain ⟨front, stays⟩ := Path.exists_moves_of_namesDirectory slash
      rw [stays] at leads
      exact absurd leads.directory_of_stay.1 other
  refine ⟨slash, ?_⟩
  obtain ⟨front, count, -, moves, ends⟩ := path.exists_moves_eq_lastMove
  rw [ends slash] at moves
  rw [moves] at leads
  obtain ⟨middle, before, last⟩ := leads.exists_of_append
  generalize move_eq : path.lastMove.2 = move at last
  cases last with
  | stay found rest =>
    cases rest
    exact absurd found other
  | back found rest =>
    -- One goes back to a directory that the path has passed.
    cases rest
    have passed := before.directory_of_prefix (by simp) middle.above (List.dropLast_prefix middle)
    by_cases same : middle.above = middle
    · rw [same] at other
      exact absurd found other
    · exact absurd (passed same) other
  | @enter _ _ _ name found short rest =>
    cases rest
    exact ⟨middle, name, rfl, valid, found, short, front, 0, before, by rw [moves, move_eq],
      fun _ => rfl⟩

namespace LeadsInto

lemma hasDirectory (leads : tree.LeadsInto path directory name)
    (slash : path.namesDirectory = false) : tree.hasDirectory path.directory = true := by
  obtain ⟨front, count, before, moves, ends⟩ := leads.moves
  rw [ends slash] at moves
  obtain ⟨more, more', same⟩ := Path.exists_moves_directory moves
  have around : tree.Leads [] (path.directory.moves ++ List.replicate more .stay) directory := by
    rw [same]
    exact before.append (.stay leads.found (Leads.replicate_stay leads.found more'))
  obtain ⟨middle, straight, stays⟩ := around.exists_of_append
  obtain rfl : directory = middle := by simpa using stays.eq_after
  have located := locate_eq_ok.2 ⟨checkPath_directory leads.valid, straight⟩
  exact hasDirectory_eq_true.2 (find_eq_ok.2 ⟨directory, located, leads.found⟩)

end LeadsInto

/-! ## Files that are there -/

/-- To put a file where no directory is leaves directories where they are. -/
lemma directory_set_file (contents : ByteArray) {place q : Location}
    (free : tree.node? place ≠ some .directory) (found : tree.node? q = some .directory) :
    (tree.set place (.file contents)).node? q = some .directory := by
  have apart : q ≠ place := by
    rintro rfl
    exact free found
  rwa [node?_set_of_ne apart]

/-- A file to which its path leads takes what is renamed to it. -/
lemma destination_of_leadsInto (leads : tree.LeadsInto path directory name)
    (slash : path.namesDirectory = false)
    (other : tree.node? (directory ++ [name]) ≠ some .directory) :
    tree.destination path = .ok (directory ++ [name]) := by
  obtain ⟨whole, -, -⟩ := checkPath_eq_ok.1 leads.valid
  have free : tree.isDirectory (directory ++ [name]) = false := by
    unfold isDirectory
    split
    · rename_i found
      exact absurd found other
    · rfl
  simp [destination, whole, target?_of_leadsInto leads slash, slash, free]

/-- Other contents can take the place of a file. -/
lemma exchange_of_leadsInto {contents : ByteArray} (leads : tree.LeadsInto path directory name)
    (slash : path.namesDirectory = false)
    (found : tree.node? (directory ++ [name]) = some (.file contents)) (beside : Location)
    (new : ByteArray) :
    tree.exchange none beside path new = (tree.set path.location (.file new), .ok ()) := by
  -- The temporary file stands where nothing stood, so it is neither on the way nor at the end.
  have free : tree.node? (beside ++ [tree.freshName]) ≠ some .directory := by
    simp [node?_freshName]
  have apart : directory ++ [name] ≠ beside ++ [tree.freshName] := by
    intro same
    rw [same, node?_freshName] at found
    cases found
  have other : (tree.set (beside ++ [tree.freshName]) (.file new)).node? (directory ++ [name]) ≠
      some .directory := by
    rw [node?_set_of_ne apart, found]
    rintro ⟨⟩
  have comes := destination_of_leadsInto (leads.mono (directory_set_file new free)) slash other
  simp only [FileTree.exchange, fill, set_set_self, comes, erase_set_self, erase_freshName,
    leads.eq_location]

/-- A file that can be read can be replaced, and nothing else is different then. -/
theorem replace_of_read {contents : ByteArray} (h : tree.read path = .ok contents)
    (new : ByteArray) :
    tree.replace path new none = (tree.set path.location (.file new), .ok ()) := by
  obtain ⟨place, located, found⟩ := find_eq_ok.1 (read_eq_ok.1 h)
  have other : tree.node? place ≠ some .directory := by
    rw [found]
    rintro ⟨⟩
  obtain ⟨slash, directory, name, rfl, leads⟩ := exists_leadsInto located other
  have there := leads.hasDirectory slash
  obtain ⟨beside, located', -⟩ := find_eq_ok.1 (hasDirectory_eq_true.1 there)
  simp only [replace, Option.bind_none, makeDirectory_of_hasDirectory none there, located',
    exchange_of_leadsInto leads slash found beside new]

/-- A file that was replaced can be replaced again, and nothing else is different then. -/
theorem replace_of_replace {contents : ByteArray} {fault : Option Fault}
    (h : tree.replace path contents fault = (tree', .ok ())) (new : ByteArray) :
    tree'.replace path new none = (tree'.set path.location (.file new), .ok ()) :=
  replace_of_read (read_of_replace h) new

lemma Placed.leads {contents : ByteArray} {before after : FileTree}
    (h : Placed path contents before after) : ∃ directory name,
    after.LeadsInto path directory name ∧
      after.node? (directory ++ [name]) = some (.file contents) := by
  obtain ⟨directory, name, leads, other, rfl⟩ := h.entry
  exact ⟨directory, name, leads.mono (directory_set_file contents other), node?_set_self (by simp) _ _⟩

end KanaSettings.FileTree

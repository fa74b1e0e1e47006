import KanaSettings.Proofs.Editor.Shared
import KanaSettings.Proofs.Store.Relay
import Mathlib.Data.Bool.Count

/-!
# Editors that change one document, a slice each

An edit is two requests, and nothing keeps those of another editor from coming between.  A `Race` tells
of the edits, for any order of the requests, whether the document holds them in the end, and
`tells_run` says that this is what the document holds.
-/

namespace KanaSettings

/-! ## Orders of requests -/

/-- What is known of a document that editors fetch and replace: which of the edits it holds, and which
it held when an editor fetched it. -/
structure Race (ι : Type) where
  held : ι → Bool
  /-- The edits that it held when an editor fetched it, if the editor has. -/
  fetched : ι → Option (ι → Bool)

namespace Race

variable {ι : Type} [DecidableEq ι]

/-- Nobody has asked for anything. -/
def fresh : Race ι := ⟨fun _ => false, fun _ => none⟩

/-- An editor fetches the document, or, if it has done that, puts what it has fetched in the place of
the document, with its own edit. -/
def turn (race : Race ι) (i : ι) : Race ι :=
  match race.fetched i with
  | none => { race with fetched := Function.update race.fetched i (some race.held) }
  | some held => { race with held := Function.update held i true }

/-- The editors take their turns. -/
def run (race : Race ι) (turns : List ι) : Race ι := turns.foldl turn race

/-- Of two editors that take two turns each, the document holds the edit of the one that comes last.
It holds the other edit if and only if that editor had both its turns first. -/
lemma held_run {turns : List Bool} (two : ∀ i, turns.count i = 2) {last : Bool}
    (ends : turns.getLast? = some last) :
    (fresh.run turns).held last = true ∧
      (fresh.run turns).held (!last) = decide (turns = [!last, !last, last, last]) := by
  have all : ∀ a b c d last : Bool, (∀ i, [a, b, c, d].count i = 2) → d = last →
      (fresh.run [a, b, c, d]).held last = true ∧
        (fresh.run [a, b, c, d]).held (!last) =
          decide ([a, b, c, d] = [!last, !last, last, last]) := by
    decide
  have four : turns.length = 4 := by
    rw [← List.count_true_add_count_false turns, two, two]
  obtain ⟨a, b, c, d, rfl⟩ := List.length_eq_four.1 four
  exact all a b c d last two (by simpa using ends)

end Race

/-! ## Editors with one edit each -/

/-- Editors that each make one edit through a host. -/
structure Contest (ι : Type) where
  remote : ι → Remote
  name : ι → SliceName
  /-- What it makes of the slice. -/
  change : ∀ i, (name i).Value → Outcome (name i).Value

namespace Action

variable {σ : Type}

/-- Whether a call goes on to its next request. -/
def isAdvance : Action σ → Bool
  | advance => true
  | _ => false

end Action

namespace Contest

variable {ι : Type} [DecidableEq ι]

/-- The store that an editor uses. -/
def store [Wording] (contest : Contest ι) (i : ι) : Store World := (contest.remote i).store

/-- What an editor is asked. -/
def call (contest : Contest ι) (i : ι) : Call := .edit (contest.name i) (contest.change i)

/-- What happens around an editor: it is asked for its edit, and the edit takes its way to the end. -/
def script (contest : Contest ι) (i : ι) : List (Action World) :=
  [.submit (contest.call i), .acquire 0, .advance, .advance]

/-- Of what happens, what happens around one editor. -/
def own (i : ι) (actions : List (ι × Action World)) : List (Action World) :=
  (actions.filter (·.1 = i)).map Prod.snd

/-- The editors in the order of their requests. -/
def turns (actions : List (ι × Action World)) : List ι :=
  (actions.filter (·.2.isAdvance)).map Prod.fst

@[simp] lemma own_cons_self (i : ι) (action : Action World) (actions : List (ι × Action World)) :
    own i ((i, action) :: actions) = action :: own i actions := by
  simp [own]

lemma own_cons_of_ne {i j : ι} (h : j ≠ i) (action : Action World)
    (actions : List (ι × Action World)) : own j ((i, action) :: actions) = own j actions := by
  simp [own, h.symm]

section

variable (contest : Contest ι) (value : ∀ i, (contest.name i).Value)

/-- The document holds the values of some of the edits, and in the other slices what was there first,
but for numbers. -/
structure Holds (first : Document) (held : ι → Bool) (document : Document) : Prop where
  slices : ∀ i, document.outline.slice? (contest.name i) =
    if held i then some (Slice.encode (contest.name i) (value i))
    else first.outline.slice? (contest.name i)
  distinct : document.Distinct

variable {contest value} {first document : Document} {held : ι → Bool}

omit [DecidableEq ι] in
lemma Holds.aged (holds : contest.Holds value first held document) (times : Nat) :
    contest.Holds value first held (document.aged times) where
  slices i := by rw [Document.outline_aged, holds.slices]
  distinct := holds.distinct.aged times

lemma Holds.write (apart : Function.Injective contest.name)
    (holds : contest.Holds value first held document) (i : ι) :
    contest.Holds value first (Function.update held i true)
      (document.write (contest.name i) (value i)) := by
  refine ⟨fun j => ?_, holds.distinct.write _ _⟩
  rw [Document.slice?_outline]
  by_cases same : j = i
  · subst same
    simp [Json.outline, Slice.mapNumbers_encode]
  · rw [Document.slice?_write_of_ne (apart.ne same), ← Document.slice?_outline, holds.slices,
      Function.update_of_ne same]

omit [DecidableEq ι] in
lemma Holds.slice?_eq (holds : contest.Holds value first held document) (i : ι) :
    if held i then document.slice? (contest.name i) = some (Slice.encode (contest.name i) (value i))
    else (document.slice? (contest.name i)).map Json.outline =
      (first.slice? (contest.name i)).map Json.outline := by
  have found := holds.slices i
  split_ifs at found ⊢ with edited
  · exact Document.slice?_eq_of_mapNumbers found
  · rwa [Document.slice?_outline, Document.slice?_outline] at found

end

/-! ## On the way -/

section

variable (contest : Contest ι) (host : Host) (start : FileTree)
  (value : ∀ i, (contest.name i).Value)

/-- The document holds some of the edits, and is else what the file held at the start. -/
def Edits (held : ι → Bool) (document : Document) : Prop :=
  ∃ first, host.file.load start = .ok first ∧ contest.Holds value first held document

/-- The file holds some of the edits: it is what it was, and there are none, or a document was saved
that holds them. -/
inductive Shows (held : ι → Bool) (tree : FileTree) : Prop where
  | untouched (same : host.file.load tree = host.file.load start) (none : ∀ i, held i = false)
  | saved {document : Document} (edits : contest.Edits host start value held document)
      (contents : tree.read host.file.path = .ok (SettingsFile.encode document))

/-- How far an editor has come that will answer with its value, if it answers that it went well: what
is still to happen around it, and the edits that the document held when it fetched it. -/
inductive Stage (i : ι) : List (Action World) → Editor → Option (ι → Bool) → Prop where
  | fresh : Stage i (contest.script i) .fresh none
  | waiting : Stage i [.acquire 0, .advance, .advance] (Editor.fresh.submit (contest.call i)) none
  | fetching {editor : Editor} (running : editor.running = some ⟨0, contest.call i, .fetching⟩)
      (answers : editor.answers = []) : Stage i [.advance, .advance] editor none
  | replacing {editor : Editor} {held : ι → Bool} {document : Document}
      (running : editor.running = some ⟨0, contest.call i,
        .replacing (document.write (contest.name i) (value i)) (.value (contest.name i) (value i))⟩)
      (answers : editor.answers = []) (edits : contest.Edits host start value held document) :
      Stage i [.advance] editor (some held)
  | done {editor : Editor} {held : ι → Bool} : Stage i [] editor (some held)

/-- An editor that can no longer answer with its value. -/
inductive Lost (i : ι) : List (Action World) → Editor → Prop where
  | answered {rest : List (Action World)} {editor : Editor} {answer : Except EditError Reply}
      (only : ∀ action ∈ rest, action.isAdvance = true) (running : editor.running = none)
      (answers : editor.answers = [(0, answer)])
      (other : answer ≠ .ok (.value (contest.name i) (value i))) : Lost i rest editor
  | replacing {editor : Editor} {document : Document} {reply : Reply}
      (running : editor.running = some ⟨0, contest.call i, .replacing document reply⟩)
      (answers : editor.answers = []) (other : reply ≠ .value (contest.name i) (value i)) :
      Lost i [.advance] editor

/-- Editors on their way, with the orders of their requests so far. -/
structure Tells (rest : List (ι × Action World)) (editors : Editors ι World) (race : Race ι) :
    Prop where
  listens : ∃ place, editors.state.listener = some (place, host)
  stage : ∀ i, contest.Stage host start value i (own i rest) (editors.editor i) (race.fetched i)
  shows : contest.Shows host start value race.held editors.state.tree

end

variable {contest : Contest ι} {host : Host} {start : FileTree}
  {value : ∀ i, (contest.name i).Value} {held : ι → Bool} {tree : FileTree}

omit [DecidableEq ι] in
lemma Edits.aged {document : Document} (edits : contest.Edits host start value held document)
    (times : Nat) : contest.Edits host start value held (document.aged times) := by
  obtain ⟨first, loads, holds⟩ := edits
  exact ⟨first, loads, holds.aged times⟩

lemma Edits.write {document : Document} (apart : Function.Injective contest.name)
    (edits : contest.Edits host start value held document) (i : ι) :
    contest.Edits host start value (Function.update held i true)
      (document.write (contest.name i) (value i)) := by
  obtain ⟨first, loads, holds⟩ := edits
  exact ⟨first, loads, holds.write apart i⟩

omit [DecidableEq ι] in
lemma Edits.distinct {document : Document}
    (edits : contest.Edits host start value held document) : document.Distinct := by
  obtain ⟨first, loads, holds⟩ := edits
  exact holds.distinct

omit [DecidableEq ι] in
lemma Shows.edits (shows : contest.Shows host start value held tree) {document : Document}
    (loads : host.file.load tree = .ok document) : contest.Edits host start value held document := by
  cases shows with
  | untouched same none =>
    rw [same] at loads
    exact ⟨document, loads, ⟨fun i => by simp [none i], SettingsFile.distinct_of_load loads⟩⟩
  | saved edits contents =>
    rw [SettingsFile.load, contents] at loads
    rw [SettingsFile.eq_aged_of_decode_encode edits.distinct loads]
    exact edits.aged 1

variable {i : ι} {action : Action World} {rest : List (ι × Action World)}
  {editors : Editors ι World} {race : Race ι}

/-- What happens around one editor leaves the others where they are. -/
lemma Tells.of_perform [Wording]
    (tells : contest.Tells host start value ((i, action) :: rest) editors race)
    {editor : Editor} {state : World} {race' : Race ι}
    (performed : action.perform (contest.store i) (editors.editor i) editors.state = (editor, state))
    (listens : state.listener = editors.state.listener)
    (stage : contest.Stage host start value i (own i rest) editor (race'.fetched i))
    (others : ∀ j, j ≠ i → race'.fetched j = race.fetched j)
    (shows : contest.Shows host start value race'.held state.tree) :
    contest.Tells host start value rest (editors.act contest.store (i, action)) race' := by
  have acted : editors.act contest.store (i, action) =
      ⟨Function.update editors.editor i editor, state⟩ := by
    simp [Editors.act, performed]
  rw [acted]
  refine ⟨listens ▸ tells.listens, fun j => ?_, shows⟩
  by_cases same : j = i
  · subst same
    simpa using stage
  · have stage := tells.stage j
    rw [own_cons_of_ne same] at stage
    simpa [same, others j same] using stage

lemma editor_act [Wording] {editor : Editor} {state : World}
    (performed : action.perform (contest.store i) (editors.editor i) editors.state =
    (editor, state)) : (editors.act contest.store (i, action)).editor i = editor := by
  simp [Editors.act, performed]

omit [DecidableEq ι] in
lemma exists_perform_advance [Wording] {editor : Editor} {running : Running} {state : World}
    (h : editor.running = some running) : ∃ editor' state',
      Action.advance.perform (contest.store i) editor state = (editor', state') ∧
        Editor.Advances (contest.store i) editor state editor' state' :=
  ⟨_, _, rfl, Editor.advances h (contest.store i) state⟩

/-- The host that is asked is the one that listens. -/
lemma Tells.host_eq {left : List (ι × Action World)}
    (tells : contest.Tells host start value left editors race) {place : Location} {other : Host}
    (listens : editors.state.listener = some (place, other)) : other = host := by
  obtain ⟨there, found⟩ := tells.listens
  rw [listens] at found
  exact (Prod.mk.inj (Option.some.inj found)).2

omit [DecidableEq ι] in
lemma Lost.of_error {left : List (Action World)} {editor : Editor} {error : EditError}
    (only : ∀ action ∈ left, action.isAdvance = true) (running : editor.running = none)
    (answers : editor.answers = [(0, .error error)]) : contest.Lost value i left editor :=
  .answered only running answers (by simp)

lemma Tells.fetch [Wording]
    (tells : contest.Tells host start value ((i, .advance) :: rest) editors race)
    (running : (editors.editor i).running = some ⟨0, contest.call i, .fetching⟩)
    (answers : (editors.editor i).answers = []) (first : race.fetched i = none)
    (last : own i rest = [.advance]) :
    contest.Tells host start value rest (editors.act contest.store (i, .advance)) (race.turn i) ∨
      contest.Lost value i (own i rest) ((editors.act contest.store (i, .advance)).editor i) := by
  obtain ⟨editor, state, performed, step⟩ := exists_perform_advance running
  rw [editor_act performed, last]
  rcases step.of_fetching running with
    ⟨ended, error, failed⟩ | ⟨document, settled, fetch, running', answers'⟩
  · rw [answers] at failed
    exact .inr (.of_error (by simp [Action.isAdvance]) ended failed)
  rw [answers] at answers'
  obtain ⟨place, other, loaded, listener, loads, rfl, rfl⟩ := Remote.exists_of_fetch_eq_ok fetch
  obtain rfl := tells.host_eq listener
  -- If it settles on another value, it can still succeed, but not with the one in question.
  by_cases same : settled = value i
  · subst same
    have edits := (tells.shows.edits loads).aged 1
    have turned : race.turn i =
        { race with fetched := Function.update race.fetched i (some race.held) } := by
      simp [Race.turn, first]
    rw [turned]
    refine .inl (tells.of_perform performed rfl ?_ (fun j apart => ?_) tells.shows)
    · dsimp only
      rw [last, Function.update_self]
      exact .replacing running' answers' edits
    · exact Function.update_of_ne apart _ _
  · exact .inr (.replacing running' answers' (by simpa using same))

lemma Tells.replace [Wording] (apart : Function.Injective contest.name)
    (tells : contest.Tells host start value ((i, .advance) :: rest) editors race)
    {document : Document}
    (running : (editors.editor i).running = some ⟨0, contest.call i,
      .replacing (document.write (contest.name i) (value i)) (.value (contest.name i) (value i))⟩)
    (answers : (editors.editor i).answers = []) (second : race.fetched i = some held)
    (edits : contest.Edits host start value held document) (last : own i rest = []) :
    contest.Tells host start value rest (editors.act contest.store (i, .advance)) (race.turn i) ∨
      contest.Lost value i (own i rest) ((editors.act contest.store (i, .advance)).editor i) := by
  obtain ⟨editor, state, performed, step⟩ := exists_perform_advance running
  rw [editor_act performed, last]
  obtain ⟨ended, ⟨error, failed⟩ | ⟨replace, -⟩⟩ := step.of_replacing running
  · rw [answers] at failed
    exact .inr (.of_error (by simp) ended failed)
  -- What is stored is what was fetched and one edit more, and what others stored since is lost.
  have edited := edits.write apart i
  obtain ⟨place, other, listener, saves, kept⟩ :=
    Remote.exists_of_replace_eq_ok edited.distinct replace
  obtain rfl := tells.host_eq listener
  have turned : race.turn i = { race with held := Function.update held i true } := by
    simp [Race.turn, second]
  rw [turned]
  refine .inl (tells.of_perform performed kept ?_ (fun _ _ => rfl) ?_)
  · rw [last, second]
    exact .done
  · exact .saved (edited.aged 1)
      (FileTree.read_of_replace (SettingsFile.replace_of_save_eq_ok saves))

/-- Whatever happens around an editor on its way, it goes on, or it can no longer answer with its
value. -/
lemma Tells.act [Wording] (apart : Function.Injective contest.name)
    (tells : contest.Tells host start value ((i, action) :: rest) editors race) :
    contest.Tells host start value rest (editors.act contest.store (i, action))
        (if action.isAdvance then race.turn i else race) ∨
      contest.Lost value i (own i rest) ((editors.act contest.store (i, action)).editor i) := by
  have stage := tells.stage i
  rw [own_cons_self] at stage
  generalize he : editors.editor i = editor at stage
  generalize hf : race.fetched i = fetched at stage
  generalize hl : action :: own i rest = left at stage
  -- The stage tells what happens next around the editor.
  cases stage with
  | fresh =>
    obtain ⟨rfl, last⟩ := List.cons.inj hl
    show contest.Tells host start value rest _ race ∨ _
    refine .inl (tells.of_perform rfl rfl ?_ (fun _ _ => rfl) tells.shows)
    rw [he, hf, last]
    exact .waiting
  | waiting =>
    obtain ⟨rfl, last⟩ := List.cons.inj hl
    show contest.Tells host start value rest _ race ∨ _
    refine .inl (tells.of_perform rfl rfl ?_ (fun _ _ => rfl) tells.shows)
    rw [he, hf, last]
    exact .fetching rfl rfl
  | fetching running answers =>
    obtain ⟨rfl, last⟩ := List.cons.inj hl
    subst he
    exact tells.fetch running answers hf last
  | replacing running answers edits =>
    obtain ⟨rfl, last⟩ := List.cons.inj hl
    subst he
    exact tells.replace apart running answers hf edits last
  | done => cases hl

lemma Lost.act [Wording] {j : ι}
    (lost : contest.Lost value j (own j ((i, action) :: rest)) (editors.editor j)) :
    contest.Lost value j (own j rest) ((editors.act contest.store (i, action)).editor j) := by
  by_cases same : j = i
  · subst same
    rw [own_cons_self] at lost
    generalize hl : action :: own j rest = left at lost
    -- A call that was answered does nothing more; one that stores another value is answered next.
    cases lost with
    | answered only running answers other =>
      subst hl
      obtain ⟨advance, others⟩ := List.forall_mem_cons.1 only
      cases action with
      | advance =>
        have performed : Action.advance.perform (contest.store j) (editors.editor j) editors.state =
            (editors.editor j, editors.state) := by
          rw [Action.perform, Editor.advance_of_running_none running]
        rw [editor_act performed]
        exact .answered others running answers other
      | _ => cases advance
    | replacing running answers other =>
      obtain ⟨rfl, last⟩ := List.cons.inj hl
      obtain ⟨editor, state, performed, step⟩ := exists_perform_advance running
      rw [editor_act performed, last]
      obtain ⟨ended, ⟨error, failed⟩ | ⟨-, answered⟩⟩ := step.of_replacing running
      · rw [answers] at failed
        exact .of_error (by simp) ended failed
      · rw [answers] at answered
        exact .answered (by simp) ended answered (by simpa using other)
  · rw [own_cons_of_ne same] at lost
    simpa [Editors.act, same] using lost

lemma Lost.run [Wording] {j : ι} {actions : List (ι × Action World)}
    (lost : contest.Lost value j (own j actions) (editors.editor j)) :
    contest.Lost value j [] ((editors.run contest.store actions).editor j) := by
  induction actions generalizing editors with
  | nil => exact lost
  | cons first actions ih => exact ih lost.act

/-- Editors that make their edits at the same time end as the order of their requests tells, or one of
them has not answered with its value. -/
lemma Tells.run [Wording] (apart : Function.Injective contest.name)
    {actions : List (ι × Action World)}
    (tells : contest.Tells host start value actions editors race) :
    contest.Tells host start value [] (editors.run contest.store actions) (race.run (turns actions)) ∨
      ∃ i, contest.Lost value i [] ((editors.run contest.store actions).editor i) := by
  induction actions generalizing editors race with
  | nil => exact .inl tells
  | cons first actions ih =>
    obtain ⟨i, action⟩ := first
    rcases tells.act apart with tells | lost
    · have ended := ih tells
      cases advance : action.isAdvance <;> simpa [turns, Race.run, Editors.run, advance] using ended
    · exact .inr ⟨i, lost.run⟩

/-- What a document holds when two editors have had their turns, of which `last` has had the last
one. -/
structure Settles (contest : Contest Bool) (value : ∀ i, (contest.name i).Value) (first : Document)
    (turns : List Bool) (last : Bool) (document : Document) : Prop where
  after : document.slice? (contest.name last) = some (Slice.encode (contest.name last) (value last))
  /-- The other edit is there too, if it was done before that one began. -/
  before : turns = [!last, !last, last, last] →
    document.slice? (contest.name !last) = some (Slice.encode (contest.name !last) (value !last))
  /-- If not, there is what was there first, but for numbers. -/
  lost : turns ≠ [!last, !last, last, last] →
    (document.slice? (contest.name !last)).map Json.outline =
      (first.slice? (contest.name !last)).map Json.outline

lemma Holds.settles {contest : Contest Bool} {value : ∀ i, (contest.name i).Value}
    {first document : Document} {turns : List Bool} (two : ∀ i, turns.count i = 2) {last : Bool}
    (ends : turns.getLast? = some last)
    (holds : contest.Holds value first (Race.fresh.run turns).held document) :
    contest.Settles value first turns last document := by
  obtain ⟨mine, other⟩ := Race.held_run two ends
  have here := holds.slice?_eq last
  have there := holds.slice?_eq (!last)
  rw [if_pos mine] at here
  rw [other] at there
  refine ⟨here, fun serial => ?_, fun overlap => ?_⟩
  · simpa [serial] using there
  · simpa [overlap] using there

/-- Two editors of which one empties the romaji table and the other one the user dictionary. -/
def emptying : Contest Bool where
  remote := fun _ => ⟨⟨"s"⟩⟩
  name
    | true => .romajiTable
    | false => .userDictionary
  change
    | true => fun _ => .settled []
    | false => fun _ => .settled []

/-- What they store. -/
def emptied (i : Bool) : (emptying.name i).Value :=
  match i with
  | true => []
  | false => []

/-- The same host with a file that holds a document. -/
def filled (document : Document) : World :=
  ⟨⟨[(["a"], .file (SettingsFile.encode document)), (["s"], .socket)]⟩,
    some (["s"], ⟨⟨⟨"a"⟩⟩, .cpuOnly⟩)⟩

/-- The document with one table emptied. -/
def one (i : Bool) : Document := Document.empty.write (emptying.name i) (emptied i)

/-- The document with both tables emptied. -/
def both : Document := (one true).write (emptying.name false) (emptied false)

/-- One editor after the other. -/
def serial : List (Bool × Action World) :=
  (emptying.script true).map (true, ·) ++ (emptying.script false).map (false, ·)

end Contest

end KanaSettings

import KanaSettings.Proofs.Store.Reliable

/-!
# An edit sees nothing but its own slice

Nothing that stands elsewhere in a document can make an edit fail or change what it returns, not even
garbage where another slice should be.  This is said of two sessions over documents that agree in the
slice, between whose edits anything may happen to the rest.
-/

namespace KanaSettings

variable {σ τ : Type}

/-- Whether a call is an edit of a slice. -/
def Call.edits (name : SliceName) : Call → Bool
  | .refresh => false
  | .edit other _ => other = name

namespace Document

variable {one other : Document} {name : SliceName}

lemma edit_congr (same : one.slice? name = other.slice? name)
    (change : name.Value → Outcome name.Value) : one.edit name change = other.edit name change := by
  rw [edit, edit, read, read, same]

lemma answer_congr (same : one.slice? name = other.slice? name) {call : Call}
    (edits : call.edits name) : one.answer call = other.answer call := by
  cases call with
  | refresh => cases edits
  | edit name' change =>
    obtain rfl : name' = name := by simpa [Call.edits] using edits
    rw [answer, answer, edit_congr same]

/-- Nor does it make a difference to an edit how old the document is. -/
lemma answer_of_ages {wears : Prop} (ages : AgesTo wears one other) {call : Call}
    (edits : call.edits name) : other.answer call = one.answer call := by
  obtain ⟨times, -, rfl⟩ := ages
  cases call with
  | refresh => cases edits
  | edit name' change => exact one.answer_aged times name' change

lemma slice?_aged_congr (same : one.slice? name = other.slice? name) (times : Nat) :
    (one.aged times).slice? name = (other.aged times).slice? name := by
  rw [aged, aged, slice?_mapNumbers, slice?_mapNumbers, same]

/-- That two documents hold the same of a slice, which may have aged more in one than in the other. -/
def Alike (wears wears' : Prop) (name : SliceName) (one other : Document) : Prop :=
  ∃ document later later' : Document, AgesTo wears document later ∧ AgesTo wears' document later' ∧
    one.slice? name = later.slice? name ∧ other.slice? name = later'.slice? name

lemma Alike.of_ages {wears wears' : Prop} {first first' : Document} (ages : AgesTo wears first one)
    (ages' : AgesTo wears' first' other) (same : first.slice? name = first'.slice? name) :
    Alike wears wears' name one other := by
  obtain ⟨times, worn, rfl⟩ := ages'
  exact ⟨first, one, first.aged times, ages, ⟨times, worn, rfl⟩, rfl,
    (slice?_aged_congr same times).symm⟩

lemma Alike.slice?_eq (h : Alike False False name one other) :
    one.slice? name = other.slice? name := by
  obtain ⟨document, later, later', ages, ages', same, same'⟩ := h
  rw [same, same', ages.eq_self (.inl not_false), ages'.eq_self (.inl not_false)]

/-- Nothing is stored for a slice by a call that is no edit of it. -/
lemma stored?_answer {call : Call} (edits : call.edits name = false) (document : Document) :
    stored? name (document.answer call) = none := by
  cases call with
  | refresh => rfl
  | edit name' change =>
    have ne : name' ≠ name := by simpa [Call.edits] using edits
    cases edit : document.edit name' change <;> simp [answer, edit, stored?, ne]

/-- The answers to calls that are carried out one after another. -/
def replies : Document → List Call → List (Except EditError Reply)
  | _, [] => []
  | document, call :: calls =>
    document.answer call :: replies (document.afterAnswer (document.answer call)) calls

/-- The document after calls that are carried out one after another. -/
def afterCalls (document : Document) (calls : List Call) : Document :=
  calls.foldl (fun document call => document.afterAnswer (document.answer call)) document

lemma replies_append (document : Document) (calls : List Call) (call : Call) :
    document.replies (calls ++ [call]) =
      document.replies calls ++ [(document.afterCalls calls).answer call] := by
  induction calls generalizing document with
  | nil => rfl
  | cons first calls ih => simp [replies, ih, afterCalls]

lemma afterCalls_append (document : Document) (calls : List Call) (call : Call) :
    document.afterCalls (calls ++ [call]) =
      (document.afterCalls calls).afterAnswer ((document.afterCalls calls).answer call) := by
  simp [afterCalls]

end Document

/-! ## Calls of a session -/

/-- What a slice holds, and whether its store is in a good state. -/
def Document.sliceIn (good : σ → Prop) (held : σ → Document) (name : SliceName) (state : σ) :
    Prop × Option Json :=
  (good state, (held state).slice? name)

section

variable {store : Store σ} {wears : Prop} {documents : Document → Prop} {good : σ → Prop}
  {held : σ → Document} {name : SliceName} (h : store.Durable wears documents good held)
include h

/-- A call gives the answer of some document that holds of the slice what the store held when the
call began, and it leaves the slice as that answer says, with its age. -/
lemma Carried.exists_answer {call : Call} {before after : σ} {answer : Except EditError Reply}
    {snapshot : Option Document}
    (carried : Carried store (Document.sliceIn good held name) call before after answer snapshot)
    (fine : good before) :
    ∃ document later : Document, document.slice? name = (held before).slice? name ∧
      answer = document.answer call ∧ good after ∧
      Document.AgesTo wears (document.afterAnswer answer) later ∧
      (held after).slice? name = later.slice? name := by
  -- Something else may have changed the rest of the document before it was fetched.
  have start : ∀ {s : σ}, Document.sliceIn good held name s = Document.sliceIn good held name before →
      good s ∧ (held s).slice? name = (held before).slice? name := by
    intro s lull
    obtain ⟨good', same⟩ := Prod.mk.inj lull
    exact ⟨good' ▸ fine, same⟩
  cases carried with
  | unread lull fetch => cases (h.of_fetch (start lull).1 fetch).1
  | looked lull fetch =>
    obtain ⟨fine', same⟩ := start lull
    obtain ⟨found, good', kept⟩ := h.of_fetch fine' fetch
    cases found
    exact ⟨_, _, same, rfl, good', .refl _, by rw [kept]; rfl⟩
  | crashed lull fetch edit | refused lull fetch edit =>
    obtain ⟨fine', same⟩ := start lull
    obtain ⟨found, good', kept⟩ := h.of_fetch fine' fetch
    cases found
    exact ⟨_, _, same, by simp [Document.answer, edit], good', .refl _, by rw [kept]; rfl⟩
  | unwritten halfway replace =>
    cases halfway with
    | intro lull fetch edit pause =>
      obtain ⟨fine', same⟩ := start lull
      obtain ⟨found, good', -⟩ := h.of_fetch fine' fetch
      cases found
      have good'' : good _ := (Prod.mk.inj pause).1 ▸ good'
      cases (h.of_replace good'' (h.documents_write _ _ (h.documents_held fine')) replace).1
  | written halfway replace =>
    cases halfway with
    | intro lull fetch edit pause =>
      obtain ⟨fine', same⟩ := start lull
      obtain ⟨found, good', -⟩ := h.of_fetch fine' fetch
      cases found
      have good'' : good _ := (Prod.mk.inj pause).1 ▸ good'
      obtain ⟨-, last, ages⟩ :=
        h.of_replace good'' (h.documents_write _ _ (h.documents_held fine')) replace
      exact ⟨_, _, same, by simp [Document.answer, edit], last, ages, rfl⟩

/-- The edits of a slice in a history, one after another, do what they do alone to any document that
holds the same of the slice at first. -/
lemma History.confined {start now : σ} {past : List (Finished σ)}
    (history : History store (Document.sliceIn good held name) start past now) (fine : good start)
    {document : Document} (same : (held start).slice? name = document.slice? name) :
    let edits := past.filter (·.call.edits name)
    good now ∧ edits.map Finished.answer = document.replies (edits.map Finished.call) ∧
      ∃ later, Document.AgesTo wears (document.afterCalls (edits.map Finished.call)) later ∧
        (held now).slice? name = later.slice? name := by
  induction history with
  | start => exact ⟨fine, rfl, document, .refl _, same⟩
  | lull history unseen ih =>
    obtain ⟨good', answers, later, ages, slice⟩ := ih
    obtain ⟨good'', same'⟩ := Prod.mk.inj unseen
    exact ⟨good'' ▸ good', answers, later, ages, same'.trans slice⟩
  | @call past call history carried ih =>
    obtain ⟨good', answers, later, ages, slice⟩ := ih
    obtain ⟨seen, _, agrees, answer, last, ⟨times, worn, rfl⟩, left⟩ := carried.exists_answer h good'
    have same' := agrees.trans slice
    -- The document that was seen and the one that is followed hold the same of the slice.
    have stored : (seen.afterAnswer call.answer).slice? name =
        (later.afterAnswer call.answer).slice? name := by
      rw [Document.slice?_afterAnswer, same', ← Document.slice?_afterAnswer]
    refine ⟨last, ?_⟩
    cases edits : call.call.edits name with
    | false =>
      -- Another call stores nothing for the slice.
      have none := Document.stored?_answer edits seen
      rw [← answer] at none
      rw [Document.slice?_afterAnswer later, none, Option.none_or] at stored
      have kept := left.trans (Document.slice?_aged_congr stored times)
      have ages' := ages.trans ⟨times, worn, rfl⟩
      simpa [List.filter_append, edits] using ⟨answers, _, ages', kept⟩
    | true =>
      rw [Document.answer_congr same' edits, Document.answer_of_ages ages edits] at answer
      have kept := left.trans (Document.slice?_aged_congr stored times)
      have ages' := (ages.afterAnswer call.answer).trans ⟨times, worn, rfl⟩
      rw [answer] at kept ages'
      simp only [List.filter_append, List.map_append, edits, List.filter_cons_of_pos,
        List.filter_nil, List.map_cons, List.map_nil, Document.replies_append,
        Document.afterCalls_append]
      exact ⟨by rw [answers, answer], _, ages', kept⟩

end

namespace Session

variable {store : Store σ} {good : σ → Prop} {held : σ → Document} {store' : Store τ}
  {good' : τ → Prop} {held' : τ → Document}

/-- What is seen of a store does not change while a call has the lock, until it gives its answer. -/
lemma Sound.history_of_durable {wears : Prop} {documents : Document → Prop}
    (h : store.Durable wears documents good held) {name : SliceName} {start : σ}
    {session : Session σ} (fine : good start)
    (sound : session.Sound store (Document.sliceIn good held name) start) :
    History store (Document.sliceIn good held name) start session.finished session.state := by
  have progress := sound.progress
  unfold Progress at progress
  split at progress
  · exact progress
  · exact .lull progress.1 progress.2.1
  · obtain ⟨history, halfway, -⟩ := progress
    cases halfway with
    | intro lull fetch edit pause =>
      refine .lull history (pause.trans (Eq.trans ?_ lull))
      have began := (history.confined h fine rfl).1
      obtain ⟨-, good', kept⟩ := h.of_fetch ((Prod.mk.inj lull).1 ▸ began) fetch
      exact Prod.ext (by simp [Document.sliceIn, good', (Prod.mk.inj lull).1 ▸ began])
        (by rw [Document.sliceIn, Document.sliceIn, kept])

/-- Take two stores in which documents may age, but which do not fail, and whose documents agree in
one slice.  An edit of that slice gives the same answer over both and leaves the same there, but for
its age, and so does every list of such edits. -/
theorem alike_run {wears wears' : Prop} {documents documents' : Document → Prop}
    (h : store.Durable wears documents good held) (h' : store'.Durable wears' documents' good' held')
    (name : SliceName) (start : σ) (start' : τ) (fine : good start) (fine' : good' start')
    (same : (held start).slice? name = (held' start').slice? name) :
    (∀ change,
      (store.attempt (.edit name change) start).1 = (store'.attempt (.edit name change) start').1 ∧
      Document.Alike wears wears' name (held (store.attempt (.edit name change) start).2)
        (held' (store'.attempt (.edit name change) start').2)) ∧
    ∀ actions actions',
      (∀ action ∈ actions, action.Keeps (Document.sliceIn good held name)) →
      (∀ action ∈ actions', action.Keeps (Document.sliceIn good' held' name)) →
      let one := (fresh start).run store actions
      let other := (fresh start').run store' actions'
      let edits := one.finished.filter (·.call.edits name)
      let edits' := other.finished.filter (·.call.edits name)
      edits.map Finished.call = edits'.map Finished.call →
        edits.map Finished.answer = edits'.map Finished.answer ∧
        Document.Alike wears wears' name (held one.state) (held' other.state) := by
  refine ⟨fun change => ?_, ?_⟩
  · obtain ⟨answer, -, ages⟩ := h.attempt fine (.edit name change)
    obtain ⟨answer', -, ages'⟩ := h'.attempt fine' (.edit name change)
    have edits : Call.edits name (.edit name change) := by simp [Call.edits]
    rw [Document.answer_congr same edits] at answer ages
    refine ⟨answer.trans answer'.symm, .of_ages ages ages' ?_⟩
    rw [Document.slice?_afterAnswer, same, ← Document.slice?_afterAnswer]
  · intro actions actions' keeps keeps' one other edits edits' calls
    have history := (sound_run store _ start keeps).history_of_durable h fine
    have history' := (sound_run store' _ start' keeps').history_of_durable h' fine'
    -- Both are compared with the edits alone, over the document of the second.
    obtain ⟨-, answers, later, ages, slice⟩ := history.confined h fine same
    obtain ⟨-, answers', later', ages', slice'⟩ := history'.confined h' fine' rfl
    change edits'.map Finished.answer = _ at answers'
    change Document.AgesTo wears' (Document.afterCalls _ (edits'.map Finished.call)) _ at ages'
    rw [← calls] at answers' ages'
    exact ⟨answers.trans answers'.symm, _, later, later', ages, ages', slice, slice'⟩

/-- Take two stores that do not fail, and whose documents agree in one slice: it is the same in both,
or missing in both, for whatever reason.  An edit of that slice gives the same answer over both and
leaves the same there, and so does every list of such edits, whatever is done to other slices in
between, in one way in one session and in another way in the other.  Garbage in another slice makes
no difference either. -/
theorem confined_run (h : store.Reliable good held) (h' : store'.Reliable good' held')
    (name : SliceName) (start : σ) (start' : τ) (fine : good start) (fine' : good' start')
    (same : (held start).slice? name = (held' start').slice? name) :
    (∀ change,
      (store.attempt (.edit name change) start).1 = (store'.attempt (.edit name change) start').1 ∧
      (held (store.attempt (.edit name change) start).2).slice? name =
        (held' (store'.attempt (.edit name change) start').2).slice? name) ∧
    (∀ change other garbage, other ≠ name →
      ((held start).put other garbage).answer (.edit name change) =
        (store.attempt (.edit name change) start).1) ∧
    ∀ actions actions',
      (∀ action ∈ actions, action.Keeps (Document.sliceIn good held name)) →
      (∀ action ∈ actions', action.Keeps (Document.sliceIn good' held' name)) →
      let one := (fresh start).run store actions
      let other := (fresh start').run store' actions'
      let edits := one.finished.filter (·.call.edits name)
      let edits' := other.finished.filter (·.call.edits name)
      edits.map Finished.call = edits'.map Finished.call →
        edits.map Finished.answer = edits'.map Finished.answer ∧
        (held one.state).slice? name = (held' other.state).slice? name := by
  have edits : ∀ change, Call.edits name (.edit name change) := by simp [Call.edits]
  -- The documents do not age here, so they are not only alike in the slice but the same.
  obtain ⟨alone, run⟩ := alike_run h.durable h'.durable name start start' fine fine' same
  refine ⟨fun change => (alone change).imp_right Document.Alike.slice?_eq,
    fun change other garbage ne => ?_, ?_⟩
  · rw [(h.attempt fine _).1]
    exact Document.answer_congr (Document.slice?_put_of_ne (Ne.symm ne) _ _) (edits change)
  · intro actions actions' keeps keeps' one other edits edits' calls
    exact (run actions actions' keeps keeps' calls).imp_right Document.Alike.slice?_eq

/-- The widths of the groups are edited without a change where their container is missing, and where it
is a text.  In the second document there is garbage in another slice too, which is edited before. -/
theorem confined_run_garbage :
    let one := (fresh (Memory.ofDocument .empty)).run Memory.store
      [.submit (.edit .widthGroups .settled), .acquire 0, .advance, .advance]
    let other := (fresh (Memory.ofDocument
        ⟨[("character_width", .string "wide"), ("general", .array [.null])]⟩)).run Memory.store
      [.submit (.edit .general .settled), .submit (.edit .widthGroups .settled), .acquire 0,
        .advance, .advance, .acquire 0, .advance, .advance]
    one.state.document.slice? .widthGroups = other.state.document.slice? .widthGroups := by
  intro one other
  have agree := (confined_run Memory.reliable Memory.reliable .widthGroups (Memory.ofDocument .empty)
    (Memory.ofDocument ⟨[("character_width", .string "wide"), ("general", .array [.null])]⟩)
    ⟨rfl, rfl⟩ ⟨rfl, rfl⟩ rfl).2.2
    [.submit (.edit .widthGroups .settled), .acquire 0, .advance, .advance]
    [.submit (.edit .general .settled), .submit (.edit .widthGroups .settled), .acquire 0,
      .advance, .advance, .acquire 0, .advance, .advance]
    (by simp [Action.Keeps]) (by simp [Action.Keeps]) rfl
  exact agree.2

end Session

end KanaSettings

import KanaSettings.Proofs.Editor.Account
import KanaSettings.Proofs.Editor.Interleaving

/-!
# The phases of an editor

The phases that an editor goes through spell the calls that it carries out, a word for each in the
order in which they get the lock, and how a call ended decides its word.  What is done to the store,
and the change itself, happens in the phase that is named after it.  Only a change that crashes
leaves a word unfinished, so it is asked that none does.
-/

namespace KanaSettings

variable {σ : Type}

/-! ## Phases in a log -/

namespace Event

/-- The phase that an event enters. -/
def phase? : Event → Option Phase
  | entered phase => some phase
  | fetch => none
  | change => none
  | replace _ => none

/-- The phase in which an event belongs; none if it can come in any. -/
def due? : Event → Option Phase
  | entered _ => none
  | fetch => some .fetching
  | change => some .validating
  | replace _ => some .persisting

end Event

/-- The phases that are entered in a log. -/
def phases (log : List (Ticket × Event)) : List Phase := log.filterMap (Event.phase? ·.2)

/-- The phase that is shown after the events of a log, if `phase` is shown before. -/
def phaseAfter (phase : Phase) (log : List (Ticket × Event)) : Phase :=
  log.foldl (fun phase noted => noted.2.phase?.getD phase) phase

/-- Each event of a log comes in the phase in which it belongs, if `phase` is shown before. -/
def Timely : Phase → List (Ticket × Event) → Prop
  | _, [] => True
  | phase, (_, event) :: log =>
    (∀ due ∈ event.due?, phase = due) ∧ Timely (event.phase?.getD phase) log

@[simp] lemma phases_append (first rest : List (Ticket × Event)) :
    phases (first ++ rest) = phases first ++ phases rest := List.filterMap_append

@[simp] lemma phaseAfter_append (phase : Phase) (first rest : List (Ticket × Event)) :
    phaseAfter phase (first ++ rest) = phaseAfter (phaseAfter phase first) rest :=
  List.foldl_append

@[simp] lemma timely_append {phase : Phase} {first rest : List (Ticket × Event)} :
    Timely phase (first ++ rest) ↔ Timely phase first ∧ Timely (phaseAfter phase first) rest := by
  induction first generalizing phase with
  | nil => simp [Timely, phaseAfter]
  | cons noted first ih => simp [Timely, phaseAfter, ih, and_assoc]

/-! ## Calls -/

/-- The call has no change that crashes. -/
def Call.Calm : Call → Prop
  | .refresh => True
  | .edit _ change => ∀ value reason, change value ≠ .crashed reason

/-- The call that is submitted, if one is, has no change that crashes. -/
def Action.Calm : Action σ → Prop
  | .submit call => call.Calm
  | _ => True

lemma Call.Calm.edit_ne_crashed {name : SliceName} {change : name.Value → Outcome name.Value}
    (calm : (Call.edit name change).Calm) (document : Document) (reason : String) :
    document.edit name change ≠ .crashed reason := by
  unfold Document.edit
  split
  · rename_i candidate _
    cases Slice.prepare name candidate <;> simp [Outcome.ofExcept]
  · simp
  · rename_i h
    exact absurd h (calm _ _)

lemma Action.submit_mem_of_mem_submitted {next : Ticket} {actions : List (Action σ)}
    {grant : Ticket × Call} (h : grant ∈ submitted next actions) : submit grant.2 ∈ actions := by
  induction actions generalizing next with
  | nil => simp [submitted] at h
  | cons action actions ih =>
    cases action with
    | submit call =>
      rcases List.mem_cons.1 h with rfl | h
      · exact List.mem_cons_self
      · exact List.mem_cons_of_mem _ (ih h)
    | _ => exact List.mem_cons_of_mem _ (ih h)

namespace Account

/-- The phases that a call goes through, by its answer and by what it asked of the store. -/
def word (account : Account) : List Phase :=
  match account.answer, account.asked with
  | .ok (.value _ _), _ => [.fetching, .validating, .persisting, .idle]
  | .ok (.document _), _ => [.fetching, .idle]
  | .error (.rejected _), _ => [.fetching, .validating, .rejected, .idle]
  | .error (.transport _), [_] => [.fetching, .failed, .idle]
  | .error (.transport _), _ => [.fetching, .validating, .persisting, .failed, .idle]

variable {account : Account}

lemma Regular.phases_log (h : account.Regular) : phases account.log = account.word := by
  cases h <;> rfl

lemma Regular.phaseAfter_log (h : account.Regular) (phase : Phase) :
    phaseAfter phase account.log = .idle := by
  cases h <;> rfl

lemma Regular.timely_log (h : account.Regular) (phase : Phase) : Timely phase account.log := by
  cases h <;> simp [log, Timely, Event.due?, Event.phase?]

variable {past : List Account}

lemma phases_flatMap_log (h : ∀ account ∈ past, account.Regular) :
    phases (past.flatMap log) = past.flatMap word := by
  induction past with
  | nil => rfl
  | cons account past ih =>
    obtain ⟨first, others⟩ := List.forall_mem_cons.1 h
    simp [first.phases_log, ih others]

lemma phaseAfter_flatMap_log (h : ∀ account ∈ past, account.Regular) :
    phaseAfter .idle (past.flatMap log) = .idle := by
  induction past with
  | nil => rfl
  | cons account past ih =>
    obtain ⟨first, others⟩ := List.forall_mem_cons.1 h
    simp [first.phaseAfter_log, ih others]

lemma timely_flatMap_log (h : ∀ account ∈ past, account.Regular) :
    Timely .idle (past.flatMap log) := by
  induction past with
  | nil => trivial
  | cons account past ih =>
    obtain ⟨first, others⟩ := List.forall_mem_cons.1 h
    simp [first.phaseAfter_log, first.timely_log, ih others]

/-- Without a change that crashes, a call goes one of the regular ways. -/
lemma regular_of_calm (way : account.Regular ∨ account.Crashed) (calm : account.call.Calm) :
    account.Regular := by
  rcases way with regular | crashed
  · exact regular
  · cases crashed with
    | intro ticket edit => exact absurd edit (Call.Calm.edit_ne_crashed calm _ _)

end Account

lemma Underway.timely {running : Option Running} {asked : List Exchange}
    {log : List (Ticket × Event)} (h : Underway running asked log) (phase : Phase) :
    Timely phase log := by
  cases h <;> simp [Timely, Event.due?, Event.phase?]

/-! ## Editors -/

/-- Each step enters a phase, and that is the phase which the editor shows. -/
lemma Editor.phase_of_advances {store : Store σ} {editor editor' : Editor} {state state' : σ}
    (step : Editor.Advances store editor state editor' state') :
    editor'.phase = phaseAfter .idle editor'.log := by
  cases step <;> simp [phaseAfter, Event.phase?]

namespace Session

lemma phase_act {store : Store σ} {session : Session σ} (action : Action σ)
    (h : session.editor.phase = phaseAfter .idle session.editor.log) :
    (session.act store action).editor.phase =
      phaseAfter .idle (session.act store action).editor.log := by
  have acts := session.acts store action
  generalize session.act store action = next at acts ⊢
  cases acts with
  | quiet running phase snapshot answers log kept => exact phase.trans (log ▸ h)
  | acquire grant => simp [Editor.acquire_of_grant? grant, phaseAfter, Event.phase?]
  | advance step => exact Editor.phase_of_advances step

lemma phase_run (store : Store σ) (start : σ) (actions : List (Action σ)) :
    ((fresh start).run store actions).editor.phase =
      phaseAfter .idle ((fresh start).run store actions).editor.log :=
  List.foldlRecOn (motive := fun session : Session σ =>
    session.editor.phase = phaseAfter .idle session.editor.log) actions _ rfl
    fun _ same action _ => phase_act action same

/-- A session in which the phases spell the calls. -/
structure Spelled (session : Session (σ × List Exchange)) (past : List Account)
    (asking : List Exchange) (noting : List (Ticket × Event)) : Prop where
  told : session.Told past asking noting
  regular : ∀ account ∈ past, account.Regular
  /-- The phases are the words of the calls that have answered, and then the phases of the call with
  the lock as far as it has come. -/
  phases : phases session.editor.log = past.flatMap Account.word ++ phases noting
  timely : Timely .idle session.editor.log
  phase : session.editor.phase = phaseAfter .idle session.editor.log
  idle : session.editor.running = none → session.editor.phase = .idle

lemma Told.spelled {session : Session (σ × List Exchange)} {past : List Account}
    {asked : List Exchange} {log : List (Ticket × Event)} (told : session.Told past asked log)
    (regular : ∀ account ∈ past, account.Regular)
    (phase : session.editor.phase = phaseAfter .idle session.editor.log) :
    session.Spelled past asked log := by
  have underway := told.underway
  refine ⟨told, regular, ?_, ?_, phase, fun free => ?_⟩
  · rw [told.log, phases_append, Account.phases_flatMap_log regular]
  · rw [told.log, timely_append]
    exact ⟨Account.timely_flatMap_log regular, underway.timely _⟩
  · rw [free] at underway
    cases underway
    rw [phase, told.log, List.append_nil, Account.phaseAfter_flatMap_log regular]

lemma submit_mem_of_mem_granted {store : Store σ} {start : σ} {actions : List (Action σ)}
    {grant : Ticket × Call} (h : grant ∈ ((fresh start).run store actions).granted) :
    .submit grant.2 ∈ actions := by
  have perm := granted_append_waiting_perm store (fresh start) actions
  have mem := perm.subset (List.mem_append_left _ h)
  exact Action.submit_mem_of_mem_submitted (by simpa [fresh, Editor.fresh] using mem)

/-- Whatever happens around an editor, also if others touch its store, the phases that it goes
through spell its calls, as long as no change crashes. -/
theorem phases_run (store : Store σ) (start : σ) {actions : List (Action (σ × List Exchange))}
    (keeps : ∀ action ∈ actions, action.Keeps Prod.snd) (calm : ∀ action ∈ actions, action.Calm) :
    ∃ past asking noting,
      ((fresh (start, [])).run store.recorded actions).Spelled past asking noting := by
  obtain ⟨past, asked, log, told⟩ := told_run store start keeps
  refine ⟨past, asked, log, told.spelled (fun account mem => ?_) (phase_run _ _ _)⟩
  have granted : account.grant ∈ ((fresh (start, [])).run store.recorded actions).granted := by
    rw [told.granted]
    exact List.mem_append_left _ (List.mem_map_of_mem mem)
  exact Account.regular_of_calm (told.regular account mem)
    (calm _ (submit_mem_of_mem_granted granted))

/-- An edit that cannot be stored, another one that was asked for before it and is refused, and a
look at the document that has just begun. -/
theorem phases_run_memory : ∃ past asking noting,
    ((fresh ((Memory.ofDocument .empty, [none, some (.unavailable "gone")]), [])).run
      Memory.store.failing.recorded
      [.submit (.edit .general fun _ => .refused []), .submit (.edit .zenzai .settled), .acquire 1,
        .advance, .advance, .acquire 0, .submit .refresh, .advance, .acquire 0]).Spelled
      past asking noting ∧
    past.flatMap Account.word ++ phases noting =
      [.fetching, .validating, .persisting, .failed, .idle, .fetching, .validating, .rejected, .idle,
        .fetching] := by
  obtain ⟨past, asking, noting, spelled⟩ := phases_run Memory.store.failing
    (Memory.ofDocument .empty, [none, some (.unavailable "gone")])
    (show ∀ action ∈ ([.submit (.edit .general fun _ => .refused []),
        .submit (.edit .zenzai .settled), .acquire 1, .advance, .advance, .acquire 0,
        .submit .refresh, .advance, .acquire 0] : List (Action _)), action.Keeps Prod.snd by
      simp [Action.Keeps])
    (by simp [Action.Calm, Call.Calm])
  exact ⟨past, asking, noting, spelled, spelled.phases.symm⟩

end Session

end KanaSettings

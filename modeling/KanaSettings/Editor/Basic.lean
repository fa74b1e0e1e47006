import KanaSettings.Editor.Call

/-!
# The editor

Changing a slice means to fetch the whole document and to replace the whole document, so an editor
carries out its calls one at a time: a call gets a ticket, waits until it holds the lock, goes
through its stages, each of which ends with one call of the store, and gives its answer and the lock
back, even if its caller went away.
-/

namespace KanaSettings

/-- Where an editor is in the call that it carries out. -/
inductive Phase where
  | idle
  | fetching
  | validating
  | persisting
  | rejected
  | failed
deriving DecidableEq

/-- Something that happens while a call is carried out. -/
inductive Event where
  | entered (phase : Phase)
  | fetch
  | change
  | replace (document : Document)

/-- How far the call with the lock has come. -/
inductive Stage where
  | fetching
  | replacing (document : Document) (reply : Reply)

/-- The number of a call, in the order in which calls were submitted. -/
abbrev Ticket := Nat

/-- The call with the lock. -/
structure Running where
  ticket : Ticket
  call : Call
  stage : Stage

/-- An editor. -/
structure Editor where
  phase : Phase
  snapshot : Option Document
  running : Option Running
  /-- The calls that wait for the lock, the longest waiting first. -/
  waiting : List (Ticket × Call)
  next : Ticket
  answers : List (Ticket × Except EditError Reply)
  /-- All that has happened so far, with the call it happened to. -/
  log : List (Ticket × Event)

namespace Editor

/-- An editor that was not asked anything yet. -/
def fresh : Editor := ⟨.idle, none, none, [], 0, [], []⟩

/-! ## Steps -/

/-- Ask an editor something. -/
def submit (editor : Editor) (call : Call) : Editor :=
  { editor with
    waiting := editor.waiting ++ [(editor.next, call)]
    next := editor.next + 1 }

/-- Note what happens to a call. -/
def note (editor : Editor) (ticket : Ticket) (event : Event) : Editor :=
  { editor with log := editor.log ++ [(ticket, event)] }

/-- Enter a phase. -/
def enter (editor : Editor) (ticket : Ticket) (phase : Phase) : Editor :=
  { editor.note ticket (.entered phase) with phase := phase }

/-- Show how a call ended, and go back to doing nothing. -/
def finish (editor : Editor) (ticket : Ticket) (phase : Phase) : Editor :=
  (editor.enter ticket phase).enter ticket .idle

/-- Give an answer, and the lock back. -/
def answer (editor : Editor) (ticket : Ticket) (answer : Except EditError Reply) : Editor :=
  { editor with running := none, answers := editor.answers ++ [(ticket, answer)] }

/-- Remember a document, or none. -/
def remember (editor : Editor) (document : Option Document) : Editor :=
  { editor with snapshot := document }

/-- A call that has got the lock starts to fetch the document.  An edit forgets what was remembered
before it does anything else. -/
def start (editor : Editor) (ticket : Ticket) (call : Call) : Editor :=
  let editor := match call with
    | .refresh => editor
    | .edit _ _ => editor.remember none
  { editor.enter ticket .fetching with running := some ⟨ticket, call, .fetching⟩ }

/-- Give the lock, if it is free, to the call at a position among those that wait. -/
def acquire (editor : Editor) (position : Nat) : Editor :=
  match editor.running, editor.waiting[position]? with
  | none, some (ticket, call) =>
    { editor with waiting := editor.waiting.eraseIdx position }.start ticket call
  | _, _ => editor

/-- Go on with an edit when the document is there. -/
def change (editor : Editor) (ticket : Ticket) (call : Call) (name : SliceName)
    (change : name.Value → Outcome name.Value) (document : Document) : Editor :=
  let editor := (editor.enter ticket .validating).note ticket .change
  match document.edit name change with
  | .crashed reason => editor.answer ticket (.error (.ofCrash call reason))
  | .refused objections =>
    (editor.finish ticket .rejected).answer ticket (.error (.rejected objections))
  | .settled value =>
    let stage := .replacing (document.write name value) (.value name value)
    { editor.enter ticket .persisting with running := some ⟨ticket, call, stage⟩ }

/-- Go on when the store has been asked for the document. -/
def fetched (editor : Editor) (ticket : Ticket) (call : Call) :
    Except StoreError Document → Editor
  | .error error =>
    ((editor.remember none).finish ticket .failed).answer ticket (.error (.transport error))
  | .ok document =>
    match call with
    | .refresh =>
      ((editor.remember (some document)).enter ticket .idle).answer ticket
        (.ok (.document document))
    | .edit name change => editor.change ticket call name change document

/-- Go on when the store has been asked to replace the document. -/
def replaced (editor : Editor) (ticket : Ticket) (document : Document) (reply : Reply) :
    Except StoreError Unit → Editor
  | .error error => (editor.finish ticket .failed).answer ticket (.error (.transport error))
  | .ok () => ((editor.remember (some document)).enter ticket .idle).answer ticket (.ok reply)

/-- Let the call with the lock make its next call of the store. -/
def advance {σ : Type} (editor : Editor) (store : Store σ) (state : σ) : Editor × σ :=
  match editor.running with
  | none => (editor, state)
  | some ⟨ticket, call, .fetching⟩ =>
    let (result, state) := store.fetch state
    ((editor.note ticket .fetch).fetched ticket call result, state)
  | some ⟨ticket, _, .replacing document reply⟩ =>
    let (result, state) := store.replace document state
    ((editor.note ticket (.replace document)).replaced ticket document reply result, state)

/-! ## First come, first served -/

/-- The next step if the lock goes to the call that has waited longest. -/
def step {σ : Type} (store : Store σ) (editor : Editor) (state : σ) : Editor × σ :=
  match editor.running with
  | none => (editor.acquire 0, state)
  | some _ => editor.advance store state

/-- A number of steps. -/
def steps {σ : Type} (store : Store σ) : Nat → Editor → σ → Editor × σ
  | 0, editor, state => (editor, state)
  | count + 1, editor, state =>
    let (editor, state) := step store editor state
    steps store count editor state

/-- How many steps a call can take. -/
def stepsPerCall : Nat := 3

/-- Carry out every call that was submitted. -/
def settle {σ : Type} (editor : Editor) (store : Store σ) (state : σ) : Editor × σ :=
  steps store (stepsPerCall * (editor.waiting.length + 1)) editor state

/-- The answer to a call, if it has been given. -/
def answer? (editor : Editor) (ticket : Ticket) : Option (Except EditError Reply) :=
  (editor.answers.find? fun answer => answer.1 = ticket).map Prod.snd

end Editor

end KanaSettings

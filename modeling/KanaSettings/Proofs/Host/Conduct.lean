import KanaSettings.Proofs.Host.Hearing
import KanaSettings.Proofs.Store.Saving

/-!
# The conduct of a host

A host answers the visitors that come to its socket one after another, and what it does over all of
them is a fold over the requests that it hears.  Only a request to replace the document that is
carried out changes a file.  Nothing that a visitor does, sends or leaves out stops the host but a
request to stop whose response reaches the visitor.
-/

namespace KanaSettings

open FileTree
open Wire (Request Response Receives receive)

namespace Host

variable {host : Host} {tree : FileTree} {request : Request}

/-! ## One request -/

/-- What answering a request does. -/
structure Answers [Wording] (host : Host) (tree : FileTree) (request : Request) (response : Response)
    (after : FileTree) : Prop where
  /-- That the document was replaced is said only where the request holds a document and it was
  saved, and then the file has its text. -/
  replaced : response = .replaced → ∃ document, request = .replaceDocument document.toJson ∧
    host.file.save none document tree = (.ok (), after) ∧
      after.read host.file.path = .ok (SettingsFile.encode document)
  saved : ∀ document next, request = .replaceDocument document.toJson →
    host.file.save none document tree = (.ok (), next) → response = .replaced ∧ after = next
  /-- Anything else changes no file; only directories above the file can be new. -/
  kept : response ≠ .replaced → Raised host.file.path.directory.ancestors tree after
  straight : tree.Rooted → .back ∉ host.file.path.moves → response ≠ .replaced →
    (after.find host.file.path).toOption = (tree.find host.file.path).toOption
  refused : ∀ value, request = .replaceDocument value → Document.ofJson? value = none →
    response = .error "document must be a JSON object" ∧ after = tree
  looked : (∀ value, request ≠ .replaceDocument value) → after = tree

/-- A request to replace the document holds none, or one that is saved, or one that is not. -/
lemma answer_replaceDocument [Wording] (host : Host) (tree : FileTree) (value : Json) :
    (Document.ofJson? value = none ∧ host.answer tree (.replaceDocument value) =
      (.error "document must be a JSON object", tree)) ∨
    ∃ document, document.toJson = value ∧
      ((∃ next, host.file.save none document tree = (.ok (), next) ∧
        host.answer tree (.replaceDocument value) = (.replaced, next)) ∨
      ∃ error next, host.file.save none document tree = (.error error, next) ∧
        host.answer tree (.replaceDocument value) = (.error error.message, next)) := by
  cases found : Document.ofJson? value with
  | none => exact .inl ⟨rfl, by simp only [answer, found]⟩
  | some document =>
    refine .inr ⟨document, Document.toJson_of_ofJson? found, ?_⟩
    rcases saved : host.file.save none document tree with ⟨result, next⟩
    cases result with
    | ok done => exact .inl ⟨next, rfl, by simp only [answer, found, saved]⟩
    | error error => exact .inr ⟨error, next, rfl, by simp only [answer, found, saved]⟩

/-- A response that does not say otherwise leaves the files as they are, if it does. -/
lemma answers_of_eq [Wording] {response : Response} (other : response ≠ .replaced)
    (plain : ∀ document next, request = .replaceDocument document.toJson →
      host.file.save none document tree ≠ (.ok (), next))
    (refused : ∀ value, request = .replaceDocument value → Document.ofJson? value = none →
      response = .error "document must be a JSON object") :
    host.Answers tree request response tree where
  replaced := fun same => absurd same other
  saved := fun document next asked done => absurd done (plain document next asked)
  kept := fun _ => .refl _ tree
  straight := fun _ _ _ => rfl
  refused := fun value asked none => ⟨refused value asked none, rfl⟩
  looked := fun _ => rfl

/-- A request for the document is answered by it or by what is wrong with it. -/
lemma exists_answer_getDocument [Wording] (host : Host) (tree : FileTree) : ∃ response,
    host.answer tree .getDocument = (response, tree) ∧ response ≠ .replaced ∧ response ≠ .ready := by
  unfold answer
  dsimp only
  split <;> exact ⟨_, rfl, by simp, by simp⟩

theorem answers [Wording] (host : Host) (tree : FileTree) (request : Request) :
    host.Answers tree request (host.answer tree request).1 (host.answer tree request).2 := by
  cases request with
  | getDocument =>
    obtain ⟨response, h, other, -⟩ := host.exists_answer_getDocument tree
    rw [h]
    exact answers_of_eq other (by simp) (by simp)
  | probeCapabilities => exact answers_of_eq (by simp [answer]) (by simp) (by simp)
  | shutdown => exact answers_of_eq (by simp [answer]) (by simp) (by simp)
  | replaceDocument value =>
    -- What was sent is no document, or it is saved, or it cannot be saved.
    rcases host.answer_replaceDocument tree value with
      ⟨none, h⟩ | ⟨document, rfl, ⟨next, done, h⟩ | ⟨error, next, failed, h⟩⟩
    · rw [h]
      refine answers_of_eq (by simp) ?_ (by simp)
      rintro document next ⟨⟩
      simp at none
    · rw [h]
      exact {
        replaced := fun _ =>
          ⟨document, rfl, done, read_of_replace (SettingsFile.replace_of_save_eq_ok done)⟩
        saved := by
          intro other after asked finished
          rw [Document.toJson_injective (Request.replaceDocument.inj asked), finished] at done
          exact ⟨rfl, (Prod.mk.inj done).2.symm⟩
        kept := fun other => absurd rfl other
        straight := fun _ _ other => absurd rfl other
        refused := by
          rintro _ ⟨⟩ none
          simp at none
        looked := fun other => absurd rfl (other _) }
    · rw [h]
      -- A save that fails can have made directories, but has done nothing else.
      have whole := host.file.allOrNothing_save none document tree
      rw [failed] at whole
      exact {
        replaced := by simp
        saved := by
          intro other after asked finished
          rw [Document.toJson_injective (Request.replaceDocument.inj asked), finished] at failed
          cases failed
        kept := fun _ => whole.failed error rfl
        straight := fun rooted straight _ => whole.straight rooted straight error rfl
        refused := by
          rintro _ ⟨⟩ none
          simp at none
        looked := fun other => absurd rfl (other _) }

/-- A request leaves the files as they are, or saves a document. -/
lemma answer_state [Wording] (host : Host) (tree : FileTree) (request : Request) :
    (host.answer tree request).2 = tree ∨
      ∃ document, (host.answer tree request).2 = (host.file.save none document tree).2 := by
  cases request with
  | getDocument => exact .inl ((host.answers tree .getDocument).looked (by simp))
  | probeCapabilities => exact .inl rfl
  | shutdown => exact .inl rfl
  | replaceDocument value =>
    rcases host.answer_replaceDocument tree value with
      ⟨-, h⟩ | ⟨document, -, ⟨next, saved, h⟩ | ⟨error, next, saved, h⟩⟩
    · exact .inl (by rw [h])
    · exact .inr ⟨document, by rw [h, saved]⟩
    · exact .inr ⟨document, by rw [h, saved]⟩

lemma answer_eq_ready [Wording] :
    (host.answer tree request).1 = .ready ↔ stopsAfter request = true := by
  cases request with
  | getDocument =>
    obtain ⟨response, h, -, other⟩ := host.exists_answer_getDocument tree
    simp [h, other, stopsAfter]
  | probeCapabilities => simp [answer, stopsAfter]
  | shutdown => simp [answer, stopsAfter]
  | replaceDocument value =>
    rcases host.answer_replaceDocument tree value with
      ⟨-, h⟩ | ⟨document, -, ⟨next, -, h⟩ | ⟨error, next, -, h⟩⟩ <;>
      simp [h, stopsAfter]

/-! ## One visit -/

/-- A host stops at the end of a visit exactly if the visitor was told so. -/
theorem stopped_converse [Wording] (host : Host) (tree : FileTree) (visitor : Visitor) :
    (host.converse tree visitor).stopped = true ↔
      .ready ∈ (host.converse tree visitor).responses := by
  obtain ⟨sends, takes⟩ := visitor
  induction sends using requests.induct generalizing tree takes with
  | case1 sends error h =>
    rw [converse_of_receive_eq_error h]
    simp
  | case2 sends request rest h stops =>
    have ready : (host.answer tree request).1 = .ready := answer_eq_ready.2 stops
    rw [converse_of_receive h]
    split
    · simp
    · simp [ready]
  | case3 sends request rest h goes ih =>
    have other : .ready ≠ (host.answer tree request).1 :=
      fun same => goes (answer_eq_ready.1 same.symm)
    rw [converse_of_receive h]
    split
    · simp
    · simpa [goes, other] using ih (host.answer tree request).2 (takes.map (· - 1))

end Host

/-! ## One visit after another -/

namespace World

variable {host : Host} {place : Location} {socket : Path} {start : FileTree}

/-- Let visitors come to a socket one after another, and note what each of them is told. -/
def visits [Wording] (world : World) (socket : Path) :
    List Visitor → List (Except OsError (List Response)) × World
  | [] => ([], world)
  | visitor :: visitors =>
    let (result, world) := world.visit socket visitor
    let (results, world) := visits world socket visitors
    (result :: results, world)

/-- The world of a host that listens at a place, or that has stopped and taken its socket away. -/
def hosted (place : Location) (host : Host) (tree : FileTree) (stopped : Bool) : World :=
  if stopped then ⟨tree.erase place, none⟩ else ⟨tree, some (place, host)⟩

/-- What a host that listens at a place has been through since it began with some files: what each
visitor was told, all requests that were answered, and whether the host has stopped. -/
inductive Chronicle [Wording] (host : Host) (place : Location) (socket : Path) (start : FileTree) :
    List Visitor → List (Except OsError (List Response)) → List Request → Bool → Prop where
  | opened : Chronicle host place socket start [] [] [] false
  | refused {visitors : List Visitor} {results : List (Except OsError (List Response))}
      {answered : List Request} {stopped : Bool} {visitor : Visitor} {cause : OsError}
      (past : Chronicle host place socket start visitors results answered stopped)
      (absent : (hosted place host (host.after start answered) stopped).connect socket =
        .error cause) :
      Chronicle host place socket start (visitors ++ [visitor]) (results ++ [.error cause]) answered
        stopped
  /-- A visitor finds the host, and its requests are answered from the files that all requests
  before have left. -/
  | served {visitors : List Visitor} {results : List (Except OsError (List Response))}
      {answered : List Request} {visitor : Visitor}
      (past : Chronicle host place socket start visitors results answered false)
      (present : (hosted place host (host.after start answered) false).connect socket = .ok host) :
      Chronicle host place socket start (visitors ++ [visitor])
        (results ++ [.ok (host.visitOf (host.after start answered) visitor).responses])
        (answered ++ host.answered (host.after start answered) visitor)
        (host.visitOf (host.after start answered) visitor).stopped

lemma connect_stopped {tree : FileTree} {other : Host} :
    (hosted place host tree true).connect socket ≠ .ok other := by
  intro h
  obtain ⟨-, _, -, -, listens⟩ := connect_eq_ok.1 h
  cases listens

lemma eq_of_connect {tree : FileTree} {other : Host}
    (h : (hosted place host tree false).connect socket = .ok other) : other = host := by
  obtain ⟨-, _, -, -, listens⟩ := connect_eq_ok.1 h
  cases listens
  rfl

lemma visit_of_connect [Wording] {tree : FileTree} {visitor : Visitor}
    (h : (hosted place host tree false).connect socket = .ok host) :
    (hosted place host tree false).visit socket visitor =
      (.ok (host.visitOf tree visitor).responses,
        hosted place host (host.after tree (host.answered tree visitor))
          (host.visitOf tree visitor).stopped) := by
  have same : (hosted place host tree false).tree = tree := rfl
  simp only [visit, h, same, host.converse_eq, afterVisit]
  cases (host.visitOf tree visitor).stopped <;> rfl

lemma visits_append [Wording] (world : World) (socket : Path) (visitors : List Visitor)
    (visitor : Visitor) :
    world.visits socket (visitors ++ [visitor]) =
      ((world.visits socket visitors).1 ++
          [((world.visits socket visitors).2.visit socket visitor).1],
        ((world.visits socket visitors).2.visit socket visitor).2) := by
  induction visitors generalizing world with
  | nil => rfl
  | cons first visitors ih => simp only [List.cons_append, visits, ih]

/-- The visits to a host have a chronicle, and the world is what it says. -/
theorem chronicle_visits [Wording] (host : Host) (place : Location) (socket : Path)
    (start : FileTree) (visitors : List Visitor) : ∃ answered stopped,
      Chronicle host place socket start visitors
        ((hosted place host start false).visits socket visitors).1 answered stopped ∧
      ((hosted place host start false).visits socket visitors).2 =
        hosted place host (host.after start answered) stopped := by
  induction visitors using List.reverseRecOn with
  | nil => exact ⟨[], false, .opened, rfl⟩
  | append_singleton visitors visitor ih =>
    -- The last visitor finds the host as those before have left it.
    obtain ⟨answered, stopped, past, world⟩ := ih
    rw [visits_append, world]
    cases connected : (hosted place host (host.after start answered) stopped).connect socket with
    | error cause =>
      have visit : (hosted place host (host.after start answered) stopped).visit socket visitor =
          (.error cause, hosted place host (host.after start answered) stopped) := by
        simp only [visit, connected]
      rw [visit]
      exact ⟨answered, stopped, .refused past connected, rfl⟩
    | ok other =>
      cases stopped with
      | true => exact absurd connected connect_stopped
      | false =>
        obtain rfl := eq_of_connect connected
        rw [visit_of_connect connected]
        exact ⟨_, _, .served past connected, by rw [Host.after_append]⟩

lemma Chronicle.stopped_iff [Wording] {visitors : List Visitor}
    {results : List (Except OsError (List Response))} {answered : List Request} {stopped : Bool}
    (h : Chronicle host place socket start visitors results answered stopped) :
    stopped = true ↔ ∃ sent, .ok sent ∈ results ∧ .ready ∈ sent := by
  induction h with
  | opened => simp
  | refused past absent ih => simpa using ih
  | @served visitors results answered visitor past present ih =>
    have told := host.stopped_converse (host.after start answered) visitor
    rw [host.converse_eq] at told
    rw [told]
    have before : ¬ ∃ sent, .ok sent ∈ results ∧ .ready ∈ sent := by simpa using ih
    constructor
    · intro ready
      exact ⟨_, List.mem_append_right _ List.mem_cons_self, ready⟩
    · rintro ⟨sent, mem, ready⟩
      rcases List.mem_append.1 mem with mem | mem
      · exact absurd ⟨sent, mem, ready⟩ before
      · cases List.mem_singleton.1 mem
        exact ready

/-- Whoever could reach a host in the beginning can as long as it has not stopped, unless the file has
come to the place of the socket. -/
lemma connect_after [Wording] (present : (hosted place host start false).connect socket = .ok host)
    (apart : host.file.path.location ≠ socket.location) (answered : List Request) :
    (hosted place host (host.after start answered) false).connect socket = .ok host := by
  induction answered generalizing start with
  | nil => exact present
  | cons request answered ih =>
    rw [Host.after_cons]
    refine ih ?_
    have reaches : Remote.Reaches ⟨socket⟩ ⟨start, some (place, host)⟩ host start := present
    rcases host.answer_state start request with same | ⟨document, same⟩
    · rw [same]
      exact present
    · rw [same, SettingsFile.save_state]
      exact reaches.replace apart _ none

end World

/-! ## Hosts -/

/-- How a host conducts itself. -/
structure Host.Conduct [Wording] (host : Host) : Prop where
  /-- It hears the requests in what a client sends, up to a frame that is none, or to one to stop. -/
  hears : ∀ sends, Hears sends (requests sends)
  conversation : ∀ tree visitor, host.converse tree visitor = host.visitOf tree visitor
  /-- Whatever comes after such a frame or such a request makes no difference to anything. -/
  closed : ∀ tree sends more takes, Closed sends →
    host.converse tree ⟨sends ++ more, takes⟩ = host.converse tree ⟨sends, takes⟩
  /-- A response that does not reach the visitor ends the conversation, but not the host, and what the
  request has done stays done. -/
  unsent : ∀ tree visitor,
    (host.converse tree visitor).responses.length < (requests visitor.sends).length →
      (host.converse tree visitor).stopped = false ∧
        (host.converse tree visitor).tree = host.after tree
          ((requests visitor.sends).take ((host.converse tree visitor).responses.length + 1))
  /-- There is one response to each request, from the files that all requests before it leave. -/
  each : ∀ tree requests i, (host.responses tree requests)[i]? =
    requests[i]?.map fun request => (host.answer (host.after tree (requests.take i)) request).1
  answers : ∀ tree request,
    host.Answers tree request (host.answer tree request).1 (host.answer tree request).2
  /-- The visits to a host have a chronicle, and the world is what it says; the host has stopped
  exactly if it has told a visitor so. -/
  visits : ∀ place socket start visitors, ∃ answered stopped,
    World.Chronicle host place socket start visitors
        ((World.hosted place host start false).visits socket visitors).1 answered stopped ∧
      ((World.hosted place host start false).visits socket visitors).2 =
        World.hosted place host (host.after start answered) stopped ∧
      (stopped = true ↔ ∃ sent,
        .ok sent ∈ ((World.hosted place host start false).visits socket visitors).1 ∧
          .ready ∈ sent)
  /-- No visitor is refused before that, if one could connect in the beginning and the file is not
  where the socket is. -/
  present : ∀ place socket start, (World.hosted place host start false).connect socket = .ok host →
    host.file.path.location ≠ socket.location → ∀ answered,
      (World.hosted place host (host.after start answered) false).connect socket = .ok host
  /-- After that every visitor is, and the socket is gone, but nothing else. -/
  gone : ∀ place socket tree, place ≠ [] →
    (∀ other, (World.hosted place host tree true).connect socket ≠ .ok other) ∧
      (World.hosted place host tree true).tree.node? place = none ∧
      ∀ q, q ≠ place → (World.hosted place host tree true).tree.node? q = tree.node? q

/-- Whatever visitors come and send and whenever they leave, a host answers the requests that it hears
one after another, and nothing but a request to stop whose response reaches the visitor stops it. -/
theorem Host.conduct [Wording] (host : Host) : host.Conduct where
  hears := fun _ => hears_iff.2 rfl
  conversation := host.converse_eq
  closed := by
    intro tree sends more takes closed
    rw [host.converse_eq, host.converse_eq, visitOf, visitOf, requests_append closed more]
    rfl
  unsent := by
    intro tree visitor missing
    rw [host.converse_eq] at missing ⊢
    refine ⟨?_, rfl⟩
    have left : ¬ (host.visitOf tree visitor).responses.length = (requests visitor.sends).length :=
      missing.ne
    exact decide_eq_false fun all => left all.1
  each := host.getElem?_responses
  answers := host.answers
  visits := by
    intro place socket start visitors
    obtain ⟨answered, stopped, chronicle, world⟩ :=
      World.chronicle_visits host place socket start visitors
    exact ⟨answered, stopped, chronicle, world, chronicle.stopped_iff⟩
  present := fun _ _ _ present apart answered => World.connect_after present apart answered
  gone := fun _ _ tree some =>
    ⟨fun _ => World.connect_stopped, node?_erase_self some tree, fun _ apart =>
      node?_erase_of_ne apart tree⟩

end KanaSettings

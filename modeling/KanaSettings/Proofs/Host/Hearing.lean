import KanaSettings.Proofs.Store.Remote
import KanaSettings.Proofs.Wire.Stream

/-!
# What a host hears, and what it answers

A host reads frame after frame off a connection, until one is no request or it is told to stop.  So
what a client sends is a list of requests, and the rest of it does not matter.  The host answers each
of them from the files that those before have left, and it goes on as long as its answers reach the
client.  `converse_eq` says that this is all that a conversation is.
-/

namespace KanaSettings

open Wire (Request Response Receives receive)

/-! ## What a client says -/

namespace Host

/-- The requests in what a client sends: frame after frame, until one is no request or tells the host
to stop. -/
def requests (sends : ByteArray) : List Request :=
  match _h : receive Request.ofPayload? sends with
  | .error _ => []
  | .ok (request, rest) => if stopsAfter request then [request] else request :: requests rest
termination_by sends.size
decreasing_by exact Wire.size_lt_of_receive _h

lemma requests_of_error {sends : ByteArray} {error : Wire.ReceiveError}
    (h : receive Request.ofPayload? sends = .error error) : requests sends = [] := by
  rw [requests]
  split
  · rfl
  · rename_i received
    rw [h] at received
    cases received

lemma requests_of_ok {sends rest : ByteArray} {request : Request}
    (h : receive Request.ofPayload? sends = .ok (request, rest)) :
    requests sends = if stopsAfter request then [request] else request :: requests rest := by
  rw [requests]
  split
  · rename_i received
    rw [h] at received
    cases received
  · rename_i other left received
    rw [h] at received
    cases received
    rfl

/-- Whether the last of some requests is to stop. -/
def Stops (requests : List Request) : Prop := requests.getLast?.any stopsAfter = true

instance (requests : List Request) : Decidable (Stops requests) :=
  inferInstanceAs (Decidable (_ = true))

/-- The requests that a host hears in what a client sends. -/
structure Hears (sends : ByteArray) (requests : List Request) : Prop where
  /-- They are the frames in front.  What is left is no request, unless the last of them is to stop. -/
  frames : ∃ rest, Receives Request.ofPayload? sends requests rest ∧
    (Stops requests ∨ ∃ error, receive Request.ofPayload? rest = .error error)
  last : ∀ request ∈ requests.dropLast, stopsAfter request = false

lemma stops_cons {request : Request} {requests : List Request} (goes : stopsAfter request = false) :
    Stops (request :: requests) ↔ Stops requests := by
  cases requests with
  | nil => simp [Stops, goes]
  | cons next requests => simp [Stops]

/-- A host hears the requests in what a client sends, and nothing else. -/
theorem hears_iff {sends : ByteArray} {heard : List Request} :
    Hears sends heard ↔ heard = requests sends := by
  constructor
  · rintro ⟨⟨rest, frames, ending⟩, last⟩
    -- By induction on the frames; that none of them but the last is to stop is passed on.
    induction frames with
    | nil stream =>
      rcases ending with stops | ⟨error, h⟩
      · cases stops
      · rw [requests_of_error h]
    | @cons stream rest left request others first receives ih =>
      rw [requests_of_ok first]
      by_cases stops : stopsAfter request = true
      · -- Nothing comes after it, or it would have been the last.
        rw [if_pos stops]
        cases others with
        | nil => rfl
        | cons next others =>
          have goes := last request (by simp)
          rw [stops] at goes
          cases goes
      · have goes : stopsAfter request = false := by simpa using stops
        have later : ∀ other ∈ others.dropLast, stopsAfter other = false := by
          intro other mem
          cases others with
          | nil => cases mem
          | cons next others => exact last other (List.mem_cons_of_mem _ mem)
        rw [if_neg stops, ← ih later (by rwa [stops_cons goes] at ending)]
  · rintro rfl
    -- The other way by the recursion that reads the requests.
    induction sends using requests.induct with
    | case1 sends error h =>
      rw [requests_of_error h]
      exact ⟨⟨sends, .nil sends, .inr ⟨error, h⟩⟩, by simp⟩
    | case2 sends request rest h stops =>
      rw [requests_of_ok h, if_pos stops]
      exact ⟨⟨rest, .cons h (.nil rest), .inl (by simp [Stops, stops])⟩, by simp⟩
    | case3 sends request rest h goes ih =>
      rw [requests_of_ok h, if_neg goes]
      obtain ⟨⟨left, frames, ending⟩, last⟩ := ih
      have goes : stopsAfter request = false := by simpa using goes
      refine ⟨⟨left, .cons h frames, by rwa [stops_cons goes]⟩, fun other mem => ?_⟩
      cases others : requests rest with
      | nil =>
        rw [others] at mem
        cases mem
      | cons next more =>
        rw [others, List.dropLast_cons_cons] at mem
        rcases List.mem_cons.1 mem with rfl | mem
        · exact goes
        · exact last other (by rwa [others])

/-- Bytes after which a host listens no more: the last request is to stop, or then a frame comes that
is too long or no request. -/
def Closed (sends : ByteArray) : Prop :=
  Stops (requests sends) ∨ ∃ rest error, Receives Request.ofPayload? sends (requests sends) rest ∧
    receive Request.ofPayload? rest = .error error ∧ Wire.Final error

/-- Whatever follows such bytes is not heard. -/
theorem requests_append {sends : ByteArray} (closed : Closed sends) (more : ByteArray) :
    requests (sends ++ more) = requests sends := by
  obtain ⟨⟨rest, frames, ending⟩, last⟩ := hears_iff.2 (rfl : requests sends = _)
  refine (hears_iff.1 ⟨?_, last⟩).symm
  rcases closed with stops | ⟨left, error, received, failed, final⟩
  · exact ⟨rest ++ more, frames.append more, .inl stops⟩
  · exact ⟨left ++ more, received.append more,
      .inr ⟨error, Wire.receive_append_of_final final failed more⟩⟩

/-! ## What a host answers -/

/-- The files after some requests. -/
def after [Wording] (host : Host) (tree : FileTree) (requests : List Request) : FileTree :=
  requests.foldl (fun tree request => (host.answer tree request).2) tree

/-- The responses to some requests, each from the files that the requests before leave. -/
def responses [Wording] (host : Host) : FileTree → List Request → List Response
  | _, [] => []
  | tree, request :: requests =>
    (host.answer tree request).1 :: responses host (host.answer tree request).2 requests

lemma after_cons [Wording] (host : Host) (tree : FileTree) (request : Request)
    (requests : List Request) :
    host.after tree (request :: requests) = host.after (host.answer tree request).2 requests := rfl

lemma after_append [Wording] (host : Host) (tree : FileTree) (front back : List Request) :
    host.after tree (front ++ back) = host.after (host.after tree front) back :=
  List.foldl_append

/-- There is one response to each request, from the files that all requests before it leave. -/
lemma getElem?_responses [Wording] (host : Host) (tree : FileTree) (requests : List Request)
    (i : Nat) :
    (host.responses tree requests)[i]? = requests[i]?.map fun request =>
      (host.answer (host.after tree (requests.take i)) request).1 := by
  induction requests generalizing tree i with
  | nil => rfl
  | cons request requests ih =>
    cases i with
    | zero => rfl
    | succ i => simpa [responses, after_cons] using ih (host.answer tree request).2 i

end Host

/-- The responses that a visitor gets of those that it is due: up to one that is too long, and as many
as it takes. -/
def Visitor.gets (visitor : Visitor) (due : List Response) : List Response :=
  let short := due.takeWhile fun response => decide (Wire.Fits response.encode)
  match visitor.takes with
  | none => short
  | some count => short.take count

namespace Visitor

variable {visitor : Visitor} {response : Response}

lemma gets_nil (visitor : Visitor) : visitor.gets [] = [] := by
  unfold gets
  split <;> simp

lemma gets_cons_of_not_reaches (h : Host.reaches response visitor = false) (due : List Response) :
    visitor.gets (response :: due) = [] := by
  obtain ⟨sends, takes⟩ := visitor
  by_cases fits : Wire.Fits response.encode
  · have none : takes = some 0 := by
      have fits : (Wire.payload response.encode).size ≤ Wire.maxPayload := fits
      simpa [Host.reaches, fits] using h
    simp [gets, none]
  · unfold gets
    split <;> simp [fits]

lemma gets_cons_of_reaches (h : Host.reaches response visitor = true) (rest : ByteArray)
    (due : List Response) : visitor.gets (response :: due) =
      response :: gets ⟨rest, visitor.takes.map (· - 1)⟩ due := by
  obtain ⟨sends, takes⟩ := visitor
  simp only [Host.reaches, Bool.and_eq_true, decide_eq_true_eq, bne_iff_ne, ne_eq] at h
  obtain ⟨fits, some⟩ := h
  have fits : Wire.Fits response.encode := fits
  cases takes with
  | none => simp [gets, fits]
  | some count =>
    cases count with
    | zero => exact absurd rfl some
    | succ count => simp [gets, fits]

end Visitor

namespace Host

/-- A visit as the requests in it make it: the visitor gets its responses as long as they reach it,
each request is answered up to the first whose response does not, and the host stops if all responses
have reached the visitor and the last request is to stop. -/
def visitOf [Wording] (host : Host) (tree : FileTree) (visitor : Visitor) : Visit :=
  let heard := requests visitor.sends
  let got := visitor.gets (host.responses tree heard)
  { responses := got
    tree := host.after tree (heard.take (got.length + 1))
    stopped := decide (got.length = heard.length ∧ Stops heard) }

/-- The requests of a visitor that are answered. -/
def answered [Wording] (host : Host) (tree : FileTree) (visitor : Visitor) : List Request :=
  (requests visitor.sends).take ((host.visitOf tree visitor).responses.length + 1)

/-- A conversation is a fold over the requests that the host hears. -/
theorem converse_eq [Wording] (host : Host) (tree : FileTree) (visitor : Visitor) :
    host.converse tree visitor = host.visitOf tree visitor := by
  obtain ⟨sends, takes⟩ := visitor
  induction sends using requests.induct generalizing tree takes with
  | case1 sends error h =>
    have silent : requests sends = [] := requests_of_error h
    rw [converse_of_receive_eq_error h]
    simp [visitOf, silent, responses, Visitor.gets_nil, after, Stops]
  | case2 sends request rest h stops =>
    have heard : requests sends = [request] := by rw [requests_of_ok h, if_pos stops]
    rw [converse_of_receive h]
    cases reached : reaches (host.answer tree request).1 ⟨sends, takes⟩ with
    | false =>
      simp [visitOf, heard, responses, Visitor.gets_cons_of_not_reaches reached, after]
    | true =>
      simp [visitOf, heard, responses, Visitor.gets_cons_of_reaches reached rest, Visitor.gets_nil,
        after, Stops, stops]
  | case3 sends request rest h goes ih =>
    have heard : requests sends = request :: requests rest := by rw [requests_of_ok h, if_neg goes]
    have goes : stopsAfter request = false := by simpa using goes
    rw [converse_of_receive h]
    cases reached : reaches (host.answer tree request).1 ⟨sends, takes⟩ with
    | false =>
      simp [visitOf, heard, responses, Visitor.gets_cons_of_not_reaches reached, after]
    | true =>
      -- The rest of the conversation is one with a visitor that takes one response less.
      have others := ih (host.answer tree request).2 (takes.map (· - 1))
      simp [visitOf, heard, responses, Visitor.gets_cons_of_reaches reached rest, after_cons, goes,
        others, stops_cons goes]

end Host

end KanaSettings

import KanaSettings.Proofs.Host.Conduct

/-!
# The log of a host

Of every visitor that found the host, the log has the requests that were answered, each with its
response and with how many responses the visitor still took then.
-/

namespace KanaSettings

open Wire (Request Response Receives receive)

namespace Host

/-- A request that was answered. -/
structure Entry where
  request : Request
  response : Response
  /-- How many responses the visitor still took, if it did not take them all. -/
  room : Option Nat

/-- Whether the response reached the visitor. -/
def Entry.reached (entry : Entry) : Bool :=
  reaches entry.response ⟨.empty, entry.room⟩

/-- The responses in a part of a log that reached their visitors. -/
def sent (entries : List Entry) : List Response :=
  (entries.filter Entry.reached).map Entry.response

lemma Entry.reached_iff (entry : Entry) :
    entry.reached = true ↔ Wire.Fits entry.response.encode ∧ entry.room ≠ some 0 := by
  unfold Entry.reached reaches
  rw [Bool.and_eq_true, decide_eq_true_iff, bne_iff_ne]
  rfl

variable {host : Host} {tree : FileTree}

/-! ## One visit -/

/-- The requests of a visitor that are answered: up to the first whose response does not reach it. -/
def entries [Wording] (host : Host) : FileTree → Option Nat → List Request → List Entry
  | _, _, [] => []
  | tree, room, request :: requests =>
    let entry : Entry := ⟨request, (host.answer tree request).1, room⟩
    entry :: if entry.reached then
      entries host (host.answer tree request).2 (room.map (· - 1)) requests
    else []

/-- Entries in which every request is answered from the files that those before it leave. -/
inductive Answering [Wording] (host : Host) : FileTree → List Entry → Prop where
  | nil (tree : FileTree) : Answering host tree []
  | cons {tree : FileTree} (request : Request) (room : Option Nat) {entries : List Entry}
      (others : Answering host (host.answer tree request).2 entries) :
      Answering host tree (⟨request, (host.answer tree request).1, room⟩ :: entries)

lemma answering_entries [Wording] (host : Host) (tree : FileTree) (room : Option Nat)
    (requests : List Request) : host.Answering tree (host.entries tree room requests) := by
  induction requests generalizing tree room with
  | nil => exact .nil tree
  | cons request requests ih =>
    rw [entries]
    refine .cons request room ?_
    split
    · exact ih _ _
    · exact .nil _

lemma answering_append [Wording] {front back : List Entry} : host.Answering tree (front ++ back) ↔
    host.Answering tree front ∧
      host.Answering (host.after tree (front.map Entry.request)) back := by
  constructor
  · intro h
    induction front generalizing tree with
    | nil => exact ⟨.nil tree, h⟩
    | cons entry front ih =>
      cases h with
      | cons request room others =>
        obtain ⟨front, back⟩ := ih others
        exact ⟨.cons request room front, back⟩
  · rintro ⟨front, back⟩
    induction front with
    | nil tree => exact back
    | cons request room others ih => exact .cons request room (ih back)

lemma sent_entries [Wording] (host : Host) (tree : FileTree) (room : Option Nat)
    (requests : List Request) (sends : ByteArray) : sent (host.entries tree room requests) =
      Visitor.gets ⟨sends, room⟩ (host.responses tree requests) := by
  induction requests generalizing tree room with
  | nil => rw [responses, Visitor.gets_nil]; rfl
  | cons request requests ih =>
    rw [entries, responses]
    cases reached : reaches (host.answer tree request).1 ⟨sends, room⟩ with
    | false =>
      rw [Visitor.gets_cons_of_not_reaches reached]
      have missed : Entry.reached ⟨request, (host.answer tree request).1, room⟩ = false := reached
      simp [sent, missed]
    | true =>
      rw [Visitor.gets_cons_of_reaches reached sends]
      have got : Entry.reached ⟨request, (host.answer tree request).1, room⟩ = true := reached
      have others := ih (host.answer tree request).2 (room.map (· - 1))
      simp only [sent] at others
      simp [sent, got, others]

/-- The requests in the log of a visit are those that are answered. -/
lemma map_request_entries [Wording] (host : Host) (tree : FileTree) (visitor : Visitor) :
    (host.entries tree visitor.takes (requests visitor.sends)).map Entry.request =
      host.answered tree visitor := by
  obtain ⟨sends, room⟩ := visitor
  simp only [answered, visitOf]
  induction requests sends generalizing tree room with
  | nil => simp [entries]
  | cons request requests ih =>
    rw [entries, responses, List.take_succ_cons]
    cases reached : reaches (host.answer tree request).1 ⟨sends, room⟩ with
    | false =>
      rw [Visitor.gets_cons_of_not_reaches reached]
      have missed : Entry.reached ⟨request, (host.answer tree request).1, room⟩ = false := reached
      simp [missed]
    | true =>
      rw [Visitor.gets_cons_of_reaches reached sends]
      have got : Entry.reached ⟨request, (host.answer tree request).1, room⟩ = true := reached
      simp [got, ih]

/-! ## What was asked came in a payload -/

/-- Every request that a host hears came out of a payload. -/
lemma exists_payload_of_mem_requests {sends : ByteArray} {request : Request}
    (h : request ∈ requests sends) : ∃ payload, Request.ofPayload? payload = some request := by
  obtain ⟨⟨rest, frames, -⟩, -⟩ := hears_iff.2 (rfl : requests sends = _)
  generalize requests sends = heard at frames h
  induction frames with
  | nil => cases h
  | cons first others ih =>
    rcases List.mem_cons.1 h with rfl | h
    · obtain ⟨payload, -, decodes, -⟩ := Wire.receive_eq_ok.1 first
      exact ⟨payload, decodes⟩
    · exact ih h

end Host

/-! ## All visits -/

namespace World

open Host (Entry sent)

variable {host : Host} {place : Location} {socket : Path}

/-- The log of a visit, if the visitor finds the host. -/
def record [Wording] (world : World) (socket : Path) (visitor : Visitor) :
    Except OsError (List Entry) :=
  (world.connect socket).map fun host =>
    host.entries world.tree visitor.takes (Host.requests visitor.sends)

/-- The logs of visits, one after another. -/
def records [Wording] (world : World) (socket : Path) :
    List Visitor → List (Except OsError (List Entry))
  | [] => []
  | visitor :: visitors =>
    world.record socket visitor :: records (world.visit socket visitor).2 socket visitors

/-- All that a host has answered in some visits. -/
def log [Wording] (world : World) (socket : Path) (visitors : List Visitor) : List Entry :=
  (world.records socket visitors).flatMap fun record => record.toOption.getD []

lemma visits_cons [Wording] (world : World) (socket : Path) (visitor : Visitor)
    (visitors : List Visitor) :
    world.visits socket (visitor :: visitors) =
      ((world.visit socket visitor).1 :: ((world.visit socket visitor).2.visits socket visitors).1,
        ((world.visit socket visitor).2.visits socket visitors).2) := rfl

/-- What visitors were told are the responses in the logs that reached them. -/
theorem visits_eq_records [Wording] (world : World) (socket : Path) (visitors : List Visitor) :
    (world.visits socket visitors).1 = (world.records socket visitors).map (Except.map sent) := by
  induction visitors generalizing world with
  | nil => rfl
  | cons visitor visitors ih =>
    have one : (world.visit socket visitor).1 = (world.record socket visitor).map sent := by
      unfold visit record
      cases world.connect socket with
      | error cause => rfl
      | ok host =>
        have responses : (host.converse world.tree visitor).responses =
            sent (host.entries world.tree visitor.takes (Host.requests visitor.sends)) := by
          rw [host.converse_eq, host.sent_entries _ _ _ visitor.sends]
          rfl
        exact congrArg Except.ok responses
    rw [visits_cons, records, List.map_cons, ← one, ← ih]

/-- What comes of a visit to a host: the visitor finds nobody, or its requests are answered. -/
lemma record_cases [Wording] (host : Host) (place : Location) (socket : Path) (tree : FileTree)
    (stopped : Bool) (visitor : Visitor) :
    (∃ cause, (hosted place host tree stopped).record socket visitor = .error cause ∧
      ((hosted place host tree stopped).visit socket visitor).2 = hosted place host tree stopped) ∨
    ∃ entries stops, (hosted place host tree stopped).record socket visitor = .ok entries ∧
      host.Answering tree entries ∧ ((hosted place host tree stopped).visit socket visitor).2 =
        hosted place host (host.after tree (entries.map Entry.request)) stops := by
  cases connected : (hosted place host tree stopped).connect socket with
  | error cause =>
    have same : (hosted place host tree stopped).visit socket visitor =
        (.error cause, hosted place host tree stopped) := by
      simp only [visit, connected]
    exact .inl ⟨cause, by rw [record, connected]; rfl, by rw [same]⟩
  | ok other =>
    cases stopped with
    | true => exact absurd connected connect_stopped
    | false =>
      obtain rfl := eq_of_connect connected
      refine .inr ⟨other.entries tree visitor.takes (Host.requests visitor.sends),
        (other.visitOf tree visitor).stopped, by rw [record, connected]; rfl,
        other.answering_entries tree _ _, ?_⟩
      rw [visit_of_connect connected, other.map_request_entries tree visitor]

/-- A host answers each request in the log from the files that all requests before it leave, and all
of them together leave the files that are there in the end. -/
theorem answering_log [Wording] (host : Host) (place : Location) (socket : Path) (tree : FileTree)
    (stopped : Bool) (visitors : List Visitor) :
    host.Answering tree ((hosted place host tree stopped).log socket visitors) ∧
      ∃ stops, ((hosted place host tree stopped).visits socket visitors).2 =
        hosted place host (host.after tree
          (((hosted place host tree stopped).log socket visitors).map Entry.request)) stops := by
  induction visitors generalizing tree stopped with
  | nil => exact ⟨.nil tree, stopped, rfl⟩
  | cons visitor visitors ih =>
    rw [log, records, List.flatMap_cons, visits_cons]
    rcases record_cases host place socket tree stopped visitor with
      ⟨cause, record, same⟩ | ⟨entries, stops, record, answering, next⟩
    · rw [record, same]
      exact ih tree stopped
    · rw [record, next]
      obtain ⟨later, last⟩ := ih (host.after tree (entries.map Entry.request)) stops
      refine ⟨Host.answering_append.2 ⟨answering, later⟩, ?_⟩
      rw [List.map_append, Host.after_append]
      exact last

lemma exists_payload_of_mem_log [Wording] {world : World} {visitors : List Visitor} {entry : Entry}
    (h : entry ∈ world.log socket visitors) :
    ∃ payload, Request.ofPayload? payload = some entry.request := by
  induction visitors generalizing world with
  | nil => cases h
  | cons visitor visitors ih =>
    rw [log, records, List.flatMap_cons, List.mem_append] at h
    rcases h with h | h
    · unfold record at h
      cases connected : world.connect socket with
      | error cause =>
        rw [connected] at h
        cases h
      | ok host =>
        rw [connected] at h
        have answered := List.mem_map_of_mem (f := Entry.request) h
        have asked : entry.request ∈ host.answered world.tree visitor :=
          host.map_request_entries world.tree visitor ▸ answered
        exact Host.exists_payload_of_mem_requests (List.mem_of_mem_take asked)
    · exact ih h

end World

end KanaSettings

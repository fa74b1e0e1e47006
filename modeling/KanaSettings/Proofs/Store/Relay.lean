import KanaSettings.Proofs.Document.Aged
import KanaSettings.Proofs.Store.Remote

/-!
# What comes through a host

A document that is sent to a host or handed out by it is written and read on the way.  Nothing is
asked for here: neither that it can be sent, nor that its numbers read back.  It is enough that the
answer says it went well.
-/

namespace KanaSettings

open Json (Reader spell)
open Wire (Request Response)

/-! ## Messages -/

namespace Wire

section

variable {α : Type} {plain : String → Option α} {data : String → Option (Reader α)}

/-- What comes of a variant whose data is a value has this value, with its numbers as they are read. -/
lemma eq_of_run_variant_value {name : String} {f : Json → α} {v : Json} {a : α} {depth : Nat}
    (known : data name = some ((Reader.value (spell .compact (.object [(name, v)])).length depth).map
      f))
    (distinct : v.Distinct)
    (h : (Reader.variant plain data).run (spell .compact (.object [(name, v)])) = some a) :
    a = f v.reread := by
  obtain ⟨rest, mapped⟩ := exists_of_run_variant_object known h
  obtain ⟨w, read, rfl⟩ := Json.exists_of_map mapped
  obtain ⟨keeps, -⟩ := Json.keeps_of_value_spell (length_data_le name v)
    (Json.ends_cons (c := '\x7d') rfl []) read
  rw [Json.eq_reread_of_keeps distinct keeps]

end

lemma Request.eq_of_ofPayload?_replaceDocument {v : Json} (distinct : v.Distinct)
    {heard : Request} (h : ofPayload? (payload (replaceDocument v).encode) = some heard) :
    heard = .replaceDocument v.reread := by
  rw [request_ofPayload?, parse?, Json.toList_compact] at h
  exact eq_of_run_variant_value (if_pos rfl) distinct h

lemma Response.eq_of_ofPayload?_document {v : Json} (distinct : v.Distinct) {got : Response}
    (h : ofPayload? (payload (document v).encode) = some got) : got = .document v.reread := by
  rw [response_ofPayload?, parse?, Json.toList_compact] at h
  exact eq_of_run_variant_value (if_pos rfl) distinct h

end Wire

/-! ## Hosts -/

lemma Host.answer_toJson_state [Wording] (host : Host) (tree : FileTree) (document : Document) :
    (host.answer tree (.replaceDocument document.toJson)).2 =
      (host.file.save none document tree).2 := by
  rcases saves : host.file.save none document tree with ⟨error | done, after⟩
  · simp [answer, saves]
  · simp [answer, saves]

namespace Remote

variable {remote : Remote} {world world' : World} {document : Document}

lemma listener_of_connect {host : Host} (h : world.connect remote.socket = .ok host) :
    ∃ place, world.listener = some (place, host) := by
  obtain ⟨-, place, -, -, listener⟩ := World.connect_eq_ok.1 h
  exact ⟨place, listener⟩

/-- Whatever the peer answers, its state is what it is after the question. -/
lemma exchange_state {σ : Type} (peer : Peer σ) {request : Request}
    (fits : (Wire.payload request.encode).size ≤ Wire.maxPayload) (state : σ) :
    (exchange peer request state).2 = (peer (Wire.header (Wire.payload request.encode).size ++
      Wire.payload request.encode) state).2 := by
  simp only [exchange, Wire.frame_eq fits]
  generalize peer _ state = answered
  cases Wire.receive Response.ofPayload? answered.1 <;> rfl

/-- Whatever comes of a call, the files are left as the host leaves them that has heard a request,
if any has. -/
lemma call_state [Wording] (remote : Remote) (request : Request) (world : World) :
    (remote.call request world).2 = world ∨ ∃ place host heard,
      world.listener = some (place, host) ∧
      Request.ofPayload? (Wire.payload request.encode) = some heard ∧
      (Host.stopsAfter heard = false →
        (remote.call request world).2 =
          { world with tree := (host.answer world.tree heard).2 }) := by
  cases connects : world.connect remote.socket with
  | error cause => simp [call, connects, Except.map, ask]
  | ok host =>
    obtain ⟨place, listener⟩ := listener_of_connect connects
    by_cases fits : (Wire.payload request.encode).size ≤ Wire.maxPayload
    · have after : (remote.call request world).2 = world.afterVisit (host.converse world.tree
          ⟨Wire.header (Wire.payload request.encode).size ++ Wire.payload request.encode, none⟩) := by
        rw [call, connects, Except.map, ask, exchange_state (peer host) fits, peer]
      cases arrives : Request.ofPayload? (Wire.payload request.encode) with
      | none =>
        have visit : host.converse world.tree ⟨Wire.header (Wire.payload request.encode).size ++
            Wire.payload request.encode, none⟩ = ⟨[], world.tree, false⟩ :=
          Host.converse_of_receive_eq_error (Wire.receive_header_none fits arrives)
        rw [after, visit]
        exact .inl rfl
      | some heard =>
        have visit : host.converse world.tree ⟨Wire.header (Wire.payload request.encode).size ++
            Wire.payload request.encode, none⟩ = _ := Host.converse_single arrives fits
        -- Whether the response fits or not, the request has been carried out.
        refine .inr ⟨place, host, heard, listener, rfl, fun stays => ?_⟩
        rw [after, visit]
        split_ifs
        · simp [World.afterVisit, stays]
        · simp [World.afterVisit]
    · simp [call, connects, Except.map, ask, exchange, Wire.frame, fits]

/-- The document in an answer was in a response. -/
lemma eq_document_of_document_eq_ok {answer : Except HostError Response}
    (h : Remote.document answer = .ok document) : answer = .ok (.document document.toJson) := by
  unfold Remote.document at h
  split at h
  · cases h
  · split at h
    · rename_i found
      cases h
      rw [Document.toJson_of_ofJson? found]
    · cases h
  · cases h
  · cases h

/-- An answer that says that the document was replaced is the response for it. -/
lemma eq_replaced_of_replaced_eq_ok {answer : Except HostError Response}
    (h : Remote.replaced answer = .ok ()) : answer = .ok .replaced := by
  unfold Remote.replaced at h
  split at h
  · cases h
  · rfl
  · cases h
  · cases h

/-- A document that is handed out by a host is the one in the file, sent once. -/
theorem exists_of_fetch_eq_ok [Wording] (h : remote.store.fetch world = (.ok document, world')) :
    ∃ place host loaded, world.listener = some (place, host) ∧
      host.file.load world.tree = .ok loaded ∧ document = loaded.aged 1 ∧ world' = world := by
  rcases called : remote.call .getDocument world with ⟨answer, left⟩
  simp only [store, called, Prod.mk.injEq] at h
  obtain ⟨answered, rfl⟩ := h
  rw [eq_document_of_document_eq_ok answered] at called
  obtain ⟨connects, -, arrives, returns, leaves⟩ := answered_of_call_eq_ok called
  rename_i host heard
  obtain ⟨place, listener⟩ := listener_of_connect connects
  rw [Request.ofPayload?_encode .getDocument (by rintro v ⟨⟩)] at arrives
  cases arrives
  -- An error would have come back as an error.
  cases loads : host.file.load world.tree with
  | error error =>
    have answer : host.answer world.tree .getDocument = (.error error.message, world.tree) := by
      simp [Host.answer, loads]
    rw [answer, Response.ofPayload?_error] at returns
    cases returns
  | ok loaded =>
    have answer : host.answer world.tree .getDocument = (.document loaded.toJson, world.tree) := by
      simp [Host.answer, loads]
    rw [answer] at returns leaves
    have got := Response.eq_of_ofPayload?_document (SettingsFile.distinct_of_load loads) returns
    refine ⟨place, host, loaded, listener, loads, ?_, leaves rfl⟩
    apply Document.toJson_injective
    rw [Document.toJson_aged_one, Response.document.inj got]

/-- A document that a host was sent is what it has saved in the file. -/
theorem exists_of_replace_eq_ok [Wording] (distinct : document.Distinct)
    (h : remote.store.replace document world = (.ok (), world')) :
    ∃ place host, world.listener = some (place, host) ∧
      host.file.save none (document.aged 1) world.tree = (.ok (), world'.tree) ∧
      world'.listener = world.listener := by
  rcases called : remote.call (.replaceDocument document.toJson) world with ⟨answer, left⟩
  simp only [store, called, Prod.mk.injEq] at h
  obtain ⟨answered, rfl⟩ := h
  rw [eq_replaced_of_replaced_eq_ok answered] at called
  obtain ⟨connects, -, arrives, returns, leaves⟩ := answered_of_call_eq_ok called
  rename_i host heard
  obtain ⟨place, listener⟩ := listener_of_connect connects
  obtain rfl := Request.eq_of_ofPayload?_replaceDocument distinct arrives
  rw [← Document.toJson_aged_one] at returns leaves
  rcases saves : host.file.save none (document.aged 1) world.tree with ⟨error | done, tree⟩
  · have answer : host.answer world.tree (.replaceDocument (document.aged 1).toJson) =
        (.error error.message, tree) := by
      simp [Host.answer, saves]
    rw [answer, Response.ofPayload?_error] at returns
    cases returns
  · have answer : host.answer world.tree (.replaceDocument (document.aged 1).toJson) =
        (.replaced, tree) := by
      simp [Host.answer, saves]
    rw [answer] at leaves
    cases leaves rfl
    exact ⟨place, host, listener, saves, rfl⟩

lemma eq_of_fetch [Wording] {remote : Remote} {world next : World}
    {result : Except StoreError Document} (e : remote.store.fetch world = (result, next)) :
    next = world := by
  obtain rfl : (remote.store.fetch world).2 = next := congrArg Prod.snd e
  have arrives := Request.ofPayload?_encode .getDocument (by rintro v ⟨⟩)
  have state := remote.call_state .getDocument world
  rcases called : remote.call .getDocument world with ⟨answer, left⟩
  simp only [store, called] at state ⊢
  rcases state with same | ⟨place, host, heard, -, heard_eq, after⟩
  · exact same
  · cases arrives.symm.trans heard_eq
    rw [after rfl, Host.answer]
    cases host.file.load world.tree <;> rfl

/-- A host that is sent a document saves it, or nothing changes; it need not answer either way. -/
lemma eq_or_saved_of_replace [Wording] {remote : Remote} {world next : World}
    {result : Except StoreError Unit} (distinct : document.Distinct)
    (e : remote.store.replace document world = (result, next)) :
    next = world ∨ ∃ place host, world.listener = some (place, host) ∧
      next = { world with tree := (host.file.save none (document.aged 1) world.tree).2 } := by
  obtain rfl : (remote.store.replace document world).2 = next := congrArg Prod.snd e
  have state := remote.call_state (.replaceDocument document.toJson) world
  rcases called : remote.call (.replaceDocument document.toJson) world with ⟨answer, left⟩
  simp only [store, called] at state ⊢
  rcases state with same | ⟨place, host, heard, listener, heard_eq, after⟩
  · exact .inl same
  · obtain rfl := Request.eq_of_ofPayload?_replaceDocument distinct heard_eq
    rw [← Document.toJson_aged_one] at after
    refine .inr ⟨place, host, listener, ?_⟩
    rw [after rfl, Host.answer_toJson_state]

end Remote

end KanaSettings

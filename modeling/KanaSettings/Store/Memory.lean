import KanaSettings.Store.Basic

/-!
# Stores in memory

A store that keeps its document in memory and can be told to refuse.
-/

namespace KanaSettings

/-- A document in memory. -/
structure Memory where
  document : Document
  /-- Whether it is not handed out. -/
  refusesReads : Bool
  /-- Whether no other is taken. -/
  refusesWrites : Bool
  /-- How often another was taken. -/
  writes : Nat

namespace Memory

/-- A document that nobody has replaced yet. -/
def ofDocument (document : Document) : Memory := ⟨document, false, false, 0⟩

/-- Hand out the document. -/
def fetch (memory : Memory) : Except StoreError Document × Memory :=
  if memory.refusesReads then (.error (.unavailable "read refused"), memory)
  else (.ok memory.document, memory)

/-- Take another document. -/
def replace (document : Document) (memory : Memory) : Except StoreError Unit × Memory :=
  if memory.refusesWrites then (.error (.unavailable "write refused"), memory)
  else (.ok (), { memory with document := document, writes := memory.writes + 1 })

/-- The store of a document in memory. -/
def store : Store Memory := ⟨fetch, replace⟩

end Memory

end KanaSettings

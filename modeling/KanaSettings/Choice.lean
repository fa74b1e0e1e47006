import KanaSettings.Json.Basic

/-!
# Closed sets of names

Several settings are one of a few named choices.  A choice has one name, which is what a person
types and what a document holds, and the choices of a set have a fixed order, in which they are
offered.
-/

namespace KanaSettings

/-- A closed set of named choices. -/
class Choice (α : Type) where
  /-- The choices, in the order in which they are offered. -/
  all : List α
  name : α → String

namespace Choice

variable {α : Type} [Choice α]

/-- The choice with a name. -/
def ofName? (text : String) : Option α := (all : List α).find? fun a => name a = text

/-- The names in order, as an error message lists them. -/
def known (α : Type) [Choice α] : String := ", ".intercalate ((all : List α).map name)

/-- A choice as a value of a document. -/
def encode (a : α) : Json := .string (name a)

end Choice

end KanaSettings

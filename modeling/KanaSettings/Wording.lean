/-!
# The words of parsers

What a parser says about a text that it cannot read is up to the parser, and nothing here depends
on it, but that it is short enough to be told to somebody else.
-/

namespace KanaSettings

/-- What parsers say. -/
class Wording where
  notJson : String → String
  size_notJson_le : ∀ text, (notJson text).utf8ByteSize ≤ 120
  undecodable : ByteArray → String

/-- A parser that says nothing more than that it cannot read a text. -/
instance (priority := low) Wording.plain : Wording where
  notJson _ := "not a JSON text"
  size_notJson_le _ := by decide
  undecodable _ := "not a message of this protocol"

end KanaSettings

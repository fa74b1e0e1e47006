/-!
# Bytes that are not quite text

Bytes are shown as characters even where some of them belong to none.  Each stray byte becomes a
control character that nothing else becomes, so that a reader which knows it can allow stray bytes
where it pleases, and one that refuses control characters refuses them everywhere.
-/

namespace KanaSettings.Text

/-- The control character that stands for a byte which belongs to no character. -/
def strayMark : Char := '\x00'

/-- The control character that stands for `strayMark` where that is really meant. -/
def strayMarkMeant : Char := '\x01'

/-- The characters that bytes spell from a position on, after those in `out`, the last of which
comes first; `steps` bounds their number. -/
def charsWithStrays (bytes : ByteArray) : (steps start : Nat) → (out : List Char) → List Char
  | 0, _, out => out.reverse
  | steps + 1, start, out =>
    if start < bytes.size then
      match bytes.utf8DecodeChar? start with
      | some c =>
        let shown := if c = strayMark then strayMarkMeant else c
        charsWithStrays bytes steps (start + c.utf8Size) (shown :: out)
      | none => charsWithStrays bytes steps (start + 1) (strayMark :: out)
    else out.reverse

/-- The characters that bytes spell, with a mark for each byte that belongs to none. -/
def withStrays (bytes : ByteArray) : List Char := charsWithStrays bytes bytes.size 0 []

end KanaSettings.Text

/-
  UTF-8: texts as bytes.

  * `Text.encode` and `Text.decode?` go from one to the other; not every sequence of
    bytes is a text;
  * `Text.byteCount` is the number of bytes of a text;
  * `Position` is a place in a text by line and byte, `Position.ofOffset` the place that
    a number of bytes reaches.
-/
import JiraMarkup.Text

namespace JiraMarkup

namespace Text

/-! ## Encoding -/

/-- The bytes of a text. -/
def encode (t : Text) : ByteArray := (String.ofList t).toByteArray

/-- The text that bytes encode, and `none` for bytes that are not well formed. -/
def decode? (bytes : ByteArray) : Option Text := bytes.utf8Decode?.map Array.toList

/-- The number of bytes of a text. -/
def byteCount : Text → Nat
  | [] => 0
  | c :: t => c.utf8Size + byteCount t

/-- **Encoding loses nothing.** -/
theorem decode?_encode (t : Text) : decode? (encode t) = some t := by
  simp [decode?, encode, List.utf8Decode?_utf8Encode]

end Text

/-! ## Positions -/

/-- A place in a text. -/
structure Position where
  /-- The line, from 1. -/
  line : Nat
  /-- The number of bytes of the line before the place. -/
  column : Nat
  deriving DecidableEq, Repr

namespace Position

/-- The place at the front of a text. -/
def start : Position := ⟨1, 0⟩

/-- The place after one character. -/
def pass (p : Position) (c : Char) : Position :=
  if c = '\n' then ⟨p.line + 1, 0⟩ else ⟨p.line, p.column + c.utf8Size⟩

/-- The place that `n` bytes from `p` on reach, or the end of the text. -/
def advance (p : Position) : Nat → Text → Position
  | _, [] => p
  | n, c :: t =>
    if n < c.utf8Size then ⟨p.line, p.column + n⟩
    else (p.pass c).advance (n - c.utf8Size) t

/-- The place after the first `n` bytes of a text, or its end. -/
def ofOffset (n : Nat) (t : Text) : Position := start.advance n t

end Position

end JiraMarkup

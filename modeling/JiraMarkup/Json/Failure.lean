/-
  What can be wrong with a JSON text, and where.

  * `Found` is what stands where a value of another kind is expected;
  * `Cause` is what is wrong, `Cause.message` says it;
  * `Failure` is a cause with the rest of the text at which it was seen, and
    `Failure.position` the place of it in the whole text;
  * `Reader` is a function that reads a value from the front of a text.
-/
import JiraMarkup.Number.Decimal
import JiraMarkup.Text.Quoted
import JiraMarkup.Text.Utf8

namespace JiraMarkup.Json

/-! ## Kinds of values -/

/-- A number literal, by its value. -/
inductive Number where
  /-- A whole number of at most 64 bits. -/
  | natural (n : Nat)
  /-- The whole number `-n`, at most 2 ^ 63 below zero. -/
  | negative (n : Nat)
  /-- Any other number, rounded. -/
  | float (minus : Bool) (size : Binary)
  deriving DecidableEq, Repr

/-- The front of a value: a whole scalar, or the bracket that opens a larger one. -/
inductive Found where
  | null
  | boolean (b : Bool)
  | number (n : Number)
  | string (t : Text)
  | sequence
  | map
  deriving DecidableEq, Repr

/-- The text of a number. -/
def Number.text : Number → Text
  | .natural n => Text.ofNat n
  | .negative n => '-' :: Text.ofNat n
  | .float minus size => (if minus then ['-'] else []) ++ size.shortest.text

/-- A found value, as messages name it. -/
def Found.text : Found → Text
  | .null => "null"
  | .boolean b => "boolean \x60" ++ (if b then "true" else "false") ++ "\x60"
  | .number (.float s x) => "floating point \x60" ++ Number.text (.float s x) ++ "\x60"
  | .number n => "integer \x60" ++ n.text ++ "\x60"
  | .string t => "string " ++ quote t
  | .sequence => "sequence"
  | .map => "map"

/-- The kind of value that a place asks for. -/
inductive Expected where
  /-- All settings together. -/
  | settings
  /-- A number of lines. -/
  | count
  /-- True or false. -/
  | boolean
  /-- A text. -/
  | string
  deriving DecidableEq, Repr

/-- An expected kind, as messages name it. -/
def Expected.text : Expected → Text
  | .settings => "struct Config"
  | .count => "usize"
  | .boolean => "a boolean"
  | .string => "a string"

/-! ## Causes -/

/-- What is being read when a text ends too early. -/
inductive Unfinished where
  | value
  | list
  | object
  | string
  deriving DecidableEq, Repr

/-- What is wrong with a JSON text. -/
inductive Cause where
  /-- The text ends too early. -/
  | endOf (what : Unfinished)
  /-- No value begins here. -/
  | expectedValue
  /-- A word that is not `true`, `false` or `null`. -/
  | expectedIdent
  /-- No colon after a key. -/
  | expectedColon
  /-- Neither comma nor bracket after an element. -/
  | expectedListEnd
  /-- Neither comma nor brace after a member. -/
  | expectedObjectEnd
  /-- A key that is not a string. -/
  | keyNotString
  /-- A comma with nothing after it. -/
  | trailingComma
  /-- More text after the value. -/
  | trailingCharacters
  /-- A number literal that breaks off. -/
  | invalidNumber
  /-- A number too large to be rounded. -/
  | numberOutOfRange
  /-- A backslash with nothing that it can escape. -/
  | invalidEscape
  /-- A control character in a string. -/
  | controlCharacter
  /-- A low surrogate without a high one, or a high one without a low one. -/
  | loneSurrogate
  /-- A high surrogate that no second escape follows. -/
  | endOfPair
  /-- A value of a kind that is not expected. -/
  | wrongType (found : Found) (expected : Expected)
  /-- The whole number `-n` where a number of lines is expected. -/
  | negativeCount (n : Nat)
  /-- A field given twice. -/
  | duplicateField (name : Text)
  deriving DecidableEq, Repr

/-- The message of an early end. -/
def Unfinished.message : Unfinished → Text
  | .value => "EOF while parsing a value"
  | .list => "EOF while parsing a list"
  | .object => "EOF while parsing an object"
  | .string => "EOF while parsing a string"

/-- The message of a cause. -/
def Cause.message : Cause → Text
  | .endOf what => what.message
  | .expectedValue => "expected value"
  | .expectedIdent => "expected ident"
  | .expectedColon => "expected \x60:\x60"
  | .expectedListEnd => "expected \x60,\x60 or \x60]\x60"
  | .expectedObjectEnd => "expected \x60,\x60 or \x60\x7d\x60"
  | .keyNotString => "key must be a string"
  | .trailingComma => "trailing comma"
  | .trailingCharacters => "trailing characters"
  | .invalidNumber => "invalid number"
  | .numberOutOfRange => "number out of range"
  | .invalidEscape => "invalid escape"
  | .controlCharacter =>
    "control character (\\u0000-\\u001F) found while parsing a string"
  | .loneSurrogate => "lone leading surrogate in hex escape"
  | .endOfPair => "unexpected end of hex escape"
  | .wrongType found expected => "invalid type: " ++ found.text ++ ", expected " ++ expected.text
  | .negativeCount n =>
    "invalid value: integer \x60" ++ Number.text (.negative n) ++ "\x60, expected " ++
      Expected.text .count
  | .duplicateField name => "duplicate field \x60" ++ name ++ "\x60"

/-! ## Failures -/

/-- A cause and where it was seen. -/
structure Failure where
  /-- What is wrong. -/
  cause : Cause
  /-- The text not yet read. -/
  rest : Text
  /-- How many bytes of it are counted as read. -/
  ahead : Nat
  deriving DecidableEq, Repr

/-- Where in the whole text a failure lies. -/
def Failure.position (text : Text) (f : Failure) : Position :=
  Position.ofOffset (text.byteCount - f.rest.byteCount + f.ahead) text

/-- The message of a failure, with its place. -/
def Failure.message (text : Text) (f : Failure) : Text :=
  let p := f.position text
  f.cause.message ++ " at line " ++ Text.ofNat p.line ++ " column " ++ Text.ofNat p.column

/-- The failure right before the rest of the text. -/
def failBefore {α : Type} (cause : Cause) (rest : Text) : Except Failure α :=
  .error ⟨cause, rest, 0⟩

/-- The failure at the first byte of the rest, which it counts as read. -/
def failAt {α : Type} (cause : Cause) (rest : Text) : Except Failure α :=
  .error ⟨cause, rest, 1⟩

/-- Reads a value from the front of a text and gives it with the rest. -/
abbrev Reader (α : Type) : Type := Text → Except Failure (α × Text)

/-- The text without the white space at its front. -/
def skipSpace (t : Text) : Text :=
  t.dropWhile fun c => c == ' ' || c == '\t' || c == '\n' || c == '\r'

end JiraMarkup.Json

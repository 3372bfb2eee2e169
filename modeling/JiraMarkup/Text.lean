/-
  Text as lists of characters, the form in which every part of the library
  reads and writes it.

  * `Text` is a list of characters; a string literal stands for its characters;
  * `Text.lines` and `Text.unlines` cut a text at its newlines and put it
    together again; `Text.sourceLines` are the lines of a source file, and
    `Text.wholeLines` the same lines each with the newline that ends it;
  * `Text.mentions`, `Text.after?` look for a word inside and at the front;
  * `Text.digits?` and `Text.ofNat` read and write decimal numbers.
-/

namespace JiraMarkup

/-- A text is the list of its characters. -/
abbrev Text := List Char

/-- A string stands for the text of its characters. -/
instance : Coe String Text := ⟨String.toList⟩

namespace Text

/-! ## Lines -/

/-- The pieces between the newlines of a text: one more than it has newlines. -/
def lines : Text → List Text
  | [] => [[]]
  | c :: cs =>
    if c = '\n' then [] :: lines cs
    else match lines cs with
      | [] => [[c]]
      | l :: ls => (c :: l) :: ls

/-- The pieces put together with a newline between each two. -/
def unlines : List Text → Text
  | [] => []
  | [l] => l
  | l :: ls => l ++ '\n' :: unlines ls

/-- A line of a source text, and whether a newline ends it (only the last line
    may lack it). -/
structure SourceLine where
  /-- The characters before the newline. -/
  text : Text
  /-- Whether a newline follows. -/
  ended : Bool

/-- The lines of a source text. What follows the last newline is a line only
    if it is not empty. -/
def sourceLines : Text → List SourceLine
  | [] => []
  | c :: cs =>
    if c = '\n' then ⟨[], true⟩ :: sourceLines cs
    else match sourceLines cs with
      | [] => [⟨[c], false⟩]
      | l :: ls => ⟨c :: l.text, l.ended⟩ :: ls

/-- A line with the newline that ends it. -/
def SourceLine.whole (l : SourceLine) : Text := if l.ended then l.text ++ ['\n'] else l.text

/-- The lines of a text, each with the newline that ends it. -/
def wholeLines (t : Text) : List Text := (sourceLines t).map SourceLine.whole

/-! ## Searching -/

/-- What follows the word `w` in a text that begins with it. -/
def after? : Text → Text → Option Text
  | [], t => some t
  | _ :: _, [] => none
  | a :: w, c :: t => if a = c then after? w t else none

/-- Whether the word `w` stands at the front of the text. -/
def beginsWith (w t : Text) : Bool := (after? w t).isSome

/-- Whether the word `w` occurs anywhere in the text. -/
def mentions (w : Text) : Text → Bool
  | [] => w.isEmpty
  | c :: cs => beginsWith w (c :: cs) || mentions w cs

/-- The characters of `t` that come before its ending `rest`. -/
def before (t rest : Text) : Text := t.take (t.length - rest.length)

/-! ## Numbers -/

/-- The number written by decimal digits, and `none` for an empty text or any
    other character. -/
def digits? (t : Text) : Option Nat :=
  if t.isEmpty || !t.all Char.isDigit then none
  else some (t.foldl (fun n c => 10 * n + (c.toNat - '0'.toNat)) 0)

/-- A number in decimal. -/
def ofNat (n : Nat) : Text := Nat.toDigits 10 n

end Text

end JiraMarkup

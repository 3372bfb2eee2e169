/-
  JSON texts by their grammar.

  * `Space` is white space, a `Piece` stands in a string literal, `NumberLiteral` is a number
    literal, and `Value` a value of any depth with all white space between its tokens. Each has its
    `text`, and what the grammar allows is the text of one. An `ObjectText` is a whole text;
  * `Piece.decode?` is what the pieces of a string literal stand for, which is nothing if there is a
    surrogate alone;
  * `NumberLiteral.natural?` is the number that is written by digits only;
  * `Piece.ofText` writes a text, and by `exists_natural` every number can be written;
  * `Value.induct` is the induction on values: what holds of all values in a list or an object holds
    of the whole.
-/
import JiraMarkup.Json.StringLiteral

namespace JiraMarkup.Json

/-! ## White space -/

/-- A white character. -/
inductive SpaceChar where
  | blank
  | tab
  | newline
  | carriageReturn
  deriving DecidableEq, Repr

/-- The character itself. -/
def SpaceChar.char : SpaceChar → Char
  | blank => ' '
  | tab => '\t'
  | newline => '\n'
  | carriageReturn => '\r'

/-- White space between two tokens, which may be none. -/
abbrev Space := List SpaceChar

/-- The characters of white space. -/
def Space.text (s : Space) : Text := s.map SpaceChar.char

/-! ## Strings -/

/-- A hexadecimal digit, of which six can be written in two ways. -/
structure HexDigit where
  /-- What it counts. -/
  value : Fin 16
  /-- Whether it is a capital letter, if it is a letter. -/
  capital : Bool
  deriving DecidableEq, Repr

/-- The digit as it is written. -/
def HexDigit.char (d : HexDigit) : Char :=
  if d.capital then (Nat.digitChar d.value).toUpper else Nat.digitChar d.value

/-- Four hexadecimal digits. -/
structure CodeUnit where
  first : HexDigit
  second : HexDigit
  third : HexDigit
  fourth : HexDigit
  deriving DecidableEq, Repr

namespace CodeUnit

/-- The digits in a row. -/
def text (u : CodeUnit) : Text := [u.first.char, u.second.char, u.third.char, u.fourth.char]

/-- The number that they write. -/
def value (u : CodeUnit) : Nat :=
  16 * (16 * (16 * u.first.value + u.second.value) + u.third.value) + u.fourth.value

end CodeUnit

/-- The letters that can follow a backslash, and the characters that they stand for. -/
def escapes : List (Char × Char) :=
  [('"', '"'), ('\\', '\\'), ('/', '/'), ('b', '\x08'), ('f', '\x0c'), ('n', '\n'), ('r', '\r'),
    ('t', '\t')]

/-- A character in a string literal, or an escape. -/
inductive Piece where
  /-- A character that stands for itself. -/
  | plain (c : Char) (h : 0x20 ≤ c.toNat ∧ c ≠ '"' ∧ c ≠ '\\')
  /-- A letter that stands for a character. -/
  | escaped (letter c : Char) (h : (letter, c) ∈ escapes)
  /-- The number of a character, or of a half of one. -/
  | numbered (u : CodeUnit)

namespace Piece

/-- The piece as it is written. -/
def text : Piece → Text
  | plain c _ => [c]
  | escaped letter _ _ => ['\\', letter]
  | numbered u => '\\' :: 'u' :: u.text

/-- Pieces in a row. -/
def textAll (ps : List Piece) : Text := ps.flatMap text

theorem textAll_plain {c : Char} (h : 0x20 ≤ c.toNat ∧ c ≠ '"' ∧ c ≠ '\\') (ps : List Piece) :
    textAll (plain c h :: ps) = c :: textAll ps := rfl

theorem textAll_escaped {letter c : Char} (h : (letter, c) ∈ escapes) (ps : List Piece) :
    textAll (escaped letter c h :: ps) = '\\' :: letter :: textAll ps := rfl

theorem textAll_numbered (u : CodeUnit) (ps : List Piece) :
    textAll (numbered u :: ps) = '\\' :: 'u' :: (u.text ++ textAll ps) := rfl

/-- What pieces stand for. Two surrogates stand for one character, and one alone for none. -/
def decode? : List Piece → Option Text
  | [] => some []
  | plain c _ :: ps => (decode? ps).map (c :: ·)
  | escaped _ c _ :: ps => (decode? ps).map (c :: ·)
  | numbered u :: ps =>
    if isLowSurrogate u.value then none
    else if isHighSurrogate u.value then
      match ps with
      | numbered v :: ps =>
        if isLowSurrogate v.value then (decode? ps).map (pairChar u.value v.value :: ·) else none
      | _ => none
    else (decode? ps).map (Char.ofNat u.value :: ·)

/-- A character as it can be written: by itself, behind a backslash, or by its number. -/
def ofChar (c : Char) : Piece :=
  if h : 0x20 ≤ c.toNat ∧ c ≠ '"' ∧ c ≠ '\\' then plain c h
  else if h : (c, c) ∈ escapes then escaped c c h
  else numbered ⟨⟨0, false⟩, ⟨0, false⟩, ⟨Fin.ofNat 16 (c.toNat / 16), false⟩,
    ⟨Fin.ofNat 16 (c.toNat % 16), false⟩⟩

/-- A text as it can be written. -/
def ofText (t : Text) : List Piece := t.map ofChar

theorem decode?_ofChar (c : Char) (ps : List Piece) :
    decode? (ofChar c :: ps) = (decode? ps).map (c :: ·) := by
  rw [ofChar]
  split
  · rfl
  split
  · rfl
  next hplain hescape =>
  -- what is left are the control characters, and these are no surrogates
  have hquote : c ≠ '"' := fun h => hescape (h ▸ by decide)
  have hslash : c ≠ '\\' := fun h => hescape (h ▸ by decide)
  have hc : c.toNat < 0x20 := Nat.lt_of_not_le fun hc => hplain ⟨hc, hquote, hslash⟩
  have hvalue : CodeUnit.value ⟨⟨0, false⟩, ⟨0, false⟩, ⟨Fin.ofNat 16 (c.toNat / 16), false⟩,
      ⟨Fin.ofNat 16 (c.toNat % 16), false⟩⟩ = c.toNat := by
    simp only [CodeUnit.value, Fin.ofNat, Fin.val_zero]
    omega
  have hlow : isLowSurrogate c.toNat = false := by
    simp only [isLowSurrogate, Bool.and_eq_false_iff, decide_eq_false_iff_not]
    omega
  have hhigh : isHighSurrogate c.toNat = false := by
    simp only [isHighSurrogate, Bool.and_eq_false_iff, decide_eq_false_iff_not]
    omega
  rw [decode?.eq_def]
  dsimp only
  rw [hvalue, hlow, hhigh, Char.ofNat_toNat]
  rfl

/-- **Every text can be written.** -/
theorem decode?_ofText (t : Text) : decode? (ofText t) = some t := by
  induction t with
  | nil => rfl
  | cons c t ih =>
    have htext : ofText (c :: t) = ofChar c :: ofText t := rfl
    rw [htext, decode?_ofChar, ih, Option.map_some]

end Piece

/-! ## Numbers -/

/-- Decimal digits in a row. -/
def digitsText (ds : List (Fin 10)) : Text := ds.map fun d => Nat.digitChar d.val

/-- The number that digits behind the number `n` make. -/
def digitsValue (n : Nat) (ds : List (Fin 10)) : Nat := ds.foldl (fun n d => 10 * n + d.val) n

/-- One digit or more. -/
structure Digits where
  first : Fin 10
  rest : List (Fin 10)
  deriving DecidableEq, Repr

/-- The digits as they are written. -/
def Digits.text (ds : Digits) : Text := digitsText (ds.first :: ds.rest)

/-- The whole part of a number, which has no zero in front unless it is one. -/
inductive WholePart where
  | zero
  /-- The first digit is one more than `first`. -/
  | positive (first : Fin 9) (rest : List (Fin 10))
  deriving DecidableEq, Repr

namespace WholePart

/-- The whole part as it is written. -/
def text : WholePart → Text
  | zero => ['0']
  | positive first rest => Nat.digitChar (first.val + 1) :: digitsText rest

/-- The number that it is. -/
def value : WholePart → Nat
  | zero => 0
  | positive first rest => digitsValue (first.val + 1) rest

end WholePart

/-- A power of ten behind a number. -/
structure Exponent where
  /-- Whether its letter is a capital one. -/
  capital : Bool
  /-- Its sign, if it has one, and whether this is a minus. -/
  sign : Option Bool
  digits : Digits
  deriving DecidableEq, Repr

/-- The sign of an exponent as it is written. -/
def signText : Option Bool → Text
  | none => []
  | some true => ['-']
  | some false => ['+']

/-- The exponent as it is written. -/
def Exponent.text (e : Exponent) : Text :=
  (if e.capital then 'E' else 'e') :: signText e.sign ++ e.digits.text

/-- A number literal. -/
structure NumberLiteral where
  minus : Bool
  whole : WholePart
  fraction : Option Digits
  exponent : Option Exponent
  deriving DecidableEq, Repr

namespace NumberLiteral

/-- The exponent, if there is one. -/
def scaleText (n : NumberLiteral) : Text := (n.exponent.map Exponent.text).getD []

/-- What follows the whole part. -/
def tailText (n : NumberLiteral) : Text :=
  (n.fraction.map fun ds => '.' :: ds.text).getD [] ++ n.scaleText

/-- The literal without its sign. -/
def unsignedText (n : NumberLiteral) : Text := n.whole.text ++ n.tailText

/-- The literal as it is written. -/
def text (n : NumberLiteral) : Text := (if n.minus then ['-'] else []) ++ n.unsignedText

/-- The number, if it is written by digits only. -/
def natural? (n : NumberLiteral) : Option Nat :=
  if n.minus || n.fraction.isSome || n.exponent.isSome then none else some n.whole.value

end NumberLiteral

theorem exists_whole (n : Nat) : ∃ w : WholePart, w.value = n := by
  induction n using Nat.strongRecOn with
  | _ n ih =>
    rcases Nat.lt_or_ge n 10 with hn | hn
    · cases n with
      | zero => exact ⟨.zero, rfl⟩
      | succ n => exact ⟨.positive ⟨n, by omega⟩ [], rfl⟩
    · obtain ⟨w, hw⟩ := ih (n / 10) (by omega)
      cases w with
      | zero =>
        rw [WholePart.value] at hw
        omega
      | positive first ds =>
        refine ⟨.positive first (ds ++ [⟨n % 10, by omega⟩]), ?_⟩
        rw [WholePart.value] at hw ⊢
        rw [digitsValue] at hw ⊢
        rw [List.foldl_append, hw]
        exact Nat.div_add_mod n 10

/-- **Every number can be written** by digits only. -/
theorem exists_natural (n : Nat) : ∃ l : NumberLiteral, l.natural? = some n := by
  obtain ⟨w, rfl⟩ := exists_whole n
  exact ⟨⟨false, w, none, none⟩, rfl⟩

/-! ## Values -/

/-- An element of a list. -/
structure Element (α : Type) where
  before : Space
  value : α
  after : Space

/-- A member of an object. -/
structure Member (α : Type) where
  before : Space
  key : List Piece
  afterKey : Space
  afterColon : Space
  value : α
  after : Space

/-- A value of any depth. Behind its opening bracket a list and an object have white space also if
    they are empty. -/
inductive Value where
  | null
  | boolean (b : Bool)
  | number (n : NumberLiteral)
  | string (s : List Piece)
  | list (inner : Space) (es : List (Element Value))
  | object (inner : Space) (ms : List (Member Value))

/-- A kind of values. -/
inductive Kind where
  | null
  | boolean
  | number
  | string
  | list
  | object
  deriving DecidableEq, Repr

namespace Value

/-- The kind of a value. -/
def kind : Value → Kind
  | null => .null
  | boolean _ => .boolean
  | number _ => .number
  | string _ => .string
  | list .. => .list
  | object .. => .object

mutual

/-- The value as it is written. -/
def text : Value → Text
  | .null => "null"
  | .boolean true => "true"
  | .boolean false => "false"
  | .number n => n.text
  | .string s => '"' :: Piece.textAll s ++ ['"']
  | .list inner es => '[' :: inner.text ++ [','].intercalate (textElements es) ++ [']']
  | .object inner ms => '\x7b' :: inner.text ++ [','].intercalate (textMembers ms) ++ ['\x7d']

/-- The elements of a list, each as it is written. -/
def textElements : List (Element Value) → List Text
  | [] => []
  | ⟨before, v, after⟩ :: es => (before.text ++ v.text ++ after.text) :: textElements es

/-- The members of an object, each as it is written. -/
def textMembers : List (Member Value) → List Text
  | [] => []
  | ⟨before, key, afterKey, afterColon, v, after⟩ :: ms =>
    (before.text ++ '"' :: Piece.textAll key ++ '"' :: afterKey.text ++ ':' :: afterColon.text ++
      v.text ++ after.text) :: textMembers ms

end

/-- **Induction on values.** -/
theorem induct {P : Value → Prop} (null : P .null) (boolean : ∀ b, P (.boolean b))
    (number : ∀ n, P (.number n)) (string : ∀ s, P (.string s))
    (list : ∀ inner es, (∀ e ∈ es, P e.value) → P (.list inner es))
    (object : ∀ inner ms, (∀ m ∈ ms, P m.value) → P (.object inner ms)) : ∀ v, P v
  | .null => null
  | .boolean b => boolean b
  | .number n => number n
  | .string s => string s
  | .list inner es =>
    list inner es fun e _ => induct null boolean number string list object e.value
  | .object inner ms =>
    object inner ms fun m _ => induct null boolean number string list object m.value
decreasing_by
  · have := List.sizeOf_lt_of_mem ‹e ∈ es›
    cases e
    simp_all only [Element.mk.sizeOf_spec, Value.list.sizeOf_spec]
    omega
  · have := List.sizeOf_lt_of_mem ‹m ∈ ms›
    cases m
    simp_all only [Member.mk.sizeOf_spec, Value.object.sizeOf_spec]
    omega

end Value

/-! ## Contents of brackets -/

/-- An element as it is written. -/
def Element.text (e : Element Value) : Text := e.before.text ++ e.value.text ++ e.after.text

namespace Member

variable (m : Member Value)

/-- The key with its colon, but without its opening quote. -/
def keyText : Text := Piece.textAll m.key ++ '"' :: m.afterKey.text ++ [':']

/-- A member as it is written. -/
def text : Text :=
  m.before.text ++ '"' :: m.keyText ++ m.afterColon.text ++ m.value.text ++ m.after.text

end Member

namespace Value

theorem textElements_eq (es : List (Element Value)) : textElements es = es.map Element.text := by
  induction es with
  | nil => rfl
  | cons e es ih => rw [textElements, ih, List.map_cons, Element.text]

theorem textMembers_eq (ms : List (Member Value)) : textMembers ms = ms.map Member.text := by
  induction ms with
  | nil => rfl
  | cons m ms ih =>
    rw [textMembers, ih, List.map_cons, Member.text, Member.keyText]
    simp

end Value

/-- A text that holds an object, with white space around it. -/
structure ObjectText where
  before : Space
  inner : Space
  members : List (Member Value)
  after : Space

/-- The text itself. -/
def ObjectText.text (o : ObjectText) : Text :=
  o.before.text ++ (Value.object o.inner o.members).text ++ o.after.text

end JiraMarkup.Json

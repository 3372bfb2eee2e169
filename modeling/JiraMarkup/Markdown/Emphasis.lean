/-
  Emphasis: how runs of `*`, `_` and `~` in running text pair up.

  * `canOpen`, `canClose` tell what a run may do, from the characters around it;
  * `Piece` is running text in which the runs are still to be paired;
  * `resolve` pairs them, from left to right, each closing run with the nearest
    opening run that fits, and leaves the others as text.
-/
import JiraMarkup.Markdown.Document
import JiraMarkup.Text.Punctuation

namespace JiraMarkup.Markdown

/-! ## Runs -/

/-- Whether a character, or the end of the text, counts as white space. -/
def whiteOrEnd (c : Option Char) : Bool := c.all isWhite

/-- Whether a character is punctuation or a symbol. -/
def punctuationAt (c : Option Char) : Bool := c.any isPunctuation

/-- Whether a run of `mark` of the given length may stand inside a word. -/
def withinWord (mark : Char) (length : Nat) : Bool :=
  mark == '*' || (mark == '~' && 1 < length)

/-- Whether a run between the characters `prev` and `next` may open. -/
def canOpen (mark : Char) (length : Nat) (prev next : Option Char) : Bool :=
  !whiteOrEnd next &&
    (whiteOrEnd prev || punctuationAt prev || (mark == '~' && 1 < length) ||
      (mark == '*' && !punctuationAt next))

/-- Whether a run between the characters `prev` and `next` may close. A tilde that
    comes right before a run of tildes is an escaped one. -/
def canClose (mark : Char) (length : Nat) (prev next : Option Char) : Bool :=
  !whiteOrEnd prev &&
    (whiteOrEnd next || punctuationAt next || (mark == '~' && prev == some '~') ||
      (withinWord mark length && !punctuationAt prev))

/-- A run of marks. -/
structure Run where
  /-- The character that is repeated. -/
  mark : Char
  /-- How often it is. -/
  length : Nat
  /-- Whether the run may open. -/
  opens : Bool
  /-- Whether the run may close. -/
  closes : Bool

/-- Whether a run may do both. -/
def Run.both (r : Run) : Bool := r.opens && r.closes

/-- A piece of running text, a run or anything else. -/
inductive Piece where
  | inline (i : Inline)
  | run (r : Run)

/-! ## Pairing -/

/-- An opening run, some marks of which are not paired yet. -/
structure Opening where
  /-- The run. -/
  run : Run
  /-- How many of its marks are not paired. -/
  left : Nat
  /-- Whether later runs may pair with it. -/
  live : Bool
  /-- What stands behind it, the last first. -/
  after : List Inline

/-- Whether a closing run pairs with an opening one. Runs of tildes must have one
    length. For the others, if one of the two may both open and close, the
    lengths must not add up to a multiple of three, unless both are. -/
def Opening.fits (o : Opening) (r : Run) : Bool :=
  o.live && o.run.mark == r.mark &&
    (r.mark != '~' || o.run.length == r.length) &&
    ((!r.both && !o.run.both) || (o.run.length + r.length) % 3 != 0 || r.length % 3 == 0)

/-- A run that stays text. -/
def literalRun (mark : Char) (n : Nat) : List Inline :=
  if n = 0 then [] else [.text (List.replicate n mark)]

/-- What the openings stand for if nothing closes them, the last first. -/
def spill : List Opening → List Inline
  | [] => []
  | o :: os => o.after ++ literalRun o.run.mark o.left ++ spill os

/-- The text inside `n` pairs of marks: strong by two, from the inside, and
    emphasis for one that is left. -/
def emphasize (n : Nat) (inner : List Inline) : List Inline :=
  match n with
  | 0 => inner
  | 1 => [.emphasis inner]
  | n + 2 => emphasize n [.strong inner]

/-- The text inside a pair of runs, `n` marks of each being used. -/
def wrap (mark : Char) (n : Nat) (inner : List Inline) : List Inline :=
  if mark = '~' then [.strikethrough inner] else emphasize n inner

/-- Running text while its runs are paired. -/
structure Pairing where
  /-- The openings, the last first. -/
  openings : List Opening
  /-- What stands before all of them, the last first. -/
  base : List Inline

namespace Pairing

/-- Adds pieces, the last first, behind all that has come. -/
def push (inlines : List Inline) (p : Pairing) : Pairing :=
  match p.openings with
  | [] => { p with base := inlines ++ p.base }
  | o :: os => { p with openings := { o with after := inlines ++ o.after } :: os }

/-- A run of tildes without a partner bars all openings of tildes before it. -/
def barTildes (p : Pairing) : Pairing :=
  { p with openings := p.openings.map fun o =>
      if o.run.mark = '~' then { o with live := false } else o }

/-- Closes as many of the `n` marks that a run has left as find a partner; gives
    the number that is left in the end. The run pairs up to `fuel` times. -/
def close (r : Run) : (fuel n : Nat) → Pairing → Nat × Pairing
  | 0, n, p => (n, p)
  | fuel + 1, n, p =>
    if n = 0 then (0, p)
    else
      let later := p.openings.takeWhile fun o => !o.fits r
      match p.openings.drop later.length with
      | [] => (n, if r.mark = '~' then p.barTildes else p)
      | o :: os =>
        let used := min n o.left
        let inner := (spill later ++ o.after).reverse
        let wrapped := wrap r.mark used inner
        let p' : Pairing :=
          if used < o.left then
            { p with openings := { o with left := o.left - used, after := wrapped } :: os }
          else push wrapped { p with openings := os }
        close r fuel (n - used) p'

/-- Adds one piece. -/
def add (p : Pairing) : Piece → Pairing
  | .inline i => p.push [i]
  | .run r =>
    let (n, p) := if r.closes then close r r.length r.length p else (r.length, p)
    if n = 0 then p
    else if r.opens then { p with openings := ⟨r, n, true, []⟩ :: p.openings }
    else p.push (literalRun r.mark n)

end Pairing

/-- The pieces with their runs paired. -/
def resolve (pieces : List Piece) : List Inline :=
  let p := pieces.foldl Pairing.add ⟨[], []⟩
  (spill p.openings ++ p.base).reverse

end JiraMarkup.Markdown

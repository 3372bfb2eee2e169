/-
  Values of JSON: the front of one, and the passing of a whole one.

  * `readFound` reads a scalar, or sees the bracket of a larger value;
  * `passValue` passes a value of any depth, keeping the brackets that are open in a
    list;
  * `passValue_lt`: what follows a value is shorter than the text.
-/
import JiraMarkup.Json.NumberLiteral
import JiraMarkup.Json.StringLiteral

namespace JiraMarkup.Json

/-! ## Scalars -/

/-- Passes the letters of a word. -/
def passWord : Text → Reader Unit
  | [], t => .ok ((), t)
  | _ :: _, [] => failBefore (.endOf .value) []
  | w :: ws, c :: t => if c = w then passWord ws t else failAt .expectedIdent (c :: t)

/-- The word that a letter begins, without the letter, and its value. -/
def word? (c : Char) : Option (Text × Found) :=
  match c with
  | 'n' => some ("ull", .null)
  | 't' => some ("rue", .boolean true)
  | 'f' => some ("alse", .boolean false)
  | _ => none

/-- Whether a number literal begins with a character. -/
def beginsNumber (c : Char) : Bool := c == '-' || c.isDigit

/-- Reads a scalar. A bracket is seen and not passed. -/
def readFound : Reader Found
  | [] => failAt (.endOf .value) []
  | c :: t =>
    match word? c with
    | some (w, found) =>
      match passWord w t with
      | .error f => .error f
      | .ok (_, rest) => .ok (found, rest)
    | none =>
      if beginsNumber c then
        match readNumber (c :: t) with
        | .error f => .error f
        | .ok (n, rest) => .ok (.number n, rest)
      else if c = '"' then
        match readString t with
        | .error f => .error f
        | .ok (s, rest) => .ok (.string s, rest)
      else if c = '[' then .ok (.sequence, c :: t)
      else if c = '\x7b' then .ok (.map, c :: t)
      else failAt .expectedValue (c :: t)

/-- Passes a scalar. -/
def passScalar : Reader Unit
  | [] => failAt (.endOf .value) []
  | c :: t =>
    match word? c with
    | some (w, _) => passWord w t
    | none =>
      if beginsNumber c then passNumber (c :: t)
      else if c = '"' then passString t
      else failAt .expectedValue (c :: t)

theorem skipSpace_le (t : Text) : (skipSpace t).length ≤ t.length :=
  (List.dropWhile_sublist _).length_le

theorem lt_of_skipSpace {t u : Text} {c : Char} (h : skipSpace t = c :: u) :
    u.length < t.length := by
  have hle := skipSpace_le t
  rw [h] at hle
  exact hle

theorem passWord_le {w t rest : Text} {u : Unit} (h : passWord w t = .ok (u, rest)) :
    rest.length ≤ t.length := by
  induction w generalizing t with
  | nil =>
    cases h
    exact Nat.le_refl _
  | cons c w ih =>
    cases t with
    | nil => cases h
    | cons d t =>
      rw [passWord] at h
      split at h
      · exact Nat.le_succ_of_le (ih h)
      · cases h

theorem passScalar_lt {t rest : Text} {u : Unit} (h : passScalar t = .ok (u, rest)) :
    rest.length < t.length := by
  cases t with
  | nil => cases h
  | cons c t =>
    rw [passScalar] at h
    split at h
    · exact Nat.lt_succ_of_le (passWord_le h)
    split at h
    · exact passNumber_lt h
    split at h
    · exact Nat.lt_succ_of_lt (passString_lt h)
    · cases h

/-! ## Values of any depth -/

/-- A bracket that has been opened. -/
inductive Bracket where
  /-- Of a list. -/
  | list
  /-- Of an object. -/
  | object
  deriving DecidableEq, Repr

namespace Bracket

/-- The character that closes a bracket. -/
def closing : Bracket → Char
  | list => ']'
  | object => '\x7d'

/-- What is being read within a bracket. -/
def unfinished : Bracket → Unfinished
  | list => .list
  | object => .object

/-- What is wrong where a bracket should go on or close. -/
def expectedEnd : Bracket → Cause
  | list => .expectedListEnd
  | object => .expectedObjectEnd

end Bracket

/-- Passes the colon after a key. -/
def passColon : Reader Unit := fun t =>
  match skipSpace t with
  | [] => failAt (.endOf .object) []
  | c :: u => if c = ':' then .ok ((), u) else failAt .expectedColon (c :: u)

/-- Passes a key and its colon. -/
def passKey : Reader Unit := fun t =>
  match skipSpace t with
  | [] => failAt (.endOf .object) []
  | c :: u =>
    if c = '"' then
      match passString u with
      | .error f => .error f
      | .ok (_, rest) => passColon rest
    else failAt .keyNotString (c :: u)

theorem passColon_lt {t rest : Text} {u : Unit} (h : passColon t = .ok (u, rest)) :
    rest.length < t.length := by
  unfold passColon at h
  split at h
  · cases h
  next hspace =>
  split at h
  · cases h
    exact lt_of_skipSpace hspace
  · cases h

theorem passKey_lt {t rest : Text} {u : Unit} (h : passKey t = .ok (u, rest)) :
    rest.length < t.length := by
  unfold passKey at h
  split at h
  · cases h
  next hspace =>
  have hlt := lt_of_skipSpace hspace
  split at h
  · split at h
    · cases h
    next hstring =>
    exact Nat.lt_trans (Nat.lt_trans (passColon_lt h) (passString_lt hstring)) hlt
  · cases h

mutual

/-- Passes a value within the brackets `open`, innermost first, and what follows it up to
    the end of the last bracket. -/
def passWithin (within : List Bracket) (t : Text) : Except Failure (Unit × Text) :=
  match _ : skipSpace t with
  | [] => failAt (.endOf .value) []
  | c :: u =>
    if c = '[' then passOpened .list within u
    else if c = '\x7b' then passOpened .object within u
    else
      match _ : passScalar (c :: u) with
      | .error f => .error f
      | .ok (_, rest) => passAfter within rest
termination_by (t.length, 0)
decreasing_by all_goals grind [skipSpace_le, → passScalar_lt]

/-- Passes the content of a bracket just opened. -/
def passOpened (b : Bracket) (within : List Bracket) (t : Text) : Except Failure (Unit × Text) :=
  match _ : skipSpace t with
  | [] => failAt (.endOf b.unfinished) []
  | c :: u => if c = b.closing then passAfter within u else passElement b within (c :: u)
termination_by (t.length, 2)
decreasing_by all_goals grind [skipSpace_le]

/-- Passes an element of a list or a member of an object. -/
def passElement (b : Bracket) (within : List Bracket) (t : Text) : Except Failure (Unit × Text) :=
  match b with
  | .list => passWithin (.list :: within) t
  | .object =>
    match _ : passKey t with
    | .error f => .error f
    | .ok (_, rest) => passWithin (.object :: within) rest
termination_by (t.length, 1)
decreasing_by all_goals grind [→ passKey_lt]

/-- Passes what follows a value. -/
def passAfter (within : List Bracket) (t : Text) : Except Failure (Unit × Text) :=
  match within with
  | [] => .ok ((), t)
  | b :: within =>
    match _ : skipSpace t with
    | [] => failAt (.endOf b.unfinished) []
    | c :: u =>
      if c = ',' then passElement b within u
      else if c = b.closing then passAfter within u
      else failAt b.expectedEnd (c :: u)
termination_by (t.length, 0)
decreasing_by all_goals grind [skipSpace_le]

end

/-- Passes a value of any depth. -/
def passValue : Reader Unit := passWithin []

mutual

theorem passWithin_lt {within : List Bracket} {t rest : Text} {u : Unit}
    (h : passWithin within t = .ok (u, rest)) : rest.length < t.length := by
  rw [passWithin] at h
  split at h
  · cases h
  next hspace =>
  have hlt := lt_of_skipSpace hspace
  split at h
  · exact Nat.lt_trans (passOpened_lt h) hlt
  split at h
  · exact Nat.lt_trans (passOpened_lt h) hlt
  split at h
  · cases h
  next hscalar =>
  have hrest := Nat.lt_of_lt_of_le (passScalar_lt hscalar) hlt
  exact Nat.lt_of_le_of_lt (passAfter_le h) hrest
termination_by (t.length, 0)

theorem passOpened_lt {b : Bracket} {within : List Bracket} {t rest : Text} {u : Unit}
    (h : passOpened b within t = .ok (u, rest)) : rest.length < t.length := by
  rw [passOpened] at h
  split at h
  · cases h
  next c after hspace =>
  have hlt := lt_of_skipSpace hspace
  split at h
  · exact Nat.lt_of_le_of_lt (passAfter_le h) hlt
  · have hle : (c :: after).length ≤ t.length := hlt
    exact Nat.lt_of_lt_of_le (passElement_lt h) hle
termination_by (t.length, 2)
decreasing_by all_goals grind

theorem passElement_lt {b : Bracket} {within : List Bracket} {t rest : Text} {u : Unit}
    (h : passElement b within t = .ok (u, rest)) : rest.length < t.length := by
  rw [passElement.eq_def] at h
  split at h
  · exact passWithin_lt h
  split at h
  · cases h
  next hkey =>
  have hlt := passKey_lt hkey
  exact Nat.lt_trans (passWithin_lt h) hlt
termination_by (t.length, 1)

theorem passAfter_le {within : List Bracket} {t rest : Text} {u : Unit}
    (h : passAfter within t = .ok (u, rest)) : rest.length ≤ t.length := by
  rw [passAfter.eq_def] at h
  split at h
  · cases h
    exact Nat.le_refl _
  split at h
  · cases h
  next hspace =>
  have hlt := lt_of_skipSpace hspace
  split at h
  · exact Nat.le_of_lt (Nat.lt_trans (passElement_lt h) hlt)
  split at h
  · exact Nat.le_trans (passAfter_le h) (Nat.le_of_lt hlt)
  · cases h
termination_by (t.length, 0)

end

theorem passValue_lt {t rest : Text} {u : Unit} (h : passValue t = .ok (u, rest)) :
    rest.length < t.length :=
  passWithin_lt h

end JiraMarkup.Json

/-
  String literals of JSON.

  * `readString` reads the characters of a literal whose opening quote has been passed;
    escapes stand for the characters that they name, and two surrogates in a row for one
    character;
  * `passString` only passes a literal, whatever its surrogates;
  * `readString_lt`, `passString_lt`: what follows a literal is shorter than the text.
-/
import JiraMarkup.Json.Failure

namespace JiraMarkup.Json

/-! ## Escapes -/

/-- The value of a hexadecimal digit. -/
def hexDigit? (c : Char) : Option Nat :=
  if '0' ≤ c ∧ c ≤ '9' then some (c.toNat - '0'.toNat)
  else if 'a' ≤ c ∧ c ≤ 'f' then some (c.toNat - 'a'.toNat + 10)
  else if 'A' ≤ c ∧ c ≤ 'F' then some (c.toNat - 'A'.toNat + 10)
  else none

/-- The number that hexadecimal digits write. -/
def hexNumber? (t : Text) : Option Nat :=
  t.foldl (fun n c => do return 16 * (← n) + (← hexDigit? c)) (some 0)

/-- Reads the four digits of a numbered escape. They are counted in bytes: a text of
    fewer than four has ended too early. -/
def readCodeUnit : Reader Nat := fun t =>
  if t.byteCount < 4 then failBefore (.endOf .string) []
  else match hexNumber? (t.take 4) with
    | some n => .ok (n, t.drop 4)
    | none => .error ⟨.invalidEscape, t, 4⟩

/-- The first of two surrogates. -/
def isHighSurrogate (n : Nat) : Bool := 0xD800 ≤ n && n ≤ 0xDBFF

/-- The second of two surrogates. -/
def isLowSurrogate (n : Nat) : Bool := 0xDC00 ≤ n && n ≤ 0xDFFF

/-- The character that two surrogates stand for. -/
def pairChar (high low : Nat) : Char :=
  Char.ofNat (0x10000 + (high - 0xD800) * 0x400 + (low - 0xDC00))

/-- Reads the escape of the low surrogate that has to follow the high one `n`. -/
def readSecondHalf (n : Nat) : Reader Char
  | [] | ['\\'] => failBefore (.endOf .string) []
  | '\\' :: 'u' :: t =>
    match readCodeUnit t with
    | .error f => .error f
    | .ok (m, rest) =>
      if isLowSurrogate m then .ok (pairChar n m, rest) else failBefore .loneSurrogate rest
  | '\\' :: t => failAt .endOfPair t
  | t => failAt .endOfPair t

/-- Reads a numbered escape after its letter. -/
def readNumbered : Reader Char := fun t =>
  match readCodeUnit t with
  | .error f => .error f
  | .ok (n, rest) =>
    if isLowSurrogate n then failBefore .loneSurrogate rest
    else if isHighSurrogate n then readSecondHalf n rest
    else .ok (Char.ofNat n, rest)

/-- The character that a letter after a backslash stands for. -/
def letterEscape? (c : Char) : Option Char :=
  match c with
  | '"' => some '"'
  | '\\' => some '\\'
  | '/' => some '/'
  | 'b' => some '\x08'
  | 'f' => some '\x0c'
  | 'n' => some '\n'
  | 'r' => some '\r'
  | 't' => some '\t'
  | _ => none

/-- Reads an escape after its backslash. -/
def readEscape : Reader Char
  | [] => failBefore (.endOf .string) []
  | c :: t =>
    match letterEscape? c with
    | some d => .ok (d, t)
    | none => if c = 'u' then readNumbered t else failAt .invalidEscape (c :: t)

/-- Passes an escape after its backslash. -/
def passEscape : Reader Unit
  | [] => failBefore (.endOf .string) []
  | c :: t =>
    if (letterEscape? c).isSome then .ok ((), t)
    else if c = 'u' then
      match readCodeUnit t with
      | .error f => .error f
      | .ok (_, rest) => .ok ((), rest)
    else failAt .invalidEscape (c :: t)

/-! ## Escapes go on in the text -/

theorem readCodeUnit_le {t rest : Text} {n : Nat} (h : readCodeUnit t = .ok (n, rest)) :
    rest.length ≤ t.length := by
  unfold readCodeUnit at h
  split at h
  · cases h
  split at h
  · cases h
    rw [List.length_drop]
    exact Nat.sub_le _ _
  · cases h

theorem readSecondHalf_le {n : Nat} {t rest : Text} {c : Char}
    (h : readSecondHalf n t = .ok (c, rest)) : rest.length ≤ t.length := by
  unfold readSecondHalf at h
  split at h
  · cases h
  · cases h
  · split at h
    · cases h
    next hunit =>
    split at h
    · obtain ⟨-, rfl⟩ := Prod.mk.inj (Except.ok.inj h)
      exact Nat.le_succ_of_le (Nat.le_succ_of_le (readCodeUnit_le hunit))
    · cases h
  · cases h
  · cases h

theorem readNumbered_le {t rest : Text} {c : Char} (h : readNumbered t = .ok (c, rest)) :
    rest.length ≤ t.length := by
  unfold readNumbered at h
  split at h
  · cases h
  next hunit =>
  have hle := readCodeUnit_le hunit
  split at h
  · cases h
  split at h
  · exact Nat.le_trans (readSecondHalf_le h) hle
  · cases h
    exact hle

theorem readEscape_le {t rest : Text} {c : Char} (h : readEscape t = .ok (c, rest)) :
    rest.length ≤ t.length := by
  cases t with
  | nil => cases h
  | cons d t =>
    rw [readEscape] at h
    split at h
    · cases h
      exact Nat.le_succ _
    split at h
    · exact Nat.le_succ_of_le (readNumbered_le h)
    · cases h

theorem passEscape_le {t rest : Text} {u : Unit} (h : passEscape t = .ok (u, rest)) :
    rest.length ≤ t.length := by
  cases t with
  | nil => cases h
  | cons c t =>
    rw [passEscape] at h
    split at h
    · cases h
      exact Nat.le_succ _
    split at h
    · split at h
      · cases h
      next hunit =>
      cases h
      exact Nat.le_succ_of_le (readCodeUnit_le hunit)
    · cases h

/-! ## Literals -/

/-- Whether a character may not stand in a literal. -/
def isControl (c : Char) : Bool := c.toNat < 0x20

/-- Reads the characters up to the closing quote, which is passed. -/
def readString : Reader Text
  | [] => failBefore (.endOf .string) []
  | c :: t =>
    if c = '"' then .ok ([], t)
    else if c = '\\' then
      match _ : readEscape t with
      | .error f => .error f
      | .ok (d, rest) =>
        match readString rest with
        | .error f => .error f
        | .ok (s, after) => .ok (d :: s, after)
    else if isControl c then failBefore .controlCharacter t
    else
      match readString t with
      | .error f => .error f
      | .ok (s, after) => .ok (c :: s, after)
termination_by t => t.length
decreasing_by all_goals grind [→ readEscape_le]

/-- Passes the characters up to the closing quote and the quote. -/
def passString : Reader Unit
  | [] => failBefore (.endOf .string) []
  | c :: t =>
    if c = '"' then .ok ((), t)
    else if c = '\\' then
      match _ : passEscape t with
      | .error f => .error f
      | .ok (_, rest) => passString rest
    else if isControl c then failBefore .controlCharacter (c :: t)
    else passString t
termination_by t => t.length
decreasing_by all_goals grind [→ passEscape_le]

theorem readString_lt {t s rest : Text} (h : readString t = .ok (s, rest)) :
    rest.length < t.length := by
  fun_induction readString t generalizing s with
  | case1 => cases h
  | case2 =>
    cases h
    exact Nat.lt_succ_self _
  | case3 => cases h
  | case4 => cases h
  | case5 t d after hescape s' _ hrest _ ih =>
    cases h
    exact Nat.lt_succ_of_lt (Nat.lt_of_lt_of_le (ih hrest) (readEscape_le hescape))
  | case6 => cases h
  | case7 => cases h
  | case8 c t _ _ _ s' _ hrest ih =>
    cases h
    exact Nat.lt_succ_of_lt (ih hrest)

theorem passString_lt {t rest : Text} {u : Unit} (h : passString t = .ok (u, rest)) :
    rest.length < t.length := by
  fun_induction passString t with
  | case1 => cases h
  | case2 =>
    cases h
    exact Nat.lt_succ_self _
  | case3 => cases h
  | case4 t _ after hescape _ ih =>
    exact Nat.lt_succ_of_lt (Nat.lt_of_lt_of_le (ih h) (passEscape_le hescape))
  | case5 => cases h
  | case6 c t _ _ _ ih => exact Nat.lt_succ_of_lt (ih h)

end JiraMarkup.Json

/-
  Number literals of JSON.

  A literal without fraction and exponent is a whole number as long as it fits 64 bits.
  Any other is a floating point number: the leading digits that fit 64 bits, times or
  divided by a power of ten, each of the two and then the result rounded.

  * `readNumber` reads a literal with its value;
  * `passNumber` only passes a literal, whatever its value;
  * `readNumber_lt`, `passNumber_lt`: what follows a literal is shorter than the text.
-/
import JiraMarkup.Json.Failure

namespace JiraMarkup.Json

/-! ## Digits -/

/-- The value of a digit. -/
def digitValue (c : Char) : Nat := c.toNat - '0'.toNat

/-- Whether a digit is next. -/
def digitNext : Text → Bool
  | [] => false
  | c :: _ => c.isDigit

/-- The text without the digits at its front. -/
def skipDigits (t : Text) : Text := t.dropWhile Char.isDigit

/-- Appends to `n` the digits at the front of a text as long as the number stays below
    `limit`; gives it with the rest. -/
def appendDigits (limit n : Nat) : Text → Nat × Text
  | [] => (n, [])
  | c :: t =>
    if c.isDigit && 10 * n + digitValue c < limit then
      appendDigits limit (10 * n + digitValue c) t
    else (n, c :: t)

/-! ## Floating point values -/

/-- The largest power of ten that is used in one step. -/
def maxPower : Nat := 308

/-- The value nearest to a power of ten. -/
def powerOfTen? (k : Nat) : Option Binary := Binary.ofNat? (Nat.pow 10 k)

/-- A value divided by a power of ten. -/
def divideOnce (x : Binary) (k : Nat) : Binary := ((powerOfTen? k).bind x.div?).getD .zero

/-- A value divided by a power of ten, in steps. -/
def divideByTen (x : Binary) (k : Nat) : Binary :=
  if k ≤ maxPower then divideOnce x k
  else if x.mantissa = 0 then x
  else divideByTen (divideOnce x maxPower) (k - maxPower)
termination_by k
decreasing_by simp only [maxPower] at *; omega

/-- The number `n * 10 ^ e`, if it is not too large. -/
def scaled? (n : Nat) (e : Int) : Option Binary := do
  let x ← Binary.ofNat? n
  if e < 0 then return divideByTen x e.natAbs
  else if e ≤ maxPower then (← powerOfTen? e.natAbs).mul? x
  else if n = 0 then return x
  else none

/-- The floating point number `n * 10 ^ e` with its sign, before the rest of the text. -/
def floatOf (minus : Bool) (n : Nat) (e : Int) (rest : Text) : Except Failure (Number × Text) :=
  match scaled? n e with
  | some x => .ok (.float minus x, rest)
  | none => failBefore .numberOutOfRange rest

/-! ## Reading -/

/-- The bound of whole numbers. -/
def wordLimit : Nat := 0x10000000000000000

/-- The bound of written exponents; beyond it a number is zero or too large. -/
def exponentLimit : Nat := 0x80000000

/-- The sign before an exponent, and the text after it. -/
def exponentSign : Text → Bool × Text
  | '-' :: t => (true, t)
  | '+' :: t => (false, t)
  | t => (false, t)

/-- Reads an exponent after its letter, for the significand `n * 10 ^ e`. -/
def readExponent (minus : Bool) (n : Nat) (e : Int) : Reader Number := fun t =>
  let (down, digits) := exponentSign t
  match digits with
  | [] => failBefore (.endOf .value) []
  | c :: _ =>
    if c.isDigit then
      let (k, rest) := appendDigits exponentLimit 0 digits
      match rest with
      | d :: after =>
        if d.isDigit then
          if n = 0 ∨ down then .ok (.float minus .zero, skipDigits rest)
          else failBefore .numberOutOfRange after
        else floatOf minus n (if down then e - k else e + k) rest
      | [] => floatOf minus n (if down then e - k else e + k) rest
    else failAt .invalidNumber digits

/-- Reads the exponent, if there is one, after the digits of the significand `n * 10 ^ e`. -/
def readScale (minus : Bool) (n : Nat) (e : Int) : Reader Number
  | [] => floatOf minus n e []
  | c :: t => if c = 'e' ∨ c = 'E' then readExponent minus n e t else floatOf minus n e (c :: t)

/-- Reads the fraction after its point, for the whole part `n * 10 ^ e`. -/
def readFraction (minus : Bool) (n : Nat) (e : Int) : Reader Number := fun t =>
  let (m, rest) := appendDigits wordLimit n t
  let places := t.length - rest.length
  if digitNext rest then readScale minus m (e - places) (skipDigits rest)
  else if places = 0 then
    failAt (if rest.isEmpty then .endOf .value else .invalidNumber) rest
  else readScale minus m (e - places) rest

/-- Reads what follows the whole part `n * 10 ^ e` of a floating point number. -/
def readTail (minus : Bool) (n : Nat) (e : Int) : Reader Number
  | '.' :: t => readFraction minus n e t
  | t => readScale minus n e t

/-- The least whole number, without its sign. -/
def leastWhole : Nat := 0x8000000000000000

/-- A whole number with its sign. Zero has none, nor has a number below -2 ^ 63. -/
def wholeOf (minus : Bool) (n : Nat) (rest : Text) : Except Failure (Number × Text) :=
  if !minus then .ok (.natural n, rest)
  else if 0 < n ∧ n ≤ leastWhole then .ok (.negative n, rest)
  else floatOf minus n 0 rest

/-- Whether a fraction or an exponent is next. -/
def tailNext : Text → Bool
  | [] => false
  | c :: _ => c = '.' || c = 'e' || c = 'E'

/-- Reads what follows the leading digits `n`, no further digit being able to join them. -/
def readAfterDigits (minus : Bool) (n : Nat) : Reader Number := fun t =>
  if digitNext t then
    let rest := skipDigits t
    readTail minus n (t.length - rest.length : Nat) rest
  else if tailNext t then readTail minus n 0 t
  else wholeOf minus n t

/-- Reads a literal without its sign. -/
def readUnsigned (minus : Bool) : Reader Number
  | [] => failBefore (.endOf .value) []
  | c :: t =>
    if c = '0' then
      if digitNext t then failAt .invalidNumber t else readAfterDigits minus 0 t
    else if c.isDigit then
      let (n, rest) := appendDigits wordLimit (digitValue c) t
      readAfterDigits minus n rest
    else failAt .invalidNumber (c :: t)

/-- Reads a literal. -/
def readNumber : Reader Number
  | '-' :: t => readUnsigned true t
  | t => readUnsigned false t

/-! ## Passing -/

/-- Passes an exponent after its letter. -/
def passExponent : Reader Unit := fun t =>
  let (_, digits) := exponentSign t
  if digitNext digits then .ok ((), skipDigits digits) else failAt .invalidNumber digits

/-- Passes the exponent, if there is one. -/
def passScale : Reader Unit
  | [] => .ok ((), [])
  | c :: t => if c = 'e' ∨ c = 'E' then passExponent t else .ok ((), c :: t)

/-- Passes what follows the whole part of a literal. -/
def passTail : Reader Unit
  | '.' :: t => if digitNext t then passScale (skipDigits t) else failAt .invalidNumber t
  | t => passScale t

/-- Passes a literal without its sign. -/
def passUnsigned : Reader Unit
  | [] => failAt .invalidNumber []
  | c :: t =>
    if c = '0' then
      if digitNext t then failAt .invalidNumber t else passTail t
    else if c.isDigit then passTail (skipDigits t)
    else failAt .invalidNumber (c :: t)

/-- Passes a literal. -/
def passNumber : Reader Unit
  | '-' :: t => passUnsigned t
  | t => passUnsigned t

/-! ## Literals go on in the text -/

theorem skipDigits_le (t : Text) : (skipDigits t).length ≤ t.length :=
  (List.dropWhile_sublist _).length_le

theorem appendDigits_le (limit n : Nat) (t : Text) :
    (appendDigits limit n t).2.length ≤ t.length := by
  induction t generalizing n with
  | nil => exact Nat.le_refl _
  | cons c t ih =>
    rw [appendDigits]
    split
    · exact Nat.le_succ_of_le (ih _)
    · exact Nat.le_refl _

theorem exponentSign_le (t : Text) : (exponentSign t).2.length ≤ t.length := by
  unfold exponentSign
  split <;> simp

theorem floatOf_le {minus : Bool} {n : Nat} {e : Int} {t rest : Text} {x : Number}
    (h : floatOf minus n e t = .ok (x, rest)) : rest.length ≤ t.length := by
  unfold floatOf at h
  split at h
  · cases h
    exact Nat.le_refl _
  · cases h

theorem wholeOf_le {minus : Bool} {n : Nat} {t rest : Text} {x : Number}
    (h : wholeOf minus n t = .ok (x, rest)) : rest.length ≤ t.length := by
  unfold wholeOf at h
  split at h
  · cases h
    exact Nat.le_refl _
  split at h
  · cases h
    exact Nat.le_refl _
  · exact floatOf_le h

theorem readExponent_le {minus : Bool} {n : Nat} {e : Int} {t rest : Text} {x : Number}
    (h : readExponent minus n e t = .ok (x, rest)) : rest.length ≤ t.length := by
  have hsign := exponentSign_le t
  have hdigits := appendDigits_le exponentLimit 0 (exponentSign t).2
  have hskip := skipDigits_le (appendDigits exponentLimit 0 (exponentSign t).2).2
  simp only [readExponent] at h
  split at h
  · cases h
  split at h
  · split at h
    · split at h
      · split at h
        · cases h
          omega
        · cases h
      · have := floatOf_le h
        omega
    · have := floatOf_le h
      omega
  · cases h

theorem readScale_le {minus : Bool} {n : Nat} {e : Int} {t rest : Text} {x : Number}
    (h : readScale minus n e t = .ok (x, rest)) : rest.length ≤ t.length := by
  cases t with
  | nil => exact floatOf_le h
  | cons c t =>
    rw [readScale] at h
    split at h
    · exact Nat.le_succ_of_le (readExponent_le h)
    · exact floatOf_le h

theorem readFraction_le {minus : Bool} {n : Nat} {e : Int} {t rest : Text} {x : Number}
    (h : readFraction minus n e t = .ok (x, rest)) : rest.length ≤ t.length := by
  have hdigits := appendDigits_le wordLimit n t
  have hskip := skipDigits_le (appendDigits wordLimit n t).2
  simp only [readFraction] at h
  split at h
  · exact Nat.le_trans (readScale_le h) (Nat.le_trans hskip hdigits)
  split at h
  · cases h
  · exact Nat.le_trans (readScale_le h) hdigits

theorem readTail_le {minus : Bool} {n : Nat} {e : Int} {t rest : Text} {x : Number}
    (h : readTail minus n e t = .ok (x, rest)) : rest.length ≤ t.length := by
  unfold readTail at h
  split at h
  · exact Nat.le_succ_of_le (readFraction_le h)
  · exact readScale_le h

theorem readAfterDigits_le {minus : Bool} {n : Nat} {t rest : Text} {x : Number}
    (h : readAfterDigits minus n t = .ok (x, rest)) : rest.length ≤ t.length := by
  simp only [readAfterDigits] at h
  split at h
  · exact Nat.le_trans (readTail_le h) (skipDigits_le t)
  split at h
  · exact readTail_le h
  · exact wholeOf_le h

theorem readUnsigned_lt {minus : Bool} {t rest : Text} {x : Number}
    (h : readUnsigned minus t = .ok (x, rest)) : rest.length < t.length := by
  cases t with
  | nil => cases h
  | cons c t =>
    rw [readUnsigned] at h
    split at h
    · split at h
      · cases h
      · exact Nat.lt_succ_of_le (readAfterDigits_le h)
    split at h
    · have hdigits := appendDigits_le wordLimit (digitValue c) t
      exact Nat.lt_succ_of_le (Nat.le_trans (readAfterDigits_le h) hdigits)
    · cases h

theorem readNumber_lt {t rest : Text} {x : Number} (h : readNumber t = .ok (x, rest)) :
    rest.length < t.length := by
  unfold readNumber at h
  split at h
  · exact Nat.lt_succ_of_lt (readUnsigned_lt h)
  · exact readUnsigned_lt h

theorem passExponent_le {t rest : Text} {u : Unit} (h : passExponent t = .ok (u, rest)) :
    rest.length ≤ t.length := by
  simp only [passExponent] at h
  split at h
  · cases h
    exact Nat.le_trans (skipDigits_le _) (exponentSign_le t)
  · cases h

theorem passScale_le {t rest : Text} {u : Unit} (h : passScale t = .ok (u, rest)) :
    rest.length ≤ t.length := by
  cases t with
  | nil =>
    cases h
    exact Nat.le_refl _
  | cons c t =>
    rw [passScale] at h
    split at h
    · exact Nat.le_succ_of_le (passExponent_le h)
    · cases h
      exact Nat.le_refl _

theorem passTail_le {t rest : Text} {u : Unit} (h : passTail t = .ok (u, rest)) :
    rest.length ≤ t.length := by
  unfold passTail at h
  split at h
  · split at h
    · exact Nat.le_succ_of_le (Nat.le_trans (passScale_le h) (skipDigits_le _))
    · cases h
  · exact passScale_le h

theorem passUnsigned_lt {t rest : Text} {u : Unit} (h : passUnsigned t = .ok (u, rest)) :
    rest.length < t.length := by
  cases t with
  | nil => cases h
  | cons c t =>
    rw [passUnsigned] at h
    split at h
    · split at h
      · cases h
      · exact Nat.lt_succ_of_le (passTail_le h)
    split at h
    · exact Nat.lt_succ_of_le (Nat.le_trans (passTail_le h) (skipDigits_le t))
    · cases h

theorem passNumber_lt {t rest : Text} {u : Unit} (h : passNumber t = .ok (u, rest)) :
    rest.length < t.length := by
  unfold passNumber at h
  split at h
  · exact Nat.lt_succ_of_lt (passUnsigned_lt h)
  · exact passUnsigned_lt h

end JiraMarkup.Json

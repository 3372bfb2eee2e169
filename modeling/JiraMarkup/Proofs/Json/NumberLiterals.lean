/-
  Reading the number literals of the grammar.

  * `NumberEnd` are the texts that do not make a literal in front of them longer;
  * `passNumber_text`: a literal is passed;
  * `readNumber_text`: a literal is read to a whole number without a sign exactly if it is written
    by digits only and its number is within 64 bits.
-/
import JiraMarkup.Json.NumberLiteral
import JiraMarkup.Proofs.Json.Grammar

namespace JiraMarkup.Json

/-! ## Digits -/

/-- A text with which no number literal goes on. -/
def NumberEnd (t : Text) : Prop := ∀ c ∈ t.head?, c.isDigit = false ∧ c ≠ '.' ∧ c ≠ 'e' ∧ c ≠ 'E'

theorem isDigit_digitChar (d : Fin 10) : (Nat.digitChar d).isDigit = true := by
  revert d
  decide

theorem digitValue_digitChar (d : Fin 10) : digitValue (Nat.digitChar d) = d := by
  revert d
  decide

theorem digitNext_digit (d : Fin 10) (t : Text) : digitNext (Nat.digitChar d :: t) = true :=
  isDigit_digitChar d

theorem skipDigits_digitsText (ds : List (Fin 10)) {t : Text} (ht : digitNext t = false) :
    skipDigits (digitsText ds ++ t) = t := by
  rw [skipDigits, digitsText, List.dropWhile_append_of_pos]
  · cases t with
    | nil => rfl
    | cons c t => exact List.dropWhile_cons_of_neg (by simpa [digitNext] using ht)
  · intro c hc
    obtain ⟨d, -, rfl⟩ := List.mem_map.1 hc
    exact isDigit_digitChar d

theorem skipDigits_text (ds : Digits) {t : Text} (ht : digitNext t = false) :
    skipDigits (ds.text ++ t) = t := skipDigits_digitsText (ds.first :: ds.rest) ht

theorem digitNext_text (ds : Digits) (t : Text) : digitNext (ds.text ++ t) = true :=
  digitNext_digit ds.first _

theorem digitsValue_cons (n : Nat) (d : Fin 10) (ds : List (Fin 10)) :
    digitsValue n (d :: ds) = digitsValue (10 * n + d) ds := rfl

theorem le_digitsValue (n : Nat) (ds : List (Fin 10)) : n ≤ digitsValue n ds := by
  induction ds generalizing n with
  | nil => exact Nat.le_refl n
  | cons d ds ih =>
    have hstep : n ≤ 10 * n + d := by omega
    exact Nat.le_trans hstep (ih _)

theorem digitsText_cons (d : Fin 10) (ds : List (Fin 10)) :
    digitsText (d :: ds) = Nat.digitChar d :: digitsText ds := rfl

/-- Digits are all appended if the number stays below the limit. -/
theorem appendDigits_of_lt {limit n : Nat} {ds : List (Fin 10)} {t : Text}
    (ht : digitNext t = false) (hlt : digitsValue n ds < limit) :
    appendDigits limit n (digitsText ds ++ t) = (digitsValue n ds, t) := by
  induction ds generalizing n with
  | nil =>
    cases t with
    | nil => rfl
    | cons c t =>
      have hc : c.isDigit = false := ht
      simp [digitsText, digitsValue, appendDigits, hc]
  | cons d ds ih =>
    rw [digitsValue_cons] at hlt ⊢
    have hstep : 10 * n + d < limit := Nat.lt_of_le_of_lt (le_digitsValue _ ds) hlt
    rw [digitsText_cons, List.cons_append, appendDigits, digitValue_digitChar,
      if_pos (by simp [hstep]), ih hlt]

/-- Else a digit is left. -/
theorem digitNext_appendDigits {limit n : Nat} {ds : List (Fin 10)} (hn : n < limit)
    (hle : limit ≤ digitsValue n ds) (t : Text) :
    digitNext (appendDigits limit n (digitsText ds ++ t)).2 = true := by
  induction ds generalizing n with
  | nil => exact absurd hn (Nat.not_lt.2 hle)
  | cons d ds ih =>
    rw [digitsText_cons, List.cons_append, appendDigits, digitValue_digitChar]
    by_cases hstep : 10 * n + d < limit
    · rw [if_pos (by simp [hstep])]
      exact ih hstep hle
    · rw [if_neg (by simp [hstep])]
      exact digitNext_digit d _

/-! ## What follows the whole part -/

section Tail

variable {n : NumberLiteral} {rest : Text}

theorem NumberEnd.digitNext (h : NumberEnd rest) : digitNext rest = false := by
  cases rest with
  | nil => rfl
  | cons c rest => exact (h c rfl).1

theorem NumberEnd.tailNext (h : NumberEnd rest) : tailNext rest = false := by
  cases rest with
  | nil => rfl
  | cons c rest =>
    obtain ⟨-, hpoint, he, hE⟩ := h c rfl
    simp [Json.tailNext, hpoint, he, hE]

theorem digitNext_scaleText (hrest : NumberEnd rest) :
    digitNext (n.scaleText ++ rest) = false := by
  rw [NumberLiteral.scaleText]
  cases n.exponent with
  | none => exact hrest.digitNext
  | some e =>
    obtain ⟨capital, sign, digits⟩ := e
    cases capital <;> rfl

theorem digitNext_tailText (hrest : NumberEnd rest) : digitNext (n.tailText ++ rest) = false := by
  rw [NumberLiteral.tailText, List.append_assoc]
  cases n.fraction with
  | none => exact digitNext_scaleText hrest
  | some ds => rfl

theorem tailNext_tailText (hrest : NumberEnd rest) :
    tailNext (n.tailText ++ rest) = (n.fraction.isSome || n.exponent.isSome) := by
  rw [NumberLiteral.tailText, NumberLiteral.scaleText]
  cases n.fraction with
  | some ds => rfl
  | none =>
    cases n.exponent with
    | none => exact hrest.tailNext
    | some e =>
      obtain ⟨capital, sign, digits⟩ := e
      cases capital <;> rfl

/-! ## Passing -/

theorem exponentSign_text (sign : Option Bool) (ds : Digits) (t : Text) :
    exponentSign (signText sign ++ (ds.text ++ t)) = (sign == some true, ds.text ++ t) := by
  cases sign with
  | some minus => cases minus <;> rfl
  | none =>
    have hdigit := isDigit_digitChar ds.first
    have hminus : Nat.digitChar ds.first ≠ '-' := by
      intro h
      simp [h] at hdigit
    have hplus : Nat.digitChar ds.first ≠ '+' := by
      intro h
      simp [h] at hdigit
    rw [Digits.text, digitsText_cons, signText, List.nil_append, List.cons_append, exponentSign]
    · rfl
    · simp [hminus]
    · simp [hplus]

theorem passExponent_text (sign : Option Bool) (ds : Digits) (hrest : NumberEnd rest) :
    passExponent (signText sign ++ (ds.text ++ rest)) = .ok ((), rest) := by
  rw [passExponent, exponentSign_text]
  dsimp only
  rw [if_pos (digitNext_text ds rest), skipDigits_text ds hrest.digitNext]

theorem passScale_text (hrest : NumberEnd rest) :
    passScale (n.scaleText ++ rest) = .ok ((), rest) := by
  rw [NumberLiteral.scaleText]
  cases n.exponent with
  | none =>
    cases rest with
    | nil => rfl
    | cons c rest =>
      obtain ⟨-, -, he, hE⟩ := hrest c rfl
      exact if_neg (by simp [he, hE])
  | some e =>
    rw [Option.map_some, Option.getD_some, Exponent.text, List.cons_append, List.cons_append,
      List.append_assoc, passScale, if_pos (by cases e.capital <;> simp),
      passExponent_text e.sign e.digits hrest]

theorem scaleText_ne_point (hrest : NumberEnd rest) (t : Text) :
    n.scaleText ++ rest ≠ '.' :: t := by
  rw [NumberLiteral.scaleText]
  cases n.exponent with
  | none =>
    rintro rfl
    exact (hrest '.' rfl).2.1 rfl
  | some e =>
    rw [Option.map_some, Option.getD_some, Exponent.text]
    cases e.capital <;> simp

theorem passTail_text (hrest : NumberEnd rest) :
    passTail (n.tailText ++ rest) = .ok ((), rest) := by
  rw [NumberLiteral.tailText, List.append_assoc]
  cases n.fraction with
  | some ds =>
    rw [Option.map_some, Option.getD_some, List.cons_append, passTail,
      if_pos (digitNext_text ds _), skipDigits_text ds (digitNext_scaleText hrest),
      passScale_text hrest]
  | none =>
    rw [Option.map_none, Option.getD_none, List.nil_append, passTail, passScale_text hrest]
    exact scaleText_ne_point hrest

theorem positive_ne_zero (first : Fin 9) : Nat.digitChar (first.val + 1) ≠ '0' := by
  revert first
  decide

theorem positive_isDigit (first : Fin 9) : (Nat.digitChar (first.val + 1)).isDigit = true :=
  isDigit_digitChar first.succ

theorem positive_digitValue (first : Fin 9) :
    digitValue (Nat.digitChar (first.val + 1)) = first.val + 1 := digitValue_digitChar first.succ

theorem passUnsigned_text (hrest : NumberEnd rest) :
    passUnsigned (n.unsignedText ++ rest) = .ok ((), rest) := by
  rw [NumberLiteral.unsignedText, List.append_assoc]
  cases n.whole with
  | zero =>
    rw [WholePart.text, List.singleton_append, passUnsigned, if_pos rfl,
      if_neg (by simp [digitNext_tailText hrest]), passTail_text hrest]
  | positive first ds =>
    rw [WholePart.text, List.cons_append, passUnsigned, if_neg (positive_ne_zero first),
      if_pos (positive_isDigit first), skipDigits_digitsText ds (digitNext_tailText hrest),
      passTail_text hrest]

theorem unsignedText_ne_minus (n : NumberLiteral) (t u : Text) :
    n.unsignedText ++ t ≠ '-' :: u := by
  rw [NumberLiteral.unsignedText]
  cases n.whole with
  | zero => simp [WholePart.text]
  | positive first ds =>
    intro h
    have hdigit := positive_isDigit first
    rw [WholePart.text, List.cons_append, List.cons_append] at h
    simp [(List.cons.inj h).1] at hdigit

/-- **A number literal is passed.** -/
theorem passNumber_text (n : NumberLiteral) (hrest : NumberEnd rest) :
    passNumber (n.text ++ rest) = .ok ((), rest) := by
  rw [NumberLiteral.text, List.append_assoc]
  cases n.minus with
  | true => exact passUnsigned_text hrest
  | false =>
    rw [if_neg Bool.false_ne_true, List.nil_append, passNumber, passUnsigned_text hrest]
    exact unsignedText_ne_minus n rest

end Tail

/-! ## Reading -/

section Reading

variable {minus : Bool} {n m : Nat} {e : Int} {t rest : Text}

theorem floatOf_ne_natural : floatOf minus n e t ≠ .ok (.natural m, rest) := by
  rw [floatOf]
  split <;> simp [failBefore]

theorem readExponent_ne_natural : readExponent minus n e t ≠ .ok (.natural m, rest) := by
  rw [readExponent]
  dsimp only
  split
  · simp [failBefore]
  split
  · split
    · split
      · split <;> simp [failBefore]
      · exact floatOf_ne_natural
    · exact floatOf_ne_natural
  · simp [failAt]

theorem readScale_ne_natural : readScale minus n e t ≠ .ok (.natural m, rest) := by
  cases t with
  | nil => exact floatOf_ne_natural
  | cons c t =>
    rw [readScale]
    split
    · exact readExponent_ne_natural
    · exact floatOf_ne_natural

theorem readTail_ne_natural : readTail minus n e t ≠ .ok (.natural m, rest) := by
  rw [readTail.eq_def]
  split
  · rw [readFraction]
    dsimp only
    split
    · exact readScale_ne_natural
    split
    · simp [failAt]
    · exact readScale_ne_natural
  · exact readScale_ne_natural

/-- **A whole number comes of digits only.** -/
theorem readAfterDigits_eq_natural : readAfterDigits minus n t = .ok (.natural m, rest) ↔
    minus = false ∧ digitNext t = false ∧ tailNext t = false ∧ m = n ∧ rest = t := by
  rw [readAfterDigits]
  cases digitNext t with
  | true => simp [readTail_ne_natural]
  | false =>
    cases tailNext t with
    | true => simp [readTail_ne_natural]
    | false =>
      cases minus with
      | false => simp [wholeOf, eq_comm]
      | true =>
        simp only [Bool.false_eq_true, if_false, wholeOf, Bool.not_true]
        split
        · simp
        · simp [floatOf_ne_natural]

end Reading

theorem NumberLiteral.natural?_eq_some {n : NumberLiteral} {m : Nat} : n.natural? = some m ↔
    n.minus = false ∧ (n.fraction.isSome || n.exponent.isSome) = false ∧ n.whole.value = m := by
  rw [natural?, Bool.or_assoc]
  cases n.minus <;> cases n.fraction.isSome || n.exponent.isSome <;> simp

theorem NumberLiteral.tailText_eq_nil {n : NumberLiteral}
    (h : (n.fraction.isSome || n.exponent.isSome) = false) : n.tailText = [] := by
  rw [Bool.or_eq_false_iff, Option.isSome_eq_false_iff, Option.isSome_eq_false_iff,
    Option.isNone_iff_eq_none, Option.isNone_iff_eq_none] at h
  rw [tailText, scaleText, h.1, h.2]
  rfl

/-- After all the digits of the whole part, if the number that they make is within the limit. -/
theorem readAfterDigits_text {n : NumberLiteral} {m : Nat} {rest r : Text}
    (hrest : NumberEnd rest) (hlt : n.whole.value < wordLimit) :
    readAfterDigits n.minus n.whole.value (n.tailText ++ rest) = .ok (.natural m, r) ↔
      n.natural? = some m ∧ m < wordLimit ∧ r = rest := by
  rw [readAfterDigits_eq_natural, tailNext_tailText hrest, NumberLiteral.natural?_eq_some]
  constructor
  · rintro ⟨hminus, -, htail, rfl, hr⟩
    rw [NumberLiteral.tailText_eq_nil htail, List.nil_append] at hr
    exact ⟨⟨hminus, htail, rfl⟩, hlt, hr⟩
  · rintro ⟨⟨hminus, htail, hm⟩, -, hr⟩
    refine ⟨hminus, digitNext_tailText hrest, htail, hm.symm, ?_⟩
    rw [NumberLiteral.tailText_eq_nil htail, List.nil_append, hr]

theorem readUnsigned_text {n : NumberLiteral} {m : Nat} {rest r : Text} (hrest : NumberEnd rest) :
    readUnsigned n.minus (n.unsignedText ++ rest) = .ok (.natural m, r) ↔
      n.natural? = some m ∧ m < wordLimit ∧ r = rest := by
  have hread := readAfterDigits_text (n := n) (m := m) (r := r) hrest
  rw [NumberLiteral.unsignedText, List.append_assoc]
  cases hwhole : n.whole with
  | zero =>
    have hlimit : 0 < wordLimit := by decide
    rw [hwhole] at hread
    rw [WholePart.text, List.singleton_append, readUnsigned, if_pos rfl,
      if_neg (by simp [digitNext_tailText hrest])]
    exact hread hlimit
  | positive first ds =>
    rw [hwhole] at hread
    rw [WholePart.text, List.cons_append, readUnsigned, if_neg (positive_ne_zero first),
      if_pos (positive_isDigit first), positive_digitValue]
    by_cases hlt : digitsValue (first.val + 1) ds < wordLimit
    · rw [appendDigits_of_lt (digitNext_tailText hrest) hlt]
      exact hread hlt
    · -- A digit that does not fit makes it a floating point number.
      have hfirst : first.val + 1 < wordLimit :=
        Nat.lt_trans (by omega) (by decide : 10 < wordLimit)
      have hdigit := digitNext_appendDigits hfirst (Nat.not_lt.1 hlt) (n.tailText ++ rest)
      rw [NumberLiteral.natural?_eq_some, hwhole, WholePart.value]
      refine iff_of_false (fun h => ?_) fun h => hlt (h.1.2.2 ▸ h.2.1)
      rw [readAfterDigits_eq_natural, hdigit] at h
      exact Bool.noConfusion h.2.1

/-- **A number literal is read to a whole number without a sign** exactly if it is one and within
    64 bits. -/
theorem readNumber_text {n : NumberLiteral} {m : Nat} {rest r : Text} (hrest : NumberEnd rest) :
    readNumber (n.text ++ rest) = .ok (.natural m, r) ↔
      n.natural? = some m ∧ m < wordLimit ∧ r = rest := by
  rw [← readUnsigned_text hrest, NumberLiteral.text, List.append_assoc]
  cases n.minus with
  | true => exact Iff.rfl
  | false =>
    rw [if_neg Bool.false_ne_true, List.nil_append, readNumber]
    exact unsignedText_ne_minus n rest

end JiraMarkup.Json

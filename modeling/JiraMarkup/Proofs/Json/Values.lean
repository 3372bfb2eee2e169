/-
  Reading the values of the grammar.

  * `skipSpace_space`: white space is skipped up to the next token;
  * `passElement_intercalate`: the elements of a list and the members of an object are passed one by
    one up to the closing bracket, so that `passed` holds by induction: a value of any depth is
    passed, and nothing after it;
  * `readFound_boolean`, `readFound_number` and `readFound_string`: a scalar is read; by
    `kind_of_readFound` what is found is always of the kind of the value.
-/
import JiraMarkup.Json.Value
import JiraMarkup.Proofs.Json.NumberLiterals
import JiraMarkup.Proofs.Json.StringLiterals
import Mathlib.Data.List.DropRight

namespace JiraMarkup.Json

/-! ## White space -/

/-- Whether a character is none of the white ones. -/
def IsToken (c : Char) : Prop := (c == ' ' || c == '\t' || c == '\n' || c == '\r') = false

instance (c : Char) : Decidable (IsToken c) := inferInstanceAs (Decidable (_ = false))

theorem skipSpace_text (s : Space) (t : Text) : skipSpace (s.text ++ t) = skipSpace t := by
  rw [skipSpace, List.dropWhile_append_of_pos]
  · rfl
  · intro c hc
    obtain ⟨x, -, rfl⟩ := List.mem_map.1 hc
    cases x <;> rfl

theorem skipSpace_token {c : Char} (hc : IsToken c) (t : Text) : skipSpace (c :: t) = c :: t :=
  List.dropWhile_cons_of_neg (Bool.eq_false_iff.1 hc)

/-- **White space is skipped up to the next token.** -/
theorem skipSpace_space (s : Space) {c : Char} (hc : IsToken c) (t : Text) :
    skipSpace (s.text ++ c :: t) = c :: t := by
  rw [skipSpace_text, skipSpace_token hc]

theorem skipSpace_skipSpace (t : Text) : skipSpace (skipSpace t) = skipSpace t :=
  List.dropWhile_idempotent _ t

/-- After white space a number literal does not go on with a sign of structure. -/
theorem numberEnd_space (s : Space) {c : Char} (hc : c ∈ [',', ']', '\x7d']) (t : Text) :
    NumberEnd (s.text ++ c :: t) := by
  intro d hd
  cases s with
  | nil =>
    obtain rfl : c = d := by simpa [Space.text] using hd
    simp only [List.mem_cons, List.not_mem_nil, or_false] at hc
    rcases hc with rfl | rfl | rfl <;> decide
  | cons x s =>
    obtain rfl : x.char = d := by simpa [Space.text] using hd
    cases x <;> decide

theorem passColon_text (s : Space) (t : Text) : passColon (s.text ++ ':' :: t) = .ok ((), t) := by
  rw [passColon, skipSpace_space s (by decide)]
  rfl

/-! ## The front of a value -/

theorem beginsNumber_text (n : NumberLiteral) :
    ∃ c t, n.text = c :: t ∧ beginsNumber c = true := by
  rw [NumberLiteral.text, NumberLiteral.unsignedText]
  cases n.minus with
  | true => exact ⟨_, _, rfl, rfl⟩
  | false =>
    cases n.whole with
    | zero => exact ⟨_, _, rfl, rfl⟩
    | positive first ds =>
      refine ⟨_, _, rfl, ?_⟩
      rw [beginsNumber, positive_isDigit, Bool.or_true]

theorem word?_of_beginsNumber {c : Char} (h : beginsNumber c = true) : word? c = none := by
  rw [word?.eq_def]
  split
  · exact absurd h (by decide)
  · exact absurd h (by decide)
  · exact absurd h (by decide)
  · rfl

theorem isToken_of_beginsNumber {c : Char} (h : beginsNumber c = true) : IsToken c := by
  have hwhite : [' ', '\t', '\n', '\r'].any beginsNumber = false := by decide
  have hnot : c ∉ [' ', '\t', '\n', '\r'] := fun hc => List.any_eq_false.1 hwhite c hc h
  simpa [IsToken, and_assoc] using hnot

/-- A value begins with a token, and only a list or an object with a bracket. -/
theorem Value.text_front (v : Value) : ∃ c t, v.text = c :: t ∧ IsToken c ∧ c ≠ ']' := by
  cases v with
  | null => exact ⟨_, _, rfl, by decide, by decide⟩
  | boolean b => cases b <;> exact ⟨_, _, rfl, by decide, by decide⟩
  | number n =>
    obtain ⟨c, t, h, hc⟩ := beginsNumber_text n
    refine ⟨c, t, h, isToken_of_beginsNumber hc, ?_⟩
    rintro rfl
    exact absurd hc (by decide)
  | string s => exact ⟨_, _, rfl, by decide, by decide⟩
  | list inner es => exact ⟨_, _, rfl, by decide, by decide⟩
  | object inner ms => exact ⟨_, _, rfl, by decide, by decide⟩

/-! ## Passing -/

theorem passWord_text (w t : Text) : passWord w (w ++ t) = .ok ((), t) := by
  induction w with
  | nil => rfl
  | cons c w ih => rw [List.cons_append, passWord, if_pos rfl, ih]

theorem passScalar_number (n : NumberLiteral) {rest : Text} (hrest : NumberEnd rest) :
    passScalar (n.text ++ rest) = .ok ((), rest) := by
  obtain ⟨c, t, htext, hc⟩ := beginsNumber_text n
  have hpass := passNumber_text n hrest
  rw [htext, List.cons_append] at hpass ⊢
  rw [passScalar, word?_of_beginsNumber hc]
  simp only [hc, if_true]
  exact hpass

theorem passScalar_string (s : List Piece) (rest : Text) :
    passScalar ((Value.string s).text ++ rest) = .ok ((), rest) := by
  rw [Value.text, List.cons_append, List.cons_append, List.append_assoc, List.singleton_append]
  exact passString_text s rest

/-! ### Brackets -/

section Brackets

variable {within : List Bracket} {b : Bracket} {t u : Text}

theorem passWithin_eq (within : List Bracket) (t : Text) : passWithin within t =
    match skipSpace t with
    | [] => failAt (.endOf .value) []
    | c :: u =>
      if c = '[' then passOpened .list within u
      else if c = '\x7b' then passOpened .object within u
      else
        match passScalar (c :: u) with
        | .error f => .error f
        | .ok (_, rest) => passAfter within rest := by
  rw [passWithin.eq_def]
  split
  · next h => rw [h]
  · next h =>
    rw [h]
    dsimp only
    split
    · rfl
    split
    · rfl
    split
    · next h => rw [h]
    · next h => rw [h]

theorem passOpened_eq (b : Bracket) (within : List Bracket) (t : Text) :
    passOpened b within t =
      match skipSpace t with
      | [] => failAt (.endOf b.unfinished) []
      | c :: u => if c = b.closing then passAfter within u else passElement b within (c :: u) := by
  rw [passOpened.eq_def]
  split
  · next h => rw [h]
  · next h => rw [h]

theorem passElement_object (within : List Bracket) (t : Text) :
    passElement .object within t =
      match passKey t with
      | .error f => .error f
      | .ok (_, rest) => passWithin (.object :: within) rest := by
  rw [passElement.eq_def]
  dsimp only
  split
  · next h => rw [h]
  · next h => rw [h]

theorem passAfter_cons (b : Bracket) (within : List Bracket) (t : Text) :
    passAfter (b :: within) t =
      match skipSpace t with
      | [] => failAt (.endOf b.unfinished) []
      | c :: u =>
        if c = ',' then passElement b within u
        else if c = b.closing then passAfter within u
        else failAt b.expectedEnd (c :: u) := by
  rw [passAfter.eq_def]
  dsimp only
  split
  · next h => rw [h]
  · next h => rw [h]

/-- White space before an element makes no difference. -/
theorem passElement_skipSpace (b : Bracket) (within : List Bracket) (t : Text) :
    passElement b within (skipSpace t) = passElement b within t := by
  cases b with
  | list =>
    rw [passElement, passElement, passWithin_eq, skipSpace_skipSpace, ← passWithin_eq]
  | object =>
    rw [passElement_object, passKey, skipSpace_skipSpace, ← passKey, ← passElement_object]

theorem passAfter_space (s : Space) (t : Text) :
    passAfter (b :: within) (s.text ++ t) = passAfter (b :: within) t := by
  rw [passAfter_cons, skipSpace_text, ← passAfter_cons]

theorem passAfter_comma (t : Text) :
    passAfter (b :: within) (',' :: t) = passElement b within t := by
  rw [passAfter_cons, skipSpace_token (by decide)]
  exact if_pos rfl

theorem passAfter_closing (t : Text) :
    passAfter (b :: within) (b.closing :: t) = passAfter within t := by
  cases b <;> (rw [passAfter_cons, skipSpace_token (by decide)]; rfl)

/-- **Elements are passed up to the closing bracket**, if each one is passed up to the sign after
    it. -/
theorem passElement_intercalate {xs : List Text} (hne : xs ≠ [])
    (hxs : ∀ x ∈ xs, ∀ c ∈ [',', b.closing], ∀ t,
      passElement b within (x ++ c :: t) = passAfter (b :: within) (c :: t)) (rest : Text) :
    passElement b within ([','].intercalate xs ++ b.closing :: rest) = passAfter within rest := by
  induction xs with
  | nil => exact absurd rfl hne
  | cons x xs ih =>
    rw [List.forall_mem_cons] at hxs
    rcases eq_or_ne xs [] with rfl | hxs'
    · rw [List.intercalate_singleton, hxs.1 _ (by simp), passAfter_closing]
    · rw [List.intercalate_cons_of_ne_nil hxs', List.append_assoc, List.append_assoc,
        List.singleton_append, hxs.1 _ (by simp), passAfter_comma, ih hxs' hxs.2]

/-- **The content of a bracket is passed** with the closing bracket. -/
theorem passOpened_intercalate {xs : List Text} (inner : Space)
    (hfront : ∀ x ∈ xs, ∀ t, ∃ c u, skipSpace (x ++ t) = c :: u ∧ c ≠ b.closing)
    (hxs : ∀ x ∈ xs, ∀ c ∈ [',', b.closing], ∀ t,
      passElement b within (x ++ c :: t) = passAfter (b :: within) (c :: t)) (rest : Text) :
    passOpened b within (inner.text ++ ([','].intercalate xs ++ b.closing :: rest)) =
      passAfter within rest := by
  have hclosing : IsToken b.closing := by cases b <;> decide
  rw [passOpened_eq, skipSpace_text]
  cases xs with
  | nil =>
    rw [List.intercalate_nil, List.nil_append, skipSpace_token hclosing]
    exact if_pos rfl
  | cons x xs =>
    have hne : x :: xs ≠ [] := List.cons_ne_nil _ _
    rw [← passElement_intercalate hne hxs rest, ← passElement_skipSpace]
    obtain ⟨y, hy⟩ : ∃ y, [','].intercalate (x :: xs) ++ b.closing :: rest = x ++ y := by
      rcases eq_or_ne xs [] with rfl | hxs'
      · exact ⟨_, by rw [List.intercalate_singleton]⟩
      · exact ⟨_, by rw [List.intercalate_cons_of_ne_nil hxs', List.append_assoc,
          List.append_assoc]⟩
    obtain ⟨c, u, hskip, hc⟩ := hfront x List.mem_cons_self y
    rw [hy, hskip]
    exact if_neg hc

/-! ### Values -/

theorem passWithin_scalar {v : Value} (before : Space) {rest : Text} {c : Char}
    (hfront : v.text = c :: u) (htoken : IsToken c) (hlist : c ≠ '[') (hobject : c ≠ '\x7b')
    (h : passScalar (v.text ++ rest) = .ok ((), rest)) :
    passWithin within (before.text ++ (v.text ++ rest)) = passAfter within rest := by
  rw [hfront, List.cons_append] at h ⊢
  rw [passWithin_eq, skipSpace_space before htoken]
  dsimp only
  rw [if_neg hlist, if_neg hobject, h]

theorem passKey_text (before : Space) (m : Member Value) (t : Text) :
    passKey (before.text ++ '"' :: (m.keyText ++ t)) = .ok ((), t) := by
  rw [passKey, skipSpace_space before (by decide)]
  dsimp only
  rw [if_pos rfl, Member.keyText, List.append_assoc, List.append_assoc, List.cons_append,
    passString_text]
  exact passColon_text m.afterKey t

/-- A value that is passed with the white space before it, whatever the brackets around it. What
    is after it is read next. -/
def Passed (v : Value) : Prop :=
  ∀ (within : List Bracket) (before : Space) {rest : Text}, NumberEnd rest →
    passWithin within (before.text ++ (v.text ++ rest)) = passAfter within rest

theorem passed_list (inner : Space) {es : List (Element Value)} (hes : ∀ e ∈ es, Passed e.value) :
    Passed (.list inner es) := by
  intro within before rest _
  have hitem : ∀ x ∈ es.map Element.text, ∀ c ∈ [',', ']'], ∀ t,
      passElement .list within (x ++ c :: t) = passAfter (.list :: within) (c :: t) := by
    intro x hx c hc t
    obtain ⟨e, he, rfl⟩ := List.mem_map.1 hx
    have hend : NumberEnd (e.after.text ++ c :: t) :=
      numberEnd_space e.after (List.mem_append_left ['\x7d'] hc) t
    rw [Element.text, List.append_assoc, List.append_assoc, passElement, hes e he _ _ hend,
      passAfter_space]
  have hfront : ∀ x ∈ es.map Element.text, ∀ t, ∃ c u,
      skipSpace (x ++ t) = c :: u ∧ c ≠ Bracket.closing .list := by
    intro x hx t
    obtain ⟨e, he, rfl⟩ := List.mem_map.1 hx
    obtain ⟨c, u, htext, htoken, hc⟩ := e.value.text_front
    refine ⟨c, u ++ (e.after.text ++ t), ?_, hc⟩
    rw [Element.text, List.append_assoc, List.append_assoc, htext, List.cons_append,
      skipSpace_space e.before htoken]
  rw [← passOpened_intercalate inner hfront hitem rest, Value.text, Value.textElements_eq]
  simp only [List.cons_append, List.append_assoc, List.nil_append]
  rw [passWithin_eq, skipSpace_space before (by decide)]
  exact if_pos rfl

theorem passed_object (inner : Space) {ms : List (Member Value)}
    (hms : ∀ m ∈ ms, Passed m.value) : Passed (.object inner ms) := by
  intro within before rest _
  have hitem : ∀ x ∈ ms.map Member.text, ∀ c ∈ [',', '\x7d'], ∀ t,
      passElement .object within (x ++ c :: t) = passAfter (.object :: within) (c :: t) := by
    intro x hx c hc t
    obtain ⟨m, hm, rfl⟩ := List.mem_map.1 hx
    have hsign : c ∈ [',', ']', '\x7d'] := by
      rcases List.mem_pair.1 hc with rfl | rfl <;> simp
    rw [Member.text, passElement_object]
    simp only [List.append_assoc, List.cons_append]
    rw [passKey_text]
    dsimp only
    rw [hms m hm _ _ (numberEnd_space m.after hsign t), passAfter_space]
  have hfront : ∀ x ∈ ms.map Member.text, ∀ t, ∃ c u,
      skipSpace (x ++ t) = c :: u ∧ c ≠ Bracket.closing .object := by
    intro x hx t
    obtain ⟨m, hm, rfl⟩ := List.mem_map.1 hx
    refine ⟨'"', m.keyText ++ (m.afterColon.text ++ (m.value.text ++ (m.after.text ++ t))), ?_,
      by decide⟩
    rw [Member.text]
    simp only [List.append_assoc, List.cons_append]
    exact skipSpace_space m.before (by decide) _
  rw [← passOpened_intercalate inner hfront hitem rest, Value.text, Value.textMembers_eq]
  simp only [List.cons_append, List.append_assoc, List.nil_append]
  rw [passWithin_eq, skipSpace_space before (by decide)]
  rfl

/-- **A value of any depth is passed.** -/
theorem passed (v : Value) : Passed v := by
  induction v using Value.induct with
  | null =>
    intro within before rest _
    exact passWithin_scalar before rfl (by decide) (by decide) (by decide)
      (passWord_text "ull".toList rest)
  | boolean b =>
    intro within before rest _
    cases b with
    | true =>
      exact passWithin_scalar before rfl (by decide) (by decide) (by decide)
        (passWord_text "rue".toList rest)
    | false =>
      exact passWithin_scalar before rfl (by decide) (by decide) (by decide)
        (passWord_text "alse".toList rest)
  | number n =>
    intro within before rest hrest
    obtain ⟨c, u, htext, hc⟩ := beginsNumber_text n
    refine passWithin_scalar before htext (isToken_of_beginsNumber hc) ?_ ?_
      (passScalar_number n hrest)
    · rintro rfl
      exact absurd hc (by decide)
    · rintro rfl
      exact absurd hc (by decide)
  | string s =>
    intro within before rest _
    exact passWithin_scalar before rfl (by decide) (by decide) (by decide)
      (passScalar_string s rest)
  | list inner es ih => exact passed_list inner ih
  | object inner ms ih => exact passed_object inner ih

/-- **A value is passed** with the white space before it. -/
theorem passValue_text (v : Value) (before : Space) {rest : Text} (hrest : NumberEnd rest) :
    passValue (before.text ++ (v.text ++ rest)) = .ok ((), rest) := by
  rw [passValue, passed v [] before hrest, passAfter]

end Brackets

/-! ## Reading -/

/-- The kind of value that has been found. -/
def Found.kind : Found → Kind
  | .null => .null
  | .boolean _ => .boolean
  | .number _ => .number
  | .string _ => .string
  | .sequence => .list
  | .map => .object

theorem readFound_word {c : Char} {w : Text} {x : Found} (hc : word? c = some (w, x))
    (rest : Text) : readFound (c :: (w ++ rest)) = .ok (x, rest) := by
  rw [readFound, hc]
  dsimp only
  rw [passWord_text]

theorem readFound_boolean (b : Bool) (rest : Text) :
    readFound ((Value.boolean b).text ++ rest) = .ok (.boolean b, rest) := by
  cases b with
  | true => exact readFound_word (w := "rue") rfl rest
  | false => exact readFound_word (w := "alse") rfl rest

theorem readFound_number (n : NumberLiteral) (rest : Text) :
    readFound (n.text ++ rest) =
      (readNumber (n.text ++ rest)).map fun x => (.number x.1, x.2) := by
  obtain ⟨c, t, htext, hc⟩ := beginsNumber_text n
  rw [htext, List.cons_append, readFound, word?_of_beginsNumber hc]
  dsimp only
  rw [if_pos hc]
  cases readNumber (c :: (t ++ rest)) <;> rfl

theorem readFound_string (s : List Piece) (rest : Text) :
    readFound ((Value.string s).text ++ rest) =
      (readString (Piece.textAll s ++ '"' :: rest)).map fun x => (.string x.1, x.2) := by
  have htext : (Value.string s).text ++ rest = '"' :: (Piece.textAll s ++ '"' :: rest) := by
    rw [Value.text]
    simp
  have hword : word? '"' = none := rfl
  rw [htext, readFound, hword]
  dsimp only
  rw [if_neg (by decide), if_pos rfl]
  cases readString (Piece.textAll s ++ '"' :: rest) <;> rfl

/-- **What is found is of the kind of the value.** -/
theorem kind_of_readFound {v : Value} {rest r : Text} {x : Found}
    (h : readFound (v.text ++ rest) = .ok (x, r)) : x.kind = v.kind := by
  cases v with
  | null =>
    have hnull : readFound (Value.null.text ++ rest) = .ok (.null, rest) :=
      readFound_word (w := "ull") rfl rest
    cases hnull.symm.trans h
    rfl
  | boolean b =>
    cases (readFound_boolean b rest).symm.trans h
    rfl
  | number n =>
    rw [Value.text, readFound_number] at h
    cases hread : readNumber (n.text ++ rest) with
    | error f => simp [hread, Except.map] at h
    | ok y =>
      rw [hread] at h
      cases h
      rfl
  | string s =>
    rw [readFound_string] at h
    cases hread : readString (Piece.textAll s ++ '"' :: rest) with
    | error f => simp [hread, Except.map] at h
    | ok y =>
      rw [hread] at h
      cases h
      rfl
  | list inner es =>
    cases h
    rfl
  | object inner ms =>
    cases h
    rfl

end JiraMarkup.Json

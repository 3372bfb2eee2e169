/-
  Reading the string literals of the grammar.

  * `readString_text`: the pieces up to the closing quote are read to what they stand for, and
    refused if they stand for nothing;
  * `passString_text`: they are passed whatever they stand for.
-/
import JiraMarkup.Proofs.Json.Grammar

namespace JiraMarkup.Json

/-! ## Escapes -/

theorem hexDigit?_char (d : HexDigit) : hexDigit? d.char = some d.value.val := by
  have h : ∀ (value : Fin 16) (capital : Bool),
      hexDigit? (HexDigit.char ⟨value, capital⟩) = some value.val := by decide
  exact h d.value d.capital

/-- **The digits of a numbered escape are read.** -/
theorem readCodeUnit_text (u : CodeUnit) (t : Text) :
    readCodeUnit (u.text ++ t) = .ok (u.value, t) := by
  have hbytes : ¬(u.text ++ t).byteCount < 4 := by
    have h1 := u.first.char.utf8Size_pos
    have h2 := u.second.char.utf8Size_pos
    have h3 := u.third.char.utf8Size_pos
    have h4 := u.fourth.char.utf8Size_pos
    simp only [CodeUnit.text, List.cons_append, List.nil_append, Text.byteCount]
    omega
  have hnumber : hexNumber? u.text = some u.value := by
    simp [hexNumber?, CodeUnit.text, CodeUnit.value, hexDigit?_char]
  have htake : (u.text ++ t).take 4 = u.text := rfl
  have hdrop : (u.text ++ t).drop 4 = t := rfl
  rw [readCodeUnit, if_neg hbytes, htake, hdrop, hnumber]

theorem letterEscape?_of_mem {letter c : Char} (h : (letter, c) ∈ escapes) :
    letterEscape? letter = some c := by
  have hall : ∀ e ∈ escapes, letterEscape? e.1 = some e.2 := by decide
  exact hall _ h

theorem ne_of_mem_escapes {letter c : Char} (h : (letter, c) ∈ escapes) : letter ≠ 'u' := by
  have hall : ∀ e ∈ escapes, e.1 ≠ 'u' := by decide
  exact hall _ h

theorem letterEscape?_u : letterEscape? 'u' = none := rfl

theorem readEscape_letter {letter c : Char} (h : (letter, c) ∈ escapes) (t : Text) :
    readEscape (letter :: t) = .ok (c, t) := by
  rw [readEscape, letterEscape?_of_mem h]

theorem readEscape_u (t : Text) : readEscape ('u' :: t) = readNumbered t := by
  rw [readEscape, letterEscape?_u]
  rfl

theorem readNumbered_unit {u : CodeUnit} (hlow : ¬isLowSurrogate u.value = true)
    (hhigh : ¬isHighSurrogate u.value = true) (t : Text) :
    readNumbered (u.text ++ t) = .ok (Char.ofNat u.value, t) := by
  rw [readNumbered, readCodeUnit_text]
  simp only [hlow, hhigh, Bool.false_eq_true, if_false]

theorem readNumbered_low {u : CodeUnit} (hlow : isLowSurrogate u.value = true) (t : Text) :
    (readNumbered (u.text ++ t)).toOption = none := by
  rw [readNumbered, readCodeUnit_text]
  simp only [hlow, if_true]
  rfl

theorem readNumbered_high {u : CodeUnit} (hlow : ¬isLowSurrogate u.value = true)
    (hhigh : isHighSurrogate u.value = true) (t : Text) :
    readNumbered (u.text ++ t) = readSecondHalf u.value t := by
  rw [readNumbered, readCodeUnit_text]
  simp only [hlow, hhigh, Bool.false_eq_true, if_false, if_true]

theorem readSecondHalf_numbered (n : Nat) (v : CodeUnit) (t : Text) :
    readSecondHalf n ('\\' :: 'u' :: (v.text ++ t)) =
      if isLowSurrogate v.value then .ok (pairChar n v.value, t)
      else failBefore .loneSurrogate t := by
  rw [readSecondHalf, readCodeUnit_text]

theorem readSecondHalf_letter {n : Nat} {letter : Char} (h : letter ≠ 'u') (t : Text) :
    readSecondHalf n ('\\' :: letter :: t) = failAt .endOfPair (letter :: t) := by
  rw [readSecondHalf.eq_def]
  split <;> simp_all

theorem readSecondHalf_plain {n : Nat} {c : Char} (h : c ≠ '\\') (t : Text) :
    readSecondHalf n (c :: t) = failAt .endOfPair (c :: t) := by
  rw [readSecondHalf.eq_def]
  split <;> simp_all

/-- Only a numbered escape can follow the first of two surrogates. -/
theorem readSecondHalf_other (n : Nat) {ps : List Piece}
    (h : ∀ v ps', ps = Piece.numbered v :: ps' → False) (rest : Text) :
    (readSecondHalf n (Piece.textAll ps ++ '"' :: rest)).toOption = none := by
  cases ps with
  | nil => rfl
  | cons p ps =>
    cases p with
    | plain c hc =>
      rw [Piece.textAll_plain, List.cons_append, readSecondHalf_plain hc.2.2]
      rfl
    | escaped letter c hc =>
      rw [Piece.textAll_escaped, List.cons_append, List.cons_append,
        readSecondHalf_letter (ne_of_mem_escapes hc)]
      rfl
    | numbered u => exact absurd rfl (h u ps)

/-! ## Literals -/

theorem readString_quote (t : Text) : readString ('"' :: t) = .ok ([], t) := by
  rw [readString]
  rfl

theorem readString_plain {c : Char} (hc : 0x20 ≤ c.toNat ∧ c ≠ '"' ∧ c ≠ '\\') (t : Text) :
    (readString (c :: t)).toOption = (readString t).toOption.map fun x => (c :: x.1, x.2) := by
  have hcontrol : isControl c = false := by simpa [isControl] using hc.1
  rw [readString, if_neg hc.2.1, if_neg hc.2.2, hcontrol]
  cases readString t <;> rfl

theorem readString_escape {t rest : Text} {c : Char} (h : readEscape t = .ok (c, rest)) :
    (readString ('\\' :: t)).toOption =
      (readString rest).toOption.map fun x => (c :: x.1, x.2) := by
  rw [readString, if_neg (by decide), if_pos rfl]
  split
  · next herror => cases h.symm.trans herror
  · next hok =>
    cases h.symm.trans hok
    cases readString rest <;> rfl

theorem readString_refused {t : Text} (h : (readEscape t).toOption = none) :
    (readString ('\\' :: t)).toOption = none := by
  rw [readString, if_neg (by decide), if_pos rfl]
  split
  · rfl
  · next hok => simp [hok, Except.toOption] at h

/-- **A string literal is read to what it stands for**, if it stands for something. -/
theorem readString_text (ps : List Piece) (rest : Text) :
    (readString (Piece.textAll ps ++ '"' :: rest)).toOption =
      (Piece.decode? ps).map fun t => (t, rest) := by
  have hfinish : ∀ (c : Char) (t? : Option Text),
      (t?.map fun t => (t, rest)).map (fun x => (c :: x.1, x.2)) =
        (t?.map (c :: ·)).map fun t => (t, rest) := by
    intro c t?
    cases t? <;> rfl
  induction ps using Piece.decode?.induct with
  | case1 =>
    rw [Piece.decode?]
    exact congrArg Except.toOption (readString_quote rest)
  | case2 c hc ps ih =>
    rw [Piece.decode?, Piece.textAll_plain, List.cons_append, readString_plain hc, ih, hfinish]
  | case3 letter c hc ps ih =>
    rw [Piece.decode?, Piece.textAll_escaped, List.cons_append, List.cons_append,
      readString_escape (readEscape_letter hc _), ih, hfinish]
  | case4 u ps hlow =>
    rw [Piece.decode?.eq_def, Piece.textAll_numbered, List.cons_append, List.cons_append,
      List.append_assoc]
    simp only [hlow, if_true, Option.map_none]
    exact readString_refused (by rw [readEscape_u, readNumbered_low hlow])
  | case5 u hlow hhigh v ps hlow' ih =>
    rw [Piece.decode?, Piece.textAll_numbered, Piece.textAll_numbered]
    simp only [hlow, hhigh, hlow', Bool.false_eq_true, if_false, if_true, List.cons_append,
      List.append_assoc]
    rw [← hfinish, ← ih]
    refine readString_escape ?_
    rw [readEscape_u, readNumbered_high hlow hhigh, readSecondHalf_numbered, if_pos hlow']
  | case6 u hlow hhigh v ps hlow' =>
    rw [Piece.decode?, Piece.textAll_numbered, Piece.textAll_numbered]
    simp only [hlow, hhigh, hlow', Bool.false_eq_true, if_false, if_true, Option.map_none,
      List.cons_append, List.append_assoc]
    refine readString_refused ?_
    rw [readEscape_u, readNumbered_high hlow hhigh, readSecondHalf_numbered, if_neg hlow']
    rfl
  | case7 u ps hlow hhigh hother =>
    have hnone : Piece.decode? (.numbered u :: ps) = none := by
      rw [Piece.decode?.eq_def]
      simp only [hlow, hhigh, Bool.false_eq_true, if_false, if_true]
    rw [hnone, Piece.textAll_numbered, List.cons_append, List.cons_append, List.append_assoc]
    refine readString_refused ?_
    rw [readEscape_u, readNumbered_high hlow hhigh, readSecondHalf_other _ hother]
  | case8 u ps hlow hhigh ih =>
    rw [Piece.decode?.eq_def, Piece.textAll_numbered, List.cons_append, List.cons_append,
      List.append_assoc]
    simp only [hlow, hhigh, Bool.false_eq_true, if_false]
    rw [← hfinish, ← ih]
    refine readString_escape ?_
    rw [readEscape_u, readNumbered_unit hlow hhigh]

theorem passString_escape {t rest : Text} (h : passEscape t = .ok ((), rest)) :
    passString ('\\' :: t) = passString rest := by
  rw [passString, if_neg (by decide), if_pos rfl]
  split
  · next herror => cases h.symm.trans herror
  · next hok =>
    cases h.symm.trans hok
    rfl

/-- **A string literal is passed**, whatever it stands for. -/
theorem passString_text (ps : List Piece) (rest : Text) :
    passString (Piece.textAll ps ++ '"' :: rest) = .ok ((), rest) := by
  induction ps with
  | nil => rw [Piece.textAll, List.flatMap_nil, List.nil_append, passString, if_pos rfl]
  | cons p ps ih =>
    cases p with
    | plain c hc =>
      have hcontrol : isControl c = false := by simpa [isControl] using hc.1
      rw [Piece.textAll_plain, List.cons_append, passString, if_neg hc.2.1, if_neg hc.2.2,
        hcontrol, if_neg Bool.false_ne_true, ih]
    | escaped letter c hc =>
      rw [← ih, Piece.textAll_escaped, List.cons_append, List.cons_append]
      refine passString_escape ?_
      rw [passEscape, letterEscape?_of_mem hc]
      rfl
    | numbered u =>
      rw [← ih, Piece.textAll_numbered, List.cons_append, List.cons_append, List.append_assoc]
      refine passString_escape ?_
      rw [passEscape, letterEscape?_u, readCodeUnit_text]
      rfl

end JiraMarkup.Json

/-
  A quoted text can be read back.

  * `readQuotedChar?` reads the character that a quoted text begins with, and
    `readQuotedChar?_quoteChar` says that it undoes `quoteChar`, whatever follows;
  * `quote_append_inj`: where a quoted text ends is certain, and so is the text;
  * `quoteAll_inj`: so are the texts of a list.
-/
import JiraMarkup.Markdown.Escape
import JiraMarkup.Text.Quoted
import Mathlib.Data.Nat.Digits.Defs

namespace JiraMarkup

open Markdown (hexValue)

/-! ## Numbers in base sixteen -/

/-- The number that digits in base sixteen stand for. -/
def hexNumber (t : Text) : Nat := t.foldl (fun n c => 16 * n + hexValue c) 0

theorem hexValue_digitChar : ∀ d < 16, hexValue d.digitChar = d := by decide

theorem hexNumber_toDigits (n : Nat) : hexNumber (Nat.toDigits 16 n) = n := by
  induction n using Nat.strong_induction_on with
  | _ n ih =>
    rw [Nat.toDigits_eq_if (by decide)]
    split
    · next h => simp [hexNumber, hexValue_digitChar n h]
    · next h =>
      have hquot := ih (n / 16) (Nat.div_lt_self (by omega) (by decide))
      have hdigit := hexValue_digitChar (n % 16) (Nat.mod_lt n (by decide))
      rw [hexNumber] at hquot
      rw [hexNumber, List.foldl_append, hquot, List.foldl_cons, List.foldl_nil, hdigit]
      exact Nat.div_add_mod n 16

theorem brace_notMem_toDigits (n : Nat) : '\x7d' ∉ Nat.toDigits 16 n := by
  induction n using Nat.strong_induction_on with
  | _ n ih =>
    rw [Nat.toDigits_eq_if (by decide)]
    split
    · simp
    · have hquot := ih (n / 16) (Nat.div_lt_self (by omega) (by decide))
      simp [hquot]

/-! ## Characters -/

/-- The character that the front of a quoted text stands for, and what follows it; none at the
    closing quote. -/
def readQuotedChar? : Text → Option (Char × Text)
  | '\\' :: 'u' :: '\x7b' :: t =>
    let digits := t.takeWhile (· != '\x7d')
    some (Char.ofNat (hexNumber digits), t.drop (digits.length + 1))
  | '\\' :: 'n' :: t => some ('\n', t)
  | '\\' :: 'r' :: t => some ('\r', t)
  | '\\' :: 't' :: t => some ('\t', t)
  | '\\' :: '0' :: t => some ('\x00', t)
  | '\\' :: c :: t => some (c, t)
  | '"' :: _ => none
  | c :: t => some (c, t)
  | [] => none

theorem readQuotedChar?_number (n : Nat) (rest : Text) :
    readQuotedChar? ("\\u\x7b" ++ Nat.toDigits 16 n ++ "\x7d" ++ rest) =
      some (Char.ofNat n, rest) := by
  have hopen : "\\u\x7b".toList = ['\\', 'u', '\x7b'] := by decide
  have hclose : "\x7d".toList = ['\x7d'] := by decide
  have hdigits : (Nat.toDigits 16 n ++ '\x7d' :: rest).takeWhile (· != '\x7d') =
      Nat.toDigits 16 n := by
    rw [List.takeWhile_append_of_pos, List.takeWhile_cons_of_neg (by simp), List.append_nil]
    intro c hc
    simpa using fun heq : c = '\x7d' => brace_notMem_toDigits n (heq ▸ hc)
  simp only [hopen, hclose, List.cons_append, List.nil_append, List.append_assoc,
    readQuotedChar?, hdigits, hexNumber_toDigits]
  simp

/-- **Reading undoes quoting**, character by character. -/
theorem readQuotedChar?_quoteChar (c : Char) (rest : Text) :
    readQuotedChar? (quoteChar c ++ rest) = some (c, rest) := by
  rw [quoteChar]
  split_ifs with hquote hslash hnl hcr htab hzero
  · subst hquote; rfl
  · subst hslash; rfl
  · subst hnl; rfl
  · subst hcr; rfl
  · subst htab; rfl
  · have hc : c = '\x00' := Char.toNat_inj.1 hzero
    subst hc
    rfl
  · rw [List.singleton_append, readQuotedChar?.eq_def]
    split <;> simp_all
  · rw [readQuotedChar?_number, Char.ofNat_toNat]

/-! ## Texts -/

/-- What is between the quotes ends at the closing one. -/
theorem quoted_append_inj {t t' r r' : Text}
    (h : t.flatMap quoteChar ++ '"' :: r = t'.flatMap quoteChar ++ '"' :: r') :
    t = t' ∧ r = r' := by
  have hend : ∀ r, readQuotedChar? ('"' :: r) = none := fun _ => rfl
  induction t generalizing t' with
  | nil =>
    cases t' with
    | nil => exact ⟨rfl, (List.cons.inj h).2⟩
    | cons c' t' =>
      have hread := congrArg readQuotedChar? h
      rw [List.flatMap_cons, List.append_assoc, readQuotedChar?_quoteChar] at hread
      cases hread
  | cons c t ih =>
    have hread := congrArg readQuotedChar? h
    rw [List.flatMap_cons, List.append_assoc, readQuotedChar?_quoteChar] at hread
    cases t' with
    | nil => cases hread
    | cons c' t' =>
      rw [List.flatMap_cons, List.append_assoc, readQuotedChar?_quoteChar, Option.some.injEq,
        Prod.mk.injEq] at hread
      obtain ⟨rfl, hrest⟩ := hread
      obtain ⟨rfl, hr⟩ := ih hrest
      exact ⟨rfl, hr⟩

theorem quote_append (t r : Text) : quote t ++ r = '"' :: (t.flatMap quoteChar ++ '"' :: r) := by
  have hquote : "\"".toList = ['"'] := by decide
  unfold quote
  simp [hquote]

/-- **Where a quoted text ends is certain, and so is the text.** -/
theorem quote_append_inj {t t' r r' : Text} (h : quote t ++ r = quote t' ++ r') :
    t = t' ∧ r = r' := by
  rw [quote_append, quote_append] at h
  exact quoted_append_inj (List.cons.inj h).2

theorem quoteAll_cons (t : Text) (ts : List Text) :
    quoteAll (t :: ts) = quote t ++ ts.flatMap fun u => ',' :: ' ' :: quote u := by
  have hcomma : ", ".toList = [',', ' '] := by decide
  induction ts generalizing t with
  | nil => simp [quoteAll]
  | cons u us ih =>
    rw [quoteAll, ih u, hcomma, List.flatMap_cons]
    · simp
    · simp

/-- Quoted texts are those of one list only. -/
theorem quoteAll_inj {ts ts' : List Text} (h : quoteAll ts = quoteAll ts') : ts = ts' := by
  have hrest : ∀ us us' : List Text, (us.flatMap fun u => ',' :: ' ' :: quote u) =
      (us'.flatMap fun u => ',' :: ' ' :: quote u) → us = us' := by
    intro us
    induction us with
    | nil =>
      rintro (_ | ⟨u', us'⟩) heq
      · rfl
      · cases heq
    | cons u us ih =>
      rintro (_ | ⟨u', us'⟩) heq
      · cases heq
      · rw [List.flatMap_cons, List.flatMap_cons, List.cons_append, List.cons_append,
          List.cons_append, List.cons_append] at heq
        obtain ⟨rfl, hus⟩ := quote_append_inj (List.cons.inj (List.cons.inj heq).2).2
        rw [ih us' hus]
  rcases ts with _ | ⟨t, ts⟩ <;> rcases ts' with _ | ⟨t', ts'⟩
  · rfl
  · rw [quoteAll_cons, quote_append] at h
    cases h
  · rw [quoteAll_cons, quote_append] at h
    cases h
  · rw [quoteAll_cons, quoteAll_cons] at h
    obtain ⟨rfl, hts⟩ := quote_append_inj h
    rw [hrest ts ts' hts]

end JiraMarkup

/-
  Nothing depends on how the lines of a text are ended.

  * `Text.endedLines` puts lines together with an ending of its own between each two, and
    `Text.Unambiguous` says that the text can only be read as these lines: a carriage return and
    a line feed would be one ending if there were nothing but an empty line between them;
  * `Text.normalizeLineEndings_endedLines`: such a text is normalized to the lines with line feeds
    between them; `Text.return_notMem_normalizeLineEndings` and `Text.normalizeLineEndings_eq_self`
    are about any text;
  * `conversion_endedLines`: it is converted as the same lines with line feeds are.
-/
import JiraMarkup.Conversion
import JiraMarkup.Proofs.Text.Lines
import Mathlib.Data.List.Chain

namespace JiraMarkup

namespace Text

/-! ## Endings -/

/-- What ends a line. -/
inductive LineEnding where
  /-- A line feed. -/
  | lf
  /-- A carriage return and a line feed. -/
  | crlf
  /-- A carriage return. -/
  | cr
  deriving DecidableEq, Repr

/-- The characters of an ending. -/
def LineEnding.text : LineEnding → Text
  | lf => ['\n']
  | crlf => ['\r', '\n']
  | cr => ['\r']

/-- A line and those that follow it, each after the ending of the line before. -/
def endedLines (l : Text) : List (LineEnding × Text) → Text
  | [] => l
  | (ending, l') :: rest => l ++ ending.text ++ endedLines l' rest

/-- No line that is ended by a carriage return is followed by an empty one that is ended by a
    line feed. -/
def Unambiguous (rest : List (LineEnding × Text)) : Prop :=
  rest.IsChain fun a b => ¬ (a.1 = .cr ∧ a.2 = [] ∧ b.1 = .lf)

instance : DecidablePred Unambiguous := fun rest =>
  inferInstanceAs (Decidable (rest.IsChain _))

/-! ## Normalizing -/

theorem normalizeLineEndings_cons {c : Char} (hc : c ≠ '\r') (t : Text) :
    normalizeLineEndings (c :: t) = c :: normalizeLineEndings t := by
  rw [normalizeLineEndings_eq_map, joinPairs.eq_2 c t fun _ heq => absurd heq hc, List.map_cons,
    if_neg hc, normalizeLineEndings_eq_map]

theorem normalizeLineEndings_append {l : Text} (hl : '\r' ∉ l) (t : Text) :
    normalizeLineEndings (l ++ t) = l ++ normalizeLineEndings t := by
  induction l with
  | nil => rfl
  | cons c l ih =>
    rw [List.mem_cons, not_or] at hl
    rw [List.cons_append, normalizeLineEndings_cons (Ne.symm hl.1), ih hl.2, List.cons_append]

theorem normalizeLineEndings_crlf (t : Text) :
    normalizeLineEndings ('\r' :: '\n' :: t) = '\n' :: normalizeLineEndings t := by
  rw [normalizeLineEndings_eq_map, normalizeLineEndings_eq_map]
  rfl

/-- A carriage return is an ending of its own unless a line feed follows. -/
theorem normalizeLineEndings_cr {t : Text} (ht : t.head? ≠ some '\n') :
    normalizeLineEndings ('\r' :: t) = '\n' :: normalizeLineEndings t := by
  have hjoin : joinPairs ('\r' :: t) = '\r' :: joinPairs t := by
    refine joinPairs.eq_2 _ t ?_
    rintro t' - rfl
    exact ht rfl
  rw [normalizeLineEndings_eq_map, hjoin, List.map_cons, if_pos rfl, normalizeLineEndings_eq_map]

theorem return_notMem_normalizeLineEndings (t : Text) : '\r' ∉ normalizeLineEndings t := by
  intro hmem
  rw [normalizeLineEndings_eq_map, List.mem_map] at hmem
  obtain ⟨c, -, hc⟩ := hmem
  split at hc
  · exact absurd hc (by decide)
  · contradiction

/-- Normalizing gives another text exactly if there is a carriage return. -/
theorem normalizeLineEndings_eq_self {t : Text} : normalizeLineEndings t = t ↔ '\r' ∉ t := by
  constructor
  · intro heq
    rw [← heq]
    exact return_notMem_normalizeLineEndings t
  · exact normalizeLineEndings_of_notMem

/-- A text is kept exactly if there is none. -/
theorem kept_normalize {t : Text} : (normalize t).kept = true ↔ '\r' ∉ t := by
  by_cases h : '\r' ∈ t
  · rw [normalize, if_pos (by simpa using h)]
    simp [h]
  · rw [normalize_of_notMem h]
    simp [h]

/-! ## Lines with their endings -/

/-- Lines begin with a line feed only if the first of them is empty and ended by it. -/
theorem eq_nil_of_head?_endedLines {l : Text} {rest : List (LineEnding × Text)} (hl : '\n' ∉ l)
    (h : (endedLines l rest).head? = some '\n') :
    l = [] ∧ ∃ l' rest', rest = (.lf, l') :: rest' := by
  rcases l with _ | ⟨c, l⟩
  · refine ⟨rfl, ?_⟩
    rcases rest with _ | ⟨⟨ending, l'⟩, rest⟩
    · cases h
    · cases ending with
      | lf => exact ⟨l', rest, rfl⟩
      | crlf => exact absurd h (by simp [endedLines, LineEnding.text])
      | cr => exact absurd h (by simp [endedLines, LineEnding.text])
  · have hc : c = '\n' := by
      rcases rest with _ | ⟨⟨ending, l'⟩, rest⟩ <;> simpa [endedLines] using h
    exact absurd (List.mem_cons_self ..) (hc ▸ hl)

/-- **Lines are normalized to lines with line feeds between them**, whatever endings they have,
    if the endings cannot be mistaken. -/
theorem normalizeLineEndings_endedLines {l : Text} {rest : List (LineEnding × Text)}
    (hl : ∀ x ∈ l :: rest.map Prod.snd, '\r' ∉ x ∧ '\n' ∉ x) (h : Unambiguous rest) :
    normalizeLineEndings (endedLines l rest) = unlines (l :: rest.map Prod.snd) := by
  induction rest generalizing l with
  | nil => exact normalizeLineEndings_of_notMem (hl l (by simp)).1
  | cons next rest ih =>
    obtain ⟨ending, l'⟩ := next
    rw [List.forall_mem_cons] at hl
    have hrest := ih hl.2 h.tail
    have hlf : ∀ t, normalizeLineEndings ('\n' :: t) = '\n' :: normalizeLineEndings t :=
      normalizeLineEndings_cons (by decide)
    rw [endedLines, List.append_assoc, normalizeLineEndings_append hl.1.1, List.map_cons,
      unlines_cons (by simp), ← hrest]
    congr 1
    cases ending with
    | lf => exact hlf _
    | crlf => exact normalizeLineEndings_crlf _
    | cr =>
      refine normalizeLineEndings_cr fun hhead => ?_
      obtain ⟨rfl, l'', rest', rfl⟩ := eq_nil_of_head?_endedLines (hl.2 l' (by simp)).2 hhead
      exact (List.isChain_cons_cons.1 h).1 ⟨rfl, rfl, rfl⟩

end Text

open Text

/-! ## Conversions -/

/-- Only the normalized text is converted. -/
theorem convert_congr {t t' : Text} (h : normalizeLineEndings t = normalizeLineEndings t')
    (highlighter : Html.Highlighter) (settings : Settings) :
    convert t settings = convert t' settings ∧
      toHtml highlighter t settings = toHtml highlighter t' settings := by
  rw [convert, convert, toHtml, toHtml, h]
  exact ⟨rfl, rfl⟩

/-- **Nothing depends on how lines are ended.** Lines with any endings that cannot be mistaken are
    normalized to the same lines with line feeds, and converted as these are, whatever the settings.
    No text has a carriage return when it is normalized, so that normalizing it again does nothing;
    and a text is left as it is exactly if it has no carriage return. -/
theorem conversion_endedLines {l : Text} {rest : List (LineEnding × Text)}
    (hl : ∀ x ∈ l :: rest.map Prod.snd, '\r' ∉ x ∧ '\n' ∉ x) (h : Unambiguous rest) :
    normalizeLineEndings (endedLines l rest) = unlines (l :: rest.map Prod.snd) ∧
      (∀ highlighter settings,
        convert (endedLines l rest) settings = convert (unlines (l :: rest.map Prod.snd)) settings ∧
          toHtml highlighter (endedLines l rest) settings =
            toHtml highlighter (unlines (l :: rest.map Prod.snd)) settings) ∧
      ∀ t, '\r' ∉ normalizeLineEndings t ∧
        normalizeLineEndings (normalizeLineEndings t) = normalizeLineEndings t ∧
        ((normalize t).kept = true ↔ '\r' ∉ t) ∧ (normalizeLineEndings t = t ↔ '\r' ∉ t) := by
  have hnormal := normalizeLineEndings_endedLines hl h
  refine ⟨hnormal, fun highlighter => convert_congr ?_ highlighter, fun t => ?_⟩
  · rw [← hnormal]
    exact (normalizeLineEndings_eq_self.2 (return_notMem_normalizeLineEndings _)).symm
  · have hreturn := return_notMem_normalizeLineEndings t
    exact ⟨hreturn, normalizeLineEndings_eq_self.2 hreturn, kept_normalize,
      normalizeLineEndings_eq_self⟩

/-- All three endings, and an empty line after a carriage return. -/
theorem conversion_endedLines_mixed :
    let rest : List (LineEnding × Text) := [(.cr, []), (.crlf, "b__c"), (.cr, "d"), (.lf, [])]
    (∀ x ∈ "# a".toList :: rest.map Prod.snd, '\r' ∉ x ∧ '\n' ∉ x) ∧ Unambiguous rest ∧
      normalizeLineEndings (endedLines "# a" rest) = "# a\n\nb__c\nd\n".toList ∧
      ∀ highlighter settings,
        convert (endedLines "# a" rest) settings = convert "# a\n\nb__c\nd\n" settings ∧
          toHtml highlighter (endedLines "# a" rest) settings =
            toHtml highlighter "# a\n\nb__c\nd\n" settings := by
  intro rest
  have hl : ∀ x ∈ "# a".toList :: rest.map Prod.snd, '\r' ∉ x ∧ '\n' ∉ x := by decide
  have h : Unambiguous rest := by decide
  have hlines : unlines ("# a".toList :: rest.map Prod.snd) = "# a\n\nb__c\nd\n".toList := by decide
  obtain ⟨hnormal, hconvert, -⟩ := conversion_endedLines hl h
  rw [hlines] at hnormal hconvert
  exact ⟨hl, h, hnormal, hconvert⟩

/-- An empty line between a carriage return and a line feed cannot be seen. -/
example : normalizeLineEndings (endedLines "a" [(.cr, []), (.lf, "b")]) = "a\nb".toList := by
  decide

end JiraMarkup

/-
  The marker lines of a list. A list is written line by line, and not item by item: each filled
  line of an item is behind a marker of its own.

  * `filled_lines_output_list`: the filled lines of a list are those of its items, in order, once
    the white space at the two ends of all of them together is trimmed;
  * `ItemLines` relates an item to its lines: they show all of it, and there are no more of them
    than the item has filled lines;
  * `bullets_lost_and_split`: an empty item has no marker line, and one with a break has two;
  * `markerLines_render` gives the marker lines of any list, one for each item if each comes to
    one line.
-/
import JiraMarkup.Proofs.Text.TrimmedParts
import JiraMarkup.Proofs.Wiki.ListLines
import JiraMarkup.Proofs.Wiki.TreeRendering

namespace JiraMarkup.Wiki

open Markdown (Inline Block)
open Text (filled inkLines trimParts TrimmedTo)

/-! ## Lists -/

variable {settings : Settings}

/-- The lines of the items of a list, for each item its own. -/
def itemLines (texts : List Text) : List (List Text) :=
  (trimParts texts).map fun t => filled (Text.lines t)

/-- The texts of the items, each with a newline, are trimmed as one. -/
theorem filled_lines_body (texts : List Text) :
    filled (Text.lines (Text.trimWhite (texts.flatMap (· ++ ['\n'])))) =
      (itemLines texts).flatten := by
  rw [itemLines, ← List.flatMap_def, ← Text.filled_lines_trimWhite_unlines]
  by_cases h : texts = []
  · subst h
    rfl
  · rw [List.flatMap_def, Text.flatten_map_newline h, Text.trimWhite_append_newline]

/-- **The filled lines of a list are its items' lines behind markers.** -/
theorem filled_lines_output_list (start : Option Nat) (items : List (List (Block (List Inline)))) :
    filled (Text.lines (Block.output (jira settings) (.list start items))) =
      (itemLines (items.map (Block.outputAll (jira settings)))).flatten.map fun l =>
        mergeBullets (marker start.isSome :: ' ' :: l) := by
  have hbody : items.flatMap (fun i => Block.outputAll (jira settings) i ++ ['\n']) =
      (items.map (Block.outputAll (jira settings))).flatMap (· ++ ['\n']) := by
    rw [List.flatMap_map]
  rw [← filled_lines_body, ← hbody, Block.output_list]
  exact filled_lines_list _ _

/-- The lines of an item with the text `t`. -/
structure ItemLines (t : Text) (ls : List Text) : Prop where
  /-- They show what the lines of the text show. -/
  ink : filled (ls.map inked) = inkLines t
  /-- There is none for an empty line. -/
  length_le : ls.length ≤ (filled (Text.lines t)).length

theorem forall₂_itemLines (texts : List Text) :
    List.Forall₂ ItemLines texts (itemLines texts) := by
  rw [itemLines, List.forall₂_map_right_iff]
  refine (Text.forall₂_trimParts texts).imp fun t u h => ⟨?_, h.length_le⟩
  rw [Text.filled_map_inked_filled]
  exact h.ink

/-- A text that comes to one line, which shows something. -/
def OneLine (t : Text) : Prop := ∃ l, filled (Text.lines t) = [l] ∧ inked l ≠ []

/-- An item that comes to one line has that line. -/
theorem ItemLines.eq_singleton {t : Text} {ls : List Text} (h : ItemLines t ls)
    (ht : OneLine t) : ∃ l, ls = [l] ∧ inked l = inked t := by
  obtain ⟨l, hl, hne⟩ := ht
  have hink : inkLines t = [inked l] := by
    rw [inkLines, ← Text.filled_map_inked_filled, hl, List.map_singleton, Text.filled_cons hne]
    rfl
  have hle := h.length_le
  rw [hl] at hle
  have hshown := h.ink
  cases ls with
  | nil => simp [hink] at hshown
  | cons l' ls =>
    obtain rfl : ls = [] := List.eq_nil_of_length_eq_zero (by simpa using hle)
    refine ⟨l', rfl, ?_⟩
    rw [Text.inked_eq_flatten_inkLines t, ← hshown]
    by_cases hl' : inked l' = []
    · simp [hl']
    · simp [Text.filled_cons hl']

/-- Where each item has one line, the lines are those of the items. -/
theorem forall₂_flatten {texts : List Text} {groups : List (List Text)}
    (h : List.Forall₂ ItemLines texts groups) (ht : ∀ t ∈ texts, OneLine t) :
    List.Forall₂ (fun t l => inked l = inked t) texts groups.flatten := by
  induction h with
  | nil => exact .nil
  | @cons t ls texts groups h _ ih =>
    rw [List.forall_mem_cons] at ht
    obtain ⟨l, rfl, hl⟩ := h.eq_singleton ht.1
    exact .cons hl (ih ht.2)

/-! ## What is rendered -/

/-- Whether a line begins with a marker. -/
def isMarked (line : Text) : Bool := Text.beginsWith "* " line || Text.beginsWith "# " line

/-- **A list has not one marker line for each item.** An empty item has none, and an item with a
    break in it has two. -/
theorem bullets_lost_and_split :
    let marked (items : List (List (Block (List Inline)))) :=
      (Text.lines (render (jira .default) false (Markdown.events [.list none items])).output).filter
        isMarked
    let lost : List (List (Block (List Inline))) := [[], [.plain [.text "b"]]]
    let split : List (List (Block (List Inline))) := [[.plain [.text "a", .softBreak, .text "b"]]]
    lost.length = 2 ∧ marked lost = ["* b".toList] ∧
      split.length = 1 ∧ marked split = ["* a".toList, "* b".toList] := by
  decide +kernel

/-- **The marker lines of a list.** Whatever is in its items, the filled lines of a list are the
    lines of its items behind markers, item by item and in order. For each item there are those of
    its filled lines that the trimming of all items together leaves: they show all that the item
    shows. If every item comes to one line, then each has one marker line, which shows the
    item. -/
theorem markerLines_render (settings : Settings) (verbose : Bool) (start : Option Nat)
    (items : List (List (Block (List Inline)))) :
    let texts := items.map (Block.outputAll (jira settings))
    let lines := filled (Text.lines
      (render (jira settings) verbose (Markdown.events [.list start items])).output)
    List.Forall₂ ItemLines texts (itemLines texts) ∧
      List.Forall₂ (MarkerLine start.isSome) (itemLines texts).flatten lines ∧
      ((∀ t ∈ texts, OneLine t) → List.Forall₂
        (fun t line => ∃ l, MarkerLine start.isSome l line ∧ inked l = inked t) texts lines) := by
  intro texts lines
  have hlines : lines = (itemLines texts).flatten.map fun l =>
      mergeBullets (marker start.isSome :: ' ' :: l) := by
    rw [← filled_lines_output_list, ← List.append_nil (Block.output _ _),
      ← Block.outputAll_nil, ← Block.outputAll_cons, ← render_events]
  have hitems := forall₂_itemLines texts
  refine ⟨hitems, ?_, fun ht => ?_⟩
  · rw [hlines, List.forall₂_map_right_iff, List.forall₂_same]
    exact fun l _ => markerLine_mergeBullets _ l
  · rw [hlines, List.forall₂_map_right_iff]
    exact (forall₂_flatten hitems ht).imp fun t l h => ⟨l, markerLine_mergeBullets _ l, h⟩

end JiraMarkup.Wiki

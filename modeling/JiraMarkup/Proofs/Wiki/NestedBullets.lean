/-
  What becomes of the bullets of nested lists.

  Each list puts a bullet in front of the lines of its body and joins it to a single bullet
  that follows. Bullets that are joined already are not joined again, so that an item
  within many lists has its bullets in pairs.

  * `bulleted depth t` is how the item `t` within `depth` lists comes out, `starred depth t`
    how it should; `mergeBullets_bulleted` is the step from one list to the one around it;
  * `Outline` are trees of items, `Outline.lines` their lines;
  * `filled_lines_render` gives the filled lines of a list of trees of any depth. They are
    the lines that they should be exactly if no item is within more than two lists.
-/
import JiraMarkup.Proofs.Text.Trimming
import JiraMarkup.Proofs.Wiki.ListLines
import JiraMarkup.Proofs.Wiki.TreeRendering

namespace JiraMarkup.Wiki

open Markdown (Inline Block)
open Text (filled)

/-! ## Bullets -/

/-- A line behind the bullets of `depth` lists, as they come out. -/
def bulleted : (depth : Nat) → Text → Text
  | 0, t => t
  | 1, t => '*' :: ' ' :: t
  | d + 2, t => bulleted d ('*' :: '*' :: ' ' :: t)

/-- **The step from one list to the one around it.** A bullet put in front of a line is joined
    to the one that follows if that stands alone; bullets in pairs stay as they are. -/
theorem mergeBullets_bulleted : ∀ (d : Nat) {t : Text}, Text.beginsWith "* " t = false →
    mergeBullets ('*' :: ' ' :: bulleted d t) = bulleted (d + 1) t
  | 0, _, ht => mergeBullets_bullet ht
  | 1, t, ht => by
    have hnone : Text.after? "* " t = none := by simpa [Text.beginsWith] using ht
    have hmerged : mergeBullet? ('*' :: ' ' :: '*' :: ' ' :: t) = some ('*' :: '*' :: ' ' :: t) :=
      rfl
    -- The first round joins the two bullets, the second finds a pair before the text.
    rw [mergeBullets, bulleted, List.length_cons, mergeRounds, hmerged]
    exact mergeRounds_of_none ((mergeBullet?_starred 1 t).trans (by rw [hnone]; rfl)) _
  -- To the bullets in front, the pair at the end is part of the text.
  | d + 2, t, _ => mergeBullets_bulleted d (t := '*' :: '*' :: ' ' :: t) rfl

/-- A line has one bullet or a pair of them in front. -/
theorem exists_bulleted_succ : ∀ (d : Nat) (t : Text), ∃ r,
    bulleted (d + 1) t = '*' :: ' ' :: r ∨ bulleted (d + 1) t = '*' :: '*' :: ' ' :: r
  | 0, t => ⟨t, .inl rfl⟩
  | 1, t => ⟨t, .inr rfl⟩
  | d + 2, t => exists_bulleted_succ d ('*' :: '*' :: ' ' :: t)

/-- The bullets of an item within three lists or more come apart. -/
theorem bulleted_eq_starred_iff {d : Nat} (hd : 1 ≤ d) (t : Text) :
    bulleted d t = starred d t ↔ d ≤ 2 := by
  match d, hd with
  | 1, _ => simp [bulleted, starred]
  | 2, _ => simp [bulleted, starred, List.replicate_succ]
  | d + 3, _ =>
    obtain ⟨r, hr | hr⟩ := exists_bulleted_succ (d + 2) t <;>
      simp [hr, starred, List.replicate_succ]

example : bulleted 3 "c" = "* ** c".toList := by decide

/-! ## Trees of items -/

/-- A text that an item of a list with bullets may hold: one line that is not empty, has no
    white space at its ends, and has no bullet at its front. -/
structure BulletText where
  text : Text
  ne_nil : text ≠ []
  newline_notMem : '\n' ∉ text
  trimmed : Text.trimWhite text = text
  no_bullet : Text.beginsWith "* " text = false

/-- An item and the items of the list in it; none if there is no list in it. -/
inductive Outline where
  | item (text : BulletText) (inner : List Outline)

mutual

/-- The blocks that an item has in a document. -/
def Outline.blocks : Outline → List (Block (List Inline))
  | .item t inner =>
    .plain [.text t.text] :: if inner.isEmpty then [] else [.list none (Outline.blocksAll inner)]

/-- The items of the list that holds the trees. -/
def Outline.blocksAll : List Outline → List (List (Block (List Inline)))
  | [] => []
  | i :: is => i.blocks :: Outline.blocksAll is

end

mutual

/-- The lines of an item and of those in it, each as `mark` writes the text of an item within so
    many lists. -/
def Outline.lines (mark : Nat → Text → Text) (depth : Nat) : Outline → List Text
  | .item t inner => mark depth t.text :: Outline.linesAll mark (depth + 1) inner

/-- The lines of the trees of a list. -/
def Outline.linesAll (mark : Nat → Text → Text) (depth : Nat) : List Outline → List Text
  | [] => []
  | i :: is => i.lines mark depth ++ Outline.linesAll mark depth is

end

mutual

/-- How many lists an item and those in it are within, counting from the list of the item. -/
def Outline.height : Outline → Nat
  | .item _ inner => Outline.heightAll inner + 1

/-- The greatest height in a list. -/
def Outline.heightAll : List Outline → Nat
  | [] => 0
  | i :: is => max i.height (Outline.heightAll is)

end

/-! ## Lines of trees -/

mutual

/-- The list around adds a bullet to each line of a tree. -/
theorem Outline.map_mergeBullets_lines (d : Nat) : ∀ i : Outline,
    (i.lines bulleted d).map (fun l => mergeBullets ('*' :: ' ' :: l)) = i.lines bulleted (d + 1)
  | .item t inner => by
    rw [Outline.lines, List.map_cons, mergeBullets_bulleted d t.no_bullet,
      Outline.map_mergeBullets_linesAll (d + 1) inner, Outline.lines]

theorem Outline.map_mergeBullets_linesAll (d : Nat) : ∀ is : List Outline,
    (Outline.linesAll bulleted d is).map (fun l => mergeBullets ('*' :: ' ' :: l)) =
      Outline.linesAll bulleted (d + 1) is
  | [] => rfl
  | i :: is => by
    rw [Outline.linesAll, List.map_append, Outline.map_mergeBullets_lines d i,
      Outline.map_mergeBullets_linesAll d is, Outline.linesAll]

end

/-- A line of a tree: it is not empty and has no white space at its ends. -/
def Tidy (l : Text) : Prop := l ≠ [] ∧ '\n' ∉ l ∧ Text.trimWhite l = l

theorem BulletText.tidy (t : BulletText) : Tidy t.text := ⟨t.ne_nil, t.newline_notMem, t.trimmed⟩

/-- Bullets in front of a line keep it tidy. -/
theorem Tidy.cons_star {a t : Text} (ha : '\n' ∉ a) (ht : Tidy t) : Tidy ('*' :: a ++ t) := by
  obtain ⟨hne, hnl, htrim⟩ := ht
  refine ⟨by simp, by simp [ha, hnl], Text.trimmed_iff.2 ⟨rfl, ?_⟩⟩
  have hend := (Text.trimmed_iff.1 htrim).2
  rw [Text.trimEndWith_append, hend, if_neg hne]

theorem Tidy.bulleted : ∀ (d : Nat) {t : Text}, Tidy t → Tidy (bulleted d t)
  | 0, _, ht => ht
  | 1, _, ht => .cons_star (a := [' ']) (by decide) ht
  | d + 2, _, ht => Tidy.bulleted d (.cons_star (a := ['*', ' ']) (by decide) ht)

mutual

theorem Outline.tidy_lines (d : Nat) : ∀ i : Outline, ∀ l ∈ i.lines bulleted d, Tidy l
  | .item t inner, l, hl => by
    rw [Outline.lines, List.mem_cons] at hl
    rcases hl with rfl | hl
    · exact .bulleted d t.tidy
    · exact Outline.tidy_linesAll (d + 1) inner l hl

theorem Outline.tidy_linesAll (d : Nat) : ∀ is : List Outline,
    ∀ l ∈ Outline.linesAll bulleted d is, Tidy l
  | i :: is, l, hl => by
    rw [Outline.linesAll, List.mem_append] at hl
    rcases hl with hl | hl
    · exact Outline.tidy_lines d i l hl
    · exact Outline.tidy_linesAll d is l hl

end

theorem Outline.heightAll_le_iff {n : Nat} (is : List Outline) :
    Outline.heightAll is ≤ n ↔ ∀ i ∈ is, i.height ≤ n := by
  induction is with
  | nil => simp [Outline.heightAll]
  | cons i is ih => rw [Outline.heightAll, Nat.max_le, ih, List.forall_mem_cons]

mutual

theorem Outline.length_lines (f g : Nat → Text → Text) (d : Nat) : ∀ i : Outline,
    (i.lines f d).length = (i.lines g d).length
  | .item _ inner => by
    rw [Outline.lines, Outline.lines, List.length_cons, List.length_cons,
      Outline.length_linesAll f g (d + 1) inner]

theorem Outline.length_linesAll (f g : Nat → Text → Text) (d : Nat) : ∀ is : List Outline,
    (Outline.linesAll f d is).length = (Outline.linesAll g d is).length
  | [] => rfl
  | i :: is => by
    rw [Outline.linesAll, Outline.linesAll, List.length_append, List.length_append,
      Outline.length_lines f g d i, Outline.length_linesAll f g d is]

end

mutual

/-- The lines of a tree are what they should be exactly if none of its items is within
    more than two lists. -/
theorem Outline.lines_eq_iff {d : Nat} (hd : 1 ≤ d) : ∀ i : Outline,
    i.lines bulleted d = i.lines starred d ↔ d + i.height ≤ 3
  | .item t inner => by
    rw [Outline.lines, Outline.lines, List.cons.injEq, bulleted_eq_starred_iff hd,
      Outline.linesAll_eq_iff (by omega) inner, Outline.height]
    have hle := Outline.heightAll_le_iff (n := 2 - d) inner
    constructor
    · rintro ⟨h2, hinner⟩
      have := hle.2 fun i hi => by have := hinner i hi; omega
      omega
    · intro h
      refine ⟨by omega, fun i hi => ?_⟩
      have := hle.1 (by omega) i hi
      omega

theorem Outline.linesAll_eq_iff {d : Nat} (hd : 1 ≤ d) : ∀ is : List Outline,
    Outline.linesAll bulleted d is = Outline.linesAll starred d is ↔
      ∀ i ∈ is, d + i.height ≤ 3
  | [] => by simp [Outline.linesAll]
  | i :: is => by
    rw [Outline.linesAll, Outline.linesAll, List.forall_mem_cons, ← Outline.lines_eq_iff hd i,
      ← Outline.linesAll_eq_iff hd is]
    constructor
    · exact fun h => List.append_inj h (Outline.length_lines ..)
    · rintro ⟨h, h'⟩
      rw [h, h']

end

/-! ## Lists of trees -/

variable {settings : Settings}

/-- What comes of an item: its text, the list in it if there is one, and a newline. -/
theorem Outline.outputAll_blocks (t : BulletText) (inner : List Outline) :
    Block.outputAll (jira settings) (Outline.blocks (.item t inner)) =
      t.text ++ if inner.isEmpty then []
        else Block.output (jira settings) (.list none (Outline.blocksAll inner)) := by
  rw [Outline.blocks, Block.outputAll_cons, Block.output_plain]
  congr 1
  · simp [Inline.output, Inline.renderedAll, Inline.rendered, Construct.write, jira]
  · split <;> simp

/-- What comes of a list begins with a newline. -/
theorem output_list_jira (start : Option Nat) (items : List (List (Block (List Inline)))) :
    Block.output (jira settings) (.list start items) = '\n' ::
      (Text.unlines (listLines
        (items.flatMap fun i => Block.outputAll (jira settings) i ++ ['\n']) start.isSome) ++
      ['\n', '\n']) := by
  rw [Block.output_list]
  simp [jira, list]

/-- The filled lines of a list with bullets are those of its body, each behind one bullet more. -/
theorem filled_output_list {items : List (List (Block (List Inline)))} {ls : List Text}
    (h : filled (Text.lines
      (items.flatMap fun i => Block.outputAll (jira settings) i ++ ['\n'])) = ls)
    (htidy : ∀ l ∈ ls, Tidy l) :
    filled (Text.lines (Block.output (jira settings) (.list none items))) =
      ls.map fun l => mergeBullets ('*' :: ' ' :: l) := by
  have hbody : listLines (items.flatMap fun i => Block.outputAll (jira settings) i ++ ['\n'])
      false = ls.map fun l => mergeBullets ('*' :: ' ' :: l) := by
    rw [← h] at htidy ⊢
    have := Text.filled_lines_trimWhite fun l hl => (htidy l hl).2.2
    rw [listLines]
    exact congrArg (List.map _) this
  rw [← hbody, Block.output_list]
  exact filled_lines_list _ _

/-- The filled lines of a list of trees, given those of its body. -/
theorem Outline.filled_output_list {is : List Outline}
    (h : filled (Text.lines ((Outline.blocksAll is).flatMap fun i =>
      Block.outputAll (jira settings) i ++ ['\n'])) = Outline.linesAll bulleted 0 is) :
    filled (Text.lines (Block.output (jira settings) (.list none (Outline.blocksAll is)))) =
      Outline.linesAll bulleted 1 is := by
  rw [← Outline.map_mergeBullets_linesAll 0 is]
  exact Wiki.filled_output_list h (Outline.tidy_linesAll 0 is)

mutual

/-- The filled lines of what is in an item, before any list puts a bullet in front of them. -/
theorem Outline.filled_output (settings : Settings) : ∀ i : Outline,
    filled (Text.lines (Block.outputAll (jira settings) i.blocks)) = i.lines bulleted 0
  | .item t inner => by
    have htext : filled (Text.lines t.text) = [t.text] := by
      rw [Text.lines_of_notMem t.newline_notMem, Text.filled_cons t.ne_nil, Text.filled_nil]
    have hlist := Outline.filled_output_list (Outline.filled_outputAll settings inner)
    rw [Outline.outputAll_blocks, Outline.lines, bulleted]
    cases inner with
    | nil => simp [htext, Outline.linesAll]
    | cons i is =>
      rw [output_list_jira, Text.lines_newline, Text.filled_cons_nil] at hlist
      rw [List.isEmpty_cons, if_neg (by simp), output_list_jira, Text.lines_append_newline,
        Text.filled_append, htext, hlist, List.singleton_append]

/-- The filled lines of the body of a list of trees. -/
theorem Outline.filled_outputAll (settings : Settings) : ∀ is : List Outline,
    filled (Text.lines ((Outline.blocksAll is).flatMap fun i =>
      Block.outputAll (jira settings) i ++ ['\n'])) = Outline.linesAll bulleted 0 is
  | [] => rfl
  | i :: is => by
    rw [Outline.blocksAll, List.flatMap_cons, List.append_assoc, List.singleton_append,
      Text.lines_append_newline, Text.filled_append, Outline.filled_output settings i,
      Outline.filled_outputAll settings is, Outline.linesAll]

end

/-- **Nested lists with bullets.** The filled lines of a list of trees are one for each item, in
    their order, behind bullets in pairs. They have a bullet for each list that the item is
    within, and one space, exactly if no item is within more than two lists. -/
theorem filled_lines_render (settings : Settings) (verbose : Bool) (items : List Outline) :
    filled (Text.lines (render (jira settings) verbose
        (Markdown.events [.list none (Outline.blocksAll items)])).output) =
      Outline.linesAll bulleted 1 items ∧
    (filled (Text.lines (render (jira settings) verbose
        (Markdown.events [.list none (Outline.blocksAll items)])).output) =
      Outline.linesAll starred 1 items ↔ ∀ i ∈ items, i.height ≤ 2) := by
  have h := Outline.filled_output_list (Outline.filled_outputAll settings items)
  rw [render_events, Block.outputAll_cons, Block.outputAll_nil, List.append_nil, h,
    Outline.linesAll_eq_iff (Nat.le_refl 1)]
  exact ⟨rfl, forall₂_congr fun i _ => by omega⟩

end JiraMarkup.Wiki

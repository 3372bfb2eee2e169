/-
  What the second repair makes of underscores, run by run.

  * `runs` cuts a line into its maximal runs of underscores and its other characters, and
    `runs_induction` goes through a line that way;
  * `escapePairs_eq`: of a run, each pair is escaped, and the underscore left over if the run is
    odd is not (`escapedRun`); `pair_infix_escapePairs_iff` says when a pair is left;
  * `codeMark?_escapePairs`: a line opens and closes what it did before;
  * `escapeOutsideCode_runs` says which lines of a text are rewritten, and that escaping once more
    changes nothing exactly if none of them has an odd run of three underscores or more.
-/
import JiraMarkup.Proofs.Wiki.OneScan
import Mathlib.Data.List.SplitBy

namespace JiraMarkup.Wiki

/-! ## Runs -/

/-- The maximal runs of underscores in a line, and each other character on its own. -/
def runs (l : Text) : List Text := l.splitBy fun a b => a == '_' && b == '_'

/-- What escaping makes of a run: each pair is escaped, and one underscore may be left over. -/
def escapedRun (r : Text) : Text :=
  if '_' ∈ r then
    (List.replicate (r.length / 2) "\\_\\_".toList).flatten ++ List.replicate (r.length % 2) '_'
  else r

example : (runs "a___b__".toList).map escapedRun =
    ["a".toList, "\\_\\__".toList, "b".toList, "\\_\\_".toList] := by decide

theorem runs_cons {c : Char} (hc : c ≠ '_') (t : Text) : runs (c :: t) = [c] :: runs t := by
  rw [runs, ← List.singleton_append, List.splitBy_append (by simp [hc])]
  rfl

/-- A run ends where the underscores do. -/
theorem runs_underscores (n : Nat) {t : Text} (ht : t.head? ≠ some '_') :
    runs (List.replicate (n + 1) '_' ++ t) = List.replicate (n + 1) '_' :: runs t := by
  have hchain : (List.replicate (n + 1) '_').IsChain fun a b => (a == '_' && b == '_') = true :=
    List.isChain_replicate_of_rel _ rfl
  have hend : ∀ x ∈ (List.replicate (n + 1) '_').getLast?, ∀ y ∈ t.head?,
      (x == '_' && y == '_') = false := fun x _ y hy => by
    have hne : y ≠ '_' := fun heq => ht (heq ▸ hy)
    simp [hne]
  rw [runs, List.splitBy_append hend, List.splitBy_of_isChain (by simp) hchain]
  rfl

/-- Going through a line run by run. -/
@[elab_as_elim]
theorem runs_induction {motive : Text → Prop} (nil : motive [])
    (other : ∀ (c : Char) (t : Text), c ≠ '_' → motive t → motive (c :: t))
    (run : ∀ (n : Nat) (t : Text), t.head? ≠ some '_' → motive t →
      motive (List.replicate (n + 1) '_' ++ t)) (l : Text) : motive l := by
  -- A line that begins with an underscore is as good as its run and what follows it.
  have hrest : ∀ l, motive l ∧ ∀ n, motive (List.replicate (n + 1) '_' ++ l) := by
    intro l
    induction l with
    | nil => exact ⟨nil, fun n => run n [] (by simp) nil⟩
    | cons c t ih =>
      by_cases hc : c = '_'
      · subst hc
        refine ⟨ih.2 0, fun n => ?_⟩
        have hsucc : List.replicate (n + 1) '_' ++ '_' :: t = List.replicate (n + 2) '_' ++ t := by
          rw [List.replicate_succ' (n := n + 1), List.append_assoc, List.singleton_append]
        rw [hsucc]
        exact ih.2 (n + 1)
      · have ht := other c t hc ih.1
        exact ⟨ht, fun n => run n (c :: t) (by simpa using hc) ht⟩
  exact (hrest l).1

/-! ## Escaping a line -/

theorem escapePairs_cons {c : Char} (hc : c ≠ '_') (t : Text) :
    escapePairs (c :: t) = c :: escapePairs t := escapePairs_append_cons hc [] t

theorem head?_escapePairs {t : Text} (ht : t.head? ≠ some '_') :
    (escapePairs t).head? = t.head? := by
  cases t with
  | nil => rfl
  | cons c t => rw [escapePairs_cons (by simpa using ht)]; rfl

/-- What begins with another character is escaped on its own. -/
theorem escapePairs_append {t : Text} (ht : t.head? ≠ some '_') (a : Text) :
    escapePairs (a ++ t) = escapePairs a ++ escapePairs t := by
  cases t with
  | nil => simp [escapePairs]
  | cons c t =>
    have hc : c ≠ '_' := by simpa using ht
    rw [escapePairs_append_cons hc, escapePairs_cons hc]

/-- Underscores are taken two at a time. -/
theorem escapePairs_replicate : ∀ n : Nat, escapePairs (List.replicate n '_') =
    (List.replicate (n / 2) "\\_\\_".toList).flatten ++ List.replicate (n % 2) '_'
  | 0 | 1 => rfl
  | n + 2 => by
    have hhalf : (n + 2) / 2 = n / 2 + 1 := by omega
    have hmod : (n + 2) % 2 = n % 2 := by omega
    have hpair : "\\_\\_".toList = ['\\', '_', '\\', '_'] := by decide
    rw [List.replicate_succ, List.replicate_succ, escapePairs, escapePairs_replicate n, hhalf, hmod,
      List.replicate_succ, List.flatten_cons, hpair]
    rfl

theorem escapedRun_singleton {c : Char} (hc : c ≠ '_') : escapedRun [c] = [c] :=
  if_neg (by simpa using Ne.symm hc)

theorem escapedRun_underscores (n : Nat) :
    escapedRun (List.replicate (n + 1) '_') = escapePairs (List.replicate (n + 1) '_') := by
  rw [escapedRun, if_pos (by simp), List.length_replicate, escapePairs_replicate]

/-- **Escaping goes run by run.** -/
theorem escapePairs_eq (l : Text) : escapePairs l = (runs l).flatMap escapedRun := by
  induction l using runs_induction with
  | nil => rfl
  | other c t hc ih =>
    rw [escapePairs_cons hc, runs_cons hc, List.flatMap_cons, escapedRun_singleton hc, ih]
    rfl
  | run n t ht ih =>
    rw [escapePairs_append ht, runs_underscores n ht, List.flatMap_cons, escapedRun_underscores, ih]

/-! ## Pairs that are left -/

theorem pair_infix_cons {c : Char} (hc : c ≠ '_') (t : Text) :
    ['_', '_'] <:+: c :: t ↔ ['_', '_'] <:+: t :=
  infix_append_of_notMem (p := [c]) (by simpa using Ne.symm hc)

/-- A pair does not reach out of a run. -/
theorem pair_infix_append {t : Text} (ht : t.head? ≠ some '_') (a : Text) :
    ['_', '_'] <:+: a ++ t ↔ ['_', '_'] <:+: a ∨ ['_', '_'] <:+: t := by
  cases t with
  | nil => simp
  | cons c t =>
    have hc : c ≠ '_' := by simpa using ht
    rw [infix_append_cons (by simpa using hc), pair_infix_cons hc]

/-- Of an odd run that is longer than one underscore, a pair is left. -/
theorem pair_infix_underscores : ∀ n : Nat,
    ['_', '_'] <:+: escapePairs (List.replicate n '_') ↔ n % 2 = 1 ∧ 3 ≤ n
  | 0 | 1 | 2 | 3 => by decide
  | n + 4 => by
    have ih := pair_infix_underscores (n + 2)
    -- The escaped pair in front ends where a backslash follows.
    have hfront : escapePairs (List.replicate (n + 4) '_') =
        ['\\', '_', '\\', '_'] ++ escapePairs (List.replicate (n + 2) '_') := rfl
    have hhead : (escapePairs (List.replicate (n + 2) '_')).head? ≠ some '_' := by
      rw [List.replicate_succ, List.replicate_succ, escapePairs]
      simp
    have hpair : ¬ ['_', '_'] <:+: ['\\', '_', '\\', '_'] := by decide
    rw [hfront, pair_infix_append hhead, or_iff_right hpair, ih]
    omega

/-- **When a pair is left**: if a run is odd and longer than one underscore. -/
theorem pair_infix_escapePairs_iff (l : Text) :
    ['_', '_'] <:+: escapePairs l ↔ ∃ r ∈ runs l, '_' ∈ r ∧ r.length % 2 = 1 ∧ 3 ≤ r.length := by
  induction l using runs_induction with
  | nil => simp [escapePairs, runs]
  | other c t hc ih =>
    rw [escapePairs_cons hc, pair_infix_cons hc, ih, runs_cons hc]
    simp [Ne.symm hc]
  | run n t ht ih =>
    rw [escapePairs_append ht, pair_infix_append (by rwa [head?_escapePairs ht]),
      pair_infix_underscores, ih, runs_underscores n ht]
    simp

/-- Escaping leaves a line as it is if there is no pair in it, and no other line. -/
theorem escapePairs_eq_self_iff (t : Text) : escapePairs t = t ↔ ¬ ['_', '_'] <:+: t := by
  induction t using escapePairs.induct with
  | case1 t _ =>
    have hpair : ['_', '_'] <:+: '_' :: '_' :: t := List.IsPrefix.isInfix ⟨t, rfl⟩
    simp [escapePairs, hpair]
  | case2 c t hne ih =>
    have hprefix : ¬ ['_', '_'] <+: c :: t := by
      rintro ⟨r, hr⟩
      obtain ⟨rfl, ht⟩ := List.cons.inj hr
      exact hne r rfl ht.symm
    rw [escapePairs.eq_2 c t hne, List.cons.injEq, and_iff_right rfl, ih, List.infix_cons_iff,
      or_iff_right hprefix]
  | case3 => simp [escapePairs]

/-! ## Words in escaped lines -/

section
variable {w : Text} (hunderscore : '_' ∉ w) (hslash : '\\' ∉ w)

include hunderscore hslash

theorem prefix_escapePairs_iff (t : Text) : w <+: escapePairs t ↔ w <+: t := by
  induction t using escapePairs.induct generalizing w with
  | case1 t _ =>
    rw [escapePairs]
    constructor
    · intro h
      rw [eq_nil_of_prefix_cons hslash h]
      exact List.nil_prefix
    · intro h
      rw [eq_nil_of_prefix_cons hunderscore h]
      exact List.nil_prefix
  | case2 c t hne ih =>
    rw [escapePairs.eq_2 c t hne]
    cases w with
    | nil => simp
    | cons a w =>
      rw [List.mem_cons, not_or] at hunderscore hslash
      rw [List.cons_prefix_cons, List.cons_prefix_cons, ih hunderscore.2 hslash.2]
  | case3 => rfl

/-- Escaping makes no words and breaks none. -/
theorem infix_escapePairs_iff (t : Text) : w <:+: escapePairs t ↔ w <:+: t := by
  rcases w with _ | ⟨a, w⟩
  · simp
  induction t using escapePairs.induct with
  | case1 t ih =>
    rw [List.mem_cons, not_or] at hunderscore hslash
    have hescaped : a ∉ ['\\', '_', '\\', '_'] := by
      simp [Ne.symm hunderscore.1, Ne.symm hslash.1]
    have hplain : a ∉ ['_', '_'] := by simp [Ne.symm hunderscore.1]
    exact (infix_append_of_notMem hescaped).trans (ih.trans (infix_append_of_notMem hplain).symm)
  | case2 c t hne ih =>
    have hprefix := prefix_escapePairs_iff hunderscore hslash (c :: t)
    rw [escapePairs.eq_2 c t hne] at hprefix ⊢
    rw [List.infix_cons_iff, List.infix_cons_iff, ih, hprefix]
  | case3 => rfl

end

/-- **Escaping does not change what a line does to the code blocks.** -/
theorem codeMark?_escapePairs (l : Text) : codeMark? (escapePairs l) = codeMark? l :=
  codeMark?_congr (infix_escapePairs_iff (by decide) (by decide) l)
    (infix_escapePairs_iff (by decide) (by decide) l)

theorem codeMark?_escapeLine (inCode : Bool) (l : Text) :
    codeMark? (escapeLine inCode l) = codeMark? l := by
  rw [escapeLine]
  split
  · rfl
  · exact codeMark?_escapePairs l

theorem openAfter_escapeLine (inCode inEscape : Bool) (l : Text) :
    openAfter inCode (escapeLine inEscape l) = openAfter inCode l := by
  rw [openAfter, codeMark?_escapeLine, openAfter]

/-! ## Texts -/

theorem map_codeMark?_escapeLines (inCode : Bool) (ls : List Text) :
    (escapeLines inCode ls).map codeMark? = ls.map codeMark? := by
  induction ls generalizing inCode with
  | nil => rfl
  | cons l ls ih =>
    rw [escapeLines_cons, List.map_cons, List.map_cons, ih, codeMark?_escapeLine]

/-- One line among others. -/
theorem getElem?_escapeLines (inCode : Bool) (as : List Text) (l : Text) (bs : List Text) :
    (escapeLines inCode (as ++ l :: bs))[as.length]? =
      some (escapeLine (openAfterAll inCode as) l) := by
  rw [escapeLines_append, escapeLines_cons, List.getElem?_append_right (by rw [length_escapeLines]),
    length_escapeLines, Nat.sub_self]
  rfl

/-- The places in a list: the first, or one further on. -/
theorem forall_places_cons {x : Text} {xs : List Text} {p : List Text → Text → Prop} :
    (∀ as l bs, x :: xs = as ++ l :: bs → p as l) ↔
      p [] x ∧ ∀ as l bs, xs = as ++ l :: bs → p (x :: as) l := by
  refine ⟨fun h => ⟨h [] x xs rfl, fun as l bs hxs => h (x :: as) l bs (by rw [hxs]; rfl)⟩, ?_⟩
  rintro ⟨hfirst, hrest⟩ (_ | ⟨a, as⟩) l bs h
  · obtain ⟨rfl, -⟩ := List.cons.inj h
    exact hfirst
  · obtain ⟨rfl, hxs⟩ := List.cons.inj h
    exact hrest as l bs hxs

theorem escapeLine_idempotent_iff (inCode : Bool) (l : Text) :
    escapeLine inCode (escapeLine inCode l) = escapeLine inCode l ↔
      (¬ (inCode = true ∨ codeMark? l = some .opens) → ¬ ['_', '_'] <:+: escapePairs l) := by
  by_cases h : inCode = true ∨ codeMark? l = some .opens
  · have hline : escapeLine inCode l = l := if_pos h
    simp [hline, h]
  · have hline : escapeLine inCode l = escapePairs l := if_neg h
    have hagain : escapeLine inCode (escapePairs l) = escapePairs (escapePairs l) :=
      if_neg (by rwa [codeMark?_escapePairs])
    rw [hline, hagain, escapePairs_eq_self_iff, forall_prop_of_true h]

/-- A second scan meets the same marks, so that it does to each line what the first one did. -/
theorem escapeLines_idempotent_iff (inCode : Bool) (ls : List Text) :
    escapeLines inCode (escapeLines inCode ls) = escapeLines inCode ls ↔
      ∀ as l bs, ls = as ++ l :: bs →
        ¬ (openAfterAll inCode as = true ∨ codeMark? l = some .opens) →
          ¬ ['_', '_'] <:+: escapePairs l := by
  induction ls generalizing inCode with
  | nil => simp [escapeLines]
  | cons x ls ih =>
    rw [escapeLines_cons, escapeLines_cons, openAfter_escapeLine, List.cons.injEq,
      escapeLine_idempotent_iff, ih, forall_places_cons]
    rfl

theorem lines_escapeOutsideCode (t : Text) :
    Text.lines (escapeOutsideCode t) = escapeLines false (Text.lines t) := by
  have hne : escapeLines false (Text.lines t) ≠ [] :=
    Text.ne_nil_of_length_eq_lines (length_escapeLines ..)
  exact Text.lines_unlines hne <| newline_notMem_escapeLines false fun l hl =>
    Text.newline_notMem_of_mem_lines hl

/-- The line `l` after the lines `before` is one that is rewritten: no code block is open there,
    as the last mark before it opens none, and it opens none itself. -/
def Rewrites (before : List Text) (l : Text) : Prop :=
  (before.filterMap codeMark?).getLast? ≠ some .opens ∧ codeMark? l ≠ some .opens

instance (before : List Text) (l : Text) : Decidable (Rewrites before l) :=
  inferInstanceAs (Decidable (_ ∧ _))

theorem rewrites_iff {before : List Text} {l : Text} :
    Rewrites before l ↔ ¬ (openAfterAll false before = true ∨ codeMark? l = some .opens) := by
  rw [not_or, openAfterAll_iff, Rewrites]

/-- **What escaping makes of a text.** It keeps all lines and what they do to the code blocks. In
    the lines outside code blocks that open none, each run of underscores becomes as many escaped
    pairs as it has pairs, and one underscore if it is odd; nothing else is changed. Escaping once
    more changes nothing exactly if none of these lines has an odd run of three underscores or
    more, which is to say that no pair is left on them. -/
theorem escapeOutsideCode_runs (t : Text) :
    let ls := Text.lines t
    let escaped := Text.lines (escapeOutsideCode t)
    escaped.length = ls.length ∧ escaped.map codeMark? = ls.map codeMark? ∧
      (∀ as l bs, ls = as ++ l :: bs → escaped[as.length]? =
        some (if Rewrites as l then (runs l).flatMap escapedRun else l)) ∧
      (escapeOutsideCode (escapeOutsideCode t) = escapeOutsideCode t ↔
        ∀ as l bs, ls = as ++ l :: bs → Rewrites as l →
          ¬ ∃ r ∈ runs l, '_' ∈ r ∧ r.length % 2 = 1 ∧ 3 ≤ r.length) ∧
      (escapeOutsideCode (escapeOutsideCode t) = escapeOutsideCode t ↔
        ∀ as l bs, ls = as ++ l :: bs → Rewrites as l →
          ∀ l', escaped[as.length]? = some l' → ¬ ['_', '_'] <:+: l') := by
  intro ls escaped
  have hescaped : escaped = escapeLines false ls := lines_escapeOutsideCode t
  have hline : ∀ as l bs, ls = as ++ l :: bs → escaped[as.length]? =
      some (if Rewrites as l then (runs l).flatMap escapedRun else l) := by
    intro as l bs hls
    rw [hescaped, hls, getElem?_escapeLines, escapeLine, ← escapePairs_eq]
    by_cases h : Rewrites as l
    · rw [if_pos h, if_neg (rewrites_iff.1 h)]
    · rw [if_neg h, if_pos (not_not.1 fun h' => h (rewrites_iff.2 h'))]
  have hlines : escapeOutsideCode (escapeOutsideCode t) = escapeOutsideCode t ↔
      escapeLines false escaped = escaped := by
    refine ⟨fun h => ?_, fun h => ?_⟩
    · rw [← lines_escapeOutsideCode, h]
    · rw [escapeOutsideCode, h, Text.unlines_lines]
  have hpairs : escapeOutsideCode (escapeOutsideCode t) = escapeOutsideCode t ↔
      ∀ as l bs, ls = as ++ l :: bs → Rewrites as l → ¬ ['_', '_'] <:+: escapePairs l := by
    rw [hlines, hescaped, escapeLines_idempotent_iff]
    simp only [rewrites_iff]
  refine ⟨?_, ?_, hline, ?_, ?_⟩
  · rw [hescaped]
    exact length_escapeLines false ls
  · rw [hescaped]
    exact map_codeMark?_escapeLines false ls
  · rw [hpairs]
    simp only [pair_infix_escapePairs_iff]
  · rw [hpairs]
    refine forall₄_congr fun as l bs hls => forall_congr' fun h => ?_
    rw [hline as l bs hls, if_pos h, ← escapePairs_eq]
    simp

/-- The underscore that is left over meets one that has been escaped. -/
example : escapeOutsideCode "a___b" = "a\\_\\__b".toList ∧
    escapeOutsideCode "a\\_\\__b" = "a\\_\\\\_\\_b".toList := by decide

end JiraMarkup.Wiki

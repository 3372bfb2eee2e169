/-
  The order of paths, and what it means to sort by it.

  * `StablySorted` is what a stable sort makes of a list: `stablySorted_mergeSort` says that there
    is such a list, and `StablySorted.unique` that there is only one;
  * `StablySorted.of_parts`: where no two members of a part of the list are tied, the order within
    the part does not matter;
  * `Path.keys` are the steps of a path as lists of numbers, and `Path.le_iff` says that paths are
    ordered by their keys. So only paths that take the same steps are tied (`Path.tied_iff`), and
    paths in another order are sorted to paths that take the same steps
    (`Path.forall₂_sort_of_perm`).
-/
import JiraMarkup.Files.Path
import Mathlib.Data.List.Forall2
import Mathlib.Data.List.Lex
import Mathlib.Data.List.Nodup
import Mathlib.Order.Defs.LinearOrder

namespace JiraMarkup

/-! ## Stable sorts -/

section StableSort

variable {α : Type} {le : α → α → Bool}

/-- Whether two members of a list come before each other. -/
def tied (le : α → α → Bool) (a b : α) : Bool := le a b && le b a

/-- What a stable sort makes of a list. -/
structure StablySorted (le : α → α → Bool) (xs out : List α) : Prop where
  /-- Nothing is lost, added or repeated. -/
  perm : out.Perm xs
  /-- All is in order. -/
  sorted : out.Pairwise fun a b => le a b = true
  /-- Members that are tied stay as they are to each other. -/
  stable : ∀ a ∈ xs, out.filter (tied le a) = xs.filter (tied le a)

theorem tied_refl (htotal : ∀ a b, (le a b || le b a) = true) (a : α) : tied le a a = true := by
  simpa [tied] using htotal a a

theorem pairwise_filter_tied (htrans : ∀ a b c, le a b = true → le b c = true → le a c = true)
    (a : α) (xs : List α) : (xs.filter (tied le a)).Pairwise fun b c => le b c = true := by
  refine List.pairwise_of_forall_mem_list fun b hb c hc => ?_
  have hba : le b a = true := by simp_all [tied]
  have hac : le a c = true := by simp_all [tied]
  exact htrans b a c hba hac

theorem stablySorted_mergeSort (htrans : ∀ a b c, le a b = true → le b c = true → le a c = true)
    (htotal : ∀ a b, (le a b || le b a) = true) (xs : List α) :
    StablySorted le xs (xs.mergeSort le) where
  perm := List.mergeSort_perm xs le
  sorted := List.pairwise_mergeSort htrans htotal xs
  stable a _ := by
    -- The tied members are in order as they stand, so that sorting keeps them as they are.
    have hsub : (xs.filter (tied le a)).Sublist (xs.mergeSort le) :=
      List.sublist_mergeSort htrans htotal (pairwise_filter_tied htrans a xs) List.filter_sublist
    have hfilter := hsub.filter (tied le a)
    simp only [List.filter_filter, Bool.and_self] at hfilter
    exact (hfilter.eq_of_length ((List.mergeSort_perm xs le).filter _).length_eq.symm).symm

/-- **A list has one stable sort only.** -/
theorem StablySorted.unique (htotal : ∀ a b, (le a b || le b a) = true) {xs out out' : List α}
    (h : StablySorted le xs out) (h' : StablySorted le xs out') : out = out' := by
  have hout : out.Perm out' := h.perm.trans h'.perm.symm
  have hsame : ∀ a ∈ out, out.filter (tied le a) = out'.filter (tied le a) := by
    intro a ha
    have hxs := h.perm.mem_iff.1 ha
    rw [h.stable a hxs, h'.stable a hxs]
  have hsorted := h.sorted
  have hsorted' := h'.sorted
  clear h h'
  induction out generalizing out' with
  | nil => exact (List.nil_perm.1 hout).symm
  | cons a out ih =>
    cases out' with
    | nil => exact absurd hout (by simp)
    | cons b out' =>
      rw [List.pairwise_cons] at hsorted hsorted'
      -- The first members are least, so that they are tied, and the ties tell that they are one.
      have hab : tied le a b = true := by
        have hle : le a b = true := by
          rcases List.mem_cons.1 (hout.symm.subset List.mem_cons_self) with rfl | hb
          · simpa using htotal b b
          · exact hsorted.1 b hb
        have hge : le b a = true := by
          rcases List.mem_cons.1 (hout.subset List.mem_cons_self) with rfl | ha
          · simpa using htotal a a
          · exact hsorted'.1 a ha
        simp [tied, hle, hge]
      have hfirst := hsame a List.mem_cons_self
      rw [List.filter_cons_of_pos (tied_refl htotal a), List.filter_cons_of_pos hab] at hfirst
      obtain ⟨rfl, -⟩ := List.cons.inj hfirst
      refine congrArg (a :: ·)
        (ih ((List.perm_cons a).1 hout) (fun c hc => ?_) hsorted.2 hsorted'.2)
      have hrest := hsame c (List.mem_cons_of_mem a hc)
      rw [List.filter_cons, List.filter_cons] at hrest
      split at hrest
      · exact (List.cons.inj hrest).2
      · exact hrest

theorem filter_tied_perm (htrans : ∀ a b c, le a b = true → le b c = true → le a c = true)
    {xs ys : List α} (hperm : xs.Perm ys) (hties : xs.Pairwise fun b c => tied le b c = false)
    (a : α) : xs.filter (tied le a) = ys.filter (tied le a) := by
  have hfilter := hperm.filter (tied le a)
  have hpairs := hties.filter (tied le a)
  have hmem : ∀ b ∈ xs.filter (tied le a), tied le a b = true :=
    fun b hb => (List.mem_filter.1 hb).2
  generalize xs.filter (tied le a) = bs at hfilter hpairs hmem
  match bs with
  | [] => exact (List.nil_perm.1 hfilter).symm
  | [b] => exact (List.perm_singleton.1 hfilter.symm).symm
  | b :: c :: _ =>
    -- Two members that are tied to `a` would be tied to each other.
    have hb : tied le a b = true := hmem b (by simp)
    have hc : tied le a c = true := hmem c (by simp)
    have hbc : tied le b c = false := List.rel_of_pairwise_cons hpairs (by simp)
    simp only [tied, Bool.and_eq_true] at hb hc
    have htied : tied le b c = true := by
      simp [tied, htrans b a c hb.2 hc.1, htrans c a b hc.2 hb.1]
    rw [htied] at hbc
    cases hbc

/-- **The order within a part without ties does not matter** to a stable sort. -/
theorem StablySorted.of_parts (htrans : ∀ a b c, le a b = true → le b c = true → le a c = true)
    {xss yss : List (List α)} {out : List α} (h : StablySorted le xss.flatten out)
    (hparts : List.Forall₂ (fun xs ys => xs.Perm ys ∧
      xs.Pairwise fun b c => tied le b c = false) xss yss) :
    StablySorted le yss.flatten out := by
  have hperm : xss.flatten.Perm yss.flatten := by
    clear h
    induction hparts with
    | nil => exact .nil
    | cons hpart _ ih => exact hpart.1.append ih
  have hties : ∀ a, xss.flatten.filter (tied le a) = yss.flatten.filter (tied le a) := by
    intro a
    clear h hperm
    induction hparts with
    | nil => rfl
    | cons hpart _ ih =>
      simp only [List.flatten_cons, List.filter_append]
      rw [filter_tied_perm htrans hpart.1 hpart.2 a, ih]
  exact ⟨h.perm.trans hperm, h.sorted, fun a ha => by
    rw [h.stable a (hperm.mem_iff.2 ha), hties a]⟩

end StableSort

/-! ## The order of steps -/

namespace Path

theorem Component.key_injective : Function.Injective Component.key := by
  intro a b h
  cases a <;> cases b <;> simp_all [Component.key]
  exact List.map_injective_iff.2 (fun _ _ => UInt8.toNat_inj.1) h

theorem Component.before_iff (a b : Component) : a.before b = true ↔ a.key < b.key := by
  rw [Component.before, List.lex_eq_true_iff_lex]
  simp only [Nat.blt_eq]
  exact Iff.rfl

/-- The steps of a path as lists of numbers. -/
def keys (p : Path) : List (List Nat) := p.components.map Component.key

theorem keys_inj {p q : Path} : p.keys = q.keys ↔ p.components = q.components :=
  (List.map_injective_iff.2 Component.key_injective).eq_iff

theorem lex_map_iff {α β : Type} {f : α → β} (hf : Function.Injective f) {r : β → β → Prop}
    (as bs : List α) :
    List.Lex r (as.map f) (bs.map f) ↔ List.Lex (fun a b => r (f a) (f b)) as bs := by
  induction as generalizing bs with
  | nil => cases bs <;> simp
  | cons a as ih =>
    cases bs with
    | nil => simp
    | cons b bs => simp only [List.map_cons, List.cons_lex_cons_iff, hf.eq_iff, ih]

/-- **Paths are ordered by their keys.** -/
theorem le_iff (p q : Path) : le p q = true ↔ p.keys ≤ q.keys := by
  have hlt : List.lex q.components p.components Component.before = true ↔ q.keys < p.keys := by
    rw [List.lex_eq_true_iff_lex]
    simp only [Component.before_iff]
    exact (lex_map_iff Component.key_injective _ _).symm
  rw [le, Bool.not_eq_true', ← Bool.not_eq_true, hlt, not_lt]

theorem le_trans (p q r : Path) (hpq : le p q = true) (hqr : le q r = true) : le p r = true := by
  rw [le_iff] at *
  exact hpq.trans hqr

theorem le_total (p q : Path) : (le p q || le q p) = true := by
  rw [Bool.or_eq_true, le_iff, le_iff]
  exact LinearOrder.le_total p.keys q.keys

/-- **Paths that come before each other take the same steps.** -/
theorem tied_iff (p q : Path) : tied le p q = true ↔ p.components = q.components := by
  rw [tied, Bool.and_eq_true, le_iff, le_iff, ← keys_inj]
  exact ⟨fun h => le_antisymm h.1 h.2, fun h => ⟨h.le, h.ge⟩⟩

/-- **Sorting paths is a stable sort.** -/
theorem stablySorted_sort (ps : List Path) : StablySorted le ps (sort ps) :=
  stablySorted_mergeSort le_trans le_total ps

theorem sort_eq {ps out : List Path} (h : StablySorted le ps out) : sort ps = out :=
  (stablySorted_sort ps).unique le_total h

/-- The same paths in another order are sorted to paths that take the same steps. -/
theorem forall₂_sort_of_perm {ps qs : List Path} (h : ps.Perm qs) :
    List.Forall₂ (fun p q => p.components = q.components) (sort ps) (sort qs) := by
  have hsorted : ∀ ps, ((sort ps).map keys).Pairwise (· ≤ ·) := by
    intro ps
    rw [List.pairwise_map]
    exact (stablySorted_sort ps).sorted.imp fun {a b} => (le_iff a b).1
  have hperm : ((sort ps).map keys).Perm ((sort qs).map keys) :=
    (((stablySorted_sort ps).perm.trans h).trans (stablySorted_sort qs).perm.symm).map keys
  have hkeys := hperm.eq_of_pairwise (fun a b _ _ => le_antisymm) (hsorted ps) (hsorted qs)
  rw [← List.forall₂_eq_eq_eq, List.forall₂_map_left_iff, List.forall₂_map_right_iff] at hkeys
  exact hkeys.imp fun p q => keys_inj.1

end Path

end JiraMarkup

/-
  Which files are listed, and in what order.

  * `Contributes` says what one path contributes to a list: a file that is named itself, a folder
    the Markdown files at any depth below it whose paths are texts, once each and in any order;
  * `Entry.mem_markdownFiles` and `Entry.nodup_markdownFiles`: these are the files that the walk
    over a folder finds;
  * `Files.list_stable`: a list is the stable sort of what its paths contribute. So it does not
    matter that the walk sorts as well, nor in which order folders give their entries, and the
    order of the paths matters only for paths that are written differently and take the same steps.
-/
import JiraMarkup.Proofs.Files.MarkdownNames
import JiraMarkup.Proofs.Files.PathOrder

namespace JiraMarkup

/-! ## Steps of joined paths -/

namespace Path

/-- The path of what names lead to from a path. -/
def joinAll (p : Path) (names : List Bytes) : Path := names.foldl join p

/-- **The path of an entry takes one step more** than the path of its folder. -/
theorem components_join {p : Path} (hp : p ≠ []) {name : Bytes} (hname : Entry.IsName name) :
    (p.join name).components = p.components ++ [.entry name] := by
  have hstep : Component.ofPiece? name = some (.entry name) := by
    simp [Component.ofPiece?, hname.ne_nil, hname.ne_dot, hname.ne_dots]
  obtain ⟨q, hjoin, hq⟩ := join_eq p name
  have hjoined : (p.join name).pieces = q.pieces ++ [name] := by
    rw [hjoin, pieces_append_slash q hname.noSlash]
  -- A slash at the end of the path adds an empty piece, which is no step.
  have hpieces : p.pieces.head? = q.pieces.head? ∧
      p.pieces.filterMap Component.ofPiece? = q.pieces.filterMap Component.ofPiece? := by
    rcases hq with rfl | rfl
    · exact ⟨rfl, rfl⟩
    · rw [pieces_append_slash q List.not_mem_nil, List.head?_append_of_ne_nil _ (pieces_ne_nil q)]
      simp [Component.ofPiece?]
  rw [components, components, isAbsolute_join hp, hjoined, hpieces.1, hpieces.2,
    List.head?_append_of_ne_nil _ (pieces_ne_nil q), List.filterMap_append]
  simp [hstep]

theorem joinAll_cons (p : Path) (n : Bytes) (ns : List Bytes) :
    p.joinAll (n :: ns) = (p.join n).joinAll ns := rfl

theorem join_ne_nil (p : Path) (name : Bytes) : p.join name ≠ [] := by
  obtain ⟨q, hjoin, -⟩ := join_eq p name
  simp [hjoin]

theorem components_joinAll {p : Path} (hp : p ≠ []) {ns : List Bytes}
    (hns : ∀ n ∈ ns, Entry.IsName n) :
    (p.joinAll ns).components = p.components ++ ns.map Component.entry := by
  induction ns generalizing p with
  | nil => simp [joinAll]
  | cons n ns ih =>
    rw [List.forall_mem_cons] at hns
    rw [joinAll_cons, ih (join_ne_nil p n) hns.2, components_join hp hns.1, List.map_cons,
      List.append_assoc, List.singleton_append]

/-- Names lead from one path to one place each. -/
theorem joinAll_inj {p : Path} (hp : p ≠ []) {ns ns' : List Bytes}
    (hns : ∀ n ∈ ns, Entry.IsName n) (hns' : ∀ n ∈ ns', Entry.IsName n)
    (h : (p.joinAll ns).components = (p.joinAll ns').components) : ns = ns' := by
  rw [components_joinAll hp hns, components_joinAll hp hns', List.append_cancel_left_eq] at h
  exact List.map_injective_iff.2 (fun _ _ => Component.entry.inj) h

end Path

/-! ## The files below a folder -/

namespace Entry

/-- What a path of a Markdown file below an entry at the path `p` is like: names lead from the one
    to the other, and it is a text. -/
def MarkdownBelow (e : Entry) (p q : Path) : Prop :=
  ∃ ns name bytes, e.find? ns = some (.file name bytes) ∧ MarkdownName name ∧
    q = p.joinAll ns ∧ q.IsText

theorem find?_file {name : Bytes} {bytes : ByteArray} {ns : List Bytes} {e : Entry} :
    (Entry.file name bytes).find? ns = some e ↔ ns = [] ∧ e = .file name bytes := by
  cases ns with
  | nil => simp [Entry.find?, eq_comm]
  | cons n ns => simp [Entry.find?, entries]

/-- **Names lead to a file below a folder** through one of its entries. -/
theorem find?_folder {name : Bytes} {es : List Entry} (h : (Entry.folder name es).Proper)
    {ns : List Bytes} {file : Bytes} {bytes : ByteArray} :
    (Entry.folder name es).find? ns = some (.file file bytes) ↔
      ∃ e ∈ es, ∃ ns', ns = e.name :: ns' ∧ e.find? ns' = some (.file file bytes) := by
  cases h with | folder _ _ hdistinct =>
  cases ns with
  | nil => simp [Entry.find?]
  | cons n ns =>
    rw [Entry.find?, Option.bind_eq_some_iff]
    constructor
    · rintro ⟨e, he, hfind⟩
      have hn : e.name = n := by simpa using List.find?_some he
      exact ⟨e, List.mem_of_find?_eq_some he, ns, by rw [hn], hfind⟩
    · rintro ⟨e, he, ns', heq, hfind⟩
      obtain ⟨rfl, rfl⟩ := List.cons.inj heq
      exact ⟨e, find?_name hdistinct he, hfind⟩

theorem markdownBelow_folder {name : Bytes} {es : List Entry} (h : (Entry.folder name es).Proper)
    {p q : Path} : (Entry.folder name es).MarkdownBelow p q ↔
      ∃ e ∈ es, e.MarkdownBelow (p.join e.name) q := by
  simp only [MarkdownBelow, find?_folder h]
  constructor
  · rintro ⟨_, file, bytes, ⟨e, he, ns, rfl, hfind⟩, hname, hq⟩
    exact ⟨e, he, ns, file, bytes, hfind, hname, hq⟩
  · rintro ⟨e, he, ns, file, bytes, hfind, hname, hq⟩
    exact ⟨_, file, bytes, ⟨e, he, ns, rfl, hfind⟩, hname, hq⟩

/-- Paths that lead from one place to files below it take different steps. -/
theorem MarkdownBelow.eq {e : Entry} (he : e.Proper) {p q q' : Path} (hp : p ≠ [])
    (hq : e.MarkdownBelow p q) (hq' : e.MarkdownBelow p q')
    (h : q.components = q'.components) : q = q' := by
  obtain ⟨ns, _, _, hfind, -, rfl, -⟩ := hq
  obtain ⟨ns', _, _, hfind', -, rfl, -⟩ := hq'
  rw [Path.joinAll_inj hp (he.isName hfind) (he.isName hfind') h]

mutual

/-- **The walk finds the Markdown files below an entry**, here one whose path is that of its name
    in a folder. -/
theorem mem_markdownFiles : ∀ (e : Entry) {p q : Path}, e.Proper → IsName e.name →
    (q ∈ e.markdownFiles (p.join e.name) ↔ e.MarkdownBelow (p.join e.name) q)
  | .file name bytes, p, q, _, hname => by
    have hext := Path.hasMarkdownExtension_join p hname.noSlash
    simp only [Entry.name] at hext ⊢
    simp only [markdownFiles, MarkdownBelow, find?_file]
    constructor
    · intro h
      split at h
      · next hmd =>
        obtain ⟨hmd, htext⟩ := hext.1 hmd
        obtain rfl := List.mem_singleton.1 h
        exact ⟨[], name, bytes, ⟨rfl, rfl⟩, hmd, rfl, htext⟩
      · cases h
    · rintro ⟨_, _, _, ⟨rfl, heq⟩, hmd, rfl, htext⟩
      cases heq
      rw [if_pos (hext.2 ⟨hmd, htext⟩)]
      exact List.mem_singleton_self _
  | .folder name es, p, q, hproper, _ => by
    rw [markdownFiles, Path.sort, List.mem_mergeSort, markdownBelow_folder hproper]
    cases hproper with | folder inner names _ =>
    exact mem_markdownFilesIn es fun e he => ⟨inner e he, names e he⟩

theorem mem_markdownFilesIn : ∀ (es : List Entry) {p q : Path},
    (∀ e ∈ es, e.Proper ∧ IsName e.name) →
      (q ∈ markdownFilesIn p es ↔ ∃ e ∈ es, e.MarkdownBelow (p.join e.name) q)
  | [], p, q, _ => by simp [markdownFilesIn]
  | e :: es, p, q, h => by
    rw [List.forall_mem_cons] at h
    rw [markdownFilesIn, List.mem_append, mem_markdownFiles e h.1.1 h.1.2,
      mem_markdownFilesIn es h.2, List.exists_mem_cons_iff]

end

mutual

/-- **The walk finds each file once.** -/
theorem nodup_markdownFiles : ∀ (e : Entry) {p : Path}, e.Proper → p ≠ [] →
    (e.markdownFiles p).Nodup
  | .file name bytes, p, _, _ => by
    rw [markdownFiles]
    split <;> simp
  | .folder name es, p, hproper, hp => by
    rw [markdownFiles, Path.sort, (List.mergeSort_perm _ _).nodup_iff]
    cases hproper with | folder inner names distinct =>
    exact nodup_markdownFilesIn es hp (fun e he => ⟨inner e he, names e he⟩) distinct

theorem nodup_markdownFilesIn : ∀ (es : List Entry) {p : Path}, p ≠ [] →
    (∀ e ∈ es, e.Proper ∧ IsName e.name) → (es.map Entry.name).Nodup → (markdownFilesIn p es).Nodup
  | [], p, _, _, _ => by simp [markdownFilesIn]
  | e :: es, p, hp, h, hdistinct => by
    rw [List.forall_mem_cons] at h
    obtain ⟨⟨hproper, hname⟩, hes⟩ := h
    rw [List.map_cons, List.nodup_cons] at hdistinct
    rw [markdownFilesIn, List.nodup_append']
    refine ⟨nodup_markdownFiles e hproper (Path.join_ne_nil p e.name),
      nodup_markdownFilesIn es hp hes hdistinct.2, ?_⟩
    -- A path that two entries contribute would go on with the names of both.
    intro q hq hq'
    rw [mem_markdownFiles e hproper hname] at hq
    rw [mem_markdownFilesIn es hes] at hq'
    obtain ⟨ns, _, _, hfind, -, rfl, -⟩ := hq
    obtain ⟨e', he', ns', _, _, hfind', -, heq, -⟩ := hq'
    obtain ⟨hproper', hname'⟩ := hes e' he'
    have hnames : e.name :: ns = e'.name :: ns' := by
      refine Path.joinAll_inj hp ?_ ?_ (congrArg Path.components heq)
      · exact List.forall_mem_cons.2 ⟨hname, hproper.isName hfind⟩
      · exact List.forall_mem_cons.2 ⟨hname', hproper'.isName hfind'⟩
    exact hdistinct.1 ((List.cons.inj hnames).1 ▸ List.mem_map_of_mem he')

end

end Entry

namespace Files

/-! ## Lists of files -/

/-- What the path `p` contributes to a list of files. -/
inductive Contributes (files : Files) (p : Path) : List Path → Prop
  /-- Nothing is there. -/
  | missing (h : files.entry? p = none) : Contributes files p []
  /-- A file that is named, whatever its extension. -/
  | file {name : Bytes} {bytes : ByteArray} (h : files.entry? p = some (.file name bytes)) :
      Contributes files p [p]
  /-- The Markdown files at any depth below a folder whose paths are texts, once each and in any
      order. -/
  | folder {name : Bytes} {es : List Entry} (h : files.entry? p = some (.folder name es))
      {qs : List Path} (once : qs.Nodup)
      (all : ∀ q, q ∈ qs ↔ (Entry.folder name es).MarkdownBelow p q) : Contributes files p qs

variable {files : Files} {p : Path} {qs qs' : List Path}

theorem ne_nil_of_entry_eq {e : Entry} (h : files.entry? p = some e) : p ≠ [] := by
  obtain ⟨names, hlocate⟩ := entry?_eq_some.1 h
  exact (locate_eq_ok.1 hlocate).1

theorem proper_of_entry_eq (hfiles : files.Proper) {e : Entry} (h : files.entry? p = some e) :
    e.Proper := by
  obtain ⟨names, hlocate⟩ := entry?_eq_some.1 h
  exact Entry.Proper.find? hfiles (locate_eq_ok.1 hlocate).2.2

/-- **The walk lists what a path contributes.** -/
theorem contributes_listOne (hfiles : files.Proper) (p : Path) :
    files.Contributes p (files.listOne p) := by
  rw [listOne]
  cases h : files.entry? p with
  | none => exact .missing h
  | some e =>
    cases e with
    | file name bytes => exact .file h
    | folder name es =>
      have hproper := proper_of_entry_eq hfiles h
      have hp := ne_nil_of_entry_eq h
      refine .folder h ?_ fun q => ?_
      · cases hproper with | folder inner names distinct =>
        exact Entry.nodup_markdownFilesIn es hp (fun e he => ⟨inner e he, names e he⟩) distinct
      · rw [Entry.markdownBelow_folder hproper]
        cases hproper with | folder inner names _ =>
        exact Entry.mem_markdownFilesIn es fun e he => ⟨inner e he, names e he⟩

/-- What a path contributes is certain but for its order, and none of it is tied. -/
theorem Contributes.perm (hfiles : files.Proper) (h : files.Contributes p qs)
    (h' : files.Contributes p qs') :
    qs.Perm qs' ∧ qs.Pairwise fun b c => tied Path.le b c = false := by
  cases h with
  | missing hnone =>
    cases h' with
    | missing => exact ⟨.nil, .nil⟩
    | file h' | folder h' => simp [hnone] at h'
  | file hfile =>
    cases h' with
    | missing h' | folder h' => simp [hfile] at h'
    | file => exact ⟨.rfl, List.pairwise_singleton _ _⟩
  | folder hfolder once all =>
    cases h' with
    | missing h' | file h' => simp [hfolder] at h'
    | folder h' once' all' =>
      cases hfolder.symm.trans h'
      refine ⟨(List.perm_ext_iff_of_nodup once once').2 fun q => (all q).trans (all' q).symm, ?_⟩
      refine once.imp_of_mem fun {b c} hb hc hne => ?_
      rw [Bool.eq_false_iff, ne_eq, Path.tied_iff]
      exact fun hsteps => hne (((all b).1 hb).eq (proper_of_entry_eq hfiles hfolder)
        (ne_nil_of_entry_eq hfolder) ((all c).1 hc) hsteps)

/-- The same inputs in another order give a list of paths that take the same steps. -/
theorem forall₂_list_of_perm (files : Files) {inputs inputs' : List Path}
    (h : inputs.Perm inputs') :
    List.Forall₂ (fun p q => p.components = q.components)
      (files.list inputs) (files.list inputs') :=
  Path.forall₂_sort_of_perm (h.flatMap_right _)

/-- **A list of files is the stable sort of what its paths contribute**, taken in their order: a
    file that is named itself, a folder each Markdown file at any depth below it once if the path
    of the file is a text, and a path that leads nowhere nothing. In which order a folder
    contributes its files does not matter. The same paths in another order give a list of paths
    that take the same steps. -/
theorem list_stable (hfiles : files.Proper) (inputs : List Path) :
    (∃ qss, List.Forall₂ files.Contributes inputs qss) ∧
      (∀ qss, List.Forall₂ files.Contributes inputs qss →
        ∀ out, StablySorted Path.le qss.flatten out ↔ out = files.list inputs) ∧
      ∀ inputs' : List Path, inputs'.Perm inputs →
        List.Forall₂ (fun p q => p.components = q.components)
          (files.list inputs') (files.list inputs) := by
  have hwalk : List.Forall₂ files.Contributes inputs (inputs.map files.listOne) :=
    List.forall₂_map_right_iff.2 (List.forall₂_same.2 fun p _ => contributes_listOne hfiles p)
  have hlist : StablySorted Path.le (inputs.map files.listOne).flatten (files.list inputs) := by
    rw [list, List.flatMap_def]
    exact Path.stablySorted_sort _
  refine ⟨⟨_, hwalk⟩, fun qss hqss out => ?_, fun inputs' hperm => ?_⟩
  · have hparts : List.Forall₂ (fun qs qs' : List Path => qs.Perm qs' ∧
        qs.Pairwise fun b c => tied Path.le b c = false) (inputs.map files.listOne) qss :=
      List.forall₂_map_left_iff.2 (hqss.imp fun p qs h =>
        (contributes_listOne hfiles p).perm hfiles h)
    have hsorted := hlist.of_parts Path.le_trans hparts
    constructor
    · intro hout
      exact hout.unique Path.le_total hsorted
    · rintro rfl
      exact hsorted
  · exact forall₂_list_of_perm files hperm

/-- A folder and those in it, one of which has a name that is no text; a file of another kind and
    one in that folder that are named; and a path that leads nowhere. Of the two paths of one file
    the first input's comes first. -/
theorem list_stable_overlapping :
    let files : Files := ⟨[.folder "docs" [.file "B.MD" .empty,
      .folder [0xff] [.file "c.md" .empty],
      .folder "sub" [.file "x.txt" .empty, .file "a.markdown" .empty], .file "md" .empty]], []⟩
    let named : Path := Path.joinAll "docs" [[0xff], "c.md"]
    let inputs : List Path := ["docs/sub/x.txt", "docs//sub", "gone", "docs/", named]
    let listed : List Path :=
      ["docs/B.MD", "docs//sub/a.markdown", "docs/sub/a.markdown", "docs/sub/x.txt", named]
    files.Proper ∧ files.list inputs = listed := by
  intro files named inputs listed
  have hproper : files.Proper := by
    refine .folder ?_ (by decide) (by decide)
    simp only [files, List.mem_singleton, forall_eq]
    refine .folder ?_ (by decide) (by decide)
    simp only [List.mem_cons, List.not_mem_nil, or_false, forall_eq_or_imp, forall_eq]
    refine ⟨.file _ _, .folder ?_ (by decide) (by decide), .folder ?_ (by decide) (by decide),
      .file _ _⟩
    · simp only [List.mem_singleton, forall_eq]
      exact .file _ _
    · simp only [List.mem_cons, List.not_mem_nil, or_false, forall_eq_or_imp, forall_eq]
      exact ⟨.file _ _, .file _ _⟩
  obtain ⟨-, hsorted, -⟩ := list_stable hproper inputs
  have hwalk : List.Forall₂ files.Contributes inputs (inputs.map files.listOne) :=
    List.forall₂_map_right_iff.2 (List.forall₂_same.2 fun p _ => contributes_listOne hproper p)
  let found : List Path :=
    ["docs/sub/x.txt", "docs//sub/a.markdown", "docs/B.MD", "docs/sub/a.markdown", named]
  have hfound : (inputs.map files.listOne).flatten = found := by decide +kernel
  refine ⟨hproper, ((hsorted _ hwalk _).1 ?_).symm⟩
  rw [hfound]
  exact ⟨by decide +kernel, by decide +kernel, by decide +kernel⟩

/-- A name alone does not tell whether a file is listed: one that ends in `.md` is left out of a
    folder whose name is no text, and one with a Kelvin sign for its `k` is taken. -/
theorem list_unlike_names :
    let files : Files := ⟨[.folder [0x64, 0xff] [.file "a.md" .empty],
      .folder "d" [.file "a.mar\u212adown" .empty]], []⟩
    files.Proper ∧
      MarkdownName "a.md" ∧ files.readBytes (Path.join [0x64, 0xff] "a.md") = .ok .empty ∧
      files.list [[0x64, 0xff]] = [] ∧
      (∀ ext ∈ markdownExtensions,
        ¬ '.' :: ext <:+ "a.mar\u212adown".toList.map Char.toLower) ∧
      files.list ["d"] = [Path.join "d" "a.mar\u212adown"] := by
  intro files
  have hproper : files.Proper := by
    refine .folder ?_ (by decide) (by decide)
    simp only [files, List.mem_cons, List.not_mem_nil, or_false, forall_eq_or_imp, forall_eq]
    refine ⟨.folder ?_ (by decide) (by decide), .folder ?_ (by decide) (by decide)⟩
    · simp only [List.mem_singleton, forall_eq]
      exact .file _ _
    · simp only [List.mem_singleton, forall_eq]
      exact .file _ _
  have hname : MarkdownName "a.md" := ⟨"a", "md", by decide, by decide +kernel⟩
  exact ⟨hproper, hname, rfl, by decide +kernel, by decide, by decide +kernel⟩

end Files

end JiraMarkup

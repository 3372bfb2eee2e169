/-
  What paths lead to.

  * `Path.join_eq` and `Path.pieces_append_slash`: the path of an entry has the pieces of a path
    to its folder, and its name;
  * `Entry.Proper` are the trees that a file system can hold: an entry has a name that a path can
    have in it, and no folder has two entries of one name;
  * `Files.locate_eq_ok` and `Files.step_eq_ok` say when a path and a piece of it lead to
    something, `Files.locate_join` that the path of an entry leads to it;
  * `Files.names_of_locate`: where a path leads is a matter of its steps, however it is written;
  * `Files.readBytes_of_mem_list`: every path that is listed leads to a file.
-/
import JiraMarkup.Files.Listing
import Mathlib.Data.List.Basic
import Mathlib.Data.List.Induction

namespace JiraMarkup

/-! ## Pieces of paths -/

namespace Path

theorem pieces_ne_nil (p : Path) : p.pieces ≠ [] := by
  cases p with
  | nil => simp [pieces]
  | cons c p => simp only [pieces]; split <;> [simp; split <;> simp]

theorem pieces_cons {c : UInt8} (hc : c ≠ slash) (p : Path) :
    pieces (c :: p) = (pieces p).modifyHead (c :: ·) := by
  obtain ⟨piece, rest, hp⟩ := List.exists_cons_of_ne_nil (pieces_ne_nil p)
  simp [pieces, hc, hp]

theorem pieces_eq_splitOn (p : Path) : pieces p = p.splitOn slash := by
  induction p with
  | nil => rfl
  | cons c p ih =>
    rw [List.splitOn_cons_eq_if_modifyHead, ← ih]
    by_cases hc : c = slash
    · subst hc; simp [pieces]
    · simp [pieces_cons hc, hc]

theorem pieces_append_slash (p : Path) {name : Bytes} (hname : slash ∉ name) :
    pieces (p ++ slash :: name) = pieces p ++ [name] := by
  simp only [pieces_eq_splitOn, List.splitOn_append_cons_self]
  rw [List.splitOn_eq_singleton hname]

theorem slash_notMem_of_mem_pieces {p : Path} {piece : Bytes} (h : piece ∈ p.pieces) :
    slash ∉ piece := by
  induction p generalizing piece with
  | nil => simp_all [pieces]
  | cons c p ih =>
    by_cases hc : c = slash
    · subst hc
      rw [pieces, if_pos rfl, List.mem_cons] at h
      rcases h with rfl | h
      · simp
      · exact ih h
    · obtain ⟨first, rest, hp⟩ := List.exists_cons_of_ne_nil (pieces_ne_nil p)
      rw [pieces_cons hc, hp, List.modifyHead_cons, List.mem_cons] at h
      rw [hp] at ih
      rcases h with rfl | h
      · simpa [Ne.symm hc] using ih List.mem_cons_self
      · exact ih (List.mem_cons_of_mem first h)

/-- Joining puts one slash between a path and a name. -/
theorem join_eq (p : Path) (name : Bytes) :
    ∃ q, p.join name = q ++ slash :: name ∧ (p = q ∨ p = q ++ [slash]) := by
  rw [join]
  split
  · next h =>
    obtain ⟨q, rfl⟩ := List.getLast?_eq_some_iff.1 h
    exact ⟨q, by simp, .inr rfl⟩
  · exact ⟨p, rfl, .inl rfl⟩

theorem isAbsolute_join {p : Path} (hp : p ≠ []) (name : Bytes) :
    (p.join name).isAbsolute = p.isAbsolute := by
  obtain ⟨c, p, rfl⟩ := List.exists_cons_of_ne_nil hp
  rw [join]
  split <;> (rw [List.cons_append]; by_cases hc : c = slash <;> simp [isAbsolute, hc])

/-- A path that does not end in a slash ends in a piece that is not empty. -/
theorem getLast?_pieces {p : Path} (hne : p ≠ []) (hslash : p.getLast? ≠ some slash) :
    p.pieces.getLast? ≠ some [] := by
  induction p with
  | nil => exact absurd rfl hne
  | cons c p ih =>
    obtain ⟨piece, rest, hp⟩ := List.exists_cons_of_ne_nil (pieces_ne_nil p)
    by_cases hpne : p = []
    · subst hpne
      have hc : c ≠ slash := by simpa using hslash
      simp [pieces, hc]
    · rw [List.getLast?_cons, List.getLast?_eq_some_getLast hpne] at hslash
      have ih := ih hpne (by simpa [List.getLast?_eq_some_getLast hpne] using hslash)
      rw [hp] at ih
      by_cases hc : c = slash
      · subst hc
        rw [pieces, if_pos rfl, hp]
        simpa [List.getLast?_cons] using ih
      · rw [pieces_cons hc, hp, List.modifyHead_cons]
        rcases rest with _ | ⟨piece', rest⟩
        · simp
        · simpa [List.getLast?_cons] using ih

end Path

/-! ## Trees of files -/

namespace Entry

/-- A name that an entry can have: one that leads to it in a path. -/
structure IsName (name : Bytes) : Prop where
  /-- It is not empty. -/
  ne_nil : name ≠ []
  /-- There is no slash in it. -/
  noSlash : Path.slash ∉ name
  /-- It does not lead to its own folder, -/
  ne_dot : name ≠ [Path.dot]
  /-- nor to the one above. -/
  ne_dots : name ≠ [Path.dot, Path.dot]

theorem isName_iff {name : Bytes} :
    IsName name ↔ name ≠ [] ∧ Path.slash ∉ name ∧ name ≠ [Path.dot] ∧ name ≠ [Path.dot, Path.dot] :=
  ⟨fun ⟨hne, hslash, hdot, hdots⟩ => ⟨hne, hslash, hdot, hdots⟩,
    fun ⟨hne, hslash, hdot, hdots⟩ => ⟨hne, hslash, hdot, hdots⟩⟩

instance (name : Bytes) : Decidable (IsName name) := decidable_of_iff _ isName_iff.symm

/-- A tree as a file system can hold it. -/
inductive Proper : Entry → Prop where
  | file (name : Bytes) (content : ByteArray) : Proper (.file name content)
  | folder {name : Bytes} {es : List Entry} (inner : ∀ e ∈ es, e.Proper)
      (names : ∀ e ∈ es, IsName e.name) (distinct : (es.map Entry.name).Nodup) :
      Proper (.folder name es)

theorem Proper.inner {name : Bytes} {es : List Entry} (h : (Entry.folder name es).Proper)
    {e : Entry} (he : e ∈ es) : e.Proper := by
  cases h with | folder inner _ _ => exact inner e he

theorem find?_append (e : Entry) (ns ns' : List Bytes) :
    e.find? (ns ++ ns') = (e.find? ns).bind fun sub => sub.find? ns' := by
  induction ns generalizing e with
  | nil => rfl
  | cons n ns ih =>
    rw [List.cons_append, find?, find?, Option.bind_assoc]
    exact congrArg _ (funext ih)

/-- An entry is found by its name if no other has it. -/
theorem find?_name {es : List Entry} (hdistinct : (es.map Entry.name).Nodup) {e : Entry}
    (he : e ∈ es) : es.find? (fun sub => sub.name = e.name) = some e := by
  induction es with
  | nil => cases he
  | cons e' es ih =>
    rw [List.map_cons, List.nodup_cons] at hdistinct
    rcases List.mem_cons.1 he with rfl | he
    · simp
    · have hne : e'.name ≠ e.name := by
        intro heq
        exact hdistinct.1 (heq ▸ List.mem_map_of_mem he)
      rw [List.find?_cons_of_neg (by simpa using hne)]
      exact ih hdistinct.2 he

/-- What a folder passes on to all that it holds is true of every entry below it. -/
theorem of_find? {P : Entry → Prop} (inner : ∀ {e sub}, P e → sub ∈ e.entries → P sub) {e : Entry}
    (h : P e) {ns : List Bytes} {sub : Entry} (hsub : e.find? ns = some sub) : P sub := by
  induction ns generalizing e with
  | nil =>
    cases hsub
    exact h
  | cons n ns ih =>
    rw [Entry.find?, Option.bind_eq_some_iff] at hsub
    obtain ⟨next, hnext, hsub⟩ := hsub
    exact ih (inner h (List.mem_of_find?_eq_some hnext)) hsub

theorem Proper.find? {e : Entry} (h : e.Proper) {ns : List Bytes} {sub : Entry}
    (hsub : e.find? ns = some sub) : sub.Proper := by
  refine of_find? (fun {e sub} he hmem => ?_) h hsub
  cases he with
  | file => cases hmem
  | folder inner _ _ => exact inner sub hmem

/-- In a proper tree names that lead to something are names of entries. -/
theorem Proper.isName {e : Entry} (h : e.Proper) {names : List Bytes} {sub : Entry}
    (hsub : e.find? names = some sub) : ∀ n ∈ names, IsName n := by
  induction names generalizing e with
  | nil => simp
  | cons n ns ih =>
    rw [Entry.find?, Option.bind_eq_some_iff] at hsub
    obtain ⟨next, hnext, hsub⟩ := hsub
    have hmem := List.mem_of_find?_eq_some hnext
    have hn : next.name = n := by simpa using List.find?_some hnext
    rw [List.forall_mem_cons]
    cases h with
    | file name content => cases hmem
    | folder inner names _ => exact ⟨hn ▸ names next hmem, ih (inner next hmem) hsub⟩

end Entry

namespace Files

/-- A tree of files as a file system can hold it. -/
def Proper (files : Files) : Prop := (Entry.folder [] files.root).Proper

variable {files : Files} {p : Path} {names names' : List Bytes} {piece : Bytes} {e : Entry}

/-! ## Following a path -/

/-- **A piece of a path leads on from a folder**: nowhere, up, or to an entry. -/
theorem step_eq_ok : files.step names piece = .ok names' ↔
    (∃ name es, files.find? names = some (.folder name es)) ∧
      names' = if piece = [] ∨ piece = [Path.dot] then names
        else if piece = [Path.dot, Path.dot] then names.dropLast else names ++ [piece] := by
  rw [step]
  rcases files.find? names with _ | ⟨name, content⟩ | ⟨name, es⟩
  · simp
  · simp [Entry.isFolder]
  · simp only [Entry.isFolder, Bool.not_true, Bool.false_eq_true, if_false]
    split_ifs <;> simp [eq_comm]

/-- The name of an entry leads to it. -/
theorem step_name (hname : Entry.IsName piece) {name : Bytes} {es : List Entry}
    (h : files.find? names = some (.folder name es)) :
    files.step names piece = .ok (names ++ [piece]) := by
  rw [step_eq_ok, if_neg (by simp [hname.ne_nil, hname.ne_dot]), if_neg hname.ne_dots]
  exact ⟨⟨name, es, h⟩, rfl⟩

theorem follow_concat {pieces : List Bytes} :
    files.follow names (pieces ++ [piece]) = .ok names' ↔
      ∃ mid, files.follow names pieces = .ok mid ∧ files.step mid piece = .ok names' := by
  rw [follow, List.foldlM_append, ← follow]
  rcases files.follow names pieces with err | mid
  · simp [bind, Except.bind]
  · simp only [bind, Except.bind, List.foldlM_cons, List.foldlM_nil, Except.ok.injEq,
      exists_eq_left']
    rcases files.step mid piece with err | next <;> simp [pure, Except.pure]

/-- **A path leads to an entry** if its pieces lead to names that have one. -/
theorem locate_eq_ok : files.locate p = .ok (names, e) ↔
    p ≠ [] ∧ files.follow (files.start p) p.pieces = .ok names ∧ files.find? names = some e := by
  rw [locate]
  by_cases hp : p = []
  · simp [hp]
  · rw [if_neg hp]
    rcases files.follow (files.start p) p.pieces with err | mid
    · simp
    · simp only [Except.ok.injEq, ne_eq, hp, not_false_eq_true, true_and]
      constructor
      · intro h
        split at h
        · next e' he' =>
          cases h
          exact ⟨rfl, he'⟩
        · cases h
      · rintro ⟨rfl, he⟩
        rw [he]

theorem entry?_eq_some : files.entry? p = some e ↔ ∃ names, files.locate p = .ok (names, e) := by
  rw [ entry?]
  rcases files.locate p with err | ⟨names, e'⟩
  · simp [Except.toOption]
  · simp [Except.toOption]

/-- The path of an entry sets out from where the path of its folder does. -/
theorem start_join (hp : p ≠ []) (name : Bytes) : files.start (p.join name) = files.start p := by
  rw [start, Path.isAbsolute_join hp, start]

/-- **The path of an entry of a folder leads to it**, if the tree is proper. -/
theorem locate_join {name : Bytes} {es : List Entry}
    (h : files.locate p = .ok (names, .folder name es))
    (hproper : (Entry.folder name es).Proper) (he : e ∈ es) :
    files.locate (p.join e.name) = .ok (names ++ [e.name], e) := by
  obtain ⟨hp, hfollow, hfind⟩ := locate_eq_ok.1 h
  cases hproper with | folder _ hnames hdistinct =>
  have hname := hnames e he
  obtain ⟨q, hjoin, hq⟩ := Path.join_eq p e.name
  have hne : p.join e.name ≠ [] := by simp [hjoin]
  have hstep := step_name hname hfind
  refine locate_eq_ok.2 ⟨hne, ?_, ?_⟩
  · rw [start_join hp, hjoin, Path.pieces_append_slash q hname.noSlash, follow_concat]
    rcases hq with rfl | rfl
    · exact ⟨names, hfollow, hstep⟩
    · -- The slash at the end of the path adds an empty piece, which leads nowhere.
      rw [Path.pieces_append_slash q List.not_mem_nil, follow_concat] at hfollow
      obtain ⟨mid, hmid, hend⟩ := hfollow
      obtain ⟨-, hnames⟩ := step_eq_ok.1 hend
      rw [if_pos (.inl rfl)] at hnames
      exact ⟨mid, hmid, hnames ▸ hstep⟩
  · rw [find?, Entry.find?_append, ← find?, hfind]
    simp [Entry.find?, Entry.entries, Entry.find?_name hdistinct he]

/-! ## Places -/

/-- The names to which a step leads from names. -/
def lead (names : List Bytes) : Path.Component → List Bytes
  | .root => []
  | .current => names
  | .parent => names.dropLast
  | .entry name => names ++ [name]

theorem follow_eq_lead {pieces : List Bytes} (h : files.follow names pieces = .ok names') :
    names' = (pieces.filterMap Path.Component.ofPiece?).foldl lead names := by
  induction pieces using List.reverseRecOn generalizing names' with
  | nil => exact (Except.ok.inj h).symm
  | append_singleton pieces piece ih =>
    obtain ⟨mid, hmid, hend⟩ := follow_concat.1 h
    rw [(step_eq_ok.1 hend).2, List.filterMap_append, List.foldl_append, ← ih hmid]
    simp only [List.filterMap_cons, List.filterMap_nil, Path.Component.ofPiece?]
    split_ifs <;> rfl

/-- **A path leads where its steps lead**, if it leads to an entry. -/
theorem names_of_locate (h : files.locate p = .ok (names, e)) :
    names = p.components.foldl lead files.here := by
  obtain ⟨-, hfollow, -⟩ := locate_eq_ok.1 h
  rw [follow_eq_lead hfollow, Path.components, List.foldl_append, start]
  cases p.isAbsolute with
  | true => rfl
  | false => by_cases hdot : p.pieces.head? = some [Path.dot] <;> simp [hdot, lead]

/-- Paths that take the same steps lead to the same entry, if they lead to one. -/
theorem entry_eq_of_components {q : Path} {e' : Entry} (hp : files.locate p = .ok (names, e))
    (hq : files.locate q = .ok (names', e')) (h : p.components = q.components) : e = e' := by
  obtain ⟨-, -, he⟩ := locate_eq_ok.1 hp
  obtain ⟨-, -, he'⟩ := locate_eq_ok.1 hq
  rw [names_of_locate hp, h, ← names_of_locate hq] at he
  exact Option.some.inj (he.symm.trans he')

/-! ## Contents -/

theorem readBytes_eq_ok {bytes : ByteArray} : files.readBytes p = .ok bytes ↔
    ∃ names name, files.locate p = .ok (names, .file name bytes) := by
  rw [readBytes]
  rcases files.locate p with err | ⟨names, ⟨name, content⟩ | ⟨name, es⟩⟩
  · simp
  · simp
  · simp

theorem readText_eq_ok {t : Text} : files.readText p = .ok t ↔
    ∃ bytes, files.readBytes p = .ok bytes ∧ Text.decode? bytes = some t := by
  rw [readText]
  cases files.readBytes p with
  | error e => simp
  | ok bytes => cases hdecode : Text.decode? bytes <;> simp [textOf, hdecode]

end Files

/-! ## Listed files -/

open Files

mutual

theorem Entry.readBytes_of_mem_markdownFiles {files : Files} : ∀ (e : Entry) {p : Path}
    {names : List Bytes}, e.Proper → files.locate p = .ok (names, e) →
      ∀ q ∈ e.markdownFiles p, ∃ bytes, files.readBytes q = .ok bytes
  | .file name content, p, names, _, h => by
    intro q hq
    rw [markdownFiles] at hq
    split at hq
    · rw [List.mem_singleton] at hq
      exact ⟨content, readBytes_eq_ok.2 ⟨names, name, hq ▸ h⟩⟩
    · cases hq
  | .folder name es, p, names, hproper, h => by
    intro q hq
    rw [markdownFiles, Path.sort, List.mem_mergeSort] at hq
    refine Entry.readBytes_of_mem_markdownFilesIn es (fun e he => ?_) q hq
    exact ⟨hproper.inner he, _, locate_join h hproper he⟩

theorem Entry.readBytes_of_mem_markdownFilesIn {files : Files} : ∀ (es : List Entry) {p : Path},
    (∀ e ∈ es, e.Proper ∧ ∃ names, files.locate (p.join e.name) = .ok (names, e)) →
      ∀ q ∈ Entry.markdownFilesIn p es, ∃ bytes, files.readBytes q = .ok bytes
  | [], p, _ => by
    intro q hq
    rw [markdownFilesIn] at hq
    cases hq
  | e :: es, p, h => by
    intro q hq
    rw [List.forall_mem_cons] at h
    obtain ⟨⟨hproper, names, hlocate⟩, hes⟩ := h
    rw [markdownFilesIn, List.mem_append] at hq
    rcases hq with hq | hq
    · exact Entry.readBytes_of_mem_markdownFiles e hproper hlocate q hq
    · exact Entry.readBytes_of_mem_markdownFilesIn es hes q hq

end

namespace Files

/-- **Every path that is listed leads to a file.** -/
theorem readBytes_of_mem_list {files : Files} (hfiles : files.Proper) {inputs : List Path}
    {q : Path} (hq : q ∈ files.list inputs) : ∃ bytes, files.readBytes q = .ok bytes := by
  rw [list, Path.sort, List.mem_mergeSort, List.mem_flatMap] at hq
  obtain ⟨p, -, hq⟩ := hq
  rw [listOne] at hq
  split at hq
  · next name es h =>
    obtain ⟨names, hlocate⟩ := entry?_eq_some.1 h
    have hproper : (Entry.folder name es).Proper :=
      Entry.Proper.find? hfiles (locate_eq_ok.1 hlocate).2.2
    refine Entry.readBytes_of_mem_markdownFilesIn es (fun e he => ?_) q hq
    exact ⟨hproper.inner he, _, locate_join hlocate hproper he⟩
  · next name content h =>
    obtain ⟨names, hlocate⟩ := entry?_eq_some.1 h
    rw [List.mem_singleton] at hq
    exact ⟨content, readBytes_eq_ok.2 ⟨names, name, hq ▸ hlocate⟩⟩
  · cases hq

end Files

end JiraMarkup

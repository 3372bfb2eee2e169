/-
  What a tree of files is after a file has been written.

  * `Files.contentAt` is what is at the end of names: nothing, a folder, or a file with its bytes;
  * `Entry.contentAt_place`: a file that is put where there is no folder is there, and nothing
    else has changed;
  * `Files.follow_of_folders`: paths lead through the same folders as before;
  * `Files.saved_of_write`: the path that has been written leads to a file with the bytes, and
    everything else is as it was (`Files.Saved`);
  * `Files.Proper.write` and `Files.proper_ofList`: trees that are written, and trees that are
    built of files, are such as a file system can hold.
-/
import JiraMarkup.Proofs.Files.Reaching
import Mathlib.Data.List.Induction
import Mathlib.Data.List.Nodup

namespace JiraMarkup

/-! ## What is at the end of names -/

namespace Entry

/-- The bytes of a file, and nothing for a folder. -/
def content? : Entry → Option ByteArray
  | file _ bytes => some bytes
  | folder .. => none

/-- What is at the end of names from a folder that holds `es`. -/
def contentAt (es : List Entry) (names : List Bytes) : Option (Option ByteArray) :=
  ((folder [] es).find? names).map content?

theorem contentAt_nil (es : List Entry) : contentAt es [] = some none := rfl

/-- The first name leads to an entry, the others on from it if it is a folder. -/
theorem contentAt_cons (es : List Entry) (n : Bytes) (ns : List Bytes) :
    contentAt es (n :: ns) = (es.find? fun e => e.name = n).bind fun e =>
      match e with
      | .file _ bytes => if ns = [] then some (some bytes) else none
      | .folder _ es' => contentAt es' ns := by
  rw [contentAt, Entry.find?, entries]
  cases es.find? fun e => e.name = n with
  | none => rfl
  | some e =>
    cases e with
    | file name bytes => cases ns <;> simp [Entry.find?, entries, content?]
    | folder name es' => cases ns <;> simp [contentAt, Entry.find?, entries, content?]

/-! ## Putting a file -/

/-- The entry that takes the place of one has its name, too. -/
def KeepsName (n : Bytes) (f : Option Entry → Entry) : Prop :=
  ∀ old : Option Entry, (∀ e ∈ old, e.name = n) → (f old).name = n

/-- Changing the entry of a name changes what is found by this name. -/
theorem find?_alter {n : Bytes} {f : Option Entry → Entry} (hf : KeepsName n f) (n' : Bytes)
    (es : List Entry) : (alter n f es).find? (fun e => e.name = n') =
      if n' = n then some (f (es.find? fun e => e.name = n))
      else es.find? fun e => e.name = n' := by
  induction es with
  | nil =>
    have hname := hf none (by simp)
    by_cases hn : n' = n
    · simp [alter, hname, hn]
    · simp [alter, hname, hn, Ne.symm hn]
  | cons e es ih =>
    rw [alter]
    by_cases he : e.name = n
    · have hname := hf (some e) (by simpa using he)
      by_cases hn : n' = n
      · simp [he, hn, hname]
      · simp [he, hn, hname, Ne.symm hn]
    · rw [if_neg he, List.find?_cons, ih]
      by_cases hn : n' = n
      · simp [hn, he]
      · simp [hn, List.find?_cons]

/-- **A file that is put at the end of names is there, and nothing else changes**, if the names
    before the last lead to a folder and there is no folder where the file is put. -/
theorem contentAt_place {bytes : ByteArray} {last : Bytes} (pre : List Bytes) {es : List Entry}
    (hpre : contentAt es pre = some none) (hlast : contentAt es (pre ++ [last]) ≠ some none)
    (names : List Bytes) :
    contentAt (place (some bytes) (pre ++ [last]) es) names =
      if names = pre ++ [last] then some (some bytes) else contentAt es names := by
  induction pre generalizing es names with
  | nil =>
    rcases names with _ | ⟨n, ns⟩
    · simp [contentAt_nil]
    · rw [List.nil_append, contentAt_cons] at hlast
      rw [List.nil_append, place, contentAt_cons, find?_alter fun _ _ => by rfl, contentAt_cons es]
      by_cases hn : n = last
      · -- Names that go on from the file lead nowhere, before and after.
        subst hn
        cases hold : es.find? fun e => e.name = n with
        | none => by_cases hns : ns = [] <;> simp [hns]
        | some e =>
          cases e with
          | file name old => by_cases hns : ns = [] <;> simp [hns]
          | folder name es' => simp [hold, contentAt_nil] at hlast
      · simp [hn]
  | cons x pre ih =>
    rw [contentAt_cons] at hpre
    rw [List.cons_append, contentAt_cons] at hlast
    cases hsub : es.find? fun e => e.name = x with
    | none => simp [hsub] at hpre
    | some e =>
      rw [hsub, Option.bind_some] at hpre hlast
      cases e with
      | file name old => simp at hpre
      | folder name es' =>
        rw [List.cons_append, place]
        · rcases names with _ | ⟨n, ns⟩
          · simp [contentAt_nil]
          · rw [contentAt_cons, find?_alter fun _ _ => by rfl, contentAt_cons es]
            by_cases hn : n = x
            · subst hn
              have hplace := ih hpre hlast ns
              simpa [hsub, entries] using hplace
            · simp [hn]
        · simp

/-! ## Proper trees -/

theorem mem_alter {n : Bytes} {f : Option Entry → Entry} {e : Entry} {es : List Entry}
    (h : e ∈ alter n f es) :
    e ∈ es ∨ ∃ old, (∀ e' ∈ old, e' ∈ es ∧ e'.name = n) ∧ e = f old := by
  induction es with
  | nil =>
    rw [alter, List.mem_singleton] at h
    exact .inr ⟨none, by simp, h⟩
  | cons e' es ih =>
    rw [alter] at h
    split at h
    · next hn =>
      rcases List.mem_cons.1 h with rfl | h
      · exact .inr ⟨some e', by simpa using hn, rfl⟩
      · exact .inl (List.mem_cons_of_mem e' h)
    · rcases List.mem_cons.1 h with rfl | h
      · exact .inl List.mem_cons_self
      · rcases ih h with h | ⟨old, hold, he⟩
        · exact .inl (List.mem_cons_of_mem e' h)
        · exact .inr ⟨old, fun o ho => (hold o ho).imp_left (List.mem_cons_of_mem e'), he⟩

/-- The name is there afterwards, once. -/
theorem names_alter {n : Bytes} {f : Option Entry → Entry} (hf : KeepsName n f) (es : List Entry) :
    (alter n f es).map name =
      if n ∈ es.map name then es.map name else es.map name ++ [n] := by
  induction es with
  | nil => simp [alter, hf none]
  | cons e es ih =>
    rw [alter]
    by_cases he : e.name = n
    · simp [he, hf (some e)]
    · rw [if_neg he, List.map_cons, ih, List.map_cons]
      by_cases hn : n ∈ es.map name
      · rw [if_pos hn, if_pos (List.mem_cons_of_mem _ hn)]
      · rw [if_neg hn, if_neg (by simpa [Ne.symm he] using hn), List.cons_append]

theorem proper_empty (name : Bytes) : (Entry.folder name []).Proper :=
  .folder (by simp) (by simp) (by simp)

/-- What an entry holds can be held by a folder of any name. -/
theorem Proper.entries {e : Entry} (h : e.Proper) (name : Bytes) :
    (Entry.folder name e.entries).Proper := by
  cases h with
  | file name' content => exact proper_empty name
  | folder inner names distinct => exact .folder inner names distinct

theorem Proper.alter {n : Bytes} (hn : IsName n) {f : Option Entry → Entry}
    (hname : KeepsName n f) {es : List Entry} (h : (Entry.folder [] es).Proper)
    (hf : ∀ old : Option Entry, (∀ e ∈ old, e.Proper) → (f old).Proper) :
    (Entry.folder [] (Entry.alter n f es)).Proper := by
  cases h with | folder inner names distinct =>
  refine .folder (fun e he => ?_) (fun e he => ?_) ?_
  · rcases mem_alter he with he | ⟨old, hold, rfl⟩
    · exact inner e he
    · exact hf old fun e he => inner e (hold e he).1
  · rcases mem_alter he with he | ⟨old, hold, rfl⟩
    · exact names e he
    · rw [hname old fun e he => (hold e he).2]
      exact hn
  · rw [names_alter hname]
    split
    · exact distinct
    · next hnot => exact List.Nodup.append distinct (List.nodup_singleton n) (by simpa using hnot)

/-- **A proper tree stays proper** when something is put at the end of names that entries can
    have. -/
theorem Proper.place (content : Option ByteArray) {names : List Bytes}
    (hnames : ∀ n ∈ names, IsName n) {es : List Entry} (h : (Entry.folder [] es).Proper) :
    (Entry.folder [] (Entry.place content names es)).Proper := by
  induction names generalizing es with
  | nil => exact h
  | cons n ns ih =>
    rw [List.forall_mem_cons] at hnames
    rcases ns with _ | ⟨n', ns⟩
    · rw [Entry.place]
      refine Proper.alter hnames.1 (fun old hold => ?_) h fun old hold => ?_
      · cases content with
        | some bytes => rfl
        | none =>
          cases old with
          | none => rfl
          | some e => exact hold e rfl
      · cases content with
        | some bytes => exact .file n bytes
        | none =>
          cases old with
          | none => exact proper_empty n
          | some e => exact hold e rfl
    · rw [Entry.place]
      · refine Proper.alter hnames.1 (fun _ _ => rfl) h fun old hold => ?_
        refine (ih hnames.2 ?_).entries n
        cases old with
        | none => exact proper_empty []
        | some e => exact (hold e rfl).entries []
      · simp

end Entry

namespace Files

/-- What is at the end of names from the root. -/
def contentAt (files : Files) (names : List Bytes) : Option (Option ByteArray) :=
  Entry.contentAt files.root names

variable {files files' : Files} {p : Path} {bytes : ByteArray} {names names' : List Bytes}

theorem contentAt_eq_folder : files.contentAt names = some none ↔
    ∃ name es, files.find? names = some (.folder name es) := by
  have hname : ∀ ns, (Entry.folder [] files.root).find? ns = files.find? ns := fun _ => rfl
  rw [contentAt, Entry.contentAt, hname]
  rcases files.find? names with _ | ⟨name, content⟩ | ⟨name, es⟩ <;> simp [Entry.content?]

theorem contentAt_eq_file : files.contentAt names = some (some bytes) ↔
    ∃ name, files.find? names = some (.file name bytes) := by
  have hname : ∀ ns, (Entry.folder [] files.root).find? ns = files.find? ns := fun _ => rfl
  rw [contentAt, Entry.contentAt, hname]
  rcases files.find? names with _ | ⟨name, content⟩ | ⟨name, es⟩ <;> simp [Entry.content?]

/-! ## Where a path is written -/

/-- **A path can be written** if it leads to a folder but for its last piece, which is a name that
    no folder there has. -/
theorem of_target_eq_ok (h : files.target p = .ok names) :
    p ≠ [] ∧ ∃ pieces pre last, p.pieces = pieces ++ [last] ∧ names = pre ++ [last] ∧
      files.follow (files.start p) pieces = .ok pre ∧ files.contentAt pre = some none ∧
      files.contentAt names ≠ some none ∧ last ≠ [] ∧ last ≠ [Path.dot] ∧
      last ≠ [Path.dot, Path.dot] := by
  rw [target] at h
  by_cases hp : p = []
  · simp [hp] at h
  rw [if_neg hp] at h
  split at h
  · cases h
  next pre hpre =>
  split at h
  · cases h
  · cases h
  next name es hfolder =>
  split at h
  · cases h
  next hlast =>
  simp only [not_or] at hlast
  obtain ⟨hne, hdot, hdots, hslash⟩ := hlast
  obtain ⟨pieces, last, hpieces⟩ : ∃ pieces last, p.pieces = pieces ++ [last] :=
    ⟨_, _, (List.dropLast_append_getLast (Path.pieces_ne_nil p)).symm⟩
  have hend := Path.getLast?_pieces hp hslash
  rw [hpieces, List.getLast?_concat, ne_eq, Option.some.injEq] at hend
  -- There is no slash at the end of the path, so that no piece is dropped.
  have hall : (p.pieces.reverse.dropWhile (· = [])).reverse = pieces ++ [last] := by
    simp [hpieces, hend]
  rw [hall] at h hpre hne hdot hdots
  rw [List.getLast?_concat, Option.getD_some] at h hne hdot hdots
  rw [List.dropLast_concat] at hpre
  have hnames : names = pre ++ [last] ∧ files.contentAt (pre ++ [last]) ≠ some none := by
    rw [ne_eq, contentAt_eq_folder]
    split at h
    · cases h
    next hno =>
    cases h
    exact ⟨rfl, fun ⟨name, es, hes⟩ => hno name es hes⟩
  obtain ⟨rfl, hno⟩ := hnames
  exact ⟨hp, pieces, pre, last, hpieces, rfl, hpre, contentAt_eq_folder.2 ⟨name, es, hfolder⟩, hno,
    hne, hdot, hdots⟩

/-- **Paths lead on as before** if all folders are there. -/
theorem follow_of_folders
    (hfolders : ∀ ns, files.contentAt ns = some none → files'.contentAt ns = some none)
    {pieces : List Bytes} (h : files.follow names pieces = .ok names') :
    files'.follow names pieces = .ok names' := by
  induction pieces using List.reverseRecOn generalizing names' with
  | nil => exact h
  | append_singleton pieces piece ih =>
    obtain ⟨mid, hmid, hstep⟩ := follow_concat.1 h
    rw [step_eq_ok, ← contentAt_eq_folder] at hstep
    refine follow_concat.2 ⟨mid, ih hmid, ?_⟩
    rw [step_eq_ok, ← contentAt_eq_folder]
    exact ⟨hfolders mid hstep.1, hstep.2⟩

/-! ## After the write -/

/-- `files'` is `files` with the bytes at the end of a path, and with nothing else changed. -/
structure Saved (files : Files) (p : Path) (bytes : ByteArray) (files' : Files) : Prop where
  /-- The path leads to a file with the bytes; no other file has changed, and no folder. -/
  written : ∃ names name, files'.locate p = .ok (names, .file name bytes) ∧
    ∀ other, other ≠ names → files'.contentAt other = files.contentAt other
  /-- Paths set out from the same folder. -/
  here : files'.here = files.here

theorem Saved.readBytes (h : files.Saved p bytes files') : files'.readBytes p = .ok bytes := by
  obtain ⟨names, name, hlocate, -⟩ := h.written
  exact readBytes_eq_ok.2 ⟨names, name, hlocate⟩

/-- **A write puts the bytes at the end of the path and changes nothing else.** -/
theorem saved_of_write (h : files.write p bytes = .ok files') : files.Saved p bytes files' := by
  rw [write] at h
  split at h
  · cases h
  next names htarget =>
  cases h
  obtain ⟨hp, pieces, pre, last, hpieces, rfl, hfollow, hpre, hno, hne, hdot, hdots⟩ :=
    of_target_eq_ok htarget
  have hcontent : ∀ other, (files.place (pre ++ [last]) (some bytes)).contentAt other =
      if other = pre ++ [last] then some (some bytes) else files.contentAt other :=
    Entry.contentAt_place pre hpre hno
  have hothers : ∀ other, other ≠ pre ++ [last] →
      (files.place (pre ++ [last]) (some bytes)).contentAt other = files.contentAt other := by
    intro other hother
    rw [hcontent, if_neg hother]
  have hfolders : ∀ ns, files.contentAt ns = some none →
      (files.place (pre ++ [last]) (some bytes)).contentAt ns = some none := by
    intro ns hns
    rw [hothers ns, hns]
    rintro rfl
    exact hno hns
  obtain ⟨name, hfile⟩ := contentAt_eq_file.1 ((hcontent _).trans (if_pos rfl))
  refine ⟨⟨pre ++ [last], name, locate_eq_ok.2 ⟨hp, ?_, hfile⟩, hothers⟩, rfl⟩
  rw [hpieces, follow_concat]
  refine ⟨pre, follow_of_folders hfolders hfollow, ?_⟩
  rw [step_eq_ok, ← contentAt_eq_folder, if_neg (by simp [hne, hdot]), if_neg hdots]
  exact ⟨hfolders pre hpre, rfl⟩

/-- **A tree stays proper when a file is written.** -/
theorem Proper.write (hfiles : files.Proper) (h : files.write p bytes = .ok files') :
    files'.Proper := by
  rw [Files.write] at h
  split at h
  · cases h
  next names htarget =>
  cases h
  obtain ⟨-, pieces, pre, last, hpieces, rfl, -, hpre, -, hne, hdot, hdots⟩ :=
    of_target_eq_ok htarget
  obtain ⟨name, es, hfolder⟩ := contentAt_eq_folder.1 hpre
  have hslash : Path.slash ∉ last := Path.slash_notMem_of_mem_pieces (p := p) (by simp [hpieces])
  refine Entry.Proper.place (some bytes) (List.forall_mem_append.2 ⟨?_, ?_⟩) hfiles
  · exact Entry.Proper.isName hfiles hfolder
  · simpa using ⟨hne, hslash, hdot, hdots⟩

/-- **A tree that is built from files and folders with names is proper.** -/
theorem proper_ofList {here : List Bytes} {contents : List (List Bytes × Option ByteArray)}
    (h : ∀ c ∈ contents, ∀ n ∈ c.1, Entry.IsName n) : (ofList here contents).Proper := by
  have hfold : ∀ files : Files, files.Proper → (∀ c ∈ contents, ∀ n ∈ c.1, Entry.IsName n) →
      (contents.foldl (fun files c => files.place c.1 c.2) files).Proper := by
    clear h
    induction contents with
    | nil => exact fun _ hfiles _ => hfiles
    | cons c contents ih =>
      intro files hfiles h
      rw [List.forall_mem_cons] at h
      exact ih (files.place c.1 c.2) (Entry.Proper.place c.2 h.1 hfiles) h.2
  exact hfold ⟨[], here⟩ (Entry.proper_empty []) h

end Files

end JiraMarkup

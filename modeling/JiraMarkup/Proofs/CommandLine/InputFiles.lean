/-
  Runs that read files.

  * `Files.HoldsTexts` are the trees in which every file is a text;
  * `Options.run_of_inputText`: of its inputs a run depends on the text that they give only, and
    `Options.run_printed` and `Options.run_saved` are what it makes of this text;
  * `run_input_files`: this text is that of the listed files, one below the other. So it does not
    matter in which order the inputs are given, nor whether a single file is named or comes from
    the standard input.
-/
import JiraMarkup.Proofs.CommandLine.Effects
import JiraMarkup.Proofs.Files.Listed

namespace JiraMarkup

/-! ## Trees of texts -/

/-- An entry at or below which every file is a text. -/
inductive Entry.HoldsTexts : Entry → Prop where
  | file (name : Bytes) {bytes : ByteArray} {t : Text} (h : Text.decode? bytes = some t) :
      HoldsTexts (.file name bytes)
  | folder (name : Bytes) {es : List Entry} (inner : ∀ e ∈ es, e.HoldsTexts) :
      HoldsTexts (.folder name es)

theorem Entry.HoldsTexts.find? {e : Entry} (h : e.HoldsTexts) {ns : List Bytes} {sub : Entry}
    (hsub : e.find? ns = some sub) : sub.HoldsTexts := by
  refine of_find? (fun {e sub} he hmem => ?_) h hsub
  cases he with
  | file => cases hmem
  | folder _ inner => exact inner sub hmem

namespace Files

/-- A tree in which every file is a text. -/
def HoldsTexts (files : Files) : Prop := (Entry.folder [] files.root).HoldsTexts

variable {files : Files} {p q : Path} {t t' : Text} {ts ts' : List Text}

theorem HoldsTexts.readText (h : files.HoldsTexts) {bytes : ByteArray}
    (hbytes : files.readBytes p = .ok bytes) :
    ∃ t, Text.decode? bytes = some t ∧ files.readText p = .ok t := by
  obtain ⟨names, name, hlocate⟩ := readBytes_eq_ok.1 hbytes
  cases h.find? (locate_eq_ok.1 hlocate).2.2 with
  | file _ ht => exact ⟨_, ht, readText_eq_ok.2 ⟨bytes, hbytes, ht⟩⟩

/-- **All files that are listed can be read** in a tree of texts. -/
theorem HoldsTexts.texts (h : files.HoldsTexts) (hfiles : files.Proper) (inputs : List Path) :
    ∃ ts, List.Forall₂ (fun p t => files.readText p = .ok t) (files.list inputs) ts := by
  have hread : ∀ p ∈ files.list inputs, ∃ t, files.readText p = .ok t := by
    intro p hp
    obtain ⟨bytes, hbytes⟩ := readBytes_of_mem_list hfiles hp
    obtain ⟨t, -, ht⟩ := h.readText hbytes
    exact ⟨t, ht⟩
  choose! text htext using hread
  exact ⟨_, List.forall₂_map_right_iff.2 (List.forall₂_same.2 htext)⟩

/-- Paths that take the same steps have the same text, if they have one. -/
theorem readText_eq_of_components (hp : files.readText p = .ok t) (hq : files.readText q = .ok t')
    (h : p.components = q.components) : t = t' := by
  obtain ⟨bytes, hbytes, ht⟩ := readText_eq_ok.1 hp
  obtain ⟨bytes', hbytes', ht'⟩ := readText_eq_ok.1 hq
  obtain ⟨_, _, hlocate⟩ := readBytes_eq_ok.1 hbytes
  obtain ⟨_, _, hlocate'⟩ := readBytes_eq_ok.1 hbytes'
  cases entry_eq_of_components hlocate hlocate' h
  exact Option.some.inj (ht.symm.trans ht')

theorem texts_eq_of_components {ps qs : List Path}
    (h : List.Forall₂ (fun p q => p.components = q.components) ps qs)
    (hps : List.Forall₂ (fun p t => files.readText p = .ok t) ps ts)
    (hqs : List.Forall₂ (fun p t => files.readText p = .ok t) qs ts') : ts = ts' := by
  induction h generalizing ts ts' with
  | nil =>
    cases hps
    cases hqs
    rfl
  | cons hsteps _ ih =>
    cases hps with | cons hp hps =>
    cases hqs with | cons hq hqs =>
    rw [readText_eq_of_components hp hq hsteps, ih hps hqs]

/-- **The order of the inputs does not change the texts**, though it may change how the paths of
    the files are written. -/
theorem texts_eq_of_perm {inputs inputs' : List Path} (h : inputs.Perm inputs')
    (hts : List.Forall₂ (fun p t => files.readText p = .ok t) (files.list inputs) ts)
    (hts' : List.Forall₂ (fun p t => files.readText p = .ok t) (files.list inputs') ts') :
    ts = ts' :=
  texts_eq_of_components (files.forall₂_list_of_perm h) hts hts'

end Files

/-! ## The text of a run -/

namespace Options

variable {o : Options} {files : Files} {stdin : ByteArray}

/-- **Of its inputs a run depends on their text only.** -/
theorem run_of_inputText (highlighter : Html.Highlighter) {inputs : List Path}
    {stdin' : ByteArray} (h : inputText inputs files stdin' = inputText o.inputs files stdin) :
    ({ o with inputs } : Options).run highlighter files stdin' = o.run highlighter files stdin := by
  have hsettings : ({ o with inputs } : Options).settings files = o.settings files := rfl
  rw [run, run, hsettings]
  cases o.settings files with
  | error e => rfl
  | ok settings =>
    simp only [h]
    rfl

/-- This text is converted, and printed if no file is named for it. -/
theorem run_printed (highlighter : Html.Highlighter) (hlist : o.listLanguages = false)
    {settings : Settings} (hsettings : o.settings files = .ok settings) {t : Text}
    (ht : inputText o.inputs files stdin = .ok t) (houtput : o.output = none) :
    let result := o.convert highlighter t settings
    o.run highlighter files stdin = .printed result.output result.log := by
  simp only [run, hsettings, hlist, Bool.false_eq_true, if_false, ht, houtput]

/-- It is saved if a file is named for it that can be written. -/
theorem run_saved (highlighter : Html.Highlighter) (hlist : o.listLanguages = false)
    {settings : Settings} (hsettings : o.settings files = .ok settings) {t : Text}
    (ht : inputText o.inputs files stdin = .ok t) {path : Path} (houtput : o.output = some path)
    {names : List Bytes} (htarget : files.target path = .ok names) :
    let result := o.convert highlighter t settings
    o.run highlighter files stdin = .saved path result.output result.log := by
  simp only [run, hsettings, hlist, Bool.false_eq_true, if_false, ht, houtput, htarget]

theorem inputText_stdin {t : Text} (h : Text.decode? stdin = some t) :
    inputText [] files stdin = .ok t := by
  simp [inputText, textOf, h]

theorem inputText_files {inputs : List Path} {ts : List Text} (hlist : files.list inputs ≠ [])
    (hts : List.Forall₂ (fun p t => files.readText p = .ok t) (files.list inputs) ts) :
    inputText inputs files stdin = .ok (joinTexts ts) := by
  have hinputs : inputs ≠ [] := by
    rintro rfl
    exact hlist (by simp [Files.list, Path.sort])
  exact (inputText_eq_ok (o := { inputs })).2 (.files hinputs hlist hts)

end Options

/-- **A run on files is a run on their text.** In a tree of texts, and with inputs that name a file
    at least, this text is made of those of the listed files in their order: the first that is not
    empty and all after it, with one newline between two. It is what the run converts, and prints
    or saves then. The same inputs in another order make no difference. If there is one file only,
    its bytes can as well come from the standard input. -/
theorem run_input_files (highlighter : Html.Highlighter) {arguments : List Bytes} {o : Options}
    (ho : Options.parse arguments = .ok o) {files : Files} (hfiles : files.Proper)
    (htexts : files.HoldsTexts) (hlist : files.list o.inputs ≠ []) (stdin : ByteArray) :
    (∃ ts, List.Forall₂ (fun p t => files.readText p = .ok t) (files.list o.inputs) ts ∧
      let text := Text.unlines (ts.dropWhile List.isEmpty)
      inputText o.inputs files stdin = .ok text ∧
        ∀ settings, o.listLanguages = false → o.settings files = .ok settings →
          let result := o.convert highlighter text settings
          (o.output = none →
            run highlighter arguments files stdin = .printed result.output result.log) ∧
          ∀ path names, o.output = some path → files.target path = .ok names →
            run highlighter arguments files stdin = .saved path result.output result.log) ∧
    (∀ arguments' inputs', inputs'.Perm o.inputs →
      Options.parse arguments' = .ok { o with inputs := inputs' } →
        run highlighter arguments' files stdin = run highlighter arguments files stdin) ∧
    ∀ arguments' p bytes, files.list o.inputs = [p] → files.readBytes p = .ok bytes →
      Options.parse arguments' = .ok { o with inputs := [] } →
        run highlighter arguments' files bytes = run highlighter arguments files stdin := by
  obtain ⟨ts, hts⟩ := htexts.texts hfiles o.inputs
  have htext : inputText o.inputs files stdin = .ok (joinTexts ts) :=
    Options.inputText_files hlist hts
  have hrun : ∀ {arguments' inputs' stdin'},
      Options.parse arguments' = .ok { o with inputs := inputs' } →
      inputText inputs' files stdin' = .ok (joinTexts ts) →
        run highlighter arguments' files stdin' = run highlighter arguments files stdin := by
    intro arguments' inputs' stdin' hparse h
    rw [run, run, hparse, ho]
    exact Options.run_of_inputText highlighter (h.trans htext.symm)
  refine ⟨⟨ts, hts, htext, fun settings hnone hsettings => ?_⟩,
    fun arguments' inputs' hperm hparse => ?_, fun arguments' p bytes hone hbytes hparse => ?_⟩
  · have hoptions : run highlighter arguments files stdin = o.run highlighter files stdin := by
      rw [run, ho]
    rw [hoptions]
    exact ⟨Options.run_printed highlighter hnone hsettings htext,
      fun path names hsave => Options.run_saved highlighter hnone hsettings htext hsave⟩
  · obtain ⟨ts', hts'⟩ := htexts.texts hfiles inputs'
    have hlist' : files.list inputs' ≠ [] := by
      have hsteps := files.forall₂_list_of_perm hperm
      intro hnil
      rw [hnil, List.forall₂_nil_left_iff] at hsteps
      exact hlist hsteps
    rw [Files.texts_eq_of_perm hperm hts' hts] at hts'
    exact hrun hparse (Options.inputText_files hlist' hts')
  · obtain ⟨t, hdecode, ht⟩ := htexts.readText hbytes
    rw [hone] at hts
    cases hts with | cons ht' hrest =>
    cases hrest
    cases ht.symm.trans ht'
    refine hrun hparse ((Options.inputText_stdin hdecode).trans ?_)
    cases t <;> rfl

/-- An empty file that comes first, and a file that two inputs name in different ways. -/
theorem run_input_files_twice :
    let files := Files.ofList [] [(["d", "a.md"], some (Text.encode "")),
      (["d", "b.md"], some (Text.encode "x\n"))]
    let highlighter := Html.plainHighlighter
    let result := toHtml highlighter "x\n\nx\n" .default
    inputText ["d//b.md", "d"] files .empty = .ok "x\n\nx\n".toList ∧
      run highlighter ["--html", "d//b.md", "d"] files .empty =
        .printed result.output result.log ∧
      files.list ["d//b.md", "d"] ≠ files.list ["d", "d//b.md"] ∧
      run highlighter ["d", "--html", "d//b.md"] files .empty =
        run highlighter ["--html", "d//b.md", "d"] files .empty ∧
      run highlighter ["--html"] files (Text.encode "x\n") =
        run highlighter ["d/b.md", "--html"] files .empty := by
  intro files highlighter result
  have hproper : files.Proper := Files.proper_ofList (by decide)
  have htexts : files.HoldsTexts := by
    refine .folder _ fun e he => ?_
    obtain rfl : e = .folder "d"
        [.file "a.md" (Text.encode ""), .file "b.md" (Text.encode "x\n")] := List.mem_singleton.1 he
    refine .folder _ fun e he => ?_
    rcases List.mem_pair.1 he with rfl | rfl <;> exact .file _ (Text.decode?_encode _)
  have hempty : files.readText "d/a.md" = .ok [] :=
    Files.readText_eq_ok.2 ⟨_, rfl, Text.decode?_encode []⟩
  have hx : ∀ p ∈ [("d/b.md" : Path), "d//b.md"], files.readText p = .ok "x\n".toList := by
    intro p hp
    rcases List.mem_pair.1 hp with rfl | rfl <;>
      exact Files.readText_eq_ok.2 ⟨_, rfl, Text.decode?_encode _⟩
  have hfound : files.list ["d//b.md", "d"] = [("d/a.md" : Path), "d//b.md", "d/b.md"] := by
    have hwalk : [("d//b.md" : Path), "d"].flatMap files.listOne =
        [("d//b.md" : Path), "d/a.md", "d/b.md"] := by decide +kernel
    rw [Files.list, hwalk]
    exact Path.sort_eq ⟨by decide +kernel, by decide +kernel, by decide +kernel⟩
  have hfound' : files.list ["d", "d//b.md"] = [("d/a.md" : Path), "d/b.md", "d//b.md"] := by
    have hwalk : [("d" : Path), "d//b.md"].flatMap files.listOne =
        [("d/a.md" : Path), "d/b.md", "d//b.md"] := by decide +kernel
    rw [Files.list, hwalk]
    exact Path.sort_eq ⟨by decide +kernel, by decide +kernel, by decide +kernel⟩
  have hone : files.list ["d/b.md"] = [("d/b.md" : Path)] := by decide +kernel
  have htwo : Options.parse ["--html", "d//b.md", "d"] =
      .ok { inputs := ["d//b.md", "d"], html := true } := by decide
  have hsome : files.list ["d//b.md", "d"] ≠ [] := by
    rw [hfound]
    exact List.cons_ne_nil _ _
  obtain ⟨⟨ts, hts, htext, hresult⟩, hperm, -⟩ :=
    run_input_files highlighter htwo hproper htexts hsome .empty
  have hsingle : Options.parse ["d/b.md", "--html"] =
      .ok { inputs := ["d/b.md"], html := true } := by decide
  have hsome' : files.list ["d/b.md"] ≠ [] := by
    rw [hone]
    exact List.cons_ne_nil _ _
  obtain ⟨-, -, hstdin⟩ := run_input_files highlighter hsingle hproper htexts hsome' .empty
  have hread : List.Forall₂ (fun p t => files.readText p = .ok t) (files.list ["d//b.md", "d"])
      [[], "x\n".toList, "x\n".toList] := by
    rw [hfound]
    exact .cons hempty (.cons (hx _ (by simp)) (.cons (hx _ (by simp)) .nil))
  obtain rfl := Files.texts_eq_of_perm .rfl hts hread
  obtain ⟨hprinted, -⟩ := hresult .default rfl rfl
  refine ⟨htext, hprinted rfl, ?_, hperm _ _ (List.Perm.swap _ _ _) (by decide),
    hstdin _ _ _ hone rfl (by decide)⟩
  rw [hfound, hfound']
  decide

end JiraMarkup

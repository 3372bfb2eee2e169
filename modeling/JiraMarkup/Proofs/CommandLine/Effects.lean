/-
  What a run of the command does.

  * `Options.Fails` says why a run fails, and `Options.Effect` what is printed and what the files
    are after one that does not;
  * `Options.quiet_run`: but for its log a run is `Options.quietRun`, on which logging has no
    influence; `Options.quietRun_cases` says that this fails or has its effect;
  * `run_effects`: a run has the status 1 exactly if it fails, and then it has done nothing; else
    it has the status 0 and its effect, whether or not it logs;
  * `Outcome.proper_filesAfter`: a run leaves a tree that a file system can hold.
-/
import JiraMarkup.CommandLine.Run
import JiraMarkup.Proofs.Conversion.Logging
import JiraMarkup.Proofs.Files.Writing
import JiraMarkup.Proofs.Text.Lines

namespace JiraMarkup

/-! ## What a run reads and makes -/

/-- Several texts as one: those before the first that is not empty are dropped, the
    others are put on lines of their own. -/
def joinTexts (ts : List Text) : Text := Text.unlines (ts.dropWhile List.isEmpty)

namespace Options

/-- The settings that a run loads: those of the file that the options name, else those of the
    first of two places that holds a file, else the defaults. -/
def loaded (o : Options) (files : Files) : Except LoadError Settings :=
  match o.settingsFile with
  | some path => Settings.load files path
  | none =>
    if files.isFile "md2jira.config.json" then
      Settings.load files "md2jira.config.json"
    else if files.isFile "config/md2jira.config.json" then
      Settings.load files "config/md2jira.config.json"
    else .ok .default

/-- The text that a run converts: the standard input if there are no inputs, else the texts of
    all the files that they name. -/
inductive Reads (o : Options) (files : Files) (stdin : ByteArray) : Text → Prop where
  | stdin {t : Text} (hinputs : o.inputs = []) (ht : Text.decode? stdin = some t) :
      Reads o files stdin t
  | files {ts : List Text} (hinputs : o.inputs ≠ []) (hlist : files.list o.inputs ≠ [])
      (hts : List.Forall₂ (fun p t => files.readText p = .ok t) (files.list o.inputs) ts) :
      Reads o files stdin (joinTexts ts)

/-- What the text is converted to under the settings that have been loaded. Of the options those
    for HTML and for the threshold apply. -/
def result (o : Options) (h : Html.Highlighter) (t : Text) (settings : Settings) : Text :=
  let threshold := o.collapseAfter.getD settings.collapseThreshold
  let settings := { settings with collapseThreshold := threshold }
  if o.html then (toHtml h t settings).output else (JiraMarkup.convert t settings).output

/-- Why a run has no text to convert. -/
inductive Unread (o : Options) (files : Files) (stdin : ByteArray) : Prop where
  /-- The standard input is not a text. -/
  | stdin (hinputs : o.inputs = []) (htext : Text.decode? stdin = none)
  /-- The inputs name no file. -/
  | noInput (hinputs : o.inputs ≠ []) (hnone : files.list o.inputs = [])
  /-- A file that they name is not a text. -/
  | notText {p : Path} (hp : p ∈ files.list o.inputs) {bytes : ByteArray}
      (hbytes : files.readBytes p = .ok bytes) (htext : Text.decode? bytes = none)

/-- Why a run fails. -/
inductive Fails (o : Options) (files : Files) (stdin : ByteArray) : Prop where
  /-- The settings cannot be loaded. -/
  | settings {cause : LoadError} (hload : o.loaded files = .error cause)
  /-- There is no text. -/
  | input (hlist : o.listLanguages = false) (hunread : o.Unread files stdin)
  /-- The output cannot be written. -/
  | output (hlist : o.listLanguages = false) {path : Path} (hpath : o.output = some path)
      {cause : FileError} (htarget : files.target path = .error cause)

/-- What a run prints, and the files after it. -/
inductive Effect (o : Options) (h : Html.Highlighter) (files : Files) (stdin : ByteArray) :
    Text → Files → Prop where
  /-- The table of languages is printed: a line for each tag, in the order of the table, with the
      tag, a tab and its language. -/
  | listed (hlist : o.listLanguages = true) {table : Text}
      (hlines : Text.lines table =
        Wiki.Language.table.map (fun (tag, language) => tag ++ '\t' :: language) ++ [[]]) :
      Effect o h files stdin table files
  /-- The result is printed. -/
  | printed (hlist : o.listLanguages = false) (hpath : o.output = none) {settings : Settings}
      (hload : o.loaded files = .ok settings) {t : Text} (ht : o.Reads files stdin t) :
      Effect o h files stdin (o.result h t settings) files
  /-- The result is saved, and nothing is printed. -/
  | saved (hlist : o.listLanguages = false) {path : Path} (hpath : o.output = some path)
      {settings : Settings} (hload : o.loaded files = .ok settings) {t : Text}
      (ht : o.Reads files stdin t) {files' : Files}
      (hsaved : files.Saved path (Text.encode (o.result h t settings)) files') :
      Effect o h files stdin [] files'

end Options

/-! ## A run without its log -/

namespace Outcome

/-- An outcome without the log. -/
def quiet : Outcome → Outcome
  | printed t _ => .printed t []
  | saved path t _ => .saved path t []
  | other => other

@[simp] theorem status_quiet (x : Outcome) : x.quiet.status = x.status := by
  cases x <;> rfl

@[simp] theorem output_quiet (x : Outcome) : x.quiet.output = x.output := by
  cases x <;> rfl

@[simp] theorem filesAfter_quiet (files : Files) (x : Outcome) :
    x.quiet.filesAfter files = x.filesAfter files := by
  cases x <;> rfl

end Outcome

namespace Options

variable {o : Options} {files : Files} {stdin : ByteArray}

/-- A run that does not log. -/
def quietRun (o : Options) (h : Html.Highlighter) (files : Files) (stdin : ByteArray) : Outcome :=
  match o.loaded files with
  | .error cause => .failed (.load cause)
  | .ok settings =>
    if o.listLanguages then .printed languageTable []
    else
      match inputText o.inputs files stdin with
      | .error e => .failed e
      | .ok t =>
        match o.output with
        | none => .printed (o.result h t settings) []
        | some path =>
          match files.target path with
          | .error cause => .failed (.write path cause)
          | .ok _ => .saved path (o.result h t settings) []

theorem loaded_eq (o : Options) (files : Files) : o.loaded files =
    match o.settingsFile with
    | some path => Settings.load files path
    | none => Settings.fromPlaces files := by
  rw [loaded]
  cases o.settingsFile with
  | some path => rfl
  | none =>
    simp only [Settings.fromPlaces, Settings.places, List.find?_cons, List.find?_nil]
    cases files.isFile "md2jira.config.json" with
    | true => rfl
    | false => cases files.isFile "config/md2jira.config.json" <;> rfl

/-- The settings with what the options change. -/
def override (o : Options) (settings : Settings) : Settings :=
  { settings with
    verbose := o.verbose || settings.verbose
    collapseThreshold := o.collapseAfter.getD settings.collapseThreshold }

/-- The settings of a run are those that it loads, with what the options change. -/
theorem settings_eq (o : Options) (files : Files) : o.settings files =
    match o.loaded files with
    | .error cause => .error (.load cause)
    | .ok settings => .ok (o.override settings) := by
  rw [settings, loaded_eq]
  simp only [override]
  cases o.settingsFile with
  | some path =>
    dsimp only
    cases Settings.load files path with
    | error cause => rfl
    | ok settings => cases o.verbose <;> cases o.collapseAfter <;> rfl
  | none =>
    dsimp only
    cases Settings.fromPlaces files with
    | error cause => rfl
    | ok settings => cases o.verbose <;> cases o.collapseAfter <;> rfl

/-- The logging does not change what a run makes. -/
theorem output_convert_override (o : Options) (highlighter : Html.Highlighter) (t : Text)
    (settings : Settings) :
    (o.convert highlighter t (o.override settings)).output = o.result highlighter t settings := by
  let threshold := o.collapseAfter.getD settings.collapseThreshold
  obtain ⟨houtput, -, -⟩ := renderWiki_unlogged (Text.normalizeLineEndings t)
    { settings with collapseThreshold := threshold } (o.verbose || settings.verbose)
  rw [convert, result]
  cases o.html with
  | true => rfl
  | false =>
    simp only [Bool.false_eq_true, if_false]
    rw [output_convert, output_convert]
    exact congrArg Wiki.repair houtput

/-- **But for its log a run is one that does not log.** -/
theorem quiet_run (o : Options) (highlighter : Html.Highlighter) (files : Files)
    (stdin : ByteArray) :
    (o.run highlighter files stdin).quiet = o.quietRun highlighter files stdin := by
  rw [run, quietRun, settings_eq]
  cases o.loaded files with
  | error cause => rfl
  | ok settings =>
    dsimp only
    cases o.listLanguages with
    | true => rfl
    | false =>
      simp only [Bool.false_eq_true, if_false]
      cases inputText o.inputs files stdin with
      | error e => rfl
      | ok t =>
        have hresult := output_convert_override o highlighter t settings
        cases o.output with
        | none => exact congrArg (Outcome.printed · []) hresult
        | some path =>
          dsimp only
          cases files.target path with
          | error cause => rfl
          | ok names => exact congrArg (Outcome.saved path · []) hresult

/-- The logging is the only thing that the flag for it has an influence on. -/
theorem quietRun_verbose (o : Options) (verbose : Bool) (highlighter : Html.Highlighter)
    (files : Files) (stdin : ByteArray) :
    { o with verbose }.quietRun highlighter files stdin = o.quietRun highlighter files stdin := rfl

/-! ## The table of languages -/

/-- The table has a line for each tag, and nothing behind the last of them. -/
theorem lines_languageTable : Text.lines languageTable =
    Wiki.Language.table.map (fun (tag, language) => tag ++ '\t' :: language) ++ [[]] := by
  let rows := Wiki.Language.table.map fun (tag, language) => tag ++ '\t' :: language
  have hne : rows ≠ [] := List.cons_ne_nil _ _
  have htable : languageTable = Text.unlines rows ++ ['\n'] := by
    rw [← Text.flatten_map_newline hne, List.map_map]
    rfl
  rw [htable, Text.lines_append_singleton, Text.lines_unlines hne (by decide)]

/-! ## The text -/

/-- Putting texts below one another joins them. -/
theorem foldl_below (text : Text) (ts : List Text) :
    ts.foldl below text = joinTexts (text :: ts) := by
  induction ts generalizing text with
  | nil => cases text <;> rfl
  | cons t ts ih =>
    rw [List.foldl_cons, ih]
    cases text with
    | nil => rfl
    | cons c text => cases ts <;> simp [below, joinTexts, Text.unlines]

theorem readOne_eq_ok {p : Path} {t : Text} :
    readOne files p = .ok t ↔ files.readText p = .ok t := by
  rw [readOne]
  cases files.readText p <;> simp

/-- **Files are read** if each of them holds a text, and then to these texts joined. -/
theorem readAll_eq_ok {ps : List Path} {t : Text} : readAll files ps = .ok t ↔
    ∃ ts, List.Forall₂ (fun p t => files.readText p = .ok t) ps ts ∧ t = joinTexts ts := by
  suffices h : ∀ text, ps.foldlM (fun text p => (readOne files p).map (below text)) text = .ok t ↔
      ∃ ts, List.Forall₂ (fun p t => files.readText p = .ok t) ps ts ∧ t = ts.foldl below text by
    rw [readAll, h]
    exact exists_congr fun ts => and_congr_right fun _ => by rw [foldl_below]; rfl
  induction ps with
  | nil => simp [pure, Except.pure, eq_comm]
  | cons p ps ih =>
    intro text
    rw [List.foldlM_cons]
    simp only [List.forall₂_cons_left_iff, ← readOne_eq_ok (p := p)]
    cases readOne files p with
    | error e => simp [bind, Except.bind, Except.map]
    | ok t₀ =>
      have hbind : (Except.map (below text) (.ok t₀ : Except RunError Text) >>= fun text =>
          ps.foldlM (fun text p => (readOne files p).map (below text)) text) =
          ps.foldlM (fun text p => (readOne files p).map (below text)) (below text t₀) := rfl
      rw [hbind, ih]
      constructor
      · rintro ⟨ts, hts, rfl⟩
        exact ⟨t₀ :: ts, ⟨t₀, ts, rfl, hts, rfl⟩, rfl⟩
      · rintro ⟨_, ⟨_, ts, ⟨rfl⟩, hts, rfl⟩, rfl⟩
        exact ⟨ts, hts, rfl⟩

/-- **The text that a run converts** is that of its inputs. -/
theorem inputText_eq_ok {t : Text} :
    inputText o.inputs files stdin = .ok t ↔ o.Reads files stdin t := by
  rw [inputText]
  by_cases hinputs : o.inputs = []
  · rw [if_pos (by simp [hinputs]), textOf]
    constructor
    · intro h
      refine .stdin hinputs ?_
      cases htext : Text.decode? stdin <;> simp_all
    · intro h
      cases h with
      | stdin _ ht => simp [ht]
      | files hne => exact absurd hinputs hne
  · rw [if_neg (by simpa using hinputs)]
    constructor
    · intro h
      cases hlist : files.list o.inputs with
      | nil => simp [hlist] at h
      | cons p ps =>
        simp only [hlist] at h
        obtain ⟨ts, hts, rfl⟩ := readAll_eq_ok.1 h
        exact .files hinputs (by simp [hlist]) (hlist ▸ hts)
    · intro h
      cases h with
      | stdin hnil => exact absurd hnil hinputs
      | files _ hlist hts =>
        cases hfiles : files.list o.inputs with
        | nil => exact absurd hfiles hlist
        | cons p ps => exact readAll_eq_ok.2 ⟨_, hfiles ▸ hts, rfl⟩

/-- A run that has no text does not read one. -/
theorem Unread.not_reads (h : o.Unread files stdin) (t : Text) : ¬o.Reads files stdin t := by
  intro ht
  cases h with
  | stdin hinputs htext =>
    cases ht with
    | stdin _ ht => simp [htext] at ht
    | files hne => exact hne hinputs
  | noInput hinputs hnone =>
    cases ht with
    | stdin hnil => exact hinputs hnil
    | files _ hlist => exact hlist hnone
  | notText hp hbytes htext =>
    cases ht with
    | stdin hinputs => simp [hinputs, Files.list, Path.sort] at hp
    | files _ _ hts =>
      have hread : ∀ p ∈ files.list o.inputs, ∃ t, files.readText p = .ok t :=
        ((List.forall₂_and_left _ _).1 (hts.imp fun p t ht => ⟨⟨t, ht⟩, ht⟩)).1
      obtain ⟨t, ht⟩ := hread _ hp
      simp [Files.readText, hbytes, textOf, htext] at ht

/-- **There is a text to convert, or a reason why there is none.** -/
theorem reads_or_unread (o : Options) (hfiles : files.Proper) (stdin : ByteArray) :
    (∃ t, o.Reads files stdin t) ∨ o.Unread files stdin := by
  by_cases hinputs : o.inputs = []
  · cases ht : Text.decode? stdin with
    | none => exact .inr (.stdin hinputs ht)
    | some t => exact .inl ⟨t, .stdin hinputs ht⟩
  by_cases hlist : files.list o.inputs = []
  · exact .inr (.noInput hinputs hlist)
  by_cases htexts : ∀ p ∈ files.list o.inputs, ∃ t, files.readText p = .ok t
  · choose! text htext using htexts
    refine .inl ⟨joinTexts ((files.list o.inputs).map text), .files hinputs hlist ?_⟩
    exact List.forall₂_map_right_iff.2 (List.forall₂_same.2 htext)
  · -- A file that is listed can be read, so that it is its bytes that are no text.
    simp only [not_forall, not_exists] at htexts
    obtain ⟨p, hp, htext⟩ := htexts
    obtain ⟨bytes, hbytes⟩ := Files.readBytes_of_mem_list hfiles hp
    refine .inr (.notText hp hbytes ?_)
    cases hdecode : Text.decode? bytes with
    | none => rfl
    | some t => exact absurd (by simp [Files.readText, hbytes, textOf, hdecode]) (htext t)

/-! ## The end of a run -/

/-- A run that gets its settings, its text and its output has no reason to fail. -/
theorem not_fails {settings : Settings} (hload : o.loaded files = .ok settings)
    (hread : o.listLanguages = false → ∃ t, o.Reads files stdin t)
    (hwrite : o.listLanguages = false → ∀ path, o.output = some path →
      ∃ names, files.target path = .ok names) : ¬o.Fails files stdin := by
  intro h
  cases h with
  | settings herror => cases hload.symm.trans herror
  | input hlist hunread =>
    obtain ⟨t, ht⟩ := hread hlist
    exact hunread.not_reads t ht
  | output hlist hpath herror =>
    obtain ⟨names, hnames⟩ := hwrite hlist _ hpath
    cases hnames.symm.trans herror

/-- **A run fails for a reason or has its effect.** -/
theorem quietRun_cases (o : Options) (highlighter : Html.Highlighter) (hfiles : files.Proper)
    (stdin : ByteArray) :
    let outcome := o.quietRun highlighter files stdin
    (o.Fails files stdin ∧ ∃ e, outcome = .failed e) ∨
      (¬o.Fails files stdin ∧ outcome.status = 0 ∧
        o.Effect highlighter files stdin outcome.output (outcome.filesAfter files)) := by
  rw [quietRun]
  cases hload : o.loaded files with
  | error cause => exact .inl ⟨.settings hload, .load cause, rfl⟩
  | ok settings =>
    dsimp only
    cases hlist : o.listLanguages with
    | true =>
      have hok : ¬o.Fails files stdin := not_fails hload (by simp [hlist]) (by simp [hlist])
      exact .inr ⟨hok, rfl, .listed hlist lines_languageTable⟩
    | false =>
      rw [if_neg Bool.false_ne_true]
      rcases reads_or_unread o hfiles stdin with ⟨t, ht⟩ | hunread
      · rw [inputText_eq_ok.2 ht]
        dsimp only
        cases hpath : o.output with
        | none =>
          have hok : ¬o.Fails files stdin := not_fails hload (fun _ => ⟨t, ht⟩) (by simp [hpath])
          exact .inr ⟨hok, rfl, .printed hlist hpath hload ht⟩
        | some path =>
          dsimp only
          cases htarget : files.target path with
          | error cause => exact .inl ⟨.output hlist hpath htarget, .write path cause, rfl⟩
          | ok names =>
            have hok : ¬o.Fails files stdin :=
              not_fails hload (fun _ => ⟨t, ht⟩) (by simp [hpath, htarget])
            refine .inr ⟨hok, rfl, .saved hlist hpath hload ht (Files.saved_of_write ?_)⟩
            simp [Outcome.filesAfter, Files.write, htarget, Except.toOption]
      · cases hread : inputText o.inputs files stdin with
        | error e => exact .inl ⟨.input hlist hunread, e, rfl⟩
        | ok t => exact absurd (inputText_eq_ok.1 hread) (hunread.not_reads t)

end Options

/-- **After a run the files are a proper tree** if they were one before. -/
theorem Outcome.proper_filesAfter {files : Files} (hfiles : files.Proper) (x : Outcome) :
    (x.filesAfter files).Proper := by
  cases x with
  | saved path t log =>
    rw [filesAfter]
    cases hwrite : files.write path (Text.encode t) with
    | error cause => exact hfiles
    | ok files' => exact hfiles.write hwrite
  | _ => exact hfiles

/-- **A run of the command does all that it is asked for or nothing.** It ends with the status 1
    exactly if there is a reason for it to fail; then nothing is printed and all files are as they
    were. Else it ends with the status 0, and what is printed and the files are as the options ask
    for. Whether they ask for a log makes no difference. -/
theorem run_effects (highlighter : Html.Highlighter) {arguments : List Bytes} {o : Options}
    (ho : Options.parse arguments = .ok o) {files : Files} (hfiles : files.Proper)
    (stdin : ByteArray) :
    let outcome := run highlighter arguments files stdin
    (outcome.status = 1 ↔ o.Fails files stdin) ∧
      (o.Fails files stdin → outcome.output = [] ∧ outcome.filesAfter files = files) ∧
      (¬o.Fails files stdin → outcome.status = 0 ∧
        o.Effect highlighter files stdin outcome.output (outcome.filesAfter files)) ∧
      ∀ arguments' verbose, Options.parse arguments' = .ok { o with verbose } →
        let outcome' := run highlighter arguments' files stdin
        outcome'.status = outcome.status ∧ outcome'.output = outcome.output ∧
          outcome'.filesAfter files = outcome.filesAfter files := by
  have hrun : ∀ {args o'}, Options.parse args = .ok o' →
      (run highlighter args files stdin).quiet = o'.quietRun highlighter files stdin := by
    intro args o' hparse
    rw [run, hparse]
    exact Options.quiet_run o' highlighter files stdin
  intro outcome
  -- All that the statement speaks of is the same without the log.
  rw [← Outcome.status_quiet outcome, ← Outcome.output_quiet outcome,
    ← Outcome.filesAfter_quiet files outcome, hrun ho]
  refine and_assoc.1 (and_assoc.1 ⟨?_, ?_⟩)
  · rcases Options.quietRun_cases o highlighter hfiles stdin with
      ⟨hfails, e, he⟩ | ⟨hok, hstatus, heffect⟩
    · rw [he]
      exact ⟨⟨iff_of_true rfl hfails, fun _ => ⟨rfl, rfl⟩⟩, fun hok => absurd hfails hok⟩
    · rw [hstatus]
      exact ⟨⟨iff_of_false Nat.zero_ne_one hok, fun hfails => absurd hfails hok⟩,
        fun _ => ⟨rfl, heffect⟩⟩
  · intro arguments' verbose hparse outcome'
    rw [← Outcome.status_quiet outcome', ← Outcome.output_quiet outcome',
      ← Outcome.filesAfter_quiet files outcome', hrun hparse, Options.quietRun_verbose]
    exact ⟨rfl, rfl, rfl⟩

/-- A run with a log that saves its result in the one file that it reads. -/
theorem run_effects_aliased :
    let files := Files.ofList ["home"] [(["home", "notes", "a.md"], some (Text.encode "x__y"))]
    let arguments : List Bytes := ["-v", "-o", "notes/a.md", "--collapse-after=3", "notes"]
    let o : Options := {
      inputs := ["notes"], output := some "notes/a.md", verbose := true, collapseAfter := some 3 }
    let outcome := run Html.plainHighlighter arguments files .empty
    Options.parse arguments = .ok o ∧ files.Proper ∧ outcome.status = 0 ∧ outcome.output = [] ∧
      (outcome.filesAfter files).readBytes "notes/a.md" =
        .ok (Text.encode (o.result Html.plainHighlighter "x__y" .default)) := by
  intro files arguments o outcome
  have hparse : Options.parse arguments = .ok o := by decide
  have hproper : files.Proper := Files.proper_ofList (by decide)
  have hload : o.loaded files = .ok .default := rfl
  have hlist : files.list o.inputs = [("notes/a.md" : Path)] := by decide +kernel
  have htarget : files.target "notes/a.md" = .ok ["home", "notes", "a.md"] := rfl
  have hread : inputText o.inputs files .empty = .ok "x__y".toList := by
    have hbytes : files.readBytes "notes/a.md" = .ok (Text.encode "x__y") := rfl
    have htext : files.readText "notes/a.md" = .ok "x__y".toList := by
      rw [Files.readText, hbytes]
      simp [textOf, Text.decode?_encode]
    have hts : List.Forall₂ (fun p t => files.readText p = .ok t) (files.list o.inputs)
        ["x__y".toList] := hlist ▸ .cons htext .nil
    exact Options.inputText_eq_ok.2 (.files (by simp [o]) (by simp [hlist]) hts)
  have hok : ¬o.Fails files .empty := by
    refine Options.not_fails hload (fun _ => ⟨_, Options.inputText_eq_ok.1 hread⟩) ?_
    intro _ path hpath
    cases hpath
    exact ⟨_, htarget⟩
  obtain ⟨-, -, hdone, -⟩ := run_effects Html.plainHighlighter hparse hproper .empty
  obtain ⟨hstatus, heffect⟩ := hdone hok
  refine ⟨hparse, hproper, hstatus, ?_⟩
  change o.Effect Html.plainHighlighter files .empty outcome.output
    (outcome.filesAfter files) at heffect
  generalize outcome.output = printed, outcome.filesAfter files = after at heffect ⊢
  cases heffect with
  | listed hlisted => cases hlisted
  | printed _ hpath => cases hpath
  | saved _ hpath hload' ht hsaved =>
    cases hpath
    cases hload.symm.trans hload'
    cases hread.symm.trans (Options.inputText_eq_ok.2 ht)
    exact ⟨rfl, hsaved.readBytes⟩

end JiraMarkup

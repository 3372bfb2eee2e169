/-
  Settings in the form of an object.

  * `WrittenIn c o`: the object `o` gives settings of `c`, each one at most once, in any order and
    between members of other names. `exists_writtenIn`: any settings can be given, in any order;
  * `Refused f v`: the value is not one that the setting can have;
  * `foldlM_addMember?`: members that give settings of `c` make the settings of `c` that are given.
    `given_of_foldlM`: where members make settings, none is given twice;
  * `load_object`: what a file with an object is loaded to, and when it is refused.
-/
import JiraMarkup.Proofs.Files.Reaching
import JiraMarkup.Proofs.Settings.Members
import JiraMarkup.Settings.Loading

namespace JiraMarkup

open Json

namespace Settings

/-! ## Settings in an object -/

/-- The setting that a member gives, if it has the name of one. -/
def field? (m : Member Value) : Option Field := (Piece.decode? m.key).bind Field.ofName?

/-- The settings that members give, in their order. -/
def given (ms : List (Member Value)) : List Field := ms.filterMap field?

/-- The value of a setting of `c`, written in one of the ways that there are. -/
inductive Writes (c : Settings) : Field → Value → Prop where
  | verbose : Writes c .verbose (.boolean c.verbose)
  | collapseThreshold {n : NumberLiteral} (h : n.natural? = some c.collapseThreshold) :
    Writes c .collapseThreshold (.number n)
  | theme {s : List Piece} (h : Piece.decode? s = some c.theme) : Writes c .theme (.string s)
  | borderStyle {s : List Piece} (h : Piece.decode? s = some c.borderStyle) :
    Writes c .borderStyle (.string s)
  | lineNumbers : Writes c .lineNumbers (.boolean c.lineNumbers)

/-- An object that gives settings of `c`. Its members of other names have any values. -/
structure WrittenIn (c : Settings) (o : ObjectText) : Prop where
  /-- Every key stands for a text. -/
  keys : ∀ m ∈ o.members, (Piece.decode? m.key).isSome
  /-- No setting is given twice. -/
  once : (given o.members).Nodup
  /-- What is given is the value that it has in `c`. -/
  values : ∀ m ∈ o.members, ∀ f, field? m = some f → Writes c f m.value

/-- The settings of `c` that are in a list, and the defaults of the others. -/
def only (c : Settings) (fs : List Field) : Settings where
  verbose := if .verbose ∈ fs then c.verbose else default.verbose
  collapseThreshold :=
    if .collapseThreshold ∈ fs then c.collapseThreshold else default.collapseThreshold
  theme := if .theme ∈ fs then c.theme else default.theme
  borderStyle := if .borderStyle ∈ fs then c.borderStyle else default.borderStyle
  lineNumbers := if .lineNumbers ∈ fs then c.lineNumbers else default.lineNumbers

/-- The kind of the values that a setting can have. -/
def Field.kind : Field → Kind
  | verbose => .boolean
  | collapseThreshold => .number
  | theme => .string
  | borderStyle => .string
  | lineNumbers => .boolean

/-- A value that a setting cannot have. -/
inductive Refused : Field → Value → Prop where
  /-- It is of the wrong kind. -/
  | kind {f : Field} {v : Value} (h : v.kind ≠ f.kind) : Refused f v
  /-- It is a number, but not one of those below the limit that are written by digits only. -/
  | range {n : NumberLiteral} (h : ∀ m, n.natural? = some m → UInt64.size ≤ m) :
    Refused .collapseThreshold (.number n)

theorem ofName?_name (f : Field) : Field.ofName? f.name = some f := by
  cases f <;> decide

theorem field?_eq_some {m : Member Value} {f : Field} :
    field? m = some f ↔ Piece.decode? m.key = some f.name := by
  rw [field?, Option.bind_eq_some_iff]
  constructor
  · rintro ⟨key, hkey, hname⟩
    have h := List.find?_some hname
    rw [hkey, of_decide_eq_true h]
  · intro hkey
    exact ⟨f.name, hkey, ofName?_name f⟩

/-- **Any settings can be given**, in any order. -/
theorem exists_writtenIn (c : Settings) {fs : List Field} (hfs : fs.Nodup) :
    ∃ o, given o.members = fs ∧ WrittenIn c o := by
  have hvalue : ∀ f, ∃ v, Writes c f v := by
    intro f
    obtain ⟨n, hn⟩ := exists_natural c.collapseThreshold
    cases f with
    | verbose => exact ⟨_, .verbose⟩
    | collapseThreshold => exact ⟨_, .collapseThreshold hn⟩
    | theme => exact ⟨_, .theme (Piece.decode?_ofText c.theme)⟩
    | borderStyle => exact ⟨_, .borderStyle (Piece.decode?_ofText c.borderStyle)⟩
    | lineNumbers => exact ⟨_, .lineNumbers⟩
  choose value hvalue using hvalue
  let member (f : Field) : Member Value := ⟨[], Piece.ofText f.name, [], [], value f, []⟩
  have hkey : ∀ f, Piece.decode? (member f).key = some f.name := fun f =>
    Piece.decode?_ofText f.name
  have hfield : ∀ f, field? (member f) = some f := fun f => field?_eq_some.2 (hkey f)
  have hgiven : given (fs.map member) = fs := by
    rw [given, List.filterMap_map]
    exact (List.filterMap_congr fun f _ => hfield f).trans List.filterMap_some
  refine ⟨⟨[], [], fs.map member, []⟩, hgiven, ?_, ?_, ?_⟩
  · intro m hm
    obtain ⟨f, -, rfl⟩ := List.mem_map.1 hm
    rw [hkey f]
    rfl
  · rwa [hgiven]
  · intro m hm f hf
    obtain ⟨g, -, rfl⟩ := List.mem_map.1 hm
    obtain rfl : g = f := Option.some.inj ((hfield g).symm.trans hf)
    exact hvalue g

/-! ## Members that give settings -/

section Members

variable {c : Settings} {d e : Draft} {f : Field} {fs : List Field} {m : Member Value}
  {ms : List (Member Value)} {v : Value}

theorem addMember?_other (hkey : (Piece.decode? m.key).isSome) (hm : field? m = none) :
    d.addMember? m = some d := by
  obtain ⟨key, hkey⟩ := Option.isSome_iff_exists.1 hkey
  have hname : Field.ofName? key = none := by rwa [field?, hkey, Option.bind_some] at hm
  rw [Draft.addMember?, hkey]
  dsimp only
  rw [hname]

theorem addMember?_field (hm : field? m = some f) :
    d.addMember? m = if d.has f then none else d.give? f m.value := by
  rw [Draft.addMember?, field?_eq_some.1 hm]
  dsimp only
  rw [ofName?_name]

/-- The settings of `c` that are in a list, and nothing of the others. -/
def Draft.of (c : Settings) (fs : List Field) : Draft where
  verbose := if .verbose ∈ fs then some c.verbose else none
  collapseThreshold := if .collapseThreshold ∈ fs then some c.collapseThreshold else none
  theme := if .theme ∈ fs then some c.theme else none
  borderStyle := if .borderStyle ∈ fs then some c.borderStyle else none
  lineNumbers := if .lineNumbers ∈ fs then some c.lineNumbers else none

theorem toSettings_of (c : Settings) (fs : List Field) :
    (Draft.of c fs).toSettings = c.only fs := by
  have hgetD : ∀ {α : Type} (p : Prop) [Decidable p] (x y : α),
      (if p then some x else none).getD y = if p then x else y := by
    intro α p _ x y
    split <;> rfl
  simp only [Draft.toSettings, Draft.of, only, hgetD]

theorem has_of (c : Settings) (fs : List Field) (f : Field) :
    (Draft.of c fs).has f = true ↔ f ∈ fs := by
  cases f <;> exact Option.isSome_ite

theorem give?_of (hlimit : c.collapseThreshold < UInt64.size) (h : Writes c f v) :
    (Draft.of c fs).give? f v = some (Draft.of c (fs ++ [f])) := by
  cases h with
  | verbose => simp [Draft.give?, Draft.of, Value.boolean?]
  | collapseThreshold h =>
    have hcount : c.collapseThreshold < wordLimit := hlimit
    simp [Draft.give?, Draft.of, Value.count?, h, hcount]
  | theme h => simp [Draft.give?, Draft.of, Value.string?, h]
  | borderStyle h => simp [Draft.give?, Draft.of, Value.string?, h]
  | lineNumbers => simp [Draft.give?, Draft.of, Value.boolean?]

/-- **Members that give settings of `c`** make the settings of `c` that are given. -/
theorem foldlM_addMember? (fs : List Field) (hlimit : c.collapseThreshold < UInt64.size)
    (hkeys : ∀ m ∈ ms, (Piece.decode? m.key).isSome)
    (hvalues : ∀ m ∈ ms, ∀ f, field? m = some f → Writes c f m.value)
    (honce : (fs ++ given ms).Nodup) :
    ms.foldlM Draft.addMember? (Draft.of c fs) = some (Draft.of c (fs ++ given ms)) := by
  induction ms generalizing fs with
  | nil => simp [given]
  | cons m ms ih =>
    rw [List.forall_mem_cons] at hkeys hvalues
    rw [List.foldlM_cons]
    cases hm : field? m with
    | none =>
      have hgiven : given (m :: ms) = given ms := List.filterMap_cons_none hm
      rw [hgiven] at honce ⊢
      rw [addMember?_other hkeys.1 hm]
      exact ih fs hkeys.2 hvalues.2 honce
    | some f =>
      have hgiven : fs ++ given (m :: ms) = fs ++ [f] ++ given ms := by
        rw [given, List.filterMap_cons_some hm, ← given, List.append_assoc, List.singleton_append]
      rw [hgiven] at honce ⊢
      have hf : f ∉ fs := fun hf =>
        (List.nodup_append.1 (List.nodup_append.1 honce).1).2.2 f hf f (List.mem_singleton_self f)
          rfl
      rw [addMember?_field hm, if_neg (mt (has_of c fs f).1 hf),
        give?_of hlimit (hvalues.1 f hm)]
      exact ih (fs ++ [f]) hkeys.2 hvalues.2 honce

/-! ## Members that are refused -/

theorem has_of_give? (h : d.give? f v = some e) (g : Field) :
    e.has g = (d.has g || decide (f = g)) := by
  cases f with
  | verbose | collapseThreshold | theme | borderStyle | lineNumbers =>
    obtain ⟨x, -, rfl⟩ := Option.map_eq_some_iff.1 h
    cases g <;> simp [Draft.has]

/-- What a member gives has not been given before it, and has been after it. -/
theorem has_of_addMember? (h : d.addMember? m = some e) :
    (∀ f, field? m = some f → d.has f = false) ∧
      ∀ f, e.has f = (d.has f || decide (field? m = some f)) := by
  cases hm : field? m with
  | none =>
    have he : d = e := by
      rw [Draft.addMember?] at h
      cases hkey : Piece.decode? m.key with
      | none => simp [hkey] at h
      | some key =>
        have hname : Field.ofName? key = none := by rwa [field?, hkey, Option.bind_some] at hm
        simpa [hkey, hname] using h
    simp [he]
  | some f =>
    rw [addMember?_field hm] at h
    cases hf : d.has f with
    | true => simp [hf] at h
    | false =>
      rw [hf, if_neg Bool.false_ne_true] at h
      refine ⟨fun g hg => by rwa [← Option.some.inj hg], fun g => ?_⟩
      simp only [has_of_give? h, Option.some.injEq]

/-- **Where members make settings**, none is given twice. -/
theorem given_of_foldlM (h : ms.foldlM Draft.addMember? d = some e) :
    (given ms).Nodup ∧ ∀ f ∈ given ms, d.has f = false := by
  induction ms generalizing d with
  | nil => simp [given]
  | cons m ms ih =>
    rw [List.foldlM_cons] at h
    obtain ⟨d', hm, h⟩ := Option.bind_eq_some_iff.1 h
    obtain ⟨hnew, hhas⟩ := has_of_addMember? hm
    obtain ⟨honce, hnot⟩ := ih h
    have hbefore : ∀ f ∈ given ms, d.has f = false ∧ field? m ≠ some f := by
      intro f hf
      simpa [hhas] using hnot f hf
    cases hfield : field? m with
    | none =>
      have hgiven : given (m :: ms) = given ms := List.filterMap_cons_none hfield
      rw [hgiven]
      exact ⟨honce, fun f hf => (hbefore f hf).1⟩
    | some f =>
      have hgiven : given (m :: ms) = f :: given ms := List.filterMap_cons_some hfield
      rw [hgiven, List.nodup_cons, List.forall_mem_cons]
      exact ⟨⟨fun hf => (hbefore f hf).2 hfield, honce⟩, hnew f hfield,
        fun g hg => (hbefore g hg).1⟩

theorem give?_of_refused (h : Refused f v) : d.give? f v = none := by
  cases h with
  | kind h => cases f <;> cases v <;> first | rfl | exact absurd rfl h
  | @range n h =>
    have hcount : (Value.number n).count? = none := by
      rw [Value.count?, Option.filter_eq_none_iff]
      intro m hm
      exact ne_true_of_eq_false (decide_eq_false (Nat.not_lt.2 (h m hm)))
    rw [Draft.give?, hcount]
    rfl

theorem foldlM_eq_none (hm : m ∈ ms) (h : ∀ d : Draft, d.addMember? m = none) (d : Draft) :
    ms.foldlM Draft.addMember? d = none := by
  induction ms generalizing d with
  | nil => cases hm
  | cons n ms ih =>
    rw [List.foldlM_cons]
    rcases List.mem_cons.1 hm with rfl | hm
    · rw [h]
      rfl
    · cases d.addMember? n with
      | none => rfl
      | some e => exact ih hm e

end Members

/-! ## Files -/

/-- **Settings from a file that holds an object.** What is given is loaded, and the rest has its
    default. The file is refused if a setting is given twice or has a value that it cannot have. -/
theorem load_object {files : Files} {path : Path} {o : ObjectText}
    (hfile : files.readText path = .ok o.text) :
    (∀ c : Settings, c.collapseThreshold < UInt64.size → WrittenIn c o →
      load files path = .ok (c.only (given o.members))) ∧
    (¬(given o.members).Nodup ∨ (∃ m ∈ o.members, ∃ f, field? m = some f ∧ Refused f m.value) →
      ∃ failure, load files path = .error (.parse path o.text failure)) := by
  rw [load, hfile]
  dsimp only
  constructor
  · intro c hlimit hc
    have hfold := foldlM_addMember? [] hlimit hc.keys hc.values hc.once
    have hread : ofJson o.text = .ok (c.only (given o.members)) := by
      rw [ofJson_text]
      exact (congrArg _ hfold).trans (congrArg some (toSettings_of c _))
    rw [hread]
  · intro h
    have hfold : o.members.foldlM Draft.addMember? {} = none := by
      rcases h with htwice | ⟨m, hm, f, hf, hrefused⟩
      · rw [Option.eq_none_iff_forall_ne_some]
        exact fun e he => htwice (given_of_foldlM he).1
      · refine foldlM_eq_none hm (fun d => ?_) {}
        rw [addMember?_field hf, give?_of_refused hrefused, ite_self]
    cases hread : ofJson o.text with
    | error failure => exact ⟨failure, rfl⟩
    | ok c =>
      have hsome := (ofJson_text o).1 hread
      rw [hfold] at hsome
      cases hsome

/-- An escaped key, a pair of surrogates, an object that is passed over and the highest threshold;
    and a threshold that is one more. -/
theorem load_object_escaped :
    let theme : Member Value := ⟨[.newline],
      .numbered ⟨⟨0, false⟩, ⟨0, false⟩, ⟨7, false⟩, ⟨4, false⟩⟩ :: Piece.ofText "heme", [],
      [.blank], .string [.numbered ⟨⟨13, false⟩, ⟨8, false⟩, ⟨3, false⟩, ⟨13, true⟩⟩,
        .numbered ⟨⟨13, true⟩, ⟨14, false⟩, ⟨0, false⟩, ⟨0, false⟩⟩, .escaped '/' '/' (by decide)],
      []⟩
    let other : Member Value := ⟨[.tab], Piece.ofText "x", [.blank], [],
      .list [] [⟨[], .object [.blank] [theme, theme], []⟩,
        ⟨[], .number ⟨true, .zero, none, some ⟨true, some true, ⟨0, [7]⟩⟩⟩, [.blank]⟩], []⟩
    let threshold (last : Fin 10) : Member Value := ⟨[], Piece.ofText "collapse_threshold", [], [],
      .number ⟨false, .positive 0 [8, 4, 4, 6, 7, 4, 4, 0, 7, 3, 7, 0, 9, 5, 5, 1, 6, 1, last],
        none, none⟩, [.carriageReturn]⟩
    let object (last : Fin 10) : ObjectText :=
      ⟨[], [], [theme, other, threshold last], [.newline]⟩
    let files (last : Fin 10) := Files.ofList [] [(["c"], some (Text.encode (object last).text))]
    load (files 5) "c" =
        .ok { theme := [Char.ofNat 0x1F600, '/'], collapseThreshold := 18446744073709551615 } ∧
      ∃ failure, load (files 6) "c" = .error (.parse "c" (object 6).text failure) := by
  intro theme other threshold object files
  have hfile : ∀ last, (files last).readText "c" = .ok (object last).text := fun last =>
    Files.readText_eq_ok.2 ⟨_, rfl, Text.decode?_encode _⟩
  have hgiven : ∀ last, given (object last).members = [.theme, .collapseThreshold] := fun _ => rfl
  let c : Settings :=
    { theme := [Char.ofNat 0x1F600, '/'], collapseThreshold := 18446744073709551615 }
  have hwritten : WrittenIn c (object 5) := by
    refine ⟨?_, by rw [hgiven]; decide, ?_⟩
    · intro m hm
      simp only [object, List.mem_cons, List.not_mem_nil, or_false] at hm
      rcases hm with rfl | rfl | rfl <;> rfl
    · intro m hm f hf
      simp only [object, List.mem_cons, List.not_mem_nil, or_false] at hm
      rcases hm with rfl | rfl | rfl
      · cases hf
        exact .theme rfl
      · cases hf
      · cases hf
        exact .collapseThreshold rfl
  have hrefused : Refused .collapseThreshold (threshold 6).value := by
    refine .range fun m hm => ?_
    cases hm
    decide
  constructor
  · rw [(load_object (hfile 5)).1 c (by decide) hwritten, hgiven]
    rfl
  · exact (load_object (hfile 6)).2 (.inr ⟨threshold 6, by simp [object], _, rfl, hrefused⟩)

end Settings

end JiraMarkup

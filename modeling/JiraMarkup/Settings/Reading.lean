/-
  Settings written in JSON: an object whose members are settings by name, or a list of
  settings in a fixed order. What is not given has its default. Members of other names
  are passed over; no setting may be given twice.

  * `Field` names the settings, `Draft` holds those given so far;
  * `readMembers` and `readElements` read the two forms;
  * `Settings.ofJson` reads a whole text.
-/
import JiraMarkup.Json.Value
import JiraMarkup.Settings

namespace JiraMarkup

open Json

namespace Settings

/-! ## Settings by name -/

/-- A setting. -/
inductive Field where
  | verbose
  | collapseThreshold
  | theme
  | borderStyle
  | lineNumbers
  deriving DecidableEq, Repr

namespace Field

/-- The name of a setting. -/
def name : Field → Text
  | verbose => "verbose"
  | collapseThreshold => "collapse_threshold"
  | theme => "theme"
  | borderStyle => "border_style"
  | lineNumbers => "line_numbers"

/-- The settings, in the order of the list form. -/
def all : List Field := [verbose, collapseThreshold, theme, borderStyle, lineNumbers]

/-- The setting of a name. -/
def ofName? (t : Text) : Option Field := all.find? fun f => f.name = t

end Field

/-- The settings given so far. -/
structure Draft where
  /-- Whether to log. -/
  verbose : Option Bool := none
  /-- The threshold. -/
  collapseThreshold : Option Nat := none
  /-- The theme. -/
  theme : Option Text := none
  /-- The border style. -/
  borderStyle : Option Text := none
  /-- Whether lines are numbered. -/
  lineNumbers : Option Bool := none
  deriving DecidableEq, Repr

namespace Draft

/-- Whether a setting has been given. -/
def has (d : Draft) : Field → Bool
  | .verbose => d.verbose.isSome
  | .collapseThreshold => d.collapseThreshold.isSome
  | .theme => d.theme.isSome
  | .borderStyle => d.borderStyle.isSome
  | .lineNumbers => d.lineNumbers.isSome

/-- The settings, with the defaults of those not given. -/
def toSettings (d : Draft) : Settings where
  verbose := d.verbose.getD Settings.default.verbose
  collapseThreshold := d.collapseThreshold.getD Settings.default.collapseThreshold
  theme := d.theme.getD Settings.default.theme
  borderStyle := d.borderStyle.getD Settings.default.borderStyle
  lineNumbers := d.lineNumbers.getD Settings.default.lineNumbers

end Draft

/-! ## Values of settings -/

/-- Reads true or false. -/
def readBoolean : Reader Bool := fun t =>
  match readFound (skipSpace t) with
  | .error f => .error f
  | .ok (.boolean b, rest) => .ok (b, rest)
  | .ok (found, rest) => failBefore (.wrongType found .boolean) rest

/-- Reads a number of lines. -/
def readCount : Reader Nat := fun t =>
  match readFound (skipSpace t) with
  | .error f => .error f
  | .ok (.number (.natural n), rest) => .ok (n, rest)
  | .ok (.number (.negative n), rest) => failBefore (.negativeCount n) rest
  | .ok (found, rest) => failBefore (.wrongType found .count) rest

/-- Reads a text. -/
def readText : Reader Text := fun t =>
  match readFound (skipSpace t) with
  | .error f => .error f
  | .ok (.string s, rest) => .ok (s, rest)
  | .ok (found, rest) => failBefore (.wrongType found .string) rest

/-- Reads the value of a setting into the draft. -/
def readSetting (f : Field) (d : Draft) : Reader Draft := fun t =>
  match f with
  | .verbose => (readBoolean t).map fun (b, rest) => ({ d with verbose := some b }, rest)
  | .collapseThreshold =>
    (readCount t).map fun (n, rest) => ({ d with collapseThreshold := some n }, rest)
  | .theme => (readText t).map fun (s, rest) => ({ d with theme := some s }, rest)
  | .borderStyle => (readText t).map fun (s, rest) => ({ d with borderStyle := some s }, rest)
  | .lineNumbers => (readBoolean t).map fun (b, rest) => ({ d with lineNumbers := some b }, rest)

theorem readFound_le {t rest : Text} {x : Found} (h : readFound t = .ok (x, rest)) :
    rest.length ≤ t.length := by
  cases t with
  | nil => cases h
  | cons c t =>
    rw [readFound] at h
    split at h
    · split at h
      · cases h
      next hword =>
      cases h
      exact Nat.le_succ_of_le (passWord_le hword)
    split at h
    · split at h
      · cases h
      next hnumber =>
      cases h
      exact Nat.le_of_lt (readNumber_lt hnumber)
    split at h
    · split at h
      · cases h
      next hstring =>
      cases h
      exact Nat.le_succ_of_le (Nat.le_of_lt (readString_lt hstring))
    split at h
    · cases h
      exact Nat.le_refl _
    split at h
    · cases h
      exact Nat.le_refl _
    · cases h

theorem readBoolean_le {t rest : Text} {b : Bool} (h : readBoolean t = .ok (b, rest)) :
    rest.length ≤ t.length := by
  unfold readBoolean at h
  split at h
  · cases h
  · next hfound =>
    cases h
    exact Nat.le_trans (readFound_le hfound) (skipSpace_le t)
  · cases h

theorem readCount_le {t rest : Text} {n : Nat} (h : readCount t = .ok (n, rest)) :
    rest.length ≤ t.length := by
  unfold readCount at h
  split at h
  · cases h
  · next hfound =>
    cases h
    exact Nat.le_trans (readFound_le hfound) (skipSpace_le t)
  · cases h
  · cases h

theorem readText_le {t s rest : Text} (h : readText t = .ok (s, rest)) :
    rest.length ≤ t.length := by
  unfold readText at h
  split at h
  · cases h
  · next hfound =>
    cases h
    exact Nat.le_trans (readFound_le hfound) (skipSpace_le t)
  · cases h

theorem map_rest {α β : Type} {r : Except Failure (α × Text)} {f : α × Text → β × Text} {y : β}
    {rest : Text} (h : r.map f = .ok (y, rest)) (hf : ∀ p, (f p).2 = p.2) :
    ∃ x, r = .ok (x, rest) := by
  cases r with
  | error e => cases h
  | ok p =>
    have hp : f p = (y, rest) := Except.ok.inj h
    have hrest : p.2 = rest := by rw [← hf p, hp]
    exact ⟨p.1, by rw [← hrest]⟩

theorem readSetting_le {f : Field} {d e : Draft} {t rest : Text}
    (h : readSetting f d t = .ok (e, rest)) : rest.length ≤ t.length := by
  cases f with
  | verbose | lineNumbers =>
    obtain ⟨b, hb⟩ := map_rest h fun _ => rfl
    exact readBoolean_le hb
  | collapseThreshold =>
    obtain ⟨n, hn⟩ := map_rest h fun _ => rfl
    exact readCount_le hn
  | theme | borderStyle =>
    obtain ⟨s, hs⟩ := map_rest h fun _ => rfl
    exact readText_le hs

/-! ## The two forms -/

/-- Where a setting given a second time is refused: after its key, the white space that
    follows, and the brace that would end the object there. -/
def afterSecondKey (t : Text) : Text :=
  match skipSpace t with
  | [] => []
  | c :: u => if c = '\x7d' then u else c :: u

/-- Reads a member whose opening quote has been passed. -/
def readMember (d : Draft) : Reader Draft := fun t =>
  match readString t with
  | .error f => .error f
  | .ok (key, rest) =>
    match Field.ofName? key with
    | none =>
      match passColon rest with
      | .error f => .error f
      | .ok (_, rest) =>
        match passValue rest with
        | .error f => .error f
        | .ok (_, rest) => .ok (d, rest)
    | some field =>
      if d.has field then failBefore (.duplicateField field.name) (afterSecondKey rest)
      else
        match passColon rest with
        | .error f => .error f
        | .ok (_, rest) => readSetting field d rest

theorem readMember_lt {d e : Draft} {t rest : Text} (h : readMember d t = .ok (e, rest)) :
    rest.length < t.length := by
  unfold readMember at h
  split at h
  · cases h
  next hkey =>
  have hlt := readString_lt hkey
  split at h
  · split at h
    · cases h
    next hcolon =>
    split at h
    · cases h
    next hvalue =>
    cases h
    exact Nat.lt_trans (passValue_lt hvalue) (Nat.lt_trans (passColon_lt hcolon) hlt)
  split at h
  · cases h
  split at h
  · cases h
  next hcolon =>
  exact Nat.lt_of_le_of_lt (readSetting_le h) (Nat.lt_trans (passColon_lt hcolon) hlt)

/-- Finds the key that has to follow a comma and passes its opening quote. -/
def passQuote : Reader Unit := fun t =>
  match skipSpace t with
  | [] => failAt (.endOf .value) []
  | c :: u =>
    if c = '"' then .ok ((), u)
    else failAt (if c = '\x7d' then .trailingComma else .keyNotString) (c :: u)

theorem passQuote_lt {t rest : Text} {u : Unit} (h : passQuote t = .ok (u, rest)) :
    rest.length < t.length := by
  unfold passQuote at h
  split at h
  · cases h
  next hspace =>
  split at h
  · cases h
    exact lt_of_skipSpace hspace
  · cases h

/-- Reads what follows a member up to the closing brace. -/
def readMoreMembers (d : Draft) (t : Text) : Except Failure (Draft × Text) :=
  match _ : skipSpace t with
  | [] => failAt (.endOf .object) []
  | c :: u =>
    if c = '\x7d' then .ok (d, u)
    else if c = ',' then
      match _ : passQuote u with
      | .error f => .error f
      | .ok (_, v) =>
        match _ : readMember d v with
        | .error f => .error f
        | .ok (e, rest) => readMoreMembers e rest
    else failAt .expectedObjectEnd (c :: u)
termination_by t.length
decreasing_by grind [skipSpace_le, → passQuote_lt, → readMember_lt]

/-- Reads the members of an object whose opening brace has been passed. -/
def readMembers : Reader Draft := fun t =>
  match skipSpace t with
  | [] => failAt (.endOf .object) []
  | c :: u =>
    if c = '\x7d' then .ok ({}, u)
    else if c = '"' then
      match readMember {} u with
      | .error f => .error f
      | .ok (d, rest) => readMoreMembers d rest
    else failAt .keyNotString (c :: u)

/-- Finds the bracket that has to follow the last setting of a list. -/
def closeList (d : Draft) : Reader Draft := fun t =>
  match skipSpace t with
  | [] => failAt (.endOf .list) []
  | c :: u =>
    if c = ']' then .ok (d, u)
    else if c = ',' then
      let v := skipSpace u
      failAt (if v.head? = some ']' then .trailingComma else .trailingCharacters) v
    else failAt .trailingCharacters (c :: u)

/-- Reads the settings `fields` from a list after the setting before them. -/
def readMoreElements : List Field → Draft → Reader Draft
  | [], d => closeList d
  | f :: fs, d => fun t =>
    match skipSpace t with
    | [] => failAt (.endOf .list) []
    | c :: u =>
      if c = ']' then .ok (d, u)
      else if c = ',' then
        match skipSpace u with
        | [] => failAt (.endOf .value) []
        | e :: v =>
          if e = ']' then failAt .trailingComma (e :: v)
          else
            match readSetting f d (e :: v) with
            | .error failure => .error failure
            | .ok (d, rest) => readMoreElements fs d rest
      else failAt .expectedListEnd (c :: u)

/-- Reads the settings of a list whose opening bracket has been passed. -/
def readElements : Reader Draft := fun t =>
  match skipSpace t with
  | [] => failAt (.endOf .list) []
  | c :: u =>
    if c = ']' then .ok ({}, u)
    else
      match readSetting .verbose {} (c :: u) with
      | .error f => .error f
      | .ok (d, rest) =>
        readMoreElements [.collapseThreshold, .theme, .borderStyle, .lineNumbers] d rest

/-! ## Whole texts -/

/-- Reads the settings from the front of a text. -/
def readDraft : Reader Draft := fun t =>
  match skipSpace t with
  | [] => failAt (.endOf .value) []
  | c :: u =>
    if c = '\x7b' then readMembers u
    else if c = '[' then readElements u
    else
      match readFound (c :: u) with
      | .error f => .error f
      | .ok (found, rest) => failBefore (.wrongType found .settings) rest

/-- The settings that a text holds and nothing else. -/
def ofJson (t : Text) : Except Failure Settings :=
  match readDraft t with
  | .error f => .error f
  | .ok (d, rest) =>
    match skipSpace rest with
    | [] => .ok d.toSettings
    | c :: u => failAt .trailingCharacters (c :: u)

end Settings

end JiraMarkup

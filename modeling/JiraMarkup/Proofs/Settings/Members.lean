/-
  Reading the members of an object of settings.

  * `Value.boolean?`, `Value.count?` and `Value.string?` are what a value can give to a setting;
    `readSetting_text`: it is read if it is there, and refused if not;
  * `Draft.addMember?` is what one member does to the settings given so far. By `readMember_text` a
    member is read so, and by `readMoreMembers_text` all members one by one;
  * `ofJson_text`: a whole text is read to the settings that its members make.
-/
import JiraMarkup.Proofs.Json.Values
import JiraMarkup.Settings.Reading

namespace JiraMarkup

open Json

/-! ## What a value gives -/

namespace Json

namespace Value

/-- True or false, if the value is one of them. -/
def boolean? : Value → Option Bool
  | boolean b => some b
  | _ => none

/-- The number of lines that the value counts, if it is such a number. -/
def count? : Value → Option Nat
  | number n => n.natural?.filter fun m => m < wordLimit
  | _ => none

/-- The text that the value stands for, if it is a string that stands for one. -/
def string? : Value → Option Text
  | string s => Piece.decode? s
  | _ => none

end Value

theorem skipSpace_value (s : Space) (v : Value) (t : Text) :
    skipSpace (s.text ++ (v.text ++ t)) = v.text ++ t := by
  obtain ⟨c, u, htext, hc, -⟩ := v.text_front
  rw [htext, List.cons_append, skipSpace_space s hc]

section Found

variable {v : Value} {rest r : Text}

theorem readString_eq_ok {s : List Piece} {t : Text} :
    readString (Piece.textAll s ++ '"' :: rest) = .ok (t, r) ↔
      Piece.decode? s = some t ∧ r = rest := by
  have h := readString_text s rest
  cases hread : readString (Piece.textAll s ++ '"' :: rest) with
  | error f =>
    rw [hread] at h
    simp [Option.map_eq_none_iff.1 h.symm]
  | ok x =>
    rw [hread] at h
    obtain ⟨u, hu, rfl⟩ := Option.map_eq_some_iff.1 h.symm
    simp [hu, eq_comm]

theorem readFound_eq_boolean {b : Bool} :
    readFound (v.text ++ rest) = .ok (.boolean b, r) ↔ v.boolean? = some b ∧ r = rest := by
  constructor
  · intro h
    have hkind := kind_of_readFound h
    cases v with
    | boolean b' =>
      rw [readFound_boolean] at h
      cases h
      exact ⟨rfl, rfl⟩
    | _ => cases hkind
  · rintro ⟨hv, rfl⟩
    cases v with
    | boolean b' =>
      cases hv
      exact readFound_boolean b r
    | _ => cases hv

theorem readFound_eq_natural {m : Nat} (hrest : NumberEnd rest) :
    readFound (v.text ++ rest) = .ok (.number (.natural m), r) ↔ v.count? = some m ∧ r = rest := by
  cases v with
  | number n =>
    have hread := readNumber_text (n := n) (m := m) (r := r) hrest
    rw [Value.text, readFound_number, Value.count?, Option.filter_eq_some_iff, and_assoc,
      decide_eq_true_iff, ← hread]
    cases readNumber (n.text ++ rest) <;> simp [Except.map, Prod.ext_iff]
  | _ =>
    constructor
    · intro h
      cases kind_of_readFound h
    · rintro ⟨hv, -⟩
      cases hv

theorem readFound_eq_string {t : Text} :
    readFound (v.text ++ rest) = .ok (.string t, r) ↔ v.string? = some t ∧ r = rest := by
  cases v with
  | string s =>
    rw [readFound_string, Value.string?, ← readString_eq_ok]
    cases readString (Piece.textAll s ++ '"' :: rest) <;> simp [Except.map, Prod.ext_iff]
  | _ =>
    constructor
    · intro h
      cases kind_of_readFound h
    · rintro ⟨hv, -⟩
      cases hv

end Found

/-! ## Members as they are written -/

/-- A member from behind its opening quote up to the end of its value. -/
def Member.tailText (m : Member Value) : Text := m.keyText ++ (m.afterColon.text ++ m.value.text)

theorem Member.text_append (m : Member Value) (t : Text) :
    m.text ++ t = m.before.text ++ '"' :: (m.tailText ++ (m.after.text ++ t)) := by
  simp [Member.text, tailText]

/-- The members behind the first one as they are written. -/
def moreText (ms : List (Member Value)) : Text := ms.flatMap fun m => ',' :: m.text

theorem numberEnd_more (s : Space) (ms : List (Member Value)) (rest : Text) :
    NumberEnd (s.text ++ (moreText ms ++ '\x7d' :: rest)) := by
  cases ms with
  | nil => exact numberEnd_space s (by simp) rest
  | cons m ms => exact numberEnd_space s (by simp) (m.text ++ moreText ms ++ '\x7d' :: rest)

theorem object_text (inner : Space) (ms : List (Member Value)) (t : Text) :
    (Value.object inner ms).text ++ t =
      '\x7b' :: (inner.text ++ ([','].intercalate (ms.map Member.text) ++ '\x7d' :: t)) := by
  rw [Value.text, Value.textMembers_eq]
  simp

theorem intercalate_text (m : Member Value) (ms : List (Member Value)) :
    [','].intercalate ((m :: ms).map Member.text) = m.text ++ moreText ms := by
  induction ms generalizing m with
  | nil => simp [moreText, List.intercalate]
  | cons n ms ih =>
    rw [List.map_cons, List.intercalate_cons_of_ne_nil (by simp), ih]
    simp [moreText]

end Json

namespace Settings

/-! ## Values of settings -/

section Readers

variable {t r : Text}

theorem readBoolean_eq_ok {b : Bool} :
    readBoolean t = .ok (b, r) ↔ readFound (skipSpace t) = .ok (.boolean b, r) := by
  unfold readBoolean
  split
  · next h => simp [h]
  · next h => simp [h]
  · next hne h =>
    rw [h]
    simpa [failBefore] using fun hfound => absurd hfound (hne _)

theorem readCount_eq_ok {n : Nat} :
    readCount t = .ok (n, r) ↔ readFound (skipSpace t) = .ok (.number (.natural n), r) := by
  unfold readCount
  split
  · next h => simp [h]
  · next h => simp [h]
  · next h => simp [h, failBefore]
  · next hne _ h =>
    rw [h]
    simpa [failBefore] using fun hfound => absurd hfound (hne _)

theorem readText_eq_ok {s : Text} :
    readText t = .ok (s, r) ↔ readFound (skipSpace t) = .ok (.string s, r) := by
  unfold readText
  split
  · next h => simp [h]
  · next h => simp [h]
  · next hne h =>
    rw [h]
    simpa [failBefore] using fun hfound => absurd hfound (hne _)

end Readers

/-- The settings with the value of one more, if it is a value of that setting. -/
def Draft.give? (d : Draft) (f : Field) (v : Value) : Option Draft :=
  match f with
  | .verbose => v.boolean?.map fun b => { d with verbose := some b }
  | .collapseThreshold => v.count?.map fun n => { d with collapseThreshold := some n }
  | .theme => v.string?.map fun s => { d with theme := some s }
  | .borderStyle => v.string?.map fun s => { d with borderStyle := some s }
  | .lineNumbers => v.boolean?.map fun b => { d with lineNumbers := some b }

theorem map_eq_ok {α : Type} {read : Except Failure (α × Text)} {x? : Option α} {rest r : Text}
    (h : ∀ x r, read = .ok (x, r) ↔ x? = some x ∧ r = rest) (f : α → Draft) {e : Draft} :
    (read.map fun (x, r) => (f x, r)) = .ok (e, r) ↔ x?.map f = some e ∧ r = rest := by
  cases hread : read with
  | error failure =>
    have hnone : x? = none := by
      refine Option.eq_none_iff_forall_ne_some.2 fun x hx => ?_
      cases hread.symm.trans ((h x rest).2 ⟨hx, rfl⟩)
    simp [hnone, Except.map]
  | ok y =>
    obtain ⟨hx, hy⟩ := (h y.1 y.2).1 hread
    simp [hx, ← hy, Except.map, eq_comm]

section Members

variable {f : Field} {d e : Draft} {v : Value} {m : Member Value} {ms : List (Member Value)}
  {rest r : Text}

/-- **The value of a setting is read** if it is one of that setting. -/
theorem readSetting_text (s : Space) (hrest : NumberEnd rest) :
    readSetting f d (s.text ++ (v.text ++ rest)) = .ok (e, r) ↔
      d.give? f v = some e ∧ r = rest := by
  have hboolean : ∀ b r, readBoolean (s.text ++ (v.text ++ rest)) = .ok (b, r) ↔
      v.boolean? = some b ∧ r = rest := fun b r => by
    rw [readBoolean_eq_ok, skipSpace_value, readFound_eq_boolean]
  have htext : ∀ t r, readText (s.text ++ (v.text ++ rest)) = .ok (t, r) ↔
      v.string? = some t ∧ r = rest := fun t r => by
    rw [readText_eq_ok, skipSpace_value, readFound_eq_string]
  have hcount : ∀ n r, readCount (s.text ++ (v.text ++ rest)) = .ok (n, r) ↔
      v.count? = some n ∧ r = rest := fun n r => by
    rw [readCount_eq_ok, skipSpace_value, readFound_eq_natural hrest]
  cases f with
  | verbose => exact map_eq_ok hboolean fun b => { d with verbose := some b }
  | collapseThreshold => exact map_eq_ok hcount fun n => { d with collapseThreshold := some n }
  | theme => exact map_eq_ok htext fun t => { d with theme := some t }
  | borderStyle => exact map_eq_ok htext fun t => { d with borderStyle := some t }
  | lineNumbers => exact map_eq_ok hboolean fun b => { d with lineNumbers := some b }

/-! ## Members -/

/-- The settings with what a member gives, if it can be read: a member of another name gives
    nothing, and no setting is given twice. -/
def Draft.addMember? (d : Draft) (m : Member Value) : Option Draft :=
  match Piece.decode? m.key with
  | none => none
  | some key =>
    match Field.ofName? key with
    | none => some d
    | some f => if d.has f then none else d.give? f m.value

/-- **A member is read.** -/
theorem readMember_text (hrest : NumberEnd rest) :
    readMember d (m.tailText ++ rest) = .ok (e, r) ↔ d.addMember? m = some e ∧ r = rest := by
  have htext : m.tailText ++ rest = Piece.textAll m.key ++
      '"' :: (m.afterKey.text ++ ':' :: (m.afterColon.text ++ (m.value.text ++ rest))) := by
    simp [Member.tailText, Member.keyText]
  rw [htext, readMember, Draft.addMember?]
  cases hkey : Piece.decode? m.key with
  | none =>
    split
    · simp
    · next key t hread => cases hkey.symm.trans (readString_eq_ok.1 hread).1
  | some key =>
    rw [readString_eq_ok.2 ⟨hkey, rfl⟩]
    dsimp only
    cases Field.ofName? key with
    | none =>
      rw [passColon_text]
      dsimp only
      rw [passValue_text m.value m.afterColon hrest]
      simp [eq_comm]
    | some f =>
      dsimp only
      cases d.has f with
      | true => simp [failBefore]
      | false =>
        rw [if_neg Bool.false_ne_true, if_neg Bool.false_ne_true, passColon_text]
        exact readSetting_text m.afterColon hrest

theorem readMoreMembers_eq (d : Draft) (t : Text) : readMoreMembers d t =
    match skipSpace t with
    | [] => failAt (.endOf .object) []
    | c :: u =>
      if c = '\x7d' then .ok (d, u)
      else if c = ',' then
        match passQuote u with
        | .error f => .error f
        | .ok (_, v) =>
          match readMember d v with
          | .error f => .error f
          | .ok (e, rest) => readMoreMembers e rest
      else failAt .expectedObjectEnd (c :: u) := by
  rw [readMoreMembers.eq_def]
  split
  · next h => rw [h]
  · next h =>
    rw [h]
    dsimp only
    split
    · rfl
    split
    · split
      · next h => rw [h]
      · next h =>
        rw [h]
        dsimp only
        split
        · next h => rw [h]
        · next h => rw [h]
    · rfl

/-- A member in front of members that are read one by one. -/
theorem readMember_cons
    (ih : ∀ d s e r, readMoreMembers d (Space.text s ++ (moreText ms ++ '\x7d' :: rest)) =
      .ok (e, r) ↔ ms.foldlM Draft.addMember? d = some e ∧ r = rest) :
    (match readMember d (m.tailText ++ (m.after.text ++ (moreText ms ++ '\x7d' :: rest))) with
      | .error f => Except.error f
      | .ok (e, rest) => readMoreMembers e rest) = .ok (e, r) ↔
      (m :: ms).foldlM Draft.addMember? d = some e ∧ r = rest := by
  have hend := numberEnd_more m.after ms rest
  rw [List.foldlM_cons]
  cases hm : d.addMember? m with
  | none =>
    split
    · simp
    · next e' t hread => cases hm.symm.trans ((readMember_text hend).1 hread).1
  | some e' =>
    rw [(readMember_text hend).2 ⟨hm, rfl⟩]
    exact ih e' m.after e r

/-- **Members are read one by one** up to the closing bracket. -/
theorem readMoreMembers_text (ms : List (Member Value)) (d : Draft) (s : Space) (e : Draft)
    (r : Text) :
    readMoreMembers d (s.text ++ (moreText ms ++ '\x7d' :: rest)) = .ok (e, r) ↔
      ms.foldlM Draft.addMember? d = some e ∧ r = rest := by
  induction ms generalizing d s e r with
  | nil =>
    have htext : moreText [] ++ '\x7d' :: rest = '\x7d' :: rest := rfl
    rw [htext, readMoreMembers_eq, skipSpace_space s (by decide)]
    simp [eq_comm]
  | cons m ms ih =>
    have htext : moreText (m :: ms) ++ '\x7d' :: rest =
        ',' :: (m.text ++ (moreText ms ++ '\x7d' :: rest)) := by
      simp [moreText]
    rw [htext, readMoreMembers_eq, skipSpace_space s (by decide), Member.text_append]
    dsimp only
    rw [if_neg (by decide), if_pos rfl, passQuote, skipSpace_space m.before (by decide)]
    exact readMember_cons ih

end Members

/-! ## Whole texts -/

/-- **The members of an object are read** behind its opening brace. -/
theorem readMembers_text (inner : Space) (ms : List (Member Value)) {e : Draft} {rest r : Text} :
    readMembers (inner.text ++ ([','].intercalate (ms.map Member.text) ++ '\x7d' :: rest)) =
      .ok (e, r) ↔ ms.foldlM Draft.addMember? {} = some e ∧ r = rest := by
  cases ms with
  | nil =>
    rw [List.map_nil, List.intercalate_nil, List.nil_append, readMembers,
      skipSpace_space inner (by decide)]
    simp [eq_comm]
  | cons m ms =>
    rw [intercalate_text, List.append_assoc, Member.text_append, readMembers, skipSpace_text,
      skipSpace_space m.before (by decide)]
    dsimp only
    rw [if_neg (by decide), if_pos rfl]
    exact readMember_cons (readMoreMembers_text ms)

/-- **A text that holds an object is read** to the settings that its members make. -/
theorem ofJson_text (o : ObjectText) {c : Settings} :
    ofJson o.text = .ok c ↔
      (o.members.foldlM Draft.addMember? {}).map Draft.toSettings = some c := by
  have hdraft : readDraft o.text = readMembers (o.inner.text ++
      ([','].intercalate (o.members.map Member.text) ++ '\x7d' :: o.after.text)) := by
    rw [ObjectText.text, List.append_assoc, object_text, readDraft,
      skipSpace_space o.before (by decide)]
    exact if_pos rfl
  have hafter : skipSpace o.after.text = [] := by
    have h := skipSpace_text o.after []
    rwa [List.append_nil] at h
  rw [ofJson, hdraft]
  cases hfold : o.members.foldlM Draft.addMember? {} with
  | none =>
    split
    · simp
    · next d rest hread => cases hfold.symm.trans ((readMembers_text _ _).1 hread).1
  | some d =>
    rw [(readMembers_text _ _).2 ⟨hfold, rfl⟩]
    dsimp only
    rw [hafter]
    simp

end Settings

end JiraMarkup

/-
  Names of Markdown files.

  * `MarkdownName` are the names that end in `.md` or `.markdown`, in small letters or capitals;
  * `Text.exists_of_bytes_eq`: a text is cut at the slashes of its bytes, so that a path is a text
    exactly if all its names are;
  * `Path.foldCase_eq_iff`: letters of these extensions are told from others by the folding of
    case, so that the small letters of `Path.smallLetter` are enough;
  * `Path.hasMarkdownExtension_join`: the path of a file has an extension of Markdown exactly if
    its name has one and the path is a text (`Bytes.IsText`).
-/
import JiraMarkup.Proofs.Files.Reaching
import JiraMarkup.Text.CaseFold

namespace JiraMarkup

/-- The extensions of Markdown files. -/
def markdownExtensions : List Text := ["md".toList, "markdown".toList]

/-- A name that ends in a dot and an extension of Markdown files, in any letter case. -/
def MarkdownName (name : Bytes) : Prop :=
  ∃ stem ext : Text, name = Text.bytes (stem ++ '.' :: ext) ∧
    Text.foldCase ext ∈ markdownExtensions

/-- Bytes that are a text. -/
def Bytes.IsText (b : Bytes) : Prop := ∃ t : Text, b = t.bytes

/-! ## Bytes of texts -/

namespace Text

theorem bytes_append (t u : Text) : bytes (t ++ u) = bytes t ++ bytes u := List.flatMap_append

theorem bytes_slash (t : Text) : bytes ('/' :: t) = Path.slash :: bytes t := bytes_cons '/' t

/-- No other character has the byte of a slash in it. -/
theorem slash_notMem_utf8EncodeChar {c : Char} (hc : c ≠ '/') :
    Path.slash ∉ String.utf8EncodeChar c := by
  have hbyte : ∀ n, Path.slash = UInt8.ofNat n → n % 256 = 0x2F := by
    intro n hn
    have hnat := congrArg UInt8.toNat hn
    rw [UInt8.toNat_ofNat'] at hnat
    exact hnat.symm
  have hval : c.val.toNat ≠ 0x2F := by
    intro h
    exact hc (Char.toNat_inj.1 (h : c.toNat = '/'.toNat))
  rw [String.utf8EncodeChar]
  intro hmem
  split_ifs at hmem <;> simp only [List.mem_cons, List.not_mem_nil, or_false] at hmem
  · have h := hbyte _ hmem
    omega
  · rcases hmem with h | h <;> (have h := hbyte _ h; omega)
  · rcases hmem with h | h | h <;> (have h := hbyte _ h; omega)
  · rcases hmem with h | h | h | h <;> (have h := hbyte _ h; omega)

/-- **A text is cut at the slashes of its bytes.** -/
theorem exists_of_bytes_eq {t : Text} {b b' : Bytes} (h : bytes t = b ++ Path.slash :: b') :
    ∃ u v : Text, t = u ++ '/' :: v ∧ b = bytes u ∧ b' = bytes v := by
  induction t generalizing b with
  | nil => simp [bytes] at h
  | cons c t ih =>
    by_cases hc : c = '/'
    · subst hc
      rw [bytes_slash] at h
      rcases b with _ | ⟨x, b⟩
      · exact ⟨[], t, rfl, rfl, (List.cons.inj h).2.symm⟩
      · obtain ⟨rfl, hrest⟩ := List.cons.inj h
        obtain ⟨u, v, rfl, rfl, rfl⟩ := ih hrest
        exact ⟨'/' :: u, v, rfl, (bytes_slash u).symm, rfl⟩
    · -- The bytes of the character come before the slash as a whole.
      have hnot := slash_notMem_utf8EncodeChar hc
      have hbegin : ∃ rest, b = String.utf8EncodeChar c ++ rest := by
        rw [bytes_cons] at h
        rcases List.append_eq_append_iff.1 h with ⟨rest, hb, -⟩ | ⟨rest, henc, hrest⟩
        · exact ⟨rest, hb⟩
        · cases rest with
          | nil => exact ⟨[], by rw [henc, List.append_nil, List.append_nil]⟩
          | cons x rest =>
            obtain ⟨rfl, -⟩ := List.cons.inj hrest
            exact absurd (henc ▸ List.mem_append_right _ List.mem_cons_self) hnot
      obtain ⟨rest, rfl⟩ := hbegin
      rw [bytes_cons, List.append_assoc, List.append_cancel_left_eq] at h
      obtain ⟨u, v, rfl, rfl, rfl⟩ := ih h
      exact ⟨c :: u, v, rfl, (bytes_cons c u).symm, rfl⟩

end Text

namespace Path

/-! ## Letter case -/

/-- The letters of the extensions. -/
def extensionLetters : Text := "adkmnorw".toList

theorem toNat_lt_of_mem_extensionLetters {c : Char} (h : c ∈ extensionLetters) :
    c.toNat < 0x80 := by
  have hall : extensionLetters.all (fun c => c.toNat < 0x80) = true := by decide
  exact of_decide_eq_true (List.all_eq_true.1 hall c h)

/-- Beyond ASCII there are no letters that fold to one of ASCII but for the Kelvin sign and the
    long s. -/
theorem foldingRuns_beyond : ∀ r ∈ foldingRuns, 0x80 ≤ r.first →
    0x80 ≤ r.first + r.shift ∨ (r.first = 0x212A ∧ r.last = 0x212A) ∨
      (r.first = 0x17F ∧ r.last = 0x17F ∧ r.shift = -268) := by decide +kernel

theorem foldingRuns_ascii : ∀ r ∈ foldingRuns, 0x80 ≤ r.first ∨ r.last < 0x80 := by
  decide +kernel

theorem foldingSequences_beyond : ∀ s ∈ foldingSequences,
    ∃ n ∈ s.2, Char.ofNat n ∉ extensionLetters := by decide +kernel

theorem ofNat_notMem_extensionLetters {n : Nat} (h : 0x80 ≤ n) :
    Char.ofNat n ∉ extensionLetters := by
  intro hmem
  by_cases hvalid : n.isValidChar
  · have hchar : (Char.ofNat n).toNat = n := congrArg Char.toNat (dif_pos hvalid)
    have hlt := toNat_lt_of_mem_extensionLetters hmem
    rw [hchar] at hlt
    exact Nat.not_lt.2 h hlt
  · have hchar : Char.ofNat n = '\x00' := dif_neg hvalid
    rw [hchar] at hmem
    exact absurd hmem (by decide)

theorem smallLetter_of_beyond {c : Char} (hascii : ¬c.toNat < 0x80) (hkelvin : c ≠ '\u212a') :
    smallLetter c = c := by
  rw [smallLetter, if_neg hkelvin]
  refine dif_neg fun hcapital => hascii ?_
  exact Nat.lt_of_le_of_lt (UInt32.le_iff_toNat_le.1 hcapital.2) (by decide)

/-- **A letter folds to its small letter, or else to something with another letter.** -/
theorem foldChar_cases (c : Char) : foldChar c = [smallLetter c] ∨
    (∃ d ∈ foldChar c, d ∉ extensionLetters) ∧ smallLetter c ∉ extensionLetters := by
  by_cases hascii : c.toNat < 0x80
  · have hkelvin : c ≠ '\u212a' := by
      rintro rfl
      exact absurd hascii (by decide)
    exact .inl (by rw [foldChar, if_pos hascii, smallLetter, if_neg hkelvin])
  by_cases hkelvin : c = '\u212a'
  · subst hkelvin
    exact .inl (by decide +kernel)
  · have hc : c ∉ extensionLetters := fun h => hascii (toNat_lt_of_mem_extensionLetters h)
    rw [smallLetter_of_beyond hascii hkelvin, foldChar, if_neg hascii]
    refine .inr ⟨?_, hc⟩
    cases hrun : foldingRuns.find? (·.holds c.toNat) with
    | some r =>
      refine ⟨_, List.mem_singleton_self _, ?_⟩
      have hmem := List.mem_of_find?_eq_some hrun
      have hholds := List.find?_some hrun
      simp only [FoldingRun.holds, Bool.and_eq_true, decide_eq_true_eq] at hholds
      obtain ⟨⟨hfirst, hlast⟩, -⟩ := hholds
      have hbeyond : 0x80 ≤ r.first := by
        rcases foldingRuns_ascii r hmem with h | h <;> omega
      rcases foldingRuns_beyond r hmem hbeyond with h | ⟨h, h'⟩ | ⟨h, h', hshift⟩
      · exact ofNat_notMem_extensionLetters (by omega)
      · have hcode : c.toNat = 0x212A := by omega
        exact absurd (Char.toNat_inj.1 (hcode : c.toNat = '\u212a'.toNat)) hkelvin
      · have hcode : c.toNat = 0x17F := by omega
        rw [hcode, hshift]
        decide
    | none =>
      cases hsequence : foldingSequences.lookup c.toNat with
      | some ns =>
        obtain ⟨_, _, hlist, -⟩ := List.lookup_eq_some_iff.1 hsequence
        obtain ⟨n, hn, hletter⟩ := foldingSequences_beyond (c.toNat, ns) (by simp [hlist])
        exact ⟨Char.ofNat n, List.mem_map_of_mem hn, hletter⟩
      | none => exact ⟨c, List.mem_singleton_self c, hc⟩

/-- **Small letters are enough** to know an extension whatever its letter case. -/
theorem foldCase_eq_iff {ext w : Text} (hw : ∀ c ∈ w, c ∈ extensionLetters) :
    Text.foldCase ext = w ↔ ext.map smallLetter = w := by
  by_cases hall : ∀ c ∈ ext, foldChar c = [smallLetter c]
  · have hfold : Text.foldCase ext = ext.map smallLetter := by
      rw [Text.foldCase, List.flatMap_congr hall, List.map_eq_flatMap]
    rw [hfold]
  · -- One letter folds to something that the extension does not have, whichever way it is read.
    simp only [not_forall] at hall
    obtain ⟨c, hc, hfold⟩ := hall
    obtain ⟨⟨d, hd, hletter⟩, hsmall⟩ := (foldChar_cases c).resolve_left hfold
    refine iff_of_false ?_ ?_
    · rintro rfl
      exact hletter (hw d (List.mem_flatMap.2 ⟨c, hc, hd⟩))
    · rintro rfl
      exact hsmall (hw _ (List.mem_map_of_mem hc))

/-! ## Extensions -/

theorem markdownExtensions_letters : ∀ w ∈ markdownExtensions, w ⊆ extensionLetters := by decide

theorem foldCase_mem_iff (ext : Text) :
    Text.foldCase ext ∈ markdownExtensions ↔ ext.map smallLetter ∈ markdownExtensions := by
  have hmem : ∀ w ∈ markdownExtensions, Text.foldCase ext = w ↔ ext.map smallLetter = w :=
    fun w hw => foldCase_eq_iff fun _ hc => markdownExtensions_letters w hw hc
  constructor
  · intro h
    exact (hmem _ h).1 rfl ▸ h
  · intro h
    exact (hmem _ h).2 rfl ▸ h

/-- A character that a small letter of an extension is not. -/
theorem notMem_of_foldCase_mem {ext : Text} (h : Text.foldCase ext ∈ markdownExtensions) {c : Char}
    (hc : smallLetter c ∉ extensionLetters) : c ∉ ext := fun hmem =>
  hc (markdownExtensions_letters _ ((foldCase_mem_iff ext).1 h) (List.mem_map_of_mem hmem))

theorem extension?_append {stem ext : Text} (hdot : '.' ∉ ext) :
    extension? (stem ++ '.' :: ext) = some (ext.map smallLetter) := by
  have hext : ∀ c ∈ ext.reverse, decide (c ≠ '.') = true := by
    intro c hc
    simpa using fun heq : c = '.' => hdot (heq ▸ List.mem_reverse.1 hc)
  rw [extension?, if_pos (by simp), List.reverse_append, List.reverse_cons, List.append_assoc,
    List.takeWhile_append_of_pos hext, List.singleton_append, List.takeWhile_cons_of_neg (by simp),
    List.append_nil, List.reverse_reverse]

/-- A text ends in an extension of Markdown files if that is what follows one of its dots. -/
theorem endsInMarkdown_iff (t : Text) : endsInMarkdown t = true ↔
    ∃ stem ext, t = stem ++ '.' :: ext ∧ Text.foldCase ext ∈ markdownExtensions := by
  have hsome : endsInMarkdown t = true ↔ ∃ w ∈ markdownExtensions, extension? t = some w := by
    rw [endsInMarkdown, decide_eq_true_eq]
    simp only [markdownExtensions, List.mem_cons, List.not_mem_nil, or_false, exists_eq_or_imp,
      exists_eq_left]
  rw [hsome]
  constructor
  · rintro ⟨w, hw, ht⟩
    have hdot : '.' ∈ t.reverse := by
      rw [List.mem_reverse]
      by_contra hno
      simp [extension?, hno] at ht
    obtain ⟨before, after, hreverse, hno⟩ := List.eq_append_cons_of_mem hdot
    obtain rfl : t = after.reverse ++ '.' :: before.reverse := by
      rw [← List.reverse_reverse t, hreverse]
      simp
    rw [extension?_append (by simpa using hno), Option.some.injEq] at ht
    exact ⟨_, _, rfl, (foldCase_mem_iff _).2 (ht ▸ hw)⟩
  · rintro ⟨stem, ext, rfl, hext⟩
    have hdot : '.' ∉ ext := notMem_of_foldCase_mem hext (by decide)
    exact ⟨_, (foldCase_mem_iff ext).1 hext, extension?_append hdot⟩

/-- **A path has an extension of Markdown files** if it is a text that ends in a dot and one of
    them. -/
theorem hasMarkdownExtension_iff (p : Path) :
    p.hasMarkdownExtension = true ↔ MarkdownName p := by
  simp only [hasMarkdownExtension, Option.any_eq_true, Bytes.text?_eq_some, endsInMarkdown_iff]
  constructor
  · rintro ⟨_, rfl, stem, ext, rfl, hext⟩
    exact ⟨stem, ext, rfl, hext⟩
  · rintro ⟨stem, ext, rfl, hext⟩
    exact ⟨_, rfl, stem, ext, rfl, hext⟩

/-- **The path of an entry has an extension of Markdown files** exactly if its name has one and
    the path is a text. -/
theorem hasMarkdownExtension_join (p : Path) {name : Bytes} (hname : slash ∉ name) :
    (p.join name).hasMarkdownExtension = true ↔ MarkdownName name ∧ (p.join name).IsText := by
  obtain ⟨q, hjoin, -⟩ := join_eq p name
  rw [hasMarkdownExtension_iff, hjoin]
  constructor
  · rintro ⟨stem, ext, heq, hext⟩
    refine ⟨?_, _, heq⟩
    obtain ⟨u, v, htext, -, rfl⟩ := Text.exists_of_bytes_eq heq.symm
    have hslash : '/' ∉ ext := notMem_of_foldCase_mem hext (by decide)
    rcases List.append_eq_append_iff.1 htext with ⟨rest, -, hrest⟩ | ⟨stem', -, hstem⟩
    · have hmem : '/' ∈ '.' :: ext := by simp [hrest]
      rcases List.mem_cons.1 hmem with h | h
      · cases h
      · exact absurd h hslash
    · -- The dot comes after the slash, unless it is the slash.
      rcases stem' with _ | ⟨c, stem'⟩
      · cases hstem
      · exact ⟨stem', ext, congrArg Text.bytes (List.cons.inj hstem).2, hext⟩
  · rintro ⟨⟨stem, ext, rfl, hext⟩, t, ht⟩
    obtain ⟨u, v, -, rfl, hv⟩ := Text.exists_of_bytes_eq ht.symm
    refine ⟨u ++ '/' :: stem, ext, ?_, hext⟩
    rw [List.append_assoc, List.cons_append, Text.bytes_append u, Text.bytes_slash]

end Path

end JiraMarkup

/-
  Bytes in a row, as the operating system gives names and paths. They need not
  be a text.

  * `Text.bytes` are the bytes of a text, `Bytes.text?` is the text that bytes
    are, if they are one;
  * `Bytes.display` shows any bytes, with a sign of its own for those that are no
    part of a text.
-/
import JiraMarkup.Text.Utf8

namespace JiraMarkup

/-- Bytes in a row. -/
abbrev Bytes := List UInt8

/-- The bytes of a text. -/
def Text.bytes (t : Text) : Bytes := t.flatMap String.utf8EncodeChar

theorem Text.bytes_cons (c : Char) (t : Text) :
    Text.bytes (c :: t) = String.utf8EncodeChar c ++ t.bytes := List.flatMap_cons

/-- A string stands for the bytes of its characters. -/
instance : Coe String Bytes := ⟨fun s => Text.bytes s.toList⟩

namespace Bytes

/-- The text that bytes are, if they are one. -/
def text? (b : Bytes) : Option Text := Text.decode? b.toByteArray

/-- The bytes of a text are this text, and no others are. -/
theorem text?_eq_some {b : Bytes} {t : Text} : b.text? = some t ↔ b = t.bytes := by
  have hbytes : ∀ u : Text, u.bytes.toByteArray = u.utf8Encode := fun _ => rfl
  rw [text?, Text.decode?, Option.map_eq_some_iff]
  constructor
  · rintro ⟨cs, hcs, rfl⟩
    obtain ⟨u, hu⟩ := ByteArray.isSome_utf8Decode?_iff.1 (Option.isSome_of_mem hcs)
    rw [hu, List.utf8Decode?_utf8Encode, Option.some.injEq] at hcs
    subst hcs
    rw [← hbytes] at hu
    have hlist := congrArg (·.data.toList) hu
    simpa using hlist
  · rintro rfl
    exact ⟨t.toArray, by rw [hbytes, List.utf8Decode?_utf8Encode], rfl⟩

theorem text?_bytes (t : Text) : t.bytes.text? = some t := text?_eq_some.2 rfl

/-! ## Showing bytes -/

/-- Whether a byte goes on with a character. -/
def isTail (b : UInt8) : Bool := 0x80 ≤ b && b ≤ 0xBF

/-- Whether a character of more than two bytes begins with these two. -/
def beginLong (b b' : UInt8) : Bool :=
  0xE0 ≤ b && b ≤ 0xF4 && isTail b' &&
    !(b == 0xE0 && b' < 0xA0 || b == 0xED && 0xA0 ≤ b' || b == 0xF0 && b' < 0x90 ||
      b == 0xF4 && 0x90 ≤ b')

/-- The number of bytes at the front that are shown as one sign where no character is: as many
    as a character begins with, and one at least. -/
def brokenLength : Bytes → Nat
  | b :: b' :: bs =>
    if !beginLong b b' then 1 else if 0xF0 ≤ b && bs.head?.any isTail then 3 else 2
  | _ => 1

/-- The sign for bytes that are no part of a text. -/
def brokenSign : Char := '\ufffd'

/-- `display`, after `n` bytes that have been shown already. -/
def displayFrom : (n : Nat) → Bytes → Text
  | _, [] => []
  | n + 1, _ :: bs => displayFrom n bs
  | 0, b :: bs =>
    match (b :: bs).toByteArray.utf8DecodeChar? 0 with
    | some c => c :: displayFrom (c.utf8Size - 1) bs
    | none => brokenSign :: displayFrom (brokenLength (b :: bs) - 1) bs

/-- Bytes as a text that shows them. -/
def display (b : Bytes) : Text := displayFrom 0 b

theorem displayFrom_append (b b' : Bytes) : displayFrom b.length (b ++ b') = displayFrom 0 b' := by
  induction b with
  | nil => rfl
  | cons x b ih => exact ih

/-- **A text is shown as it is.** -/
theorem display_bytes (t : Text) : t.bytes.display = t := by
  induction t with
  | nil => rfl
  | cons c t ih =>
    obtain ⟨x, xs, hc⟩ := List.exists_cons_of_ne_nil (String.utf8EncodeChar_ne_nil (c := c))
    have hbytes : Text.bytes (c :: t) = x :: (xs ++ Text.bytes t) := by
      rw [Text.bytes_cons, hc, List.cons_append]
    have hlength : c.utf8Size - 1 = xs.length := by
      rw [← String.length_utf8EncodeChar, hc]
      rfl
    have hfront : (x :: (xs ++ Text.bytes t)).toByteArray.utf8DecodeChar? 0 = some c := by
      rw [← hbytes]
      exact List.utf8DecodeChar?_utf8Encode_cons
    rw [hbytes, display, displayFrom, hfront]
    exact congrArg (c :: ·) ((hlength ▸ displayFrom_append xs (Text.bytes t)).trans ih)

/-- One sign for a byte that begins nothing, and one for a character that is cut off. -/
example : display [0x64, 0xff, 0xe2, 0x82, 0x2e] = "d\ufffd\ufffd.".toList := by decide +kernel

end Bytes

end JiraMarkup

/-!
Reading bytes as UTF-8 text when some of them are not: every maximal part of a sequence that cannot
be continued is shown as one replacement character.
-/
namespace OpticalTestbed.Utf8

/-- What a lead byte announces: how many bytes follow, the bits it carries, and the range of the
byte right after it. -/
structure Lead where
  following : Nat
  bits : Nat
  low : Nat
  high : Nat

/-- The lead byte of a sequence of two to four bytes. The range of the second byte keeps out long
forms, surrogates and code points beyond the last one. -/
def lead? (b : Nat) : Option Lead :=
  if 0xC2 ≤ b ∧ b ≤ 0xDF then some ⟨1, b - 0xC0, 0x80, 0xBF⟩
  else if b = 0xE0 then some ⟨2, 0, 0xA0, 0xBF⟩
  else if b = 0xED then some ⟨2, 0xD, 0x80, 0x9F⟩
  else if 0xE1 ≤ b ∧ b ≤ 0xEF then some ⟨2, b - 0xE0, 0x80, 0xBF⟩
  else if b = 0xF0 then some ⟨3, 0, 0x90, 0xBF⟩
  else if 0xF1 ≤ b ∧ b ≤ 0xF3 then some ⟨3, b - 0xF0, 0x80, 0xBF⟩
  else if b = 0xF4 then some ⟨3, 4, 0x80, 0x8F⟩
  else none

/-- The character that stands for bytes that are no text. -/
def replacement : Char := '\ufffd'

/-- Reads one byte after another. Inside a sequence, `pending` holds what is expected next: how many
bytes, the value so far and the range of the next byte. -/
def lossyFrom : Option Lead → List UInt8 → List Char
  | none, [] => []
  | some _, [] => [replacement]
  | none, b :: bs =>
    let n := b.toNat
    if n < 0x80 then Char.ofNat n :: lossyFrom none bs
    else match lead? n with
      | some l => lossyFrom (some l) bs
      | none => replacement :: lossyFrom none bs
  | some l, b :: bs =>
    let n := b.toNat
    if l.low ≤ n ∧ n ≤ l.high then
      let value := l.bits * 64 + (n - 0x80)
      if l.following ≤ 1 then Char.ofNat value :: lossyFrom none bs
      else lossyFrom (some ⟨l.following - 1, value, 0x80, 0xBF⟩) bs
    else if n < 0x80 then replacement :: Char.ofNat n :: lossyFrom none bs
    else match lead? n with
      | some l' => replacement :: lossyFrom (some l') bs
      | none => replacement :: replacement :: lossyFrom none bs

/-- The text of some bytes, with replacement characters where they are no text. -/
def lossy (bytes : ByteArray) : String := String.ofList (lossyFrom none bytes.toList)

end OpticalTestbed.Utf8

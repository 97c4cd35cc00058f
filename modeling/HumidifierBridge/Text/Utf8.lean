/-!
# UTF-8 with replacement

`decodeLossy` reads octets as UTF-8 and never fails: where a sequence is cut short or cannot be
continued, the octets read so far become one replacement character and reading resumes at the octet
that did not fit. On well-formed octets this is ordinary decoding.
-/

namespace HumidifierBridge.Text

/-- What must follow the first octet of a character: how many octets, the range of the next one,
and the bits gathered so far. -/
structure Utf8Lead where
  owed : Nat
  low : UInt8
  high : UInt8
  gathered : Nat

/-- The reading of a first octet, or none where no character starts so. -/
def utf8Lead? (b : UInt8) : Option Utf8Lead :=
  let n := b.toNat
  if n < 0x80 then some ⟨0, 0x80, 0xBF, n⟩
  else if n < 0xC2 then none
  else if n < 0xE0 then some ⟨1, 0x80, 0xBF, n - 0xC0⟩
  else if n = 0xE0 then some ⟨2, 0xA0, 0xBF, 0⟩
  else if n = 0xED then some ⟨2, 0x80, 0x9F, 13⟩
  else if n < 0xF0 then some ⟨2, 0x80, 0xBF, n - 0xE0⟩
  else if n = 0xF0 then some ⟨3, 0x90, 0xBF, 0⟩
  else if n < 0xF4 then some ⟨3, 0x80, 0xBF, n - 0xF0⟩
  else if n = 0xF4 then some ⟨3, 0x80, 0x8F, 4⟩
  else none

/-- Reads the octets still owed; the first part is none when one of them is missing or out of
range, and the second part starts at the octet not taken. -/
def utf8Tail : (owed : Nat) → (low high : UInt8) → (gathered : Nat) → List UInt8 →
    Option Nat × List UInt8
  | 0, _, _, gathered, rest => (some gathered, rest)
  | _ + 1, _, _, _, [] => (none, [])
  | owed + 1, low, high, gathered, b :: rest =>
    if low ≤ b ∧ b ≤ high then
      utf8Tail owed 0x80 0xBF (gathered * 64 + (b.toNat - 0x80)) rest
    else (none, b :: rest)

theorem length_utf8Tail_le (owed : Nat) (low high : UInt8) (gathered : Nat) (bytes : List UInt8) :
    (utf8Tail owed low high gathered bytes).2.length ≤ bytes.length := by
  induction bytes generalizing owed low high gathered with
  | nil => cases owed <;> simp [utf8Tail]
  | cons b rest ih =>
    cases owed with
    | zero => simp [utf8Tail]
    | succ owed =>
      simp only [utf8Tail]
      split
      · exact Nat.le_succ_of_le (ih ..)
      · simp

/-- The replacement character. -/
def replacement : Char := '\uFFFD'

/-- Reads octets as UTF-8, with a replacement character for each part that is not UTF-8. -/
def decodeLossy : List UInt8 → List Char
  | [] => []
  | b :: rest =>
    match utf8Lead? b with
    | none => replacement :: decodeLossy rest
    | some lead =>
      let read := utf8Tail lead.owed lead.low lead.high lead.gathered rest
      ((read.1.map Char.ofNat).getD replacement) :: decodeLossy read.2
termination_by bytes => bytes.length
decreasing_by
  · simp
  · exact Nat.lt_succ_of_le (length_utf8Tail_le ..)

end HumidifierBridge.Text

/-!
Reading bytes that may not be UTF-8. Each longest start of a character that goes no further, and
each byte that starts none, is read as one replacement character.
-/
namespace MockBuilders.Text

def replacement : Char := '\ufffd'

/-- A character whose first bytes have been read. -/
structure Partial where
  /-- Bytes that are still to come, but for the next one. -/
  more : Nat
  /-- The bits read so far. -/
  bits : Nat
  /-- Least and greatest value of the next byte. -/
  least : Nat
  greatest : Nat

namespace Partial

/-- What the first byte of a character starts; none if it starts no character of several bytes. -/
def start? (b : Nat) : Option Partial :=
  if 0xC2 ≤ b ∧ b ≤ 0xDF then some ⟨0, b - 0xC0, 0x80, 0xBF⟩
  else if b = 0xE0 then some ⟨1, 0, 0xA0, 0xBF⟩
  else if b = 0xED then some ⟨1, 0xD, 0x80, 0x9F⟩
  else if 0xE1 ≤ b ∧ b ≤ 0xEF then some ⟨1, b - 0xE0, 0x80, 0xBF⟩
  else if b = 0xF0 then some ⟨2, 0, 0x90, 0xBF⟩
  else if b = 0xF4 then some ⟨2, 4, 0x80, 0x8F⟩
  else if 0xF1 ≤ b ∧ b ≤ 0xF3 then some ⟨2, b - 0xF0, 0x80, 0xBF⟩
  else none

/-- Reads a byte where a character starts. -/
def first (b : Nat) : List Char × Option Partial :=
  if b < 0x80 then ([Char.ofNat b], none)
  else
    match start? b with
    | some p => ([], some p)
    | none => ([replacement], none)

/-- Reads a byte inside a character. -/
def next (p : Partial) (b : Nat) : List Char × Option Partial :=
  if p.least ≤ b ∧ b ≤ p.greatest then
    let bits := 64 * p.bits + (b - 0x80)
    match p.more with
    | 0 => ([Char.ofNat bits], none)
    | n + 1 => ([], some ⟨n, bits, 0x80, 0xBF⟩)
  else (replacement :: (first b).1, (first b).2)

end Partial

def decode : Option Partial → List UInt8 → List Char
  | none, [] => []
  | some _, [] => [replacement]
  | none, b :: bs => (Partial.first b.toNat).1 ++ decode (Partial.first b.toNat).2 bs
  | some p, b :: bs => (p.next b.toNat).1 ++ decode (p.next b.toNat).2 bs

/-- The text of bytes. -/
def ofBytes (bs : List UInt8) : String := String.ofList (decode none bs)

end MockBuilders.Text

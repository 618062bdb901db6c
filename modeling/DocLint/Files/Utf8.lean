/-!
# Text as bytes

A text file holds the bytes of the UTF-8 form of its characters. Not every row of bytes is such a
form: each character has one form only, the shortest, and surrogates have none.

* `Utf8.encode` — the bytes of a text;
* `Utf8.decode?` — the text of some bytes, if they are a text.
-/

namespace DocLint.Files.Utf8

/-- The bytes of a text. -/
def encode (cs : List Char) : List UInt8 := cs.flatMap String.utf8EncodeChar

/-- A character of which some bytes are still to come. -/
structure Pending where
  /-- how many bytes are to come -/
  owed : Nat
  /-- the number that the bytes so far stand for -/
  value : Nat
  /-- the least and the greatest that the next byte may be -/
  low : Nat := 0x80
  high : Nat := 0xBF

/-- No character is begun. -/
def Pending.nothing : Pending := { owed := 0, value := 0 }

/-- A character after its first byte, which does not stand for a character alone. -/
def Pending.ofFirst? (n : Nat) : Option Pending :=
  if 0xC2 ≤ n ∧ n ≤ 0xDF then some { owed := 1, value := n % 0x20 }
  else if n = 0xE0 then some { owed := 2, value := 0, low := 0xA0 }
  else if n = 0xED then some { owed := 2, value := 0xD, high := 0x9F }
  else if 0xE1 ≤ n ∧ n ≤ 0xEF then some { owed := 2, value := n % 0x10 }
  else if n = 0xF0 then some { owed := 3, value := 0, low := 0x90 }
  else if 0xF1 ≤ n ∧ n ≤ 0xF3 then some { owed := 3, value := n % 8 }
  else if n = 0xF4 then some { owed := 3, value := 4, high := 0x8F }
  else none

/-- The characters of some bytes, of which the first ones continue a character that is begun. -/
def decodeFrom? (p : Pending) : List UInt8 → Option (List Char)
  | [] => if p.owed = 0 then some [] else none
  | b :: bs =>
    let n := b.toNat
    if p.owed = 0 then
      if n < 0x80 then (decodeFrom? .nothing bs).map (Char.ofNat n :: ·)
      else
        match Pending.ofFirst? n with
        | some begun => decodeFrom? begun bs
        | none => none
    else if p.low ≤ n ∧ n ≤ p.high then
      let value := p.value * 0x40 + n % 0x40
      if p.owed = 1 then (decodeFrom? .nothing bs).map (Char.ofNat value :: ·)
      else decodeFrom? { owed := p.owed - 1, value } bs
    else none

/-- The characters of some bytes; none if they are no text. -/
def decode? (bytes : List UInt8) : Option (List Char) := decodeFrom? .nothing bytes

end DocLint.Files.Utf8

/-!
# UTF-8

Certificates and module bodies are bytes; texts made from them show the bytes as
UTF-8.  Where the bytes are not UTF-8, each longest start of a character that
cannot be completed is shown as one replacement character.

* `encode` — the bytes of a text.
* `decodeLossy` — the text of any bytes.
-/

namespace Loading.Text

/-- The bytes of a text. -/
def encode (s : String) : List UInt8 :=
  s.toUTF8.toList

/-- What stands for bytes that are no character. -/
def replacement : Char := '\uFFFD'

/-- A character whose first bytes have been read. -/
structure Unfinished where
  /-- How many bytes are still to come, less one. -/
  more : Nat
  /-- The bits read so far. -/
  bits : Nat
  /-- The least byte that may come next. -/
  low : UInt8 := 0x80
  /-- The greatest byte that may come next. -/
  high : UInt8 := 0xBF

/-- What the first byte of a character says: a whole character, the start of a
longer one, or (`none`) nothing. -/
def firstByte (b : UInt8) : Option (Char ⊕ Unfinished) :=
  let n := b.toNat
  if b < 0x80 then some (.inl (Char.ofNat n))
  else if b < 0xC2 then none
  else if b < 0xE0 then some (.inr ⟨0, n - 0xC0, 0x80, 0xBF⟩)
  else if b = 0xE0 then some (.inr ⟨1, 0, 0xA0, 0xBF⟩)
  else if b = 0xED then some (.inr ⟨1, 13, 0x80, 0x9F⟩)
  else if b < 0xF0 then some (.inr ⟨1, n - 0xE0, 0x80, 0xBF⟩)
  else if b = 0xF0 then some (.inr ⟨2, 0, 0x90, 0xBF⟩)
  else if b < 0xF4 then some (.inr ⟨2, n - 0xF0, 0x80, 0xBF⟩)
  else if b = 0xF4 then some (.inr ⟨2, 4, 0x80, 0x8F⟩)
  else none

/-- The characters of some bytes, when the start of one may already be read. -/
def decodeFrom : Option Unfinished → List UInt8 → List Char
  | none, [] => []
  | some _, [] => [replacement]
  | none, b :: rest =>
      match firstByte b with
      | some (.inl c) => c :: decodeFrom none rest
      | some (.inr p) => decodeFrom (some p) rest
      | none => replacement :: decodeFrom none rest
  | some p, b :: rest =>
      if p.low ≤ b ∧ b ≤ p.high then
        let bits := p.bits * 64 + (b.toNat - 0x80)
        match p.more with
        | 0 => Char.ofNat bits :: decodeFrom none rest
        | more + 1 => decodeFrom (some ⟨more, bits, 0x80, 0xBF⟩) rest
      else
        replacement :: match firstByte b with
          | some (.inl c) => c :: decodeFrom none rest
          | some (.inr q) => decodeFrom (some q) rest
          | none => replacement :: decodeFrom none rest

/-- The text of some bytes; what is not UTF-8 shows as replacement characters. -/
def decodeLossy (bytes : List UInt8) : String :=
  String.ofList (decodeFrom none bytes)

/-- The text of some bytes, if they are UTF-8. -/
def decode? (bytes : List UInt8) : Option String :=
  String.fromUTF8? ⟨bytes.toArray⟩

end Loading.Text

/-!
# Bytes as text

Texts from bytes that may not encode one. Every longest part that could have become a
character, and does not, reads as one replacement character.
-/
namespace MetricLayer.Text

/-- How a lead byte goes on: its own bits, the number of bytes that follow, and the range of
the first of them. -/
def leadByte? (b : Nat) : Option (Nat × Nat × Nat × Nat) :=
  if 0xc2 ≤ b && b ≤ 0xdf then some (b - 0xc0, 1, 0x80, 0xbf)
  else if b == 0xe0 then some (0, 2, 0xa0, 0xbf)
  else if b == 0xed then some (0xd, 2, 0x80, 0x9f)
  else if 0xe1 ≤ b && b ≤ 0xef then some (b - 0xe0, 2, 0x80, 0xbf)
  else if b == 0xf0 then some (0, 3, 0x90, 0xbf)
  else if 0xf1 ≤ b && b ≤ 0xf3 then some (b - 0xf0, 3, 0x80, 0xbf)
  else if b == 0xf4 then some (4, 3, 0x80, 0x8f)
  else none

/-- A character that is begun: its bits so far, how many bytes are missing, and the range of
the next one. -/
structure Pending where
  bits : Nat
  missing : Nat
  least : Nat := 0x80
  most : Nat := 0xbf

/-- Starts a character with a byte: the character itself, or one that is begun. -/
def startByte (b : Nat) : Char ⊕ Pending :=
  if b < 0x80 then .inl (Char.ofNat b)
  else
    match leadByte? b with
    | some (bits, missing, least, most) => .inr { bits, missing, least, most }
    | none => .inl '\ufffd'

/-- The characters of bytes, after a character that is begun. -/
def decodeFrom : Option Pending → List UInt8 → List Char
  | none, [] => []
  | some _, [] => ['\ufffd']
  | none, b :: rest =>
    match startByte b.toNat with
    | .inl c => c :: decodeFrom none rest
    | .inr p => decodeFrom (some p) rest
  | some p, b :: rest =>
    if p.least ≤ b.toNat && b.toNat ≤ p.most then
      let bits := p.bits * 64 + (b.toNat - 0x80)
      if p.missing == 1 then Char.ofNat bits :: decodeFrom none rest
      else decodeFrom (some { bits, missing := p.missing - 1 }) rest
    else
      match startByte b.toNat with
      | .inl c => '\ufffd' :: c :: decodeFrom none rest
      | .inr p => '\ufffd' :: decodeFrom (some p) rest

/-- The text of bytes. -/
def ofBytes (bs : List UInt8) : String := String.ofList (decodeFrom none bs)

end MetricLayer.Text

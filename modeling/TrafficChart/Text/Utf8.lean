/-!
# Reading UTF-8

A character is a leading byte and up to three continuation bytes. The leading byte fixes how
many there are and the range of the first one, which excludes overlong forms, surrogates and
numbers beyond the last code point. A fault is reported as the number of bytes in the longest
well-formed part at the beginning.
-/

namespace TrafficChart.Text

/-- A character of which `missing` bytes are to come. The next one lies between `low` and
`high`; `value` holds the bits read so far. -/
structure Pending where
  missing : Nat
  low : Nat
  high : Nat
  value : Nat

/-- What a leading byte announces. -/
def leading? (b : Nat) : Option Pending :=
  if 0xC2 ≤ b ∧ b ≤ 0xDF then some ⟨1, 0x80, 0xBF, b - 0xC0⟩
  else if b = 0xE0 then some ⟨2, 0xA0, 0xBF, 0⟩
  else if b = 0xED then some ⟨2, 0x80, 0x9F, 13⟩
  else if 0xE1 ≤ b ∧ b ≤ 0xEF then some ⟨2, 0x80, 0xBF, b - 0xE0⟩
  else if b = 0xF0 then some ⟨3, 0x90, 0xBF, 0⟩
  else if 0xF1 ≤ b ∧ b ≤ 0xF3 then some ⟨3, 0x80, 0xBF, b - 0xF0⟩
  else if b = 0xF4 then some ⟨3, 0x80, 0x8F, 4⟩
  else none

/-- Reads on after `complete` bytes of whole characters and `partly` bytes of a pending one. -/
def decodeFrom (complete partly : Nat) : Option Pending → List UInt8 → Except Nat (List Char)
  | none, [] => .ok []
  | some _, [] => .error complete
  | none, b :: rest =>
    if b.toNat < 0x80 then
      (Char.ofNat b.toNat :: ·) <$> decodeFrom (complete + 1) 0 none rest
    else
      match leading? b.toNat with
      | none => .error complete
      | some p => decodeFrom complete 1 (some p) rest
  | some p, b :: rest =>
    if b.toNat < p.low ∨ p.high < b.toNat then .error complete
    else
      let value := 64 * p.value + (b.toNat - 0x80)
      if p.missing ≤ 1 then
        (Char.ofNat value :: ·) <$> decodeFrom (complete + partly + 1) 0 none rest
      else decodeFrom complete (partly + 1) (some ⟨p.missing - 1, 0x80, 0xBF, value⟩) rest

/-- The text of a list of bytes, or the length of its longest well-formed beginning. -/
def decode (bytes : List UInt8) : Except Nat String :=
  String.ofList <$> decodeFrom 0 0 none bytes

end TrafficChart.Text

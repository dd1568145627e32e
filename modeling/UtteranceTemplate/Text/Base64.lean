import UtteranceTemplate.Text.Basic

/-!
Bytes written in base 64: four characters stand for three bytes, and an equals sign
for a character that is not needed. Characters that are no digits are passed over,
and enough equals signs in the last place end the text.
-/

namespace UtteranceTemplate

namespace Base64

def digit? (c : CodePoint) : Option Nat :=
  if 'A' ≤ c && c ≤ 'Z' then some (c.toNat - 'A'.toNat)
  else if 'a' ≤ c && c ≤ 'z' then some (c.toNat - 'a'.toNat + 26)
  else if '0' ≤ c && c ≤ '9' then some (c.toNat - '0'.toNat + 52)
  else if c = '+' then some 62
  else if c = '/' then some 63
  else none

/-- Reads digits; `place` counts those of the present four, `left` is what the last
one has left over, and `pads` the number of equals signs since. -/
def decodeFrom (place left pads : Nat) : Text → Option (List UInt8)
  | [] => if place = 0 then some [] else none
  | c :: rest =>
      if c = '=' then
        if place < 2 then decodeFrom place left pads rest
        else if 4 ≤ place + (pads + 1) then some []
        else decodeFrom place left (pads + 1) rest
      else
        match digit? c with
        | none => decodeFrom place left pads rest
        | some d =>
            match place with
            | 0 => decodeFrom 1 d 0 rest
            | 1 =>
                (decodeFrom 2 (d % 16) 0 rest).map ((4 * left + d / 16).toUInt8 :: ·)
            | 2 =>
                (decodeFrom 3 (d % 4) 0 rest).map ((16 * left + d / 4).toUInt8 :: ·)
            | _ => (decodeFrom 0 0 0 rest).map ((64 * left + d).toUInt8 :: ·)

/-- The bytes that a text writes; nothing if the last four digits are not
complete. -/
def decode (text : Text) : Option (List UInt8) := decodeFrom 0 0 0 text

end Base64

end UtteranceTemplate

import UtteranceTemplate.Text.Quoted

/-!
UTF-8: texts as rows of bytes. Reading refuses every row of bytes that writing cannot
produce, at the first byte that shows it.
-/

namespace UtteranceTemplate

namespace Utf8

/-- Why a row of bytes is not UTF-8. -/
inductive Reason
  /-- No character begins with the byte. -/
  | invalidStart
  /-- A character is broken off by a byte that cannot continue it. -/
  | invalidContinuation
  /-- A character is broken off by the end. -/
  | unexpectedEnd
  deriving DecidableEq, Repr

/-- The bytes at which reading fails: the first of them, its position, and their
number. -/
structure Fault where
  reason : Reason
  byte : UInt8
  position : Nat
  size : Nat
  deriving DecidableEq, Repr

/-- What the first byte of a character says: the bits of the character that it holds,
the number of the bytes that follow, and the least and the greatest second byte. -/
structure Lead where
  bits : Nat
  count : Nat
  least : UInt8
  greatest : UInt8

/-- The lead of a character of two to four bytes. The second byte after some first
ones is restricted further, so that no character has two forms and none is a
surrogate or beyond the last one. -/
def lead? (byte : UInt8) : Option Lead :=
  let n := byte.toNat
  if n < 0xc2 then none
  else if n < 0xe0 then some ⟨n - 0xc0, 1, 0x80, 0xbf⟩
  else if n = 0xe0 then some ⟨0, 2, 0xa0, 0xbf⟩
  else if n = 0xed then some ⟨0xd, 2, 0x80, 0x9f⟩
  else if n < 0xf0 then some ⟨n - 0xe0, 2, 0x80, 0xbf⟩
  else if n = 0xf0 then some ⟨0, 3, 0x90, 0xbf⟩
  else if n < 0xf4 then some ⟨n - 0xf0, 3, 0x80, 0xbf⟩
  else if n = 0xf4 then some ⟨4, 3, 0x80, 0x8f⟩
  else none

/-- Reads the `count` bytes that continue a character whose bits so far are `bits`;
the next of them lies between two bytes and the others between the usual ones. The
fault comes with the number of bytes that could be read. -/
def continued (least greatest : UInt8) (bits : Nat) :
    (count : Nat) → List UInt8 → Except (Reason × Nat) Nat
  | 0, _ => .ok bits
  | _ + 1, [] => .error (.unexpectedEnd, 0)
  | count + 1, byte :: rest =>
      if least ≤ byte && byte ≤ greatest then
        match continued 0x80 0xbf (64 * bits + byte.toNat % 64) count rest with
        | .ok code => .ok code
        | .error (reason, size) => .error (reason, size + 1)
      else .error (.invalidContinuation, 0)

def decodeFrom (position : Nat) : List UInt8 → Except Fault Text
  | [] => .ok []
  | byte :: rest =>
      if byte < 0x80 then
        (decodeFrom (position + 1) rest).map (.char (Char.ofNat byte.toNat) :: ·)
      else
        match lead? byte with
        | none => .error ⟨.invalidStart, byte, position, 1⟩
        | some lead =>
            match continued lead.least lead.greatest lead.bits lead.count rest with
            | .error (reason, size) => .error ⟨reason, byte, position, size + 1⟩
            | .ok code =>
                (decodeFrom (position + 1 + lead.count) (rest.drop lead.count)).map
                  (.char (Char.ofNat code) :: ·)
termination_by bytes => bytes.length

def decode (bytes : List UInt8) : Except Fault Text := decodeFrom 0 bytes

def encodeChar (c : CodePoint) : List UInt8 :=
  let n := c.toNat
  let tail (unit : Nat) : UInt8 := (0x80 + n / unit % 64).toUInt8
  if n < 0x80 then [n.toUInt8]
  else if n < 0x800 then [(0xc0 + n / 0x40).toUInt8, tail 1]
  else if n < 0x10000 then [(0xe0 + n / 0x1000).toUInt8, tail 0x40, tail 1]
  else [(0xf0 + n / 0x40000).toUInt8, tail 0x1000, tail 0x40, tail 1]

def encode (text : Text) : List UInt8 := text.flatMap encodeChar

section Names

/-- Whether a code point stands for a byte of a file's name that is not UTF-8: the
last halves of pairs stand for the bytes from 0x80. -/
def isByte (c : CodePoint) : Bool := 0xdc80 ≤ c.toNat && c.toNat < 0xdd00

/-- Whether no file's name can hold a code point: half a pair that stands for
no byte. -/
def isRefused (c : CodePoint) : Bool := c.isHalf && !isByte c

def encodeNameChar (c : CodePoint) : List UInt8 :=
  if isByte c then [(c.toNat - 0xdc00).toUInt8] else encodeChar c

/-- The bytes of a file's name; no code point of it may be refused. -/
def encodeName (name : Text) : List UInt8 := name.flatMap encodeNameChar

end Names

/-- Why a text cannot be written, in words: the first code point that is refused, and
the halves of pairs right behind it. -/
def unwritableMessage (refuses : CodePoint → Bool) (text : Text) : Text :=
  let first := (text.takeWhile (!refuses ·)).length
  let halves := (text.drop first).takeWhile CodePoint.isHalf
  let place :=
    match halves with
    | [half] =>
        "character '".text ++ Text.escapedByCode half.toNat ++
          "' in position ".text ++ Text.ofNat first
    | _ =>
        "characters in position ".text ++ Text.ofNat first ++ .char '-' ::
          Text.ofNat (first + halves.length - 1)
  "'utf-8' codec can't encode ".text ++ place ++ ": surrogates not allowed".text

def Reason.message : Reason → String
  | .invalidStart => "invalid start byte"
  | .invalidContinuation => "invalid continuation byte"
  | .unexpectedEnd => "unexpected end of data"

def Fault.message (fault : Fault) : Text :=
  let place :=
    if fault.size = 1 then
      "byte 0x".text ++ Text.hexadecimal 2 fault.byte.toNat ++
        " in position ".text ++ Text.ofNat fault.position
    else
      "bytes in position ".text ++ Text.ofNat fault.position ++ .char '-' ::
        Text.ofNat (fault.position + fault.size - 1)
  "'utf-8' codec can't decode ".text ++ place ++ ": ".text ++
    fault.reason.message.text

theorem encodeChar_of_lt {c : CodePoint} (h : c.toNat < 0x80) :
    encodeChar c = [c.toNat.toUInt8] := by
  simp [encodeChar, h]

theorem toNat_toUInt8_of_lt {c : CodePoint} (h : c.toNat < 0x80) :
    c.toNat.toUInt8.toNat = c.toNat := by
  have hmod : c.toNat % 256 = c.toNat := Nat.mod_eq_of_lt (by omega)
  simpa using hmod

end Utf8

namespace Text

/-- A text whose lines all end in a line feed: a carriage return, with the line feed
after it if there is one, becomes a line feed. -/
def unifyLineBreaks : Text → Text
  | [] => []
  | '\r' :: '\n' :: rest => '\n' :: unifyLineBreaks rest
  | '\r' :: rest => '\n' :: unifyLineBreaks rest
  | c :: rest => c :: unifyLineBreaks rest

/-- A text without carriage returns keeps the ends of its lines. -/
theorem unifyLineBreaks_of_not_mem {text : Text} (h : .char '\r' ∉ text) :
    text.unifyLineBreaks = text := by
  fun_induction Text.unifyLineBreaks text with
  | case1 => rfl
  | case2 | case3 => simp at h
  | case4 c rest _ _ ih =>
      rw [ih fun hmem => h (List.mem_cons_of_mem c hmem)]

end Text

end UtteranceTemplate

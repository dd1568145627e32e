import UtteranceTemplate.Files.Tree

/-!
What is read off the files of a tree.

Reading a text takes a file at the end of the path and bytes that are UTF-8
(`FileTree.readText_eq_ok_iff`). A text of ASCII characters comes back from its bytes
(`Utf8.decode_encode_of_isAscii`), and without carriage returns its lines are as they
were (`FileTree.readText_of_isAscii`).
-/

namespace UtteranceTemplate

namespace Utf8

/-- Whether every character of a text is written as one byte. -/
def IsAscii (text : Text) : Prop := ∀ c ∈ text, c.toNat < 0x80

variable {text : Text}

theorem decodeFrom_encode_of_isAscii (h : IsAscii text) (position : Nat) :
    decodeFrom position (encode text) = .ok text := by
  induction text generalizing position with
  | nil => simp [encode, decodeFrom]
  | cons c rest ih =>
      have hc : c.toNat < 0x80 := h c List.mem_cons_self
      have hbyte := toNat_toUInt8_of_lt hc
      have hlt : c.toNat.toUInt8 < 0x80 := by
        rw [UInt8.lt_iff_toNat_lt, hbyte]
        exact hc
      have hrest := ih (fun d hd => h d (List.mem_cons_of_mem c hd)) (position + 1)
      have hencode : encode (c :: rest) = c.toNat.toUInt8 :: encode rest := by
        rw [encode, List.flatMap_cons, encodeChar_of_lt hc]
        rfl
      have hchar := CodePoint.char_ofNat_toNat
        (CodePoint.not_isHalf_of_lt (Nat.lt_trans hc (by decide)))
      rw [hencode, decodeFrom, if_pos hlt, hrest, hbyte, hchar]
      rfl

/-- A text of ASCII characters comes back from its bytes. -/
theorem decode_encode_of_isAscii (h : IsAscii text) :
    decode (encode text) = .ok text :=
  decodeFrom_encode_of_isAscii h 0

end Utf8

namespace FileTree

variable {tree : FileTree} {path : FilePath}

/-- A file with a text of ASCII characters that has no carriage returns is read as
it was written. -/
theorem readText_of_isAscii {text : Text}
    (hlook : tree.look path = .ok (.file (Utf8.encode text)))
    (hascii : Utf8.IsAscii text) (hreturn : .char '\r' ∉ text) :
    tree.readText path = .ok text :=
  readText_eq_ok_iff.mpr ⟨_, text, hlook, Utf8.decode_encode_of_isAscii hascii,
    (Text.unifyLineBreaks_of_not_mem hreturn).symm⟩

end FileTree

end UtteranceTemplate

/-!
Code points: the characters, and the halves of the pairs in which UTF-16 writes
the characters beyond the first 65536. A half is no character, but an escape can
name one alone, and then a text holds it.
-/

namespace UtteranceTemplate

/-- A character, or half of a pair by its distance from the first of them. -/
inductive CodePoint
  | char (c : Char)
  | half (index : Fin 0x800)
  deriving DecidableEq, Repr, Inhabited

namespace CodePoint

instance : Coe Char CodePoint := ⟨.char⟩

def toNat : CodePoint → Nat
  | .char c => c.toNat
  | .half index => 0xd800 + index

def isHalfCode (n : Nat) : Bool := 0xd800 ≤ n && n < 0xe000

def ofNat (n : Nat) : CodePoint :=
  if h : 0xd800 ≤ n ∧ n < 0xe000 then .half ⟨n - 0xd800, by omega⟩
  else .char (Char.ofNat n)

def isHalf : CodePoint → Bool
  | .char _ => false
  | .half _ => true

def isDigit : CodePoint → Bool
  | .char c => c.isDigit
  | .half _ => false

def isAlpha : CodePoint → Bool
  | .char c => c.isAlpha
  | .half _ => false

def isAlphanum : CodePoint → Bool
  | .char c => c.isAlphanum
  | .half _ => false

/-- The lower case of a letter of ASCII. -/
def toLower : CodePoint → CodePoint
  | .char c => .char c.toLower
  | .half index => .half index

instance : LE CodePoint := ⟨fun c d => c.toNat ≤ d.toNat⟩

instance (c d : CodePoint) : Decidable (c ≤ d) :=
  inferInstanceAs (Decidable (c.toNat ≤ d.toNat))

@[simp] theorem char_beq_char (c d : Char) : (char c == char d) = (c == d) := by
  simp [BEq.beq]

@[simp] theorem toNat_char (c : Char) : (char c).toNat = c.toNat := rfl

@[simp] theorem isHalf_char (c : Char) : (char c).isHalf = false := rfl

@[simp] theorem isHalf_half (index : Fin 0x800) : (half index).isHalf = true := rfl

theorem toNat_of_isDigit {c : CodePoint} (h : c.isDigit = true) :
    48 ≤ c.toNat ∧ c.toNat ≤ 57 := by
  cases c with
  | char c =>
      simp only [isDigit, Char.isDigit, Bool.and_eq_true,
        decide_eq_true_eq, ge_iff_le, UInt32.le_iff_toNat_le] at h
      exact h
  | half => cases h

theorem not_isHalfCode_char (c : Char) : isHalfCode c.toNat = false := by
  have hvalid : c.toNat < 0xd800 ∨ 0xdfff < c.toNat ∧ c.toNat < 0x110000 := c.valid
  simp only [isHalfCode, Bool.and_eq_false_iff, decide_eq_false_iff_not]
  omega

/-- The number tells a half. -/
theorem isHalfCode_toNat (c : CodePoint) : isHalfCode c.toNat = c.isHalf := by
  cases c with
  | char c => exact not_isHalfCode_char c
  | half index =>
      have := index.isLt
      exact Bool.and_eq_true_iff.mpr
        ⟨decide_eq_true (Nat.le_add_right _ _),
          decide_eq_true (by simp only [toNat]; omega)⟩

theorem not_isHalf_of_lt {c : CodePoint}
    (h : c.toNat < 0xd800) : c.isHalf = false := by
  rw [← isHalfCode_toNat, isHalfCode, Bool.and_eq_false_iff, decide_eq_false_iff_not]
  exact Or.inl (Nat.not_le.mpr h)

theorem char_ofNat_toNat {c : CodePoint} (h : c.isHalf = false) :
    .char (Char.ofNat c.toNat) = c := by
  cases c with
  | char c => rw [toNat, Char.ofNat_toNat]
  | half => cases h

theorem ofNat_toNat (c : CodePoint) : ofNat c.toNat = c := by
  cases c with
  | char c =>
      have hnone := not_isHalfCode_char c
      simp only [isHalfCode, Bool.and_eq_false_iff, decide_eq_false_iff_not] at hnone
      rw [ofNat, dif_neg (by simp only [toNat]; omega), toNat, Char.ofNat_toNat]
  | half index =>
      have := index.isLt
      rw [ofNat, dif_pos (by simp only [toNat]; omega)]
      simp [toNat]

theorem toNat_inj {c d : CodePoint} : c.toNat = d.toNat ↔ c = d := by
  refine ⟨fun h => ?_, congrArg toNat⟩
  rw [← ofNat_toNat c, h, ofNat_toNat]

theorem toNat_lt (c : CodePoint) : c.toNat < 0x110000 := by
  cases c with
  | char c =>
      have hvalid : c.toNat < 0xd800 ∨ 0xdfff < c.toNat ∧
        c.toNat < 0x110000 := c.valid
      simp only [toNat]
      omega
  | half index =>
      have := index.isLt
      simp only [toNat]
      omega

theorem toNat_ofNat {n : Nat} (h : n < 0x110000) : (ofNat n).toNat = n := by
  unfold ofNat
  split
  · simp only [toNat]
    omega
  · have hvalid : Nat.isValidChar n := by
      unfold Nat.isValidChar
      omega
    rw [toNat, Char.ofNat, dif_pos hvalid]
    rfl

end CodePoint

end UtteranceTemplate

/-- The code points of a string, which holds no halves. -/
def String.text (s : String) : List UtteranceTemplate.CodePoint := s.toList.map .char

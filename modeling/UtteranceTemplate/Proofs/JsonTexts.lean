import Mathlib.Data.List.Chain
import UtteranceTemplate.Json.Encode

/-!
Texts that are written as JSON and read again.

A text between quotes is read back up to its closing quote
(`Json.Token.readFirst_encodeText`). What comes back is the text itself, except that
the two halves of a pair that stand next to each other come back as the character of
the pair (`Json.joined`). It is written in the characters of printable ASCII
(`Json.isPlain_encodeText`).
-/

namespace UtteranceTemplate

namespace Json

section Hexadecimal

theorem hexDigit?_digitChar : ∀ n < 16,
    Token.hexDigit? n.digitChar = some n := by decide

/-- Hexadecimal digits are read as the number that they were written for. -/
theorem hexNumber?_hexadecimal {width n : Nat} (h : n < Nat.pow 16 width) :
    Token.hexNumber? (Text.hexadecimal width n) = some n := by
  induction width generalizing n with
  | zero =>
      obtain rfl : n = 0 := Nat.lt_one_iff.mp h
      rfl
  | succ width ih =>
      have hrest : n / 16 < Nat.pow 16 width := by
        have hpow : Nat.pow 16 (width + 1) = Nat.pow 16 width * 16 := rfl
        omega
      have hdigit := hexDigit?_digitChar (n % 16) (Nat.mod_lt n (by decide))
      have hparts : 16 * (n / 16) + n % 16 = n := Nat.div_add_mod n 16
      have hread := ih hrest
      unfold Token.hexNumber? at hread ⊢
      rw [Text.hexadecimal, List.foldl_append, hread]
      simp [hdigit, hparts]

/-- The digits of a UTF-16 unit, one by one. -/
theorem exists_hexadecimal_four {n : Nat} (h : n < 0x10000) :
    ∃ a b c d, Text.hexadecimal 4 n = [a, b, c, d] ∧
      Token.hexNumber? [a, b, c, d] = some n :=
  ⟨_, _, _, _, rfl,
    (hexNumber?_hexadecimal h : Token.hexNumber? (Text.hexadecimal 4 n) = some n)⟩

end Hexadecimal

/-- The character of a pair of halves that follow each other, if they are one. -/
def pairOf? (c d : CodePoint) : Option CodePoint :=
  if Token.isHighUnit c.toNat && Token.isLowUnit d.toNat then
    some (Token.ofPair c.toNat d.toNat)
  else none

/-- A text with the character of a pair in place of its two halves wherever they
follow each other. -/
def joined : Text → Text
  | [] => []
  | [c] => [c]
  | c :: d :: rest =>
      match pairOf? c d with
      | some pair => pair :: joined rest
      | none => c :: joined (d :: rest)

/-- Whether no first half of a pair stands right in front of a second one. -/
def IsUnpaired (t : Text) : Prop := t.IsChain fun c d => pairOf? c d = none

section Unpaired

variable {c d : CodePoint} {left right sep : Text} {parts : List Text}

theorem pairOf?_of_left (h : c.isHalf = false) (d : CodePoint) :
    pairOf? c d = none := by
  rw [pairOf?, Token.isHighUnit_eq_false h, Bool.false_and,
    if_neg Bool.false_ne_true]

theorem pairOf?_of_right (c : CodePoint) (h : d.isHalf = false) :
    pairOf? c d = none := by
  rw [pairOf?, Token.isLowUnit_eq_false h, Bool.and_false, if_neg Bool.false_ne_true]

theorem IsUnpaired.cons (h : IsUnpaired right) (hc : c.isHalf = false) :
    IsUnpaired (c :: right) :=
  List.IsChain.cons h fun d _ => pairOf?_of_left hc d

/-- No pair arises where the text behind begins with no half. -/
theorem IsUnpaired.append (hleft : IsUnpaired left) (hright : IsUnpaired right)
    (hhead : ∀ d ∈ right.head?, d.isHalf = false) : IsUnpaired (left ++ right) :=
  List.IsChain.append hleft hright fun c _ d hd => pairOf?_of_right c (hhead d hd)

theorem IsUnpaired.of_append_left (h : IsUnpaired (left ++ right)) :
    IsUnpaired left :=
  List.IsChain.left_of_append h

theorem IsUnpaired.of_append_right (h : IsUnpaired (left ++ right)) :
    IsUnpaired right :=
  List.IsChain.right_of_append h

/-- A separator that is no half keeps the parts apart. -/
theorem isUnpaired_joinWith (hc : c.isHalf = false)
    (h : ∀ part ∈ parts, IsUnpaired part) :
    IsUnpaired (joinWith [c] parts) := by
  fun_induction joinWith [c] parts with
  | case1 => exact List.isChain_nil
  | case2 part => exact h part List.mem_cons_self
  | case3 part next rest ih =>
      obtain ⟨hpart, hrest⟩ := List.forall_mem_cons.mp h
      rw [List.append_assoc]
      exact hpart.append ((ih hrest).cons hc) fun d hd => Option.some.inj hd ▸ hc

theorem isUnpaired_of_mem_joinWith (h : IsUnpaired (joinWith sep parts))
    {part : Text} (hpart : part ∈ parts) : IsUnpaired part := by
  fun_induction joinWith sep parts with
  | case1 => cases hpart
  | case2 only => exact List.mem_singleton.mp hpart ▸ h
  | case3 first next rest ih =>
      rcases List.mem_cons.mp hpart with rfl | hrest
      · exact h.of_append_left.of_append_left
      · exact ih h.of_append_right hrest

/-- A text without halves holds no pair. -/
theorem isUnpaired_of_forall {t : Text} (h : ∀ c ∈ t, c.isHalf = false) :
    IsUnpaired t := by
  induction t with
  | nil => exact List.isChain_nil
  | cons c rest ih =>
      obtain ⟨hc, hrest⟩ := List.forall_mem_cons.mp h
      exact (ih hrest).cons hc

end Unpaired

theorem length_joined_le (t : Text) : (joined t).length ≤ t.length := by
  fun_induction joined t with
  | case1 | case2 => exact Nat.le_refl _
  | case3 c d rest pair _ ih =>
      simp only [List.length_cons]
      omega
  | case4 c d rest _ ih => exact Nat.succ_le_succ ih

/-- A text stays as it is exactly if it holds no pair: a pair makes it shorter. -/
theorem joined_eq_self_iff {t : Text} : joined t = t ↔ IsUnpaired t := by
  fun_induction joined t with
  | case1 => exact iff_of_true rfl List.isChain_nil
  | case2 c => exact iff_of_true rfl (List.isChain_singleton c)
  | case3 c d rest pair hpair =>
      refine iff_of_false (fun heq => ?_) fun hchain => ?_
      · have hlength := congrArg List.length heq
        have hle := length_joined_le rest
        simp only [List.length_cons] at hlength
        omega
      · have hnone := (List.isChain_cons_cons.mp hchain).1
        rw [hpair] at hnone
        cases hnone
  | case4 c d rest hnone ih =>
      rw [List.cons_inj_right, ih, IsUnpaired, IsUnpaired, List.isChain_cons_cons]
      exact (and_iff_right hnone).symm

theorem joined_eq_self {t : Text} (h : ∀ c ∈ t, c.isHalf = false) : joined t = t :=
  joined_eq_self_iff.mpr (isUnpaired_of_forall h)

namespace Token

variable {start position : Nat} {tail : Text}

/-- A unit is read as its character unless the second half of a pair follows. -/
theorem readText_escapedUnit {n : Nat} (hn : n < 0x10000) (htail : tail ≠ [])
    (hlow : lowHalf? n (position + 6) tail = .ok none) :
    readText start position (escapedUnit n ++ tail) =
      consRead (.ofNat n) (readText start (position + 6) tail) := by
  obtain ⟨a, b, c, d, hdigits, hnumber⟩ := exists_hexadecimal_four hn
  cases tail with
  | nil => exact absurd rfl htail
  | cons next tail =>
      rw [escapedUnit, hdigits]
      show readText start position
        ('\\' :: 'u' :: a :: b :: c :: d :: next :: tail) = _
      rw [readText]
      simp only [hnumber, hlow]

/-- The two halves of a pair are read as its character. -/
theorem readText_escapedPair {high low : Nat} (hhigh : isHighUnit high = true)
    (hlow : isLowUnit low = true) (htail : tail ≠ []) :
    readText start position (escapedUnit high ++ escapedUnit low ++ tail) =
      consRead (ofPair high low) (readText start (position + 12) tail) := by
  have hhigh' : high < 0x10000 := by
    simp only [isHighUnit, Bool.and_eq_true, decide_eq_true_eq] at hhigh
    omega
  have hlow' : low < 0x10000 := by
    simp only [isLowUnit, Bool.and_eq_true, decide_eq_true_eq] at hlow
    omega
  obtain ⟨a, b, c, d, hdigits, hnumber⟩ := exists_hexadecimal_four hhigh'
  obtain ⟨a', b', c', d', hdigits', hnumber'⟩ := exists_hexadecimal_four hlow'
  cases tail with
  | nil => exact absurd rfl htail
  | cons next tail =>
      rw [escapedUnit, escapedUnit, hdigits, hdigits']
      show readText start position
        ('\\' :: 'u' :: a :: b :: c :: d :: '\\' :: 'u' :: a' :: b' :: c' ::
        d' :: next :: tail) = _
      rw [readText]
      simp [hnumber, hnumber', lowHalf?, hhigh, hlow]

end Token

/-- How a character stands inside quotes. -/
inductive IsEncoded (c : CodePoint) : Text → Prop
  /-- As a letter behind a backslash. -/
  | escape {letter : CodePoint} (hletter : letter ≠ 'u')
      (hescape : Token.escape? letter = some c) :
      IsEncoded c ['\\', letter]
  /-- As it is. -/
  | plain (hlow : 0x20 ≤ c.toNat) (hhigh : c.toNat ≤ 0x7e) (hquote : c ≠ '"')
      (hslash : c ≠ '\\') :
      IsEncoded c [c]
  /-- As one unit. -/
  | unit (hn : c.toNat < 0x10000) : IsEncoded c (escapedUnit c.toNat)
  /-- As a pair. -/
  | pair {high low : Nat} (hhigh : Token.isHighUnit high = true)
      (hlow : Token.isLowUnit low = true)
      (hchar : Token.ofPair high low = c) :
        IsEncoded c (escapedUnit high ++ escapedUnit low)

theorem ofPair_of_le {c : CodePoint} (h : 0x10000 ≤ c.toNat) :
    Token.isHighUnit (0xd800 + (c.toNat - 0x10000) / 0x400) = true ∧
      Token.isLowUnit (0xdc00 + (c.toNat - 0x10000) % 0x400) = true ∧
      Token.ofPair (0xd800 + (c.toNat - 0x10000) / 0x400)
        (0xdc00 + (c.toNat - 0x10000) % 0x400) = c := by
  have hlast := c.toNat_lt
  have hhalf : c.isHalf = false := by
    rw [← CodePoint.isHalfCode_toNat, CodePoint.isHalfCode, Bool.and_eq_false_iff,
      decide_eq_false_iff_not, decide_eq_false_iff_not]
    omega
  have hcode : 0x10000 + (0xd800 + (c.toNat - 0x10000) / 0x400 - 0xd800) * 0x400 +
      (0xdc00 + (c.toNat - 0x10000) % 0x400 - 0xdc00) = c.toNat := by omega
  refine ⟨?_, ?_, by rw [Token.ofPair, hcode, CodePoint.char_ofNat_toNat hhalf]⟩
  · simp only [Token.isHighUnit, Bool.and_eq_true, decide_eq_true_eq]
    omega
  · simp only [Token.isLowUnit, Bool.and_eq_true, decide_eq_true_eq]
    omega

/-- The characters that are written as a letter behind a backslash. -/
def marked : List CodePoint := [.char '"', .char '\\', .char '\n', .char '\r',
    .char '\t', .char '\x0c', .char '\x08']

/-- How a character is written that is not written as a letter behind a backslash. -/
theorem encodeChar_of_not_mem {c : CodePoint} (h : c ∉ marked) :
    encodeChar c =
      if 0x20 ≤ c.toNat ∧ c.toNat ≤ 0x7e then [c]
      else if c.toNat < 0x10000 then escapedUnit c.toNat
      else
        escapedUnit (0xd800 + (c.toNat - 0x10000) / 0x400) ++
          escapedUnit (0xdc00 + (c.toNat - 0x10000) % 0x400) := by
  simp only [marked, List.mem_cons, List.not_mem_nil, or_false, not_or] at h
  obtain ⟨hquote, hslash, hfeed, hreturn, htab, hpage, hback⟩ := h
  have hpage' : c.toNat ≠ 0x0c := fun hn => hpage (CodePoint.toNat_inj.mp hn)
  have hback' : c.toNat ≠ 0x08 := fun hn => hback (CodePoint.toNat_inj.mp hn)
  have hspecial : ¬ ((decide (c = '"') || decide (c = '\\')) = true) := by
    simp [hquote, hslash]
  rw [encodeChar]
  simp only [if_neg hspecial, if_neg hfeed, if_neg hreturn, if_neg htab,
    if_neg hpage', if_neg hback']
  exact ite_congr (by simp) (fun _ => rfl) fun _ => rfl

theorem isEncoded_encodeChar (c : CodePoint) : IsEncoded c (encodeChar c) := by
  by_cases hmarked : c ∈ marked
  · simp only [marked, List.mem_cons, List.not_mem_nil, or_false] at hmarked
    rcases hmarked with rfl | rfl | rfl | rfl | rfl | rfl | rfl
    all_goals exact .escape (by decide) rfl
  rw [encodeChar_of_not_mem hmarked]
  split
  case isTrue hplain =>
    apply IsEncoded.plain hplain.1 hplain.2
    · rintro rfl
      exact hmarked (by decide)
    · rintro rfl
      exact hmarked (by decide)
  split
  case isTrue hn => exact .unit hn
  case isFalse hn =>
    obtain ⟨hhigh, hlow, hchar⟩ := ofPair_of_le (Nat.not_lt.mp hn)
    exact .pair hhigh hlow hchar

theorem encodeChar_of_isHalf {c : CodePoint} (h : c.isHalf = true) :
    encodeChar c = escapedUnit c.toNat := by
  rw [← CodePoint.isHalfCode_toNat, CodePoint.isHalfCode, Bool.and_eq_true,
    decide_eq_true_eq, decide_eq_true_eq] at h
  have hmarked : c ∉ marked := by
    intro hmem
    have hsmall : ∀ d ∈ marked, d.toNat < 0x80 := by decide
    have hc := hsmall c hmem
    omega
  rw [encodeChar_of_not_mem hmarked, if_neg (by omega), if_pos (by omega)]

section Plain

/-- Whether a character is printable ASCII or a line feed. -/
def IsPlainChar (c : CodePoint) : Prop := c = '\n' ∨ 0x20 ≤ c.toNat ∧ c.toNat ≤ 0x7e

instance : DecidablePred IsPlainChar :=
  fun c => inferInstanceAs (Decidable (c = '\n' ∨ _))

/-- Whether a text is made of printable ASCII and line feeds. -/
def IsPlain (text : Text) : Prop := ∀ c ∈ text, IsPlainChar c

instance (text : Text) : Decidable (IsPlain text) :=
  decidable_of_iff (text.all (fun c => decide (IsPlainChar c)) = true)
    (by simp [IsPlain])

theorem IsPlain.append {left right : Text} (hleft : IsPlain left)
    (hright : IsPlain right) :
    IsPlain (left ++ right) :=
  List.forall_mem_append.mpr ⟨hleft, hright⟩

theorem IsPlain.cons {c : CodePoint} {rest : Text} (hc : IsPlainChar c)
    (hrest : IsPlain rest) :
    IsPlain (c :: rest) :=
  List.forall_mem_cons.mpr ⟨hc, hrest⟩

theorem isPlain_nil : IsPlain [] := List.forall_mem_nil _

theorem isPlainChar_digitChar : ∀ n < 16, IsPlainChar n.digitChar := by decide

theorem isPlain_hexadecimal
    (width n : Nat) : IsPlain (Text.hexadecimal width n) := by
  induction width generalizing n with
  | zero => exact isPlain_nil
  | succ width ih =>
      have hdigit := isPlainChar_digitChar (n % 16) (Nat.mod_lt n (by decide))
      exact (ih (n / 16)).append (.cons hdigit isPlain_nil)

theorem isPlain_escapedUnit (n : Nat) : IsPlain (escapedUnit n) :=
  .cons (by decide) (.cons (by decide) (isPlain_hexadecimal 4 n))

theorem isPlainChar_of_escape? {letter c : CodePoint}
    (h : Token.escape? letter = some c) :
    IsPlainChar letter := by
  unfold Token.escape? at h
  split at h <;> first | decide | cases h

theorem isPlain_encodeChar (c : CodePoint) : IsPlain (encodeChar c) := by
  have hencoded := isEncoded_encodeChar c
  generalize encodeChar c = written at hencoded ⊢
  cases hencoded with
  | escape _ hescape =>
      exact .cons (by decide) (.cons (isPlainChar_of_escape? hescape) isPlain_nil)
  | plain hlow hhigh => exact .cons (.inr ⟨hlow, hhigh⟩) isPlain_nil
  | unit => exact isPlain_escapedUnit _
  | pair => exact (isPlain_escapedUnit _).append (isPlain_escapedUnit _)

theorem isPlain_encodeText (t : Text) : IsPlain (encodeText t) := by
  have hinside : IsPlain (t.flatMap encodeChar) := by
    intro c hc
    obtain ⟨d, _, hmem⟩ := List.mem_flatMap.mp hc
    exact isPlain_encodeChar d c hmem
  exact .append (.cons (by decide) hinside) (.cons (by decide) isPlain_nil)

end Plain

namespace Token

variable {start position unit : Nat} {tail rest : Text}

/-- What is written for a unit is looked at only behind the first half of a pair. -/
theorem lowHalf?_escapedUnit {n : Nat} (hn : n < 0x10000) (htail : tail ≠ [])
    (hlow : isLowUnit n = false) :
    lowHalf? unit position (escapedUnit n ++ tail) = .ok none := by
  obtain ⟨a, b, c, d, hdigits, hnumber⟩ := exists_hexadecimal_four hn
  cases tail with
  | nil => exact absurd rfl htail
  | cons next tail =>
      rw [escapedUnit, hdigits]
      show lowHalf? unit position
        ('\\' :: 'u' :: a :: b :: c :: d :: next :: tail) = _
      simp [lowHalf?, hnumber, hlow]

/-- No second half of a pair is read off what is written for something else. -/
theorem lowHalf?_encodeChar {c : CodePoint} (htail : tail ≠ [])
    (hc : isLowUnit c.toNat = false) :
    lowHalf? unit position (encodeChar c ++ tail) = .ok none := by
  have hencoded := isEncoded_encodeChar c
  generalize encodeChar c = written at hencoded ⊢
  cases hencoded with
  | escape | plain =>
      unfold lowHalf?
      split
      · simp_all
      · rfl
  | unit hn => exact lowHalf?_escapedUnit hn htail hc
  | @pair high low hhigh =>
      rw [List.append_assoc]
      exact lowHalf?_escapedUnit (lt_of_isHighUnit hhigh) (by simp [escapedUnit])
        (isLowUnit_eq_false_of_isHighUnit hhigh)

/-- A code point inside quotes is read as it is unless it is the first half of a pair
and the second one follows. -/
theorem readText_encodeChar (start position : Nat) (c : CodePoint)
    (htail : tail ≠ [])
    (hlow : ∀ position, isHighUnit c.toNat = true →
      lowHalf? c.toNat position tail = .ok none) :
    ∃ position', readText start position (encodeChar c ++ tail) =
      consRead c (readText start position' tail) := by
  have hencoded := isEncoded_encodeChar c
  generalize encodeChar c = written at hencoded ⊢
  cases hencoded with
  | escape hletter hescape => exact ⟨_, readText_escape hletter hescape⟩
  | plain hsmall _ hquote hslash => exact ⟨_, readText_plain hquote hslash hsmall⟩
  | unit hn =>
      have hnone : lowHalf? c.toNat (position + 6) tail = .ok none := by
        cases hhigh : isHighUnit c.toNat with
        | false => exact lowHalf?_of_not_isHighUnit hhigh
        | true => exact hlow _ hhigh
      exact ⟨_, by rw [readText_escapedUnit hn htail hnone, CodePoint.ofNat_toNat]⟩
  | pair hhigh hlow hchar => exact ⟨_, hchar ▸ readText_escapedPair hhigh hlow htail⟩

theorem exists_of_pairOf? {c d pair : CodePoint} (h : pairOf? c d = some pair) :
    encodeChar c = escapedUnit c.toNat ∧ encodeChar d = escapedUnit d.toNat ∧
      isHighUnit c.toNat = true ∧ isLowUnit d.toNat = true ∧
        pair = ofPair c.toNat d.toNat := by
  unfold pairOf? at h
  split at h
  · rename_i hunits
    obtain ⟨hhigh, hlow⟩ := Bool.and_eq_true_iff.mp hunits
    exact ⟨encodeChar_of_isHalf (isHalf_of_isHighUnit hhigh),
      encodeChar_of_isHalf (isHalf_of_isLowUnit hlow), hhigh, hlow,
        (Option.some.inj h).symm⟩
  · cases h

/-- A first half of a pair is not completed by the next code point if the two are no
pair. -/
theorem isLowUnit_of_pairOf?_eq_none {c d : CodePoint} (h : pairOf? c d = none)
    (hhigh : isHighUnit c.toNat = true) : isLowUnit d.toNat = false := by
  simpa [pairOf?, hhigh] using h

/-- A text between quotes is read up to its closing quote. -/
theorem readText_flatMap_encodeChar (t : Text) :
    readText start position (t.flatMap encodeChar ++ .char '"' :: rest) =
      .ok (joined t, rest) := by
  fun_induction joined t generalizing position with
  | case1 => exact readText_quote
  | case2 c =>
      have hne : .char '"' :: rest ≠ [] := List.cons_ne_nil _ _
      obtain ⟨position', hread⟩ :=
        readText_encodeChar start position c hne fun _ _ => rfl
      have hcons : [c].flatMap encodeChar ++ .char '"' :: rest =
        encodeChar c ++ .char '"' :: rest := by simp
      rw [hcons, hread, readText_quote]
      rfl
  | case3 c d t pair hpair ih =>
      obtain ⟨hc, hd, hhigh, hlow, hchar⟩ := exists_of_pairOf? hpair
      have hcons : (c :: d :: t).flatMap encodeChar ++ .char '"' :: rest =
          escapedUnit c.toNat ++ escapedUnit d.toNat ++
            (t.flatMap encodeChar ++ .char '"' :: rest) := by
        simp [hc, hd]
      rw [hcons, readText_escapedPair hhigh hlow (by simp), ih, hchar]
      rfl
  | case4 c d t hpair ih =>
      have hcons : (c :: d :: t).flatMap encodeChar ++ .char '"' :: rest =
          encodeChar c ++ ((d :: t).flatMap encodeChar ++ .char '"' :: rest) := by
        simp
      have hnext : (d :: t).flatMap encodeChar ++ .char '"' :: rest =
          encodeChar d ++ (t.flatMap encodeChar ++ .char '"' :: rest) := by simp
      have hne : (d :: t).flatMap encodeChar ++ .char '"' :: rest ≠ [] := by simp
      obtain ⟨position', hread⟩ :=
        readText_encodeChar start position c hne fun _ hhigh => by
          rw [hnext]
          exact lowHalf?_encodeChar (by simp)
            (isLowUnit_of_pairOf?_eq_none hpair hhigh)
      rw [hcons, hread, ih]
      rfl

/-- A written text is read as one token. -/
theorem readFirst_encodeText (t : Text) :
    readFirst position (encodeText t ++ rest) = (.quoted (joined t), rest) := by
  have hcons : encodeText t ++ rest =
      .char '"' :: (t.flatMap encodeChar ++ .char '"' :: rest) := by
    simp [encodeText]
  rw [hcons, readFirst, readText_flatMap_encodeChar]

end Token

end Json

end UtteranceTemplate

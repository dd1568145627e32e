import UtteranceTemplate.Text.CodePoint

/-!
Texts as lists of code points, and the operations on them that depend on no class of
characters: joining, cutting at a separator, and decimal digits.

Joining the pieces of a cut gives the text back (`joinWith_cutAt`).
-/

namespace UtteranceTemplate

/-- A text is the list of its characters, so positions count code points. -/
abbrev Text := List CodePoint

/-- The lists one after the other, with `sep` between neighbours. -/
def joinWith {α : Type} (sep : List α) : List (List α) → List α
  | [] => []
  | [part] => part
  | part :: next :: rest => part ++ sep ++ joinWith sep (next :: rest)

theorem mem_joinWith {α : Type} {sep : List α} {parts : List (List α)} {x : α}
    (h : x ∈ joinWith sep parts) : x ∈ sep ∨ ∃ part ∈ parts, x ∈ part := by
  induction parts with
  | nil => simp [joinWith] at h
  | cons part parts ih =>
      cases parts with
      | nil => exact Or.inr ⟨part, by simp, by simpa [joinWith] using h⟩
      | cons next rest =>
          simp only [joinWith, List.mem_append] at h
          rcases h with (h | h) | h
          · exact Or.inr ⟨part, by simp, h⟩
          · exact Or.inl h
          · rcases ih h with h | ⟨other, hother, h⟩
            · exact Or.inl h
            · exact Or.inr ⟨other, List.mem_cons_of_mem _ hother, h⟩

theorem joinWith_ne_nil {words : List Text} (hne : words ≠ [])
    (hwords : ∀ word ∈ words, word ≠ []) :
    joinWith [.char ' '] words ≠ [] := by
  intro hnil
  cases words with
  | nil => exact hne rfl
  | cons word words =>
      apply hwords word List.mem_cons_self
      cases words with
      | nil => exact hnil
      | cons next words =>
          simp only [joinWith, List.append_eq_nil_iff] at hnil
          exact hnil.1.1

namespace Text

def ofNat (n : Nat) : Text := (Nat.toDigits 10 n).map .char

theorem isDigit_of_mem_ofNat {n : Nat} {c : CodePoint} (h : c ∈ ofNat n) :
    c.isDigit = true := by
  obtain ⟨digit, hdigit, rfl⟩ := List.mem_map.mp h
  exact Nat.isDigit_of_mem_toDigits (by decide) (by decide) hdigit

theorem ofNat_ne_nil (n : Nat) : ofNat n ≠ [] := by
  simp [ofNat]

/-- Only zero is written with a zero in front. -/
theorem head?_ofNat_ne {n : Nat}
    (h : n ≠ 0) : (ofNat n).head? ≠ some (.char '0') := by
  induction n using Nat.strongRecOn with
  | ind n ih =>
      by_cases hlt : n < 10
      · have hdigit : ∀ k < 10, k ≠ 0 → Nat.digitChar k ≠ '0' := by decide
        rw [ofNat, Nat.toDigits_of_lt_base hlt]
        simpa using hdigit n hlt h
      · have hrest := ih (n / 10) (by omega) (by omega)
        obtain ⟨c, tail, hcons⟩ := List.exists_cons_of_ne_nil (ofNat_ne_nil (n / 10))
        rw [hcons] at hrest
        rw [ofNat, Nat.toDigits_of_base_le (by decide) (by omega), List.map_append,
          ← ofNat, hcons]
        exact hrest

/-- The decimal digits of an integer, behind a minus sign if it is negative. -/
def ofInt : Int → Text
  | .ofNat n => ofNat n
  | .negSucc n => '-' :: ofNat (n + 1)

/-- The part of `text` in front of its ending `rest`. -/
def upTo (text rest : Text) : Text := text.take (text.length - rest.length)

/-- Whether a text comes before another one, or is the same: their first different
characters decide, by their codes. -/
def comesUpTo : Text → Text → Bool
  | [], _ => true
  | _ :: _, [] => false
  | c :: left, d :: right => c.toNat < d.toNat || (c == d && comesUpTo left right)

def consFirst (c : CodePoint) : List Text → List Text
  | [] => [[c]]
  | part :: rest => (c :: part) :: rest

/-- The pieces of a text between the occurrences of `sep`; there is always at
least one. -/
def cutAt (sep : CodePoint) : Text → List Text
  | [] => [[]]
  | c :: rest =>
      if c = sep then [] :: cutAt sep rest else consFirst c (cutAt sep rest)

theorem cutAt_ne_nil (sep : CodePoint) (text : Text) : cutAt sep text ≠ [] := by
  cases text with
  | nil => simp [cutAt]
  | cons c rest =>
      simp only [cutAt]
      split
      · simp
      · cases cutAt sep rest <;> simp [consFirst]

theorem joinWith_consFirst (sep : Text) (c : CodePoint) (parts : List Text)
    (h : parts ≠ []) :
    joinWith sep (consFirst c parts) = c :: joinWith sep parts := by
  match parts, h with
  | [part], _ => rfl
  | part :: next :: rest, _ => simp [consFirst, joinWith]

/-- Cutting loses nothing: the pieces joined by the separator are the text. -/
theorem joinWith_cutAt (sep : CodePoint) (text : Text) :
    joinWith [sep] (cutAt sep text) = text := by
  induction text with
  | nil => rfl
  | cons c rest ih =>
      simp only [cutAt]
      split
      · rename_i h
        subst h
        match hc : cutAt c rest, cutAt_ne_nil c rest with
        | part :: parts, _ => rw [hc] at ih; simp [joinWith, ih]
      · rw [joinWith_consFirst _ _ _ (cutAt_ne_nil sep rest), ih]

/-- A part whose characters all pass a test is taken as far as the next
character fails it. -/
theorem takeWhile_append_of_head? {p : CodePoint → Bool} {front rest : Text}
    (hfront : ∀ c ∈ front, p c = true)
    (hrest : ∀ c, rest.head? = some c → p c = false) :
    (front ++ rest).takeWhile p = front ∧ (front ++ rest).dropWhile p = rest := by
  rw [List.takeWhile_append_of_pos hfront, List.dropWhile_append_of_pos hfront]
  cases rest with
  | nil => simp
  | cons c rest => simp [hrest c rfl]

theorem flatten_consFirst (c : CodePoint) (parts : List Text) :
    (consFirst c parts).flatten = c :: parts.flatten := by
  cases parts <;> simp [consFirst]

theorem filter_joinWith {α : Type} (p : α → Bool) {sep : List α}
    (hsep : sep.filter p = []) (parts : List (List α)) :
    (joinWith sep parts).filter p = parts.flatten.filter p := by
  induction parts with
  | nil => rfl
  | cons part parts ih =>
      cases parts with
      | nil => simp [joinWith]
      | cons next rest => simp [joinWith, ih, hsep]

theorem space_cons_joinWith (words : List Text) (hne : words ≠ []) :
    .char ' ' :: joinWith [.char ' '] words = words.flatMap fun word =>
      .char ' ' :: word := by
  induction words with
  | nil => exact absurd rfl hne
  | cons word words ih =>
      cases words with
      | nil => simp [joinWith]
      | cons next rest =>
          have hrest := ih (by simp)
          rw [List.flatMap_cons, ← hrest]
          simp [joinWith]

theorem consFirst_append {c : CodePoint} {front back : List Text}
    (hne : front ≠ []) :
    consFirst c (front ++ back) = consFirst c front ++ back := by
  cases front with
  | nil => exact absurd rfl hne
  | cons part front => rfl

theorem joinWith_append {sep : Text} {front back : List Text} (hfront : front ≠ [])
    (hback : back ≠ []) :
    joinWith sep (front ++ back) =
      joinWith sep front ++ sep ++ joinWith sep back := by
  induction front with
  | nil => exact absurd rfl hfront
  | cons part front ih =>
      cases front with
      | nil =>
          cases back with
          | nil => exact absurd rfl hback
          | cons next back => rfl
      | cons next front =>
          have hrest := ih (by simp)
          simp only [List.cons_append, joinWith] at hrest ⊢
          rw [hrest]
          simp

theorem cutAt_of_not_mem {sep : CodePoint} {text : Text} (h : sep ∉ text) :
    cutAt sep text = [text] := by
  induction text with
  | nil => rfl
  | cons c text ih =>
      simp only [List.mem_cons, not_or] at h
      rw [cutAt, if_neg (Ne.symm h.1), ih h.2, consFirst]

/-- The last piece of a text and the first piece of the text behind it make
one piece. -/
theorem cutAt_append {sep : CodePoint} {front back last first : Text}
    {before after : List Text} (hfront : cutAt sep front = before ++ [last])
    (hback : cutAt sep back = first :: after) :
    cutAt sep (front ++ back) = before ++ (last ++ first) :: after := by
  induction front generalizing before last with
  | nil =>
      obtain ⟨rfl, hlast⟩ :=
        List.append_inj' (show [] ++ [[]] = before ++ [last] from hfront) rfl
      obtain rfl := List.singleton_inj.mp hlast
      exact hback
  | cons c front ih =>
      obtain hnil | ⟨earlier, piece, hpieces⟩ :=
        List.eq_nil_or_concat (cutAt sep front)
      · exact absurd hnil (cutAt_ne_nil sep front)
      · rw [List.concat_eq_append] at hpieces
        have hrest := ih hpieces
        rw [List.cons_append, cutAt, hrest]
        rw [cutAt, hpieces] at hfront
        by_cases hc : c = sep
        · rw [if_pos hc] at hfront ⊢
          obtain ⟨rfl, hlast⟩ :=
            List.append_inj' (show ([] :: earlier) ++ [piece] = before ++ [last]
              from hfront) rfl
          obtain rfl := List.singleton_inj.mp hlast
          rfl
        · rw [if_neg hc] at hfront ⊢
          cases earlier with
          | nil =>
              obtain ⟨rfl, hlast⟩ :=
                List.append_inj' (show [] ++ [c :: piece] = before ++ [last]
                  from hfront) rfl
              obtain rfl := List.singleton_inj.mp hlast
              rfl
          | cons part earlier =>
              obtain ⟨rfl, hlast⟩ :=
                List.append_inj' (show ((c :: part) :: earlier) ++ [piece] =
                  before ++ [last] from hfront) rfl
              obtain rfl := List.singleton_inj.mp hlast
              rfl

@[simp] theorem upTo_append (piece rest : Text) :
    (piece ++ rest).upTo rest = piece := by
  simp [upTo]

theorem append_cons_inj_of_not_mem {c : CodePoint} {front back front' back' : Text}
    (hfront : c ∉ front) (hfront' : c ∉ front')
    (h : front ++ c :: back = front' ++ c :: back') :
    front = front' ∧ back = back' := by
  have hsplit : ∀ {left right : Text}, c ∉ left →
      (left ++ c :: right).takeWhile (· != c) = left ∧
        (left ++ c :: right).dropWhile (· != c) = c :: right := by
    intro left right hleft
    apply takeWhile_append_of_head?
    · intro d hd
      simpa using fun heq : d = c => hleft (heq ▸ hd)
    · intro d hd
      rw [← Option.some.inj hd]
      exact bne_self_eq_false c
  obtain ⟨htake, hdrop⟩ := @hsplit front back hfront
  obtain ⟨htake', hdrop'⟩ := @hsplit front' back' hfront'
  rw [h, htake'] at htake
  rw [h, hdrop'] at hdrop
  exact ⟨htake.symm, (List.cons.inj hdrop).2.symm⟩

end Text

end UtteranceTemplate

import Mathlib.Data.List.Infix
import Mathlib.Data.List.TakeWhile
import UtteranceTemplate.Json.Decode
import UtteranceTemplate.Proofs.Outcomes

/-!
Where the numbers of a JSON text come from.

What is left behind a token is an ending of the text (`Json.Token.readFirst_suffix`),
so every token of a text is read off a part of it. Reading gives the fault of a whole
number that is too long only for a token that is one
(`Json.Decoder.exists_of_run_eq_longInteger`), and then the digits stand in the text
(`Json.holdsLongInteger_of_decode`).
-/

namespace UtteranceTemplate

namespace Json

namespace Token

theorem exists_of_consRead_eq_ok {c : CodePoint}
    {outcome : Except Fault (Text × Text)} {t rest : Text}
    (h : consRead c outcome = .ok (t, rest)) : ∃ t', outcome = .ok (t', rest) := by
  obtain ⟨⟨t', rest'⟩, hfound, heq⟩ := map_eq_ok_iff.mp h
  cases heq
  exact ⟨t', hfound⟩

theorem consRead_eq_error_iff {c : CodePoint} {outcome : Except Fault (Text × Text)}
    {fault : Fault} :
    consRead c outcome = .error fault ↔ outcome = .error fault :=
  map_eq_error_iff

/-- What is left behind a text is an ending. -/
theorem readText_suffix {start position : Nat} {input t rest : Text}
    (h : readText start position input = .ok (t, rest)) : rest <:+ input := by
  fun_induction readText start position input generalizing t rest with
  | case1 | case3 | case4 | case5 | case8 | case9 | case11 => cases h
  | case2 position input =>
      cases h
      exact List.suffix_cons _ _
  | case6 position a b c d next input unit _ low _ ih =>
      -- a pair takes the next five characters as well
      obtain ⟨t', ht'⟩ := exists_of_consRead_eq_ok h
      exact (ih ht').trans ((List.drop_suffix 5 input).trans
        ⟨['\\', 'u', a, b, c, d, next], rfl⟩)
  | case7 position a b c d next input unit _ _ ih =>
      obtain ⟨t', ht'⟩ := exists_of_consRead_eq_ok h
      exact (ih ht').trans ⟨['\\', 'u', a, b, c, d], rfl⟩
  | case10 position c input _ _ plain _ ih =>
      obtain ⟨t', ht'⟩ := exists_of_consRead_eq_ok h
      exact (ih ht').trans ⟨['\\', c], rfl⟩
  | case12 position c input _ _ _ _ _ _ ih =>
      obtain ⟨t', ht'⟩ := exists_of_consRead_eq_ok h
      exact (ih ht').trans (List.suffix_cons c input)

theorem lowHalf?_isMalformed {unit position : Nat} {input : Text} {fault : Fault}
    (h : lowHalf? unit position input = .error fault) :
    fault.isMalformed = true := by
  unfold lowHalf? at h
  split at h
  · split at h
    · split at h
      · cases h
        rfl
      · cases h
    · cases h
  · cases h

/-- A text that cannot be read is malformed. -/
theorem readText_isMalformed {start position : Nat} {input : Text} {fault : Fault}
    (h : readText start position input = .error fault) :
    fault.isMalformed = true := by
  fun_induction readText start position input with
  | case1 | case3 | case4 | case8 | case9 | case11 =>
      cases h
      rfl
  | case2 => cases h
  | case5 position a b c d next input unit _ fault hlow =>
      cases h
      exact lowHalf?_isMalformed hlow
  | case6 position a b c d next input unit _ low _ ih =>
      exact ih (consRead_eq_error_iff.mp h)
  | case7 position a b c d next input unit _ _ ih =>
      exact ih (consRead_eq_error_iff.mp h)
  | case10 position c input _ _ plain _ ih => exact ih (consRead_eq_error_iff.mp h)
  | case12 position c input _ _ _ _ _ _ ih => exact ih (consRead_eq_error_iff.mp h)

theorem readFraction_suffix (input : Text) : (readFraction input).2 <:+ input := by
  unfold readFraction
  split
  · rename_i rest
    split
    · exact List.suffix_rfl
    · exact (List.dropWhile_suffix _).trans (List.suffix_cons _ _)
  · exact List.suffix_rfl

theorem readSign_suffix (input : Text) : (readSign input).2 <:+ input := by
  unfold readSign
  split
  · exact List.suffix_cons _ _
  · exact List.suffix_cons _ _
  · exact List.suffix_rfl

theorem readExponent_suffix (input : Text) : (readExponent input).2 <:+ input := by
  unfold readExponent
  split
  · rename_i c rest
    split
    · have hsign := (readSign_suffix rest).trans (List.suffix_cons c rest)
      generalize readSign rest = signed at hsign ⊢
      obtain ⟨negative, after⟩ := signed
      simp only at hsign ⊢
      split
      · exact List.suffix_rfl
      · exact (List.dropWhile_suffix _).trans hsign
    · exact List.suffix_rfl
  · exact List.suffix_rfl

/-- The sign in front of a number, and what stands behind it. -/
def signAndRest (input : Text) : Bool × Text :=
  match input with
  | '-' :: rest => (true, rest)
  | _ => (false, input)

def wholeDigits (input : Text) : Text :=
  match input with
  | '0' :: _ => ['0']
  | _ => input.takeWhile CodePoint.isDigit

def behindWhole (input : Text) : Text := input.drop (wholeDigits input).length

theorem readNumber?_eq (input : Text) :
    readNumber? input =
      if (wholeDigits (signAndRest input).2).isEmpty then none
      else
        let fraction := readFraction (behindWhole (signAndRest input).2)
        let exponent := readExponent fraction.2
        some (⟨(signAndRest input).1, wholeDigits (signAndRest input).2,
          fraction.1, exponent.1⟩, exponent.2) :=
  rfl

theorem signAndRest_suffix (input : Text) : (signAndRest input).2 <:+ input := by
  unfold signAndRest
  split
  · exact List.suffix_cons _ _
  · exact List.suffix_rfl

theorem wholeDigits_isPrefix (input : Text) : wholeDigits input <+: input := by
  unfold wholeDigits
  split
  · exact ⟨_, rfl⟩
  · exact List.takeWhile_prefix _

theorem isDigit_of_mem_wholeDigits {input : Text} {c : CodePoint}
    (h : c ∈ wholeDigits input) :
    c.isDigit = true := by
  unfold wholeDigits at h
  split at h
  · rw [List.mem_singleton.mp h]
    rfl
  · exact List.all_eq_true.mp List.all_takeWhile c h

/-- The digits before the point of a number stand in the text, and what is left
behind it is an ending. -/
theorem readNumber?_spec {input rest : Text} {number : NumberText}
    (h : readNumber? input = some (number, rest)) :
    number.whole <:+: input ∧ (∀ c ∈ number.whole, c.isDigit = true) ∧
      rest <:+ input := by
  rw [readNumber?_eq] at h
  split at h
  · cases h
  · obtain ⟨rfl, rfl⟩ := Prod.mk.inj (Option.some.inj h)
    have hsign := signAndRest_suffix input
    refine ⟨(wholeDigits_isPrefix _).isInfix.trans hsign.isInfix,
      fun c hc => isDigit_of_mem_wholeDigits hc, ?_⟩
    have hwhole : behindWhole (signAndRest input).2 <:+ (signAndRest input).2 :=
      List.drop_suffix _ _
    have hfraction := readFraction_suffix (behindWhole (signAndRest input).2)
    exact (readExponent_suffix _).trans (hfraction.trans (hwhole.trans hsign))

theorem NumberText.value_eq_error_iff {number : NumberText} {fault : Fault} :
    number.value = .error fault ↔
      number.fraction = [] ∧ number.exponent = none ∧
        digitLimit < number.whole.length ∧
        fault = .longInteger number.whole.length := by
  unfold NumberText.value
  split
  · rename_i hplain
    simp only [Bool.and_eq_true, List.isEmpty_iff,
      Option.isNone_iff_eq_none] at hplain
    split
    · simp_all [eq_comm]
    · rename_i hshort
      constructor
      · intro h
        cases h
      · rintro ⟨_, _, hlong, _⟩
        exact absurd hlong hshort
  · rename_i hplain
    simp only [Bool.and_eq_true, List.isEmpty_iff,
      Option.isNone_iff_eq_none] at hplain
    constructor
    · intro h
      cases h
    · rintro ⟨hfraction, hexponent, _⟩
      exact absurd ⟨hfraction, hexponent⟩ hplain

/-- Whether a row of digits of the text is a whole number with too many of them. -/
def HoldsLongInteger (digits : Nat) (input : Text) : Prop :=
  digitLimit < digits ∧ ∃ row, row <:+: input ∧ row.length = digits ∧
    ∀ c ∈ row, c.isDigit = true

theorem HoldsLongInteger.of_suffix {digits : Nat} {input whole : Text}
    (h : HoldsLongInteger digits input) (hsuffix : input <:+ whole) :
    HoldsLongInteger digits whole := by
  obtain ⟨hlong, row, hrow, hlength, hdigits⟩ := h
  exact ⟨hlong, row, hrow.trans hsuffix.isInfix, hlength, hdigits⟩

/-- What is left behind the first token is an ending. -/
theorem readFirst_suffix (position : Nat) (input : Text) :
    (readFirst position input).2 <:+ input := by
  unfold readFirst
  split
  case h_1 => exact List.suffix_rfl
  case h_2 | h_3 | h_4 | h_5 | h_6 | h_7 => exact List.suffix_cons _ _
  case h_8 rest =>
    split
    · rename_i t after hread
      exact (readText_suffix hread).trans (List.suffix_cons _ _)
    · exact List.suffix_cons _ _
  case h_9 =>
    split
    · exact List.drop_suffix _ _
    · split
      · exact List.nil_suffix
      · rename_i number after hread
        split
        · exact (readNumber?_spec hread).2.2
        · exact List.nil_suffix

/-- A token that is a whole number with too many digits is one of the text. -/
theorem readFirst_holdsLongInteger {position digits : Nat} {quote : Bool}
    {input rest : Text}
    (h : readFirst position input =
      (.unreadable (.longInteger digits) quote, rest)) :
    HoldsLongInteger digits input := by
  unfold readFirst at h
  split at h
  case h_1 | h_2 | h_3 | h_4 | h_5 | h_6 | h_7 => cases h
  case h_8 =>
    split at h
    · cases h
    · rename_i fault hread
      cases h
      have hmalformed := readText_isMalformed hread
      cases hmalformed
  case h_9 =>
    split at h
    · cases h
    · split at h
      · cases h
      · rename_i number after hread
        split at h
        · cases h
        · rename_i fault hvalue
          obtain ⟨_, _, hlong, rfl⟩ := NumberText.value_eq_error_iff.mp hvalue
          obtain ⟨hstands, hdigits, _⟩ := readNumber?_spec hread
          cases h
          exact ⟨hlong, number.whole, hstands, rfl, hdigits⟩

/-- Whatever token of a text is a whole number with too many digits, the digits
stand in the text. -/
theorem holdsLongInteger_of_mem_lexFrom {start position digits : Nat} {quote : Bool}
    {input : Text}
    (h : (position, .unreadable (.longInteger digits) quote) ∈ lexFrom start input) :
    HoldsLongInteger digits input := by
  fun_induction lexFrom start input with
  | case1 => simp at h
  | case2 start input begun place rest fault quote' hread =>
      simp only [List.mem_singleton, Prod.mk.injEq, unreadable.injEq] at h
      obtain ⟨_, rfl, rfl⟩ := h
      exact (readFirst_holdsLongInteger hread).of_suffix (List.dropWhile_suffix _)
  | case3 start input begun place token rest hread _ _ hunreadable ih =>
      rcases List.mem_cons.mp h with heq | hmem
      · exact absurd (Prod.mk.inj heq).2.symm (hunreadable _ _)
      · have hrest := readFirst_suffix place begun
        rw [hread] at hrest
        exact (ih hmem).of_suffix (hrest.trans (List.dropWhile_suffix _))
  | case4 start input begun place token rest hread _ _ hunreadable =>
      simp only [List.mem_singleton, Prod.mk.injEq] at h
      exact absurd h.2.symm (hunreadable _ _)

end Token

namespace Decoder

open Token

variable {digits position : Nat} {decoder : Decoder} {token : Token}

theorem exists_of_takeValue_eq_longInteger {frames : List Frame}
    (h : takeValue frames position token = .error (.longInteger digits)) :
    ∃ quote, token = .unreadable (.longInteger digits) quote := by
  cases token with
  | unreadable fault quote =>
      cases h
      exact ⟨quote, rfl⟩
  | openBracket | openBrace =>
      simp only [takeValue, goInto] at h
      split at h <;> simp at h
  | closeBracket | closeBrace | comma | colon | atom | quoted | finish => cases h

theorem exists_of_takeKey_eq_longInteger {frames : List Frame}
    {members : List (Text × Json)}
    (h : takeKey frames members position token = .error (.longInteger digits)) :
    ∃ quote, token = .unreadable (.longInteger digits) quote := by
  unfold takeKey at h
  split at h
  · cases h
  · cases h
    exact ⟨true, rfl⟩
  · cases h

theorem takeSeparator_ne_longInteger {frames : List Frame} :
    takeSeparator frames position token ≠ .error (.longInteger digits) := by
  unfold takeSeparator
  split <;> simp

/-- A step fails for a whole number with too many digits only if its token is one. -/
theorem exists_of_step_eq_longInteger
    (h : decoder.step position token = .error (.longInteger digits)) :
    ∃ quote, token = .unreadable (.longInteger digits) quote := by
  unfold step at h
  split at h
  case h_1 => exact exists_of_takeValue_eq_longInteger h
  case h_3 => exact exists_of_takeValue_eq_longInteger h
  case h_4 => exact exists_of_takeKey_eq_longInteger h
  case h_6 => exact exists_of_takeKey_eq_longInteger h
  case h_9 => exact absurd h takeSeparator_ne_longInteger
  case h_2 | h_5 | h_7 | h_8 | h_10 | h_11 => cases h

/-- A row of tokens fails for a whole number with too many digits only if it
holds one. -/
theorem exists_of_run_eq_longInteger {tokens : List (Nat × Token)}
    (h : decoder.run tokens = .error (.longInteger digits)) :
    ∃ position quote,
      (position, .unreadable (.longInteger digits) quote) ∈ tokens := by
  induction tokens generalizing decoder with
  | nil => cases h
  | cons first tokens ih =>
      obtain ⟨position, token⟩ := first
      rw [run] at h
      split at h
      · obtain ⟨position', quote, hmem⟩ := ih h
        exact ⟨position', quote, List.mem_cons_of_mem _ hmem⟩
      · rename_i fault hfault
        cases h
        obtain ⟨quote, rfl⟩ := exists_of_step_eq_longInteger hfault
        exact ⟨position, quote, List.mem_cons_self⟩

end Decoder

open Token

/-- A text is refused for a whole number with too many digits only if these
digits stand in it. -/
theorem holdsLongInteger_of_decode {digits : Nat} {text : Text}
    (h : decode text = .error (.longInteger digits)) :
    HoldsLongInteger digits text := by
  unfold decode at h
  split at h
  · cases h
  · split at h
    · rename_i fault hfault
      cases h
      obtain ⟨position, quote, hmem⟩ := Decoder.exists_of_run_eq_longInteger hfault
      exact holdsLongInteger_of_mem_lexFrom hmem
    · split at h <;> cases h

namespace Token

variable {row : Text}

theorem wholeDigits_of_digits (hdigits : ∀ c ∈ row, c.isDigit = true)
    (hzero : row.head? ≠ some (.char '0')) :
    wholeDigits row = row := by
  unfold wholeDigits
  split
  · exact absurd rfl hzero
  · exact List.takeWhile_eq_self_iff.mpr hdigits

theorem readNumber?_of_digits (hne : row ≠ [])
    (hdigits : ∀ c ∈ row, c.isDigit = true) (hzero : row.head? ≠ some (.char '0')) :
    readNumber? row = some (⟨false, row, [], none⟩, []) := by
  have hsign : signAndRest row = (false, row) := by
    unfold signAndRest
    split
    · have hminus := hdigits '-' List.mem_cons_self
      cases hminus
    · rfl
  have hwhole := wholeDigits_of_digits hdigits hzero
  have hbehind : behindWhole row = [] := by
    rw [behindWhole, hwhole, List.drop_length]
  have hempty : row.isEmpty = false := by simpa using hne
  rw [readNumber?_eq, hsign, hwhole, hbehind, hempty]
  rfl

theorem find?_literals_of_digit {c : CodePoint} (h : c.isDigit = true)
    (rest : Text) :
    (literals.find? fun literal => literal.1.isPrefixOf (c :: rest)) = none := by
  rw [List.find?_eq_none]
  intro literal hliteral hprefix
  have hhead : literal.1.head? = some c := by
    obtain ⟨more, hmore⟩ := List.isPrefixOf_iff_prefix.mp hprefix
    cases hname : literal.1 with
    | nil =>
        have hnames : ∀ literal ∈ literals, literal.1 ≠ [] := by decide
        exact absurd hname (hnames literal hliteral)
    | cons d name =>
        rw [hname, List.cons_append] at hmore
        rw [(List.cons.inj hmore).1]
        rfl
  have hdigit : literal.1.head?.any CodePoint.isDigit = true := by
    rw [hhead]
    exact h
  have hnone : ∀ literal ∈ literals,
    literal.1.head?.any CodePoint.isDigit = false := by decide
  rw [hnone literal hliteral] at hdigit
  cases hdigit

/-- The first token of a text that is a whole number with too many digits. -/
theorem readFirst_of_digits (hdigits : ∀ c ∈ row, c.isDigit = true)
    (hzero : row.head? ≠ some (.char '0')) (hlong : digitLimit < row.length)
    (position : Nat) :
    readFirst position row = (.unreadable (.longInteger row.length) false, []) := by
  have hnot : ∀ c rest, row = c :: rest → c.isDigit = true := by
    rintro c rest rfl
    exact hdigits c List.mem_cons_self
  have hne : row ≠ [] := List.ne_nil_of_length_pos (by omega)
  unfold readFirst
  split
  case h_1 => exact absurd rfl hne
  case h_9 =>
    have hliterals :
        (literals.find? fun literal => literal.1.isPrefixOf row) = none := by
      cases row with
      | nil => exact absurd rfl hne
      | cons c rest => exact find?_literals_of_digit (hnot c rest rfl) rest
    have hvalue : NumberText.value ⟨false, row, [], none⟩ =
        .error (.longInteger row.length) :=
      NumberText.value_eq_error_iff.mpr ⟨rfl, rfl, hlong, rfl⟩
    simp only [hliterals, readNumber?_of_digits hne hdigits hzero, hvalue]
  all_goals
    have hdigit := hnot _ _ rfl
    cases hdigit

end Token

/-- A whole number with too many digits is refused. -/
theorem decode_of_digits {row : Text} (hdigits : ∀ c ∈ row, c.isDigit = true)
    (hzero : row.head? ≠ some (.char '0')) (hlong : digitLimit < row.length) :
    decode row = .error (.longInteger row.length) := by
  have hspace : row.dropWhile isSpace = row := by
    cases row with
    | nil => rfl
    | cons c rest =>
        have hdigit := hdigits c List.mem_cons_self
        have hfalse : isSpace c = false := by
          by_contra hsome
          simp only [isSpace, Bool.not_eq_false, Bool.or_eq_true,
            beq_iff_eq] at hsome
          rcases hsome with ((rfl | rfl) | rfl) | rfl <;> cases hdigit
        simp [hfalse]
  have hlex : lex row = [(0, .unreadable (.longInteger row.length) false)] := by
    rw [lex, lexFrom]
    simp only [hspace, Nat.sub_self, Nat.add_zero,
      readFirst_of_digits hdigits hzero hlong]
  have hmark : row.head? ≠ some (.char '\ufeff') := by
    intro hmark
    have hdigit := hdigits _ (List.mem_of_mem_head? hmark)
    cases hdigit
  rw [decode, if_neg hmark, hlex]
  rfl

end Json

end UtteranceTemplate

import UtteranceTemplate.Json.Encode
import UtteranceTemplate.Proofs.JsonReading
import UtteranceTemplate.Proofs.JsonTexts

/-!
Numbers that are written as JSON and read again.

A number in its parts, of which none has needless zeros, is read back in the same
parts unless it goes on (`Json.Token.readNumber?_written`). A whole number is written
in such parts and has its value again (`Json.Token.readFirst_ofInt`). A
floating-point number is written by a name, or in such parts with a fraction or an
exponent, and so is read as one (`Json.Token.readFirst_encodeFloat`).
-/

namespace UtteranceTemplate

namespace Json

namespace Token

namespace NumberText

def written (number : NumberText) : Text :=
  let fraction := if number.fraction.isEmpty then []
    else .char '.' :: number.fraction
  let exponent :=
    match number.exponent with
    | none => []
    | some (negative, digits) =>
        .char 'e' :: (if negative then .char '-' else .char '+') :: digits
  (if number.negative then [.char '-'] else []) ++ number.whole ++
    fraction ++ exponent

/-- Whether a number is written with digits where they belong, and with no
needless zero in front. -/
structure IsWellFormed (number : NumberText) : Prop where
  whole_ne_nil : number.whole ≠ []
  whole_isDigit : ∀ c ∈ number.whole, c.isDigit = true
  zero : number.whole.head? = some (.char '0') → number.whole = [.char '0']
  fraction_isDigit : ∀ c ∈ number.fraction, c.isDigit = true
  exponent : ∀ negative digits, number.exponent = some (negative, digits) →
    digits ≠ [] ∧ ∀ c ∈ digits, c.isDigit = true

end NumberText

/-- Whether no number goes on with a text. -/
def EndsNumber (rest : Text) : Prop :=
  ∀ c, rest.head? = some c → c.isDigit = false ∧ c ≠ '.' ∧ c ≠ 'e' ∧ c ≠ 'E'

theorem endsNumber_nil : EndsNumber [] := by
  intro c hc
  cases hc

theorem endsNumber_cons {c : CodePoint} (hdigit : c.isDigit = false)
    (hc : c ≠ '.' ∧ c ≠ 'e' ∧ c ≠ 'E') (rest : Text) : EndsNumber (c :: rest) := by
  intro d hd
  obtain rfl := Option.some.inj hd
  exact ⟨hdigit, hc⟩

variable {number : NumberText} {rest : Text}

def writtenFraction (digits : Text) : Text := if digits.isEmpty then []
    else '.' :: digits

def writtenExponent : Option (Bool × Text) → Text
  | none => []
  | some (negative, digits) => 'e' :: (if negative then '-' else '+') :: digits

theorem NumberText.written_append (number : NumberText) (rest : Text) :
    number.written ++ rest =
      (if number.negative then [.char '-'] else []) ++
        (number.whole ++ (writtenFraction number.fraction ++
        (writtenExponent number.exponent ++ rest))) := by
  obtain ⟨negative, whole, fraction, exponent⟩ := number
  cases exponent <;> simp [written, writtenFraction, writtenExponent]

theorem readExponent_written {exponent : Option (Bool × Text)}
    (h : ∀ negative digits, exponent = some (negative, digits) →
      digits ≠ [] ∧ ∀ c ∈ digits, c.isDigit = true)
    (hrest : EndsNumber rest) :
    readExponent (writtenExponent exponent ++ rest) = (exponent, rest) := by
  cases exponent with
  | none =>
      cases rest with
      | nil => rfl
      | cons c rest =>
          obtain ⟨_, _, he, hE⟩ := hrest c rfl
          simp [writtenExponent, readExponent, he, hE]
  | some parts =>
      obtain ⟨negative, digits⟩ := parts
      obtain ⟨hne, hdigits⟩ := h negative digits rfl
      obtain ⟨htake, hdrop⟩ :=
        Text.takeWhile_append_of_head? hdigits fun c hc => (hrest c hc).1
      have hsign : readSign ((if negative then '-' else '+') :: (digits ++ rest)) =
          (negative, digits ++ rest) := by
        cases negative <;> rfl
      show readExponent
        ('e' :: (if negative then '-' else '+') :: (digits ++ rest)) = _
      simp only [readExponent, hsign, htake, hdrop]
      cases digits with
      | nil => exact absurd rfl hne
      | cons c digits => rfl

theorem readFraction_written {fraction : Text} (h : ∀ c ∈ fraction, c.isDigit = true)
    (hrest : ∀ c, rest.head? = some c → c.isDigit = false ∧ c ≠ '.') :
    readFraction (writtenFraction fraction ++ rest) = (fraction, rest) := by
  cases fraction with
  | nil =>
      cases rest with
      | nil => rfl
      | cons c rest => simp [writtenFraction, readFraction, (hrest c rfl).2]
  | cons d fraction =>
      obtain ⟨htake, hdrop⟩ :=
        Text.takeWhile_append_of_head? h fun c hc => (hrest c hc).1
      show readFraction ('.' :: (d :: fraction ++ rest)) = _
      simp only [readFraction, htake, hdrop]

theorem wholeDigits_append {whole : Text} (hne : whole ≠ [])
    (h : ∀ c ∈ whole, c.isDigit = true)
    (hzero : whole.head? = some (.char '0') → whole = [.char '0'])
    (hrest : ∀ c, rest.head? = some c → c.isDigit = false) :
    wholeDigits (whole ++ rest) = whole := by
  by_cases hhead : whole.head? = some (.char '0')
  · rw [hzero hhead]
    rfl
  · obtain ⟨htake, _⟩ := Text.takeWhile_append_of_head? h hrest
    unfold wholeDigits
    split
    · rename_i heq
      cases whole with
      | nil => exact absurd rfl hne
      | cons c whole =>
          obtain ⟨rfl, _⟩ := List.cons.inj heq
          exact absurd rfl hhead
    · exact htake

theorem head?_writtenExponent_append (exponent : Option (Bool × Text))
    (hrest : EndsNumber rest) :
    ∀ c, (writtenExponent exponent ++ rest).head? = some c →
      c.isDigit = false ∧ c ≠ '.' := by
  intro c hc
  cases exponent with
  | none => exact ⟨(hrest c hc).1, (hrest c hc).2.1⟩
  | some parts =>
      obtain rfl : 'e' = c := Option.some.inj hc
      decide

theorem head?_writtenFraction_append (fraction : Text)
    (hrest : ∀ c, rest.head? = some c → c.isDigit = false ∧ c ≠ '.') :
    ∀ c, (writtenFraction fraction ++ rest).head? = some c → c.isDigit = false := by
  intro c hc
  cases fraction with
  | nil => exact (hrest c hc).1
  | cons d fraction =>
      obtain rfl : '.' = c := Option.some.inj hc
      decide

theorem signAndRest_written {negative : Bool} {whole : Text} (hne : whole ≠ [])
    (h : ∀ c ∈ whole, c.isDigit = true) :
    signAndRest ((if negative then [.char '-'] else []) ++ (whole ++ rest)) =
      (negative, whole ++ rest) := by
  cases negative with
  | true => rfl
  | false =>
      cases whole with
      | nil => exact absurd rfl hne
      | cons c whole =>
          have hc : c ≠ '-' := by
            rintro rfl
            have hdigit := h '-' List.mem_cons_self
            cases hdigit
          show signAndRest (c :: (whole ++ rest)) = _
          simp [signAndRest, hc]

/-- A number is read back in its parts unless it goes on. -/
theorem readNumber?_written (h : number.IsWellFormed) (hrest : EndsNumber rest) :
    readNumber? (number.written ++ rest) = some (number, rest) := by
  have hexponent := head?_writtenExponent_append number.exponent hrest
  have hfraction := head?_writtenFraction_append number.fraction hexponent
  have hwhole := wholeDigits_append h.whole_ne_nil h.whole_isDigit h.zero hfraction
  have hempty : number.whole.isEmpty = false := by simpa using h.whole_ne_nil
  rw [readNumber?_eq, NumberText.written_append,
    signAndRest_written h.whole_ne_nil h.whole_isDigit]
  simp only [hwhole, hempty, behindWhole, List.drop_left,
    readFraction_written h.fraction_isDigit hexponent,
      readExponent_written h.exponent hrest]
  rfl

/-- No literal begins with a minus sign and a digit. -/
theorem find?_literals_of_minus {c : CodePoint} (h : c.isDigit = true)
    (rest : Text) :
    (literals.find? fun literal => literal.1.isPrefixOf (.char '-' :: c :: rest)) =
      none := by
  have hc : (.char 'I' == c) = false := by
    rw [beq_eq_false_iff_ne]
    rintro rfl
    cases h
  simp [literals, List.find?, List.isPrefixOf, String.text, hc]

/-- A written number begins with a digit, or with a minus sign and a digit. -/
theorem NumberText.IsWellFormed.head (h : number.IsWellFormed) (rest : Text) :
    ∃ c tail, c.isDigit = true ∧
      (number.written ++ rest = c :: tail ∨
        number.written ++ rest = .char '-' :: c :: tail) := by
  have hne := h.whole_ne_nil
  have hdigits := h.whole_isDigit
  rw [NumberText.written_append]
  obtain ⟨negative, whole, fraction, exponent⟩ := number
  cases whole with
  | nil => exact absurd rfl hne
  | cons c whole =>
      refine ⟨c,
        whole ++ (writtenFraction fraction ++ (writtenExponent exponent ++ rest)),
        hdigits c List.mem_cons_self, ?_⟩
      cases negative with
      | false => exact .inl rfl
      | true => exact .inr rfl

theorem not_isSpace_of_isDigit {c : CodePoint} (h : c.isDigit = true) :
    isSpace c = false := by
  rw [Bool.eq_false_iff]
  intro hspace
  simp only [isSpace, Bool.or_eq_true, beq_iff_eq] at hspace
  rcases hspace with ((rfl | rfl) | rfl) | rfl <;> cases h

/-- A written number begins with no space. -/
theorem NumberText.IsWellFormed.head? (h : number.IsWellFormed) :
    ∃ c, number.written.head? = some c ∧ isSpace c = false := by
  obtain ⟨c, tail, hc, hinput⟩ := h.head []
  rw [List.append_nil] at hinput
  rcases hinput with hinput | hinput
  · exact ⟨c, by rw [hinput]; rfl, not_isSpace_of_isDigit hc⟩
  · exact ⟨'-', by rw [hinput]; rfl, rfl⟩

/-- A number is read as one token unless it goes on. -/
theorem readFirst_written (h : number.IsWellFormed) {value : Json}
    (hvalue : number.value = .ok value) (hrest : EndsNumber rest) (position : Nat) :
    readFirst position (number.written ++ rest) = (.atom value, rest) := by
  have hread := readNumber?_written h hrest
  obtain ⟨c, tail, hc, hinput⟩ := h.head rest
  have hliterals : (literals.find? fun literal =>
      literal.1.isPrefixOf (number.written ++ rest)) = none := by
    rcases hinput with hinput | hinput
    · rw [hinput]
      exact find?_literals_of_digit hc tail
    · rw [hinput]
      exact find?_literals_of_minus hc tail
  have hhead : ∀ d more, number.written ++ rest = d :: more →
      d.isDigit = true ∨ d = '-' := by
    intro d more heq
    rcases hinput with hinput | hinput
    · rw [hinput] at heq
      exact .inl ((List.cons.inj heq).1 ▸ hc)
    · rw [hinput] at heq
      exact .inr (List.cons.inj heq).1.symm
  generalize number.written ++ rest = input at hread hliterals hhead hinput
  unfold readFirst
  split
  case h_1 => simp at hinput
  case h_9 => simp only [hliterals, hread, hvalue]
  all_goals
    obtain hdigit | hminus := hhead _ _ rfl
    · cases hdigit
    · cases hminus

theorem zero_of_head?_ofNat {n : Nat} (h : (Text.ofNat n).head? = some (.char '0')) :
    Text.ofNat n = [.char '0'] := by
  by_cases hn : n = 0
  · rw [hn]
    rfl
  · exact absurd h (Text.head?_ofNat_ne hn)

theorem isWellFormed_ofNat (negative : Bool) (n : Nat) :
    NumberText.IsWellFormed ⟨negative, Text.ofNat n, [], none⟩ where
  whole_ne_nil := Text.ofNat_ne_nil n
  whole_isDigit _ hc := Text.isDigit_of_mem_ofNat hc
  zero := zero_of_head?_ofNat
  fraction_isDigit := List.forall_mem_nil _
  exponent _ _ h := by cases h

theorem value_ofNat {n : Nat} (h : (Text.ofNat n).length ≤ digitLimit)
    (negative : Bool) :
    NumberText.value ⟨negative, Text.ofNat n, [], none⟩ =
      .ok (.int (if negative then -(n : Int) else n)) := by
  simp [NumberText.value, Nat.not_lt.mpr h, Decimal.ofDigits_ofNat]

/-- A whole number is written in its parts. -/
theorem exists_number_ofInt (n : Int) :
    ∃ number : NumberText, number.IsWellFormed ∧ Text.ofInt n = number.written ∧
      ((Text.ofNat n.natAbs).length ≤ digitLimit → number.value = .ok (.int n)) := by
  cases n with
  | ofNat n =>
      refine ⟨⟨false, Text.ofNat n, [], none⟩, isWellFormed_ofNat false n, ?_,
        fun h => value_ofNat h false⟩
      simp [NumberText.written, Text.ofInt]
  | negSucc n =>
      refine ⟨⟨true, Text.ofNat (n + 1), [], none⟩,
        isWellFormed_ofNat true (n + 1), ?_, fun h => value_ofNat h true⟩
      simp [NumberText.written, Text.ofInt]

/-- A whole number has its value again if it has few enough digits. -/
theorem readFirst_ofInt {n : Int} (h : (Text.ofNat n.natAbs).length ≤ digitLimit)
    (hrest : EndsNumber rest) (position : Nat) :
    readFirst position (Text.ofInt n ++ rest) = (.atom (.int n), rest) := by
  obtain ⟨number, hwell, hwritten, hvalue⟩ := exists_number_ofInt n
  rw [hwritten]
  exact readFirst_written hwell (hvalue h) hrest position

theorem head?_ofInt (n : Int) :
    ∃ c, (Text.ofInt n).head? = some c ∧ isSpace c = false := by
  obtain ⟨number, hwell, hwritten, _⟩ := exists_number_ofInt n
  rw [hwritten]
  exact hwell.head?

section Floats

/-- Whether a number is read as a floating-point number. -/
def NumberText.IsFloat (number : NumberText) : Prop :=
  number.fraction ≠ [] ∨ number.exponent ≠ none

theorem NumberText.IsFloat.exists_value (h : number.IsFloat) :
    ∃ x, number.value = .ok (.float x) := by
  have hnot : (number.fraction.isEmpty && number.exponent.isNone) = false := by
    rw [Bool.and_eq_false_iff]
    rcases h with hfraction | hexponent
    · exact .inl (by simpa using hfraction)
    · exact .inr (by simpa [Option.isSome_iff_ne_none] using hexponent)
  rw [NumberText.value, hnot]
  exact ⟨_, rfl⟩

/-- Whether a text is that of a floating-point number without its sign. -/
def WritesFloat (text : Text) : Prop :=
  ∃ whole fraction exponent,
    (∀ negative, NumberText.IsWellFormed ⟨negative, whole, fraction, exponent⟩) ∧
      NumberText.IsFloat ⟨false, whole, fraction, exponent⟩ ∧
        text = NumberText.written ⟨false, whole, fraction, exponent⟩

variable {digits : Text}

theorem isDigit_of_mem_replicate {n : Nat} {c : CodePoint}
    (h : c ∈ List.replicate n (.char '0')) : c.isDigit = true := by
  rw [List.eq_of_mem_replicate h]
  rfl

/-- Digits with a point are a floating-point number if there are digits on both sides
and no needless zero is in front. -/
theorem writesFloat_point {whole fraction : Text} (hwhole : whole ≠ [])
    (hfraction : fraction ≠ []) (hdigits : ∀ c ∈ whole ++ fraction, c.isDigit = true)
    (hzero : whole.head? = some (.char '0') → whole = [.char '0']) :
    WritesFloat (whole ++ .char '.' :: fraction) := by
  refine ⟨whole, fraction, none, fun negative => ?_, .inl hfraction, ?_⟩
  · exact {
      whole_ne_nil := hwhole
      whole_isDigit := fun c hc => hdigits c (List.mem_append_left _ hc)
      zero := hzero
      fraction_isDigit := fun c hc => hdigits c (List.mem_append_right _ hc)
      exponent := fun _ _ h => by cases h }
  · simp [NumberText.written, hfraction]

theorem writesFloat_positional (hne : digits ≠ [])
    (hdigits : ∀ c ∈ digits, c.isDigit = true)
    (hzero : digits.head? ≠ some (.char '0')) (point : Int) :
    WritesFloat (Decimal.positional digits point) := by
  have hnought : ∀ c ∈ (['0'] : Text), c.isDigit = true :=
    List.forall_mem_singleton.mpr rfl
  unfold Decimal.positional
  split
  · rename_i n
    -- the zeros between the point and the digits are part of the fraction
    have hfraction : ∀ c ∈ (['0'] : Text) ++
        (List.replicate (n + 1) (.char '0') ++ digits), c.isDigit = true :=
      List.forall_mem_append.mpr ⟨hnought, List.forall_mem_append.mpr
        ⟨fun c hc => isDigit_of_mem_replicate hc, hdigits⟩⟩
    exact writesFloat_point (by simp) (by simp [hne]) hfraction fun _ => rfl
  · rename_i n
    split
    · exact writesFloat_point (by simp) hne
        (List.forall_mem_append.mpr ⟨hnought, hdigits⟩) fun _ => rfl
    · split
      · have hhead : (digits ++ List.replicate (n - digits.length)
            (CodePoint.char '0')).head? ≠ some (.char '0') := by
          rwa [List.head?_append_of_ne_nil _ hne]
        have hwhole : ∀ c ∈ digits ++ List.replicate (n - digits.length)
            (.char '0') ++ [.char '0'], c.isDigit = true :=
          List.forall_mem_append.mpr ⟨List.forall_mem_append.mpr
            ⟨hdigits, fun c hc => isDigit_of_mem_replicate hc⟩, hnought⟩
        exact writesFloat_point (by simp [hne]) (by simp) hwhole fun h =>
          absurd h hhead
      · rename_i hn hlength
        have htake : digits.take n ≠ [] := by simp [hn, hne]
        have hdrop : digits.drop n ≠ [] := by simpa using hlength
        have hhead : (digits.take n).head? ≠ some (.char '0') := by
          rwa [List.head?_take, if_neg hn]
        have hparts : ∀ c ∈ digits.take n ++ digits.drop n, c.isDigit = true := by
          rwa [List.take_append_drop]
        exact writesFloat_point htake hdrop hparts fun h => absurd h hhead

/-- The digits of an exponent, of which there are at least two. -/
def exponentDigits (exponent : Int) : Text :=
  let size := Text.ofNat exponent.natAbs
  if size.length < 2 then '0' :: size else size

theorem exponentDigits_isDigit (exponent : Int) :
    exponentDigits exponent ≠ [] ∧ ∀ c ∈ exponentDigits exponent,
      c.isDigit = true := by
  have hsize : ∀ c ∈ Text.ofNat exponent.natAbs, c.isDigit = true :=
    fun c hc => Text.isDigit_of_mem_ofNat hc
  unfold exponentDigits
  dsimp only
  split
  · exact ⟨List.cons_ne_nil _ _, List.forall_mem_cons.mpr ⟨rfl, hsize⟩⟩
  · exact ⟨Text.ofNat_ne_nil _, hsize⟩

theorem writesFloat_scientific (hne : digits ≠ [])
    (hdigits : ∀ c ∈ digits, c.isDigit = true) (exponent : Int) :
    WritesFloat (Decimal.scientific digits exponent) := by
  cases digits with
  | nil => exact absurd rfl hne
  | cons d rest =>
      obtain ⟨hd, hrest⟩ := List.forall_mem_cons.mp hdigits
      refine ⟨[d], rest, some (decide (exponent < 0), exponentDigits exponent),
        fun negative => ?_, .inr (by simp), ?_⟩
      · exact {
          whole_ne_nil := List.cons_ne_nil d []
          whole_isDigit := List.forall_mem_singleton.mpr hd
          zero := fun h => by
            obtain rfl := Option.some.inj h
            rfl
          fraction_isDigit := hrest
          exponent := fun _ _ h => by
            cases h
            exact exponentDigits_isDigit exponent }
      · cases rest <;> simp [NumberText.written, Decimal.scientific, exponentDigits]

/-- A finite number is written as a floating-point number. -/
theorem writesFloat_scaled (d : Decimal.Scaled) : WritesFloat d.text := by
  unfold Decimal.Scaled.text
  dsimp only
  split
  case isTrue =>
    have hnoughts : ∀ c ∈ (['0', '0'] : Text), c.isDigit = true := by decide
    exact writesFloat_point (by simp) (by simp) hnoughts fun _ => rfl
  case isFalse hd =>
    have hne := Text.ofNat_ne_nil d.digits
    have hdigits : ∀ c ∈ Text.ofNat d.digits, c.isDigit = true :=
      fun c hc => Text.isDigit_of_mem_ofNat hc
    split
    · exact writesFloat_positional hne hdigits (Text.head?_ofNat_ne hd) _
    · exact writesFloat_scientific hne hdigits _

/-- A floating-point number is written by its name or in its parts. -/
theorem encodeFloat_cases (x : Float) :
    encodeFloat x ∈ ["NaN".text, "Infinity".text, "-Infinity".text] ∨
      ∃ number : NumberText, number.IsWellFormed ∧ number.IsFloat ∧
        encodeFloat x = number.written := by
  unfold encodeFloat Decimal.textOfFloat
  split
  · exact .inl (by decide)
  · obtain ⟨negative, decimal⟩ := Decimal.ofFloat x
    cases decimal with
    | none =>
        left
        cases negative <;> decide
    | some d =>
        obtain ⟨whole, fraction, exponent, hwell, hfloat, htext⟩ :=
          writesFloat_scaled d
        refine .inr
          ⟨⟨negative, whole, fraction, exponent⟩, hwell negative, hfloat, ?_⟩
        show (if negative then .char '-' :: d.text else d.text) = _
        rw [htext]
        cases negative <;> simp [NumberText.written]

theorem head?_encodeFloat (x : Float) :
    ∃ c, (encodeFloat x).head? = some c ∧ isSpace c = false := by
  rcases encodeFloat_cases x with hname | ⟨number, hwell, _, hwritten⟩
  · simp only [List.mem_cons, List.not_mem_nil, or_false] at hname
    rcases hname with hname | hname | hname <;> rw [hname]
    · exact ⟨'N', rfl, by decide⟩
    · exact ⟨'I', rfl, by decide⟩
    · exact ⟨'-', rfl, by decide⟩
  · rw [hwritten]
    exact hwell.head?

/-- What is read where a floating-point number is written. -/
def readBack (x : Float) : Json :=
  match readFirst 0 (encodeFloat x) with
  | (.atom value, _) => value
  | _ => .null

/-- A floating-point number is read as one unless it goes on. -/
theorem exists_readFirst_encodeFloat (x : Float) :
    ∃ y, ∀ position rest, EndsNumber rest →
    readFirst position (encodeFloat x ++ rest) = (.atom (.float y), rest) := by
  rcases encodeFloat_cases x with hname | ⟨number, hwell, hfloat, hwritten⟩
  · simp only [List.mem_cons, List.not_mem_nil, or_false] at hname
    rcases hname with hname | hname | hname
    all_goals
      rw [hname]
      exact ⟨_, fun _ _ _ => rfl⟩
  · obtain ⟨y, hy⟩ := hfloat.exists_value
    rw [hwritten]
    exact ⟨y, fun position rest hrest => readFirst_written hwell hy hrest position⟩

theorem exists_readBack (x : Float) : ∃ y, readBack x = .float y ∧
    ∀ position rest, EndsNumber rest →
      readFirst position (encodeFloat x ++ rest) = (.atom (.float y), rest) := by
  obtain ⟨y, hread⟩ := exists_readFirst_encodeFloat x
  have hwhole := hread 0 [] endsNumber_nil
  rw [List.append_nil] at hwhole
  exact ⟨y, by rw [readBack, hwhole], hread⟩

/-- A floating-point number is read as one. -/
theorem readFirst_encodeFloat (x : Float) (hrest : EndsNumber rest)
    (position : Nat) :
    readFirst position (encodeFloat x ++ rest) = (.atom (readBack x), rest) := by
  obtain ⟨y, hback, hread⟩ := exists_readBack x
  rw [hread position rest hrest, hback]

end Floats

section Plain

theorem isPlainChar_of_isDigit {c : CodePoint} (h : c.isDigit = true) :
    IsPlainChar c := by
  obtain ⟨hlow, hhigh⟩ := CodePoint.toNat_of_isDigit h
  exact .inr ⟨by omega, by omega⟩

theorem isPlain_of_isDigit {digits : Text} (h : ∀ c ∈ digits, c.isDigit = true) :
    IsPlain digits :=
  fun c hc => isPlainChar_of_isDigit (h c hc)

theorem NumberText.IsWellFormed.isPlain (h : number.IsWellFormed) :
    IsPlain number.written := by
  have hfraction : IsPlain (writtenFraction number.fraction) := by
    unfold writtenFraction
    split
    · exact isPlain_nil
    · exact .cons (by decide) (isPlain_of_isDigit h.fraction_isDigit)
  have hexponent : IsPlain (writtenExponent number.exponent) := by
    cases hparts : number.exponent with
    | none => exact isPlain_nil
    | some parts =>
        obtain ⟨negative, digits⟩ := parts
        have hsign : IsPlainChar (if negative then '-' else '+') := by
          cases negative <;> decide
        exact .cons (by decide)
          (.cons hsign (isPlain_of_isDigit (h.exponent negative digits hparts).2))
  have hsign : IsPlain (if number.negative then ['-'] else []) := by
    cases number.negative with
    | true => exact .cons (by decide) isPlain_nil
    | false => exact isPlain_nil
  have hwritten := NumberText.written_append number []
  rw [List.append_nil, List.append_nil] at hwritten
  rw [hwritten]
  exact hsign.append
    ((isPlain_of_isDigit h.whole_isDigit).append (hfraction.append hexponent))

theorem isPlain_ofInt (n : Int) : IsPlain (Text.ofInt n) := by
  obtain ⟨number, hwell, hwritten, _⟩ := exists_number_ofInt n
  rw [hwritten]
  exact hwell.isPlain

theorem isPlain_encodeFloat (x : Float) : IsPlain (encodeFloat x) := by
  rcases encodeFloat_cases x with hname | ⟨number, hwell, _, hwritten⟩
  · have hnames : ∀ name ∈ ["NaN".text, "Infinity".text, "-Infinity".text],
        IsPlain name := by decide
    exact hnames _ hname
  · rw [hwritten]
    exact hwell.isPlain

end Plain

end Token

end Json

end UtteranceTemplate

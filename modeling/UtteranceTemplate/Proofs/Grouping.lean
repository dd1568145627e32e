import UtteranceTemplate.Proofs.Drafting
import UtteranceTemplate.Proofs.PatternText

/-!
How the groups of a finished pattern stand in each other.

`WellGrouped` is the grammar of finished patterns. Parentheses come in pairs, a
question mark stands behind a group that captures nothing, and a capture holds free
text behind a space, or characters and bars. `Grouped` is the same for a row that
goes on inside open groups. Unlike the grammar it is kept token by token, so it
survives resolving braces that lie across groups (`Grouped.resolveFrom`), and for a
row with no group open around it the two agree (`Grouped.wellGrouped`).
-/

namespace UtteranceTemplate

open Pattern

namespace Pattern

namespace Token

/-- What may stand between the parentheses of a capture. -/
def FillsCapture (body : List Token) : Prop :=
  body = [.char ' ', .anyText] ∨ ∀ token ∈ body, token = .bar ∨ ∃ c, token = .char c

/-- The grammar of finished patterns; the rows inside the captures are given
in order. -/
inductive WellGrouped : List (List Token) → List Token → Prop
  | nil : WellGrouped [] []
  | char (c : CodePoint) {captures rest} (hrest : WellGrouped captures rest) :
      WellGrouped captures (.char c :: rest)
  | leftBrace {captures rest} (hrest : WellGrouped captures rest) :
      WellGrouped captures (.leftBrace :: rest)
  | rightBrace {captures rest} (hrest : WellGrouped captures rest) :
      WellGrouped captures (.rightBrace :: rest)
  | bar {captures rest} (hrest : WellGrouped captures rest) :
      WellGrouped captures (.bar :: rest)
  | group {inner captures body rest} (hbody : WellGrouped inner body)
      (hrest : WellGrouped captures rest) :
      WellGrouped (inner ++ captures) (.openGroup :: body ++ .close :: rest)
  | optionalGroup {inner captures body rest} (hbody : WellGrouped inner body)
      (hrest : WellGrouped captures rest) :
      WellGrouped (inner ++ captures)
        (.openGroup :: body ++ .close :: .optional :: rest)
  | capture {body captures rest} (hbody : FillsCapture body)
      (hrest : WellGrouped captures rest) :
      WellGrouped (body :: captures) (.openCapture :: body ++ .close :: rest)

/-- Rows that go on inside as many open groups as the depth says, and close
them all. -/
inductive Grouped : Nat → List (List Token) → List Token → Prop
  | nil : Grouped 0 [] []
  | char (c : CodePoint) {depth captures rest}
      (hrest : Grouped depth captures rest) :
      Grouped depth captures (.char c :: rest)
  | leftBrace {depth captures rest} (hrest : Grouped depth captures rest) :
      Grouped depth captures (.leftBrace :: rest)
  | rightBrace {depth captures rest} (hrest : Grouped depth captures rest) :
      Grouped depth captures (.rightBrace :: rest)
  | bar {depth captures rest} (hrest : Grouped depth captures rest) :
      Grouped depth captures (.bar :: rest)
  | openGroup {depth captures rest} (hrest : Grouped (depth + 1) captures rest) :
      Grouped depth captures (.openGroup :: rest)
  | close {depth captures rest} (hrest : Grouped depth captures rest) :
      Grouped (depth + 1) captures (.close :: rest)
  | closeOptional {depth captures rest} (hrest : Grouped depth captures rest) :
      Grouped (depth + 1) captures (.close :: .optional :: rest)
  | capture {body depth captures rest} (hbody : FillsCapture body)
      (hrest : Grouped depth captures rest) :
      Grouped depth (body :: captures) (.openCapture :: body ++ .close :: rest)

theorem FillsCapture.not_mem {body : List Token} (h : FillsCapture body)
    {token : Token} (hbar : token ≠ .bar) (hany : token ≠ .anyText)
    (hchar : ∀ c, token ≠ .char c) :
    token ∉ body := by
  rcases h with rfl | h
  · simp [hany, hchar]
  · intro hmem
    rcases h token hmem with heq | ⟨c, heq⟩
    · exact hbar heq
    · exact hchar c heq

theorem FillsCapture.brace_not_mem {body : List Token} (h : FillsCapture body) :
    .leftBrace ∉ body ∧ .rightBrace ∉ body :=
  ⟨h.not_mem (by simp) (by simp) (by simp), h.not_mem (by simp) (by simp) (by simp)⟩

/-- A row without braces resolves to itself, whatever follows it. -/
theorem resolveFrom_append_of_not_mem (inside : Bool) {front : List Token}
    (hleft : .leftBrace ∉ front) (hright : .rightBrace ∉ front) (back : List Token) :
    resolveFrom inside (front ++ back) = front ++ resolveFrom inside back := by
  induction front with
  | nil => rfl
  | cons token front ih =>
      simp only [List.mem_cons, not_or] at hleft hright
      have hrest := ih hleft.2 hright.2
      cases inside <;> cases token <;> simp_all [resolveFrom]

/-- Resolving braces keeps the captures and all groups closed; inside optional text
one more group is open. -/
theorem Grouped.resolveFrom {depth : Nat} {captures : List (List Token)}
    {tokens : List Token} (h : Grouped depth captures tokens) (inside : Bool)
    (hinside : inside = true → .rightBrace ∈ tokens) :
    Grouped (if inside then depth + 1 else depth) captures
      (Token.resolveFrom inside tokens) := by
  induction h generalizing inside with
  | nil =>
      cases inside with
      | false => exact .nil
      | true => simp at hinside
  | char c _ ih =>
      have hrest := ih inside fun heq => by simpa using hinside heq
      cases inside <;> exact .char c hrest
  | bar _ ih =>
      have hrest := ih inside fun heq => by simpa using hinside heq
      cases inside <;> exact .bar hrest
  | leftBrace _ ih =>
      cases inside with
      | true => exact .leftBrace (ih true fun _ => by simpa using hinside rfl)
      | false =>
          simp only [Token.resolveFrom]
          split
          · cases ‹false = true›
          · split
            · rename_i hmem
              exact .openGroup (ih true fun _ => by simpa using hmem)
            · exact .leftBrace (ih false (by simp))
  | rightBrace _ ih =>
      cases inside with
      | true => exact .closeOptional (ih false (by simp))
      | false => exact .rightBrace (ih false (by simp))
  | openGroup _ ih =>
      have hrest := ih inside fun heq => by simpa using hinside heq
      cases inside <;> exact .openGroup hrest
  | close _ ih =>
      have hrest := ih inside fun heq => by simpa using hinside heq
      cases inside <;> exact .close hrest
  | closeOptional _ ih =>
      have hrest := ih inside fun heq => by simpa using hinside heq
      cases inside <;> exact .closeOptional hrest
  | @capture body _ _ rest hbody _ ih =>
      obtain ⟨hleft, hright⟩ := hbody.brace_not_mem
      have hright' : .rightBrace ∉ .openCapture :: body := by simpa using hright
      have hstep :
          Token.resolveFrom inside (.openCapture :: body ++ .close :: rest) =
          .openCapture :: body ++ .close :: Token.resolveFrom inside rest := by
        rw [resolveFrom_append_of_not_mem inside (by simpa using hleft) hright']
        cases inside <;> rfl
      have hmem : inside = true → .rightBrace ∈ rest := by
        intro heq
        rcases List.mem_append.mp (hinside heq) with hmem | hmem
        · exact absurd hmem hright'
        · simpa using hmem
      rw [hstep]
      exact .capture hbody (ih inside hmem)

/-- What is left of a well-grouped row behind each of the groups that are
open around it. -/
def Closes : Nat → List (List Token) → List Token → Prop
  | 0, captures, tokens => WellGrouped captures tokens
  | depth + 1, captures, tokens =>
      ∃ inner outer body rest, WellGrouped inner body ∧ Closes depth outer rest ∧
        captures = inner ++ outer ∧
        (tokens = body ++ .close :: rest ∨
          tokens = body ++ .close :: .optional :: rest)

/-- What may stand in front of a well-grouped row may stand in front of one
that closes groups. -/
theorem Closes.append_left (more : List (List Token)) (front : List Token)
    (hfront : ∀ captures rest, WellGrouped captures rest →
      WellGrouped (more ++ captures) (front ++ rest))
    {depth : Nat} {captures : List (List Token)} {tokens : List Token}
    (h : Closes depth captures tokens) :
    Closes depth (more ++ captures) (front ++ tokens) := by
  cases depth with
  | zero => exact hfront captures tokens h
  | succ depth =>
      obtain ⟨inner, outer, body, rest, hbody, hrest, rfl, htokens⟩ := h
      refine ⟨more ++ inner, outer, front ++ body, rest, hfront inner body hbody,
        hrest, by simp, ?_⟩
      rcases htokens with rfl | rfl
      · left; simp
      · right; simp

theorem Grouped.closes {depth : Nat} {captures : List (List Token)}
    {tokens : List Token} (h : Grouped depth captures tokens) :
    Closes depth captures tokens := by
  induction h with
  | nil => exact WellGrouped.nil
  | char c _ ih => exact ih.append_left [] [.char c] fun _ _ h => .char c h
  | leftBrace _ ih =>
      exact ih.append_left [] [.leftBrace] fun _ _ h => .leftBrace h
  | rightBrace _ ih =>
      exact ih.append_left [] [.rightBrace] fun _ _ h => .rightBrace h
  | bar _ ih => exact ih.append_left [] [.bar] fun _ _ h => .bar h
  | openGroup _ ih =>
      obtain ⟨inner, outer, body, rest, hbody, hrest, rfl, htokens⟩ := ih
      rcases htokens with rfl | rfl
      · have hfront := hrest.append_left inner (.openGroup :: body ++ [.close])
          fun captures more h => by simpa using WellGrouped.group hbody h
        simpa using hfront
      · have hfront := hrest.append_left inner
          (.openGroup :: body ++ [.close, .optional])
          fun captures more h => by simpa using WellGrouped.optionalGroup hbody h
        simpa using hfront
  | close _ ih => exact ⟨[], _, [], _, .nil, ih, rfl, Or.inl rfl⟩
  | closeOptional _ ih => exact ⟨[], _, [], _, .nil, ih, rfl, Or.inr rfl⟩
  | @capture body _ _ _ hbody _ ih =>
      have hfront := ih.append_left [body] (.openCapture :: body ++ [.close])
        fun captures more h => by simpa using WellGrouped.capture hbody h
      simpa using hfront

/-- A row around which no group is open is well grouped. -/
theorem Grouped.wellGrouped {captures : List (List Token)} {tokens : List Token}
    (h : Grouped 0 captures tokens) : WellGrouped captures tokens := h.closes

/-- Whether a token neither opens nor closes anything, and repeats nothing. -/
def IsPlain (token : Token) : Prop :=
  token = .bar ∨ token = .leftBrace ∨ token = .rightBrace ∨ ∃ c, token = .char c

theorem Grouped.append_plain {depth : Nat} {captures : List (List Token)}
    {front back : List Token} (hfront : ∀ token ∈ front, IsPlain token)
    (hback : Grouped depth captures back) :
    Grouped depth captures (front ++ back) := by
  induction front with
  | nil => exact hback
  | cons token front ih =>
      have hrest :=
        ih fun other hother => hfront other (List.mem_cons_of_mem _ hother)
      rcases hfront token List.mem_cons_self with rfl | rfl | rfl | ⟨c, rfl⟩
      · exact .bar hrest
      · exact .leftBrace hrest
      · exact .rightBrace hrest
      · exact .char c hrest

/-- In a row with every group closed a capture never opens onto a question mark, so
the row is legible if no opening brace counts repetitions. -/
theorem Grouped.legible {depth : Nat} {captures : List (List Token)}
    {tokens : List Token} (h : Grouped depth captures tokens)
    (huncounted : Uncounted tokens) : Legible tokens := by
  induction h with
  | nil => exact trivial
  | leftBrace _ ih =>
      exact ⟨fun _ => not_countsRepetitions (huncounted.1 rfl), by
        simp, ih huncounted.2⟩
  | char c _ ih | rightBrace _ ih | bar _ ih | openGroup _ ih | close _ ih =>
      exact ⟨by simp, by simp, ih huncounted.2⟩
  | closeOptional _ ih =>
      exact ⟨by simp, by simp, by simp, by simp, ih huncounted.2.2⟩
  | @capture body _ _ rest hbody _ ih =>
      have hleft : .leftBrace ∉ body := hbody.brace_not_mem.1
      have hopen : .openCapture ∉ body := hbody.not_mem (by simp) (by simp) (by simp)
      have hrest : Legible (.close :: rest) :=
        ⟨by simp, by simp, ih (Uncounted.of_append body huncounted.2).2⟩
      refine ⟨by simp, fun _ => ?_, hrest.append_left hleft hopen⟩
      cases body with
      | nil => simp
      | cons token body =>
          have hoptional :=
            hbody.not_mem (show Token.optional ≠ .bar by simp) (by simp) (by simp)
          simp only [List.mem_cons, not_or] at hoptional
          simpa using Ne.symm hoptional.1

end Token

end Pattern

namespace Fragment

open Token

/-- The tokens inside the capture of a slot, by its entity type if it has one. -/
def captureTokens (vocabulary : Vocabulary) : Option Text → List Token
  | none => [.char ' ', .anyText]
  | some type => branchTokens phraseTokens ((vocabulary.lookup? type).getD [])

theorem eq_or_exists_of_mem_branchTokens {tokensOf : Text → List Token}
    {texts : List Text} {token : Token} (h : token ∈ branchTokens tokensOf texts) :
    token = .bar ∨ token = .char ' ' ∨ ∃ text ∈ texts, token ∈ tokensOf text := by
  rcases mem_joinWith h with hbar | ⟨part, hpart, hmem⟩
  · exact Or.inl (List.mem_singleton.mp hbar)
  · obtain ⟨text, htext, rfl⟩ := List.mem_map.mp hpart
    split at hmem
    · simp at hmem
    · rcases List.mem_cons.mp hmem with hspace | hmem
      · exact Or.inr (Or.inl hspace)
      · exact Or.inr (Or.inr ⟨text, htext, hmem⟩)

theorem fillsCapture_captureTokens (vocabulary : Vocabulary) (type : Option Text) :
    FillsCapture (captureTokens vocabulary type) := by
  cases type with
  | none => exact Or.inl rfl
  | some type =>
      right
      intro token htoken
      rcases eq_or_exists_of_mem_branchTokens htoken with rfl | rfl | ⟨text, _, hmem⟩
      · exact Or.inl rfl
      · exact Or.inr ⟨' ', rfl⟩
      · obtain ⟨c, _, rfl⟩ := List.mem_map.mp hmem
        exact Or.inr ⟨c, rfl⟩

theorem isPlain_of_mem_templateTokens {text : Text} {token : Token}
    (h : token ∈ templateTokens text) : IsPlain token := by
  obtain ⟨c, _, rfl⟩ := List.mem_map.mp h
  unfold templateToken
  split
  · exact Or.inr (Or.inl rfl)
  · split
    · exact Or.inr (Or.inr (Or.inl rfl))
    · exact Or.inr (Or.inr (Or.inr ⟨c, rfl⟩))

theorem mem_singleSpaced_of_mem_phraseTokens {text : Text} {c : CodePoint}
    (h : .char c ∈ phraseTokens text) : c ∈ text.singleSpaced := by
  obtain ⟨d, hd, htoken⟩ := List.mem_map.mp h
  exact Token.char.inj htoken ▸ hd

/-- The characters of a run of words that stand for themselves are those of its
words; a brace is a token of its own. -/
theorem mem_singleSpaced_of_mem_templateTokens {text : Text} {c : CodePoint}
    (h : .char c ∈ templateTokens text) : c ∈ text.singleSpaced := by
  obtain ⟨d, hd, htoken⟩ := List.mem_map.mp h
  unfold templateToken at htoken
  split at htoken
  · cases htoken
  · split at htoken
    · cases htoken
    · exact Token.char.inj htoken ▸ hd

/-- In front of a row with every group closed a fragment adds the capture of its
slot, if it has one. -/
theorem grouped_tokens_append (vocabulary : Vocabulary) (fragment : Fragment)
    {depth : Nat} {captures : List (List Token)} {rest : List Token}
    (h : Grouped depth captures rest) :
    Grouped depth
      ((fragment.slot?.map fun slot => captureTokens vocabulary slot.2).toList ++
        captures)
      (fragment.tokens vocabulary ++ rest) := by
  cases fragment with
  | parameter name value => exact h
  | untypedSlot name => exact .capture (fillsCapture_captureTokens vocabulary none) h
  | typedSlot name type =>
      have hcapture :=
        Grouped.capture (fillsCapture_captureTokens vocabulary (some type)) h
      simpa [slot?, tokens, typedTokens, captureTokens] using hcapture
  | alternatives choices =>
      have hplain : ∀ token ∈ branchTokens templateTokens choices,
          IsPlain token := by
        intro token htoken
        rcases eq_or_exists_of_mem_branchTokens htoken with rfl | rfl |
          ⟨text, _, hmem⟩
        · exact Or.inl rfl
        · exact Or.inr (Or.inr (Or.inr ⟨' ', rfl⟩))
        · exact isPlain_of_mem_templateTokens hmem
      have hgroup := Grouped.openGroup ((Grouped.close h).append_plain hplain)
      simpa [slot?, tokens, alternativesTokens] using hgroup
  | words run =>
      have hplain : ∀ token ∈ templateTokens run, IsPlain token :=
        fun _ => isPlain_of_mem_templateTokens
      exact .char ' ' (h.append_plain hplain)

/-- The tokens of a row of fragments close every group and hold the captures
of the slots. -/
theorem grouped_flatMap_tokens (vocabulary : Vocabulary)
    (fragments : List Fragment) :
    Grouped 0
      ((fragments.filterMap slot?).map fun slot => captureTokens vocabulary slot.2)
      (fragments.flatMap (tokens vocabulary)) := by
  induction fragments with
  | nil => exact .nil
  | cons fragment rest ih =>
      have hgrouped := grouped_tokens_append vocabulary fragment ih
      cases hslot : fragment.slot? with
      | none => simpa [hslot] using hgrouped
      | some slot => simpa [hslot] using hgrouped

end Fragment

end UtteranceTemplate

import UtteranceTemplate.Pattern.Token

/-!
Braces as shorthand for optional text. In the tokens of a template, an opening
brace and the first closing brace after it make what stands between them optional;
they become a group and its question mark. All other braces stay what they are,
literal characters.

Since only bare braces are tokens of their own, a brace that stands for itself never
opens or closes anything. `resolveBraces_append_of_closed` says that tokens whose
last brace is not an opening one resolve on their own, whatever follows.
-/

namespace UtteranceTemplate

namespace Pattern

namespace Token

/-- Resolves braces from a place that is inside optional text or outside it. -/
def resolveFrom (inside : Bool) : List Token → List Token
  | [] => []
  | token :: rest =>
      if inside then
        match token with
        | .rightBrace => .close :: .optional :: resolveFrom false rest
        | _ => token :: resolveFrom true rest
      else
        match token with
        | .leftBrace =>
            if rest.contains .rightBrace then .openGroup :: resolveFrom true rest
            else .leftBrace :: resolveFrom false rest
        | _ => token :: resolveFrom false rest

/-- The tokens with an optional group in place of every pair of braces. -/
def resolveBraces (tokens : List Token) : List Token := resolveFrom false tokens

/-- Tokens in which a closing brace comes after every opening one. -/
def Closed (tokens : List Token) : Prop :=
  ∀ before after, tokens = before ++ .leftBrace :: after → .rightBrace ∈ after

theorem resolveFrom_append (inside : Bool) (tokens rest : List Token)
    (h : Closed tokens) (hinside : inside = true → .rightBrace ∈ tokens) :
    resolveFrom inside (tokens ++ rest) =
      resolveFrom inside tokens ++ resolveFrom false rest := by
  induction tokens generalizing inside with
  | nil =>
      cases inside with
      | false => rfl
      | true => simp at hinside
  | cons token tokens ih =>
      have htail : Closed tokens := fun before after heq =>
        h (token :: before) after (by rw [heq]; rfl)
      cases inside with
      | true =>
          have hmem := hinside rfl
          by_cases htoken : token = .rightBrace
          · subst htoken
            simp [resolveFrom, ih false htail (by simp)]
          · have hmem' : .rightBrace ∈ tokens := by
              rcases List.mem_cons.mp hmem with heq | hmem
              · exact absurd heq.symm htoken
              · exact hmem
            have hstep := ih true htail fun _ => hmem'
            cases token <;> simp_all [resolveFrom]
      | false =>
          by_cases htoken : token = .leftBrace
          · subst htoken
            have hmem : .rightBrace ∈ tokens := h [] tokens rfl
            have hstep := ih true htail fun _ => hmem
            have hmem' : .rightBrace ∈ tokens ++ rest := List.mem_append_left _ hmem
            simp [resolveFrom, hmem, hstep]
          · have hstep := ih false htail (by simp)
            cases token <;> simp_all [resolveFrom]

/-- Tokens in which a closing brace comes after every opening one resolve on
their own. -/
theorem resolveBraces_append_of_closed (tokens rest : List Token)
    (h : Closed tokens) :
    resolveBraces (tokens ++ rest) = resolveBraces tokens ++ resolveBraces rest :=
  resolveFrom_append false tokens rest h (by simp)

end Token

end Pattern

end UtteranceTemplate

import UtteranceTemplate.Proofs.CompiledMatcher
import UtteranceTemplate.Proofs.Cutting

/-!
What the tokens of a fragment are read as.

A fragment adds the same items wherever it stands
(`Fragment.adds_resolvedTokens`): the characters of its words and of its phrases,
an optional item for each pair of braces, a choice for alternatives and a capture
for a slot. The braces of a template whose braces are local are resolved fragment
by fragment (`resolveBraces_flatMap_tokens`), so the pattern of such a template is
the sequence of these items.
-/

namespace UtteranceTemplate

open Pattern Token

namespace Pattern

namespace Branches

/-- Adds several items to the branch being read. -/
def pushAll (branches : Branches) (items : List Pattern) : Branches :=
  { branches with items := items.reverse ++ branches.items }

theorem pushAll_append (branches : Branches) (front back : List Pattern) :
    branches.pushAll (front ++ back) = (branches.pushAll front).pushAll back := by
  simp [pushAll]

theorem branch_pushAll_of_items_eq_nil {branches : Branches}
    (h : branches.items = []) (items : List Pattern) :
    (branches.pushAll items).branch = items.flatMap Pattern.items := by
  simp [pushAll, branch, h]

end Branches

open Branches

/-- Rows that add given items to the branch being read, whatever it holds. -/
def Adds (tokens : List Token) (items : List Pattern) : Prop :=
  ∀ current : Branches, Leads current tokens (current.pushAll items)

namespace Adds

theorem nil : Adds [] [] := Leads.nil

theorem append {front back : List Token} {items more : List Pattern}
    (hfront : Adds front items) (hback : Adds back more) :
    Adds (front ++ back) (items ++ more) := by
  intro current
  rw [pushAll_append]
  exact (hfront current).append (hback _)

theorem char (c : CodePoint) : Adds [.char c] [.char c] :=
  fun current => Leads.char current c

theorem chars (text : Text) : Adds (text.map .char) (text.map .char) := by
  induction text with
  | nil => exact nil
  | cons c text ih => exact (char c).append ih

/-- Rows between bars lead from the start to the choice between their items. -/
theorem exists_leads_joinWith {rows : List (List Token)}
    {branches : List (List Pattern)} (hne : rows ≠ [])
    (h : List.Forall₂ Adds rows branches)
    (hitems : ∀ branch ∈ branches, branch.flatMap Pattern.items = branch) :
    ∃ inner, Leads .start (joinWith [.bar] rows) inner ∧
      inner.pattern = choice branches := by
  suffices hleads : ∀ finished : List (List Pattern), ∃ inner,
      Leads ⟨finished, []⟩ (joinWith [.bar] rows) inner ∧
        (inner.branch :: inner.finished).reverse = finished.reverse ++ branches by
    obtain ⟨inner, hinner, hbranches⟩ := hleads []
    exact ⟨inner, hinner, by rw [Branches.pattern, hbranches]; rfl⟩
  induction h with
  | nil => exact absurd rfl hne
  | @cons row branch rows branches hrow hrows ih =>
      intro finished
      have hbranch : (pushAll ⟨finished, []⟩ branch).branch = branch := by
        rw [branch_pushAll_of_items_eq_nil rfl, hitems branch List.mem_cons_self]
      cases hrows with
      | nil =>
          refine ⟨_, hrow _, ?_⟩
          rw [hbranch]
          simp [pushAll]
      | @cons next _ rows _ hnext hrows =>
          have hrest := ih (by simp) fun other hother =>
            hitems other (List.mem_cons_of_mem _ hother)
          obtain ⟨inner, hinner, hbranches⟩ := hrest (branch :: finished)
          refine ⟨inner, ?_, by rw [hbranches]; simp⟩
          have hbar := Leads.bar (pushAll ⟨finished, []⟩ branch)
          rw [Branches.next, hbranch] at hbar
          exact ((hrow _).append hbar).append hinner

/-- A group of rows between bars adds the choice between their items. -/
theorem group {rows : List (List Token)} {branches : List (List Pattern)}
    (hne : rows ≠ []) (h : List.Forall₂ Adds rows branches)
    (hitems : ∀ branch ∈ branches, branch.flatMap Pattern.items = branch) :
    Adds (.openGroup :: joinWith [.bar] rows ++ [.close]) [choice branches] := by
  intro current
  obtain ⟨inner, hinner, hpattern⟩ := exists_leads_joinWith hne h hitems
  rw [← hpattern]
  exact Leads.group current hinner

/-- A group with a question mark behind it adds its items as an optional one. -/
theorem optional {row : List Token} {items : List Pattern} (h : Adds row items) :
    Adds (.openGroup :: row ++ [.close, .optional])
      [.opt (seq (items.flatMap Pattern.items))] := by
  intro current
  have hgroup := Leads.group current (h .start)
  have hpattern : (Branches.start.pushAll items).pattern =
      seq (items.flatMap Pattern.items) := by
    rw [Branches.pattern, branch_pushAll_of_items_eq_nil rfl]
    rfl
  rw [hpattern] at hgroup
  exact Leads.optional hgroup

end Adds

end Pattern

def BracePart.item : BracePart → Pattern
  | .letter c => .char c
  | .optional text => .opt (seq (text.map .char))

theorem BracePart.flatMap_items_map_item (parts : List BracePart) :
    (parts.map item).flatMap Pattern.items = parts.map item := by
  induction parts with
  | nil => rfl
  | cons part parts ih =>
      rw [List.map_cons, List.flatMap_cons, ih]
      cases part <;> rfl

namespace Pattern

open Branches

theorem flatMap_items_chars (text : Text) :
    (text.map Pattern.char).flatMap Pattern.items = text.map .char := by
  induction text with
  | nil => rfl
  | cons c text ih => rw [List.map_cons, List.flatMap_cons, ih]; rfl

namespace Adds

/-- A brace that stays bare adds the character that it is. -/
theorem templateToken
    (c : CodePoint) : Adds [Fragment.templateToken c] [.char c] := by
  intro current
  by_cases hleft : c = '{'
  · subst hleft
    exact Leads.leftBrace current
  · by_cases hright : c = '}'
    · subst hright
      exact Leads.rightBrace current
    · simp only [Fragment.templateToken, hleft, hright, if_false]
      exact Leads.char current c

theorem templateTokens (text : Text) :
    Adds (text.map Fragment.templateToken) (text.map .char) := by
  induction text with
  | nil => exact nil
  | cons c text ih => exact (templateToken c).append ih

end Adds

namespace Token

theorem rightBrace_mem_map_templateToken {text : Text} :
    .rightBrace ∈ text.map Fragment.templateToken ↔ .char '}' ∈ text := by
  rw [List.mem_map]
  constructor
  · rintro ⟨c, hc, htoken⟩
    have hright : c = '}' := by
      unfold Fragment.templateToken at htoken
      split at htoken
      · cases htoken
      · split at htoken
        · assumption
        · cases htoken
    exact hright ▸ hc
  · intro hmem
    exact ⟨'}', hmem, rfl⟩

theorem eq_of_templateToken_eq_leftBrace {c : CodePoint}
    (h : Fragment.templateToken c = .leftBrace) : c = '{' := by
  unfold Fragment.templateToken at h
  split at h
  · assumption
  · split at h <;> cases h

/-- Inside optional text everything up to the first closing brace stays as it is. -/
theorem resolveFrom_true_append {front : List Token} (h : .rightBrace ∉ front)
    (back : List Token) :
    resolveFrom true (front ++ .rightBrace :: back) =
      front ++ .close :: .optional :: resolveFrom false back := by
  induction front with
  | nil => rfl
  | cons token front ih =>
      simp only [List.mem_cons, not_or] at h
      have hrest := ih h.2
      cases token <;> simp_all [resolveFrom]

/-- Outside optional text a token stays as it is unless it begins a pair of
braces. -/
theorem resolveFrom_false_cons {token : Token} {rest : List Token}
    (h : token = .leftBrace → .rightBrace ∉ rest) :
    resolveFrom false (token :: rest) = token :: resolveFrom false rest := by
  cases token <;> simp_all [resolveFrom]

end Token

/-- The tokens of a text add the items of its parts, once their braces are
resolved. -/
theorem adds_resolveFrom_templateToken (text : Text) :
    Adds (resolveFrom false (text.map Fragment.templateToken))
      ((braceParts text).map BracePart.item) := by
  fun_induction braceParts text with
  | case1 => exact Adds.nil
  | case2 c rest hpair ih =>
      obtain ⟨rfl, hmem⟩ := hpair
      obtain ⟨inside, more, rfl, hinside⟩ := List.eq_append_cons_of_mem hmem
      have hpass : ∀ c ∈ inside, (decide (c ≠ '}')) = true := by
        intro c hc
        simpa using fun heq : c = '}' => hinside (heq ▸ hc)
      have htake :
          (inside ++ .char '}' :: more).takeWhile (· ≠ .char '}') = inside := by
        rw [List.takeWhile_append_of_pos hpass]
        simp
      have hdrop :
          ((inside ++ .char '}' :: more).dropWhile (· ≠ .char '}')).tail = more := by
        rw [List.dropWhile_append_of_pos hpass]
        simp
      rw [hdrop] at ih
      rw [htake, hdrop]
      have hright : Token.rightBrace ∉ inside.map Fragment.templateToken :=
        fun hmem => hinside (rightBrace_mem_map_templateToken.mp hmem)
      have hresolve :
          resolveFrom false ((.char '{' :: (inside ++ .char '}' :: more)).map
          Fragment.templateToken) =
            (.openGroup :: inside.map Fragment.templateToken ++
              [.close, .optional]) ++
              resolveFrom false (more.map Fragment.templateToken) := by
        have hbraces :
            (.char '{' :: (inside ++ .char '}' :: more)).map Fragment.templateToken =
            .leftBrace :: (inside.map Fragment.templateToken ++
              .rightBrace :: more.map Fragment.templateToken) := by
          rw [List.map_cons, List.map_append, List.map_cons]
          rfl
        have hpaired :=
          resolveFrom_true_append hright (more.map Fragment.templateToken)
        rw [hbraces]
        simp [resolveFrom, hpaired]
      have hoptional := (Adds.templateTokens inside).optional
      rw [flatMap_items_chars] at hoptional
      rw [hresolve]
      exact hoptional.append ih
  | case3 c rest hpair ih =>
      rw [List.map_cons, resolveFrom_false_cons]
      · exact (Adds.templateToken c).append ih
      · intro hleft hmem
        exact hpair ⟨eq_of_templateToken_eq_leftBrace hleft,
          rightBrace_mem_map_templateToken.mp hmem⟩

end Pattern

namespace Fragment

/-- The items of each of several texts, behind a space unless the text is empty. -/
def branchItems (itemsOf : Text → List Pattern) (texts : List Text) :
    List (List Pattern) :=
  (atLeastOne texts).map fun text => if text.isEmpty then []
    else .char ' ' :: itemsOf text

def bracedItems (text : Text) : List Pattern :=
  (braceParts text.singleSpaced).map BracePart.item

def phraseItems (phrase : Text) : List Pattern := phrase.singleSpaced.map .char

/-- The branches between which a fragment chooses, each with its items; an
untyped slot has none. -/
def branches (vocabulary : Vocabulary) : Fragment → List (List Pattern)
  | .parameter _ _ => [[]]
  | .untypedSlot _ => []
  | .typedSlot _ type => branchItems phraseItems ((vocabulary.lookup? type).getD [])
  | .alternatives choices => branchItems bracedItems choices
  | .words run => [.char ' ' :: bracedItems run]

def items (vocabulary : Vocabulary) : Fragment → List Pattern
  | .parameter _ _ => []
  | .untypedSlot _ => [.capture (seq [.char ' ', .anyText])]
  | .typedSlot name type =>
      [.capture (choice ((typedSlot name type).branches vocabulary))]
  | .alternatives choices => [choice ((alternatives choices).branches vocabulary)]
  | .words run => .char ' ' :: bracedItems run

/-- The tokens of one of several texts: behind a space unless the text is empty. -/
def rowTokens (tokensOf : Text → List Token) (text : Text) : List Token :=
  if text.isEmpty then [] else .char ' ' :: tokensOf text

def resolvedTokens (vocabulary : Vocabulary) : Fragment → List Token
  | .alternatives choices =>
      .openGroup ::
        joinWith [.bar] (choices.map fun choice =>
          resolveBraces (rowTokens templateTokens choice)) ++ [.close]
  | .words run => resolveBraces (wordsTokens run)
  | fragment => fragment.tokens vocabulary

theorem joinWith_atLeastOne {rowOf : Text → List Token} (hempty : rowOf [] = [])
    (texts : List Text) :
    joinWith [.bar] ((atLeastOne texts).map rowOf) =
      joinWith [.bar] (texts.map rowOf) := by
  cases texts with
  | nil => simp [atLeastOne, joinWith, hempty]
  | cons text texts => rfl

theorem forall₂_adds_branchItems {rowOf : Text → List Token}
    {itemsOf : Text → List Pattern} (hempty : rowOf [] = [])
    (h : ∀ text, text ≠ [] → Adds (rowOf text) (.char ' ' :: itemsOf text))
    (texts : List Text) :
    List.Forall₂ Adds ((atLeastOne texts).map rowOf)
      (branchItems itemsOf texts) := by
  rw [branchItems, List.forall₂_map_left_iff, List.forall₂_map_right_iff,
    List.forall₂_same]
  intro text _
  by_cases hnil : text = []
  · subst hnil
    rw [hempty]
    exact Adds.nil
  · have hne : text.isEmpty = false := by simpa using hnil
    simp only [hne, Bool.false_eq_true, if_false]
    exact h text hnil

theorem flatMap_items_branchItems {itemsOf : Text → List Pattern}
    (h : ∀ text, (itemsOf text).flatMap Pattern.items = itemsOf text)
    (texts : List Text) :
    ∀ branch ∈ branchItems itemsOf texts, branch.flatMap Pattern.items = branch := by
  intro branch hbranch
  obtain ⟨text, _, rfl⟩ := List.mem_map.mp hbranch
  split
  · rfl
  · rw [List.flatMap_cons, h]
    rfl

theorem atLeastOne_ne_nil (texts : List Text) : atLeastOne texts ≠ [] := by
  cases texts <;> simp [atLeastOne]

theorem adds_templateTokens (text : Text) :
    Adds (resolveBraces (.char ' ' :: templateTokens text))
      (.char ' ' :: bracedItems text) := by
  rw [resolveBraces, resolveFrom_false_cons (by simp)]
  exact (Adds.char ' ').append (adds_resolveFrom_templateToken text.singleSpaced)

/-- Between the parentheses of a typed slot the phrases are read as they are
spelled. -/
theorem exists_leads_typed (phrases : List Text) :
    ∃ inner, Branches.Leads .start (branchTokens phraseTokens phrases) inner ∧
      inner.pattern = choice (branchItems phraseItems phrases) := by
  have hadds : ∀ text : Text, text ≠ [] → Adds (rowTokens phraseTokens text)
      (.char ' ' :: phraseItems text) := by
    intro text hne
    have htext : text.isEmpty = false := by simpa using hne
    simp only [rowTokens, htext, Bool.false_eq_true, if_false]
    exact (Adds.char ' ').append (Adds.chars text.singleSpaced)
  have hempty : rowTokens phraseTokens [] = [] := rfl
  have hleads :=
    Adds.exists_leads_joinWith (by simpa using atLeastOne_ne_nil phrases)
      (forall₂_adds_branchItems hempty hadds phrases)
      (flatMap_items_branchItems (fun text => flatMap_items_chars _) phrases)
  rw [joinWith_atLeastOne hempty] at hleads
  exact hleads

/-- Wherever a fragment stands, its tokens add its items, once the braces of its
texts are resolved. -/
theorem adds_resolvedTokens (vocabulary : Vocabulary) (fragment : Fragment) :
    Adds (fragment.resolvedTokens vocabulary) (fragment.items vocabulary) := by
  cases fragment with
  | parameter name value => exact Adds.nil
  | untypedSlot name =>
      intro current
      have hbody : Branches.Leads .start [.char ' ', .anyText]
          (Branches.start.pushAll [.char ' ', .anyText]) :=
        (Branches.Leads.char _ ' ').append (Branches.Leads.anyText _)
      exact Branches.Leads.capture current hbody
  | typedSlot name type =>
      intro current
      obtain ⟨inner, hinner, hpattern⟩ :=
        exists_leads_typed ((vocabulary.lookup? type).getD [])
      rw [items, branches, ← hpattern]
      exact Branches.Leads.capture current hinner
  | alternatives choices =>
      have hempty : resolveBraces (rowTokens templateTokens []) = [] := rfl
      have hadds : ∀ text : Text, text ≠ [] →
          Adds (resolveBraces (rowTokens templateTokens text))
          (.char ' ' :: bracedItems text) := by
        intro text hne
        have htext : text.isEmpty = false := by simpa using hne
        simp only [rowTokens, htext, Bool.false_eq_true, if_false]
        exact adds_templateTokens text
      have hgroup := Adds.group (by simpa using atLeastOne_ne_nil choices)
        (forall₂_adds_branchItems hempty hadds choices)
        (flatMap_items_branchItems
          (fun text => BracePart.flatMap_items_map_item _) choices)
      rw [joinWith_atLeastOne hempty] at hgroup
      exact hgroup
  | words run => exact adds_templateTokens run

end Fragment

end UtteranceTemplate

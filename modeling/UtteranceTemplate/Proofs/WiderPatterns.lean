import UtteranceTemplate.Proofs.PatternLanguage

/-!
Patterns of one shape, of which one has wider captures.

`Widens` relates two patterns that differ inside their captures only, where the
second may leave whatever the first may leave. Such patterns keep that relation to
each other (`Widens.covers`), although what a choice reads before it branches depends
on the branches: the captures are never part of it (`Widens.splitCommon`,
`Widens.choice`). So two readers of patterns that are related before a token are
related behind it (`Reader.Widens.step`).
-/

namespace UtteranceTemplate

namespace Pattern

variable {ignoreCase : Bool} {text rest : Text}

/-- Whether a pattern may leave whatever another one may leave. -/
def Covers (ignoreCase : Bool) (narrow wide : Pattern) : Prop :=
  ∀ text rest, Leaves ignoreCase [narrow] text rest →
    Leaves ignoreCase [wide] text rest

/-- Patterns of one shape; what a capture of the second surrounds covers what that of
the first does. -/
inductive Widens (ignoreCase : Bool) : Pattern → Pattern → Prop
  | empty : Widens ignoreCase .empty .empty
  | char (c : CodePoint) : Widens ignoreCase (.char c) (.char c)
  | oneOf (members : List CodePoint) :
      Widens ignoreCase (.oneOf members) (.oneOf members)
  | anyText : Widens ignoreCase .anyText .anyText
  | cat {p p' q q' : Pattern} (hp : Widens ignoreCase p p')
      (hq : Widens ignoreCase q q') :
      Widens ignoreCase (.cat p q) (.cat p' q')
  | alt {p p' q q' : Pattern} (hp : Widens ignoreCase p p')
      (hq : Widens ignoreCase q q') :
      Widens ignoreCase (.alt p q) (.alt p' q')
  | opt {p p' : Pattern} (hp : Widens ignoreCase p p') :
      Widens ignoreCase (.opt p) (.opt p')
  | capture {p p' : Pattern} (hp : Covers ignoreCase p p') :
      Widens ignoreCase (.capture p) (.capture p')

namespace Widens

/-- A pattern with wider captures may leave whatever the other one may leave. -/
theorem covers {p q : Pattern}
    (h : Widens ignoreCase p q) : Covers ignoreCase p q := by
  induction h with
  | empty | char c | oneOf members | anyText => exact fun _ _ hleaves => hleaves
  | cat _ _ ihp ihq =>
      intro text rest hleaves
      obtain ⟨middle, hfirst, hsecond⟩ := leaves_singleton_cat.mp hleaves
      exact leaves_singleton_cat.mpr ⟨middle, ihp _ _ hfirst, ihq _ _ hsecond⟩
  | alt _ _ ihp ihq =>
      intro text rest hleaves
      rcases leaves_singleton_alt.mp hleaves with hleft | hright
      · exact leaves_singleton_alt.mpr (Or.inl (ihp _ _ hleft))
      · exact leaves_singleton_alt.mpr (Or.inr (ihq _ _ hright))
  | opt _ ih =>
      intro text rest hleaves
      rcases leaves_singleton_opt.mp hleaves with hkept | hdropped
      · exact leaves_singleton_opt.mpr (Or.inl (ih _ _ hkept))
      · exact leaves_singleton_opt.mpr (Or.inr hdropped)
  | capture hp =>
      intro text rest hleaves
      exact leaves_singleton_capture.mpr
        (hp _ _ (leaves_singleton_capture.mp hleaves))

theorem members?_eq {p q : Pattern} (h : Widens ignoreCase p q) :
    p.members? = q.members? := by
  cases h <;> rfl

/-- A character or a set has no captures in which a related pattern could differ. -/
theorem eq_of_members? {p q : Pattern} (h : Widens ignoreCase p q)
    (hp : p.members?.isSome) :
    p = q := by
  cases h with
  | char | oneOf => rfl
  | empty | anyText | cat | alt | opt | capture => cases hp

variable {branch branch' : List Pattern} {branches branches' : List (List Pattern)}

theorem seq (h : List.Forall₂ (Widens ignoreCase) branch branch') :
    Widens ignoreCase (Pattern.seq branch) (Pattern.seq branch') := by
  induction h with
  | nil => exact .empty
  | cons hp _ ih => exact .cat hp ih

theorem items {p q : Pattern} (h : Widens ignoreCase p q) :
    List.Forall₂ (Widens ignoreCase) p.items q.items := by
  induction h with
  | empty => exact .nil
  | cat _ _ ihp ihq => exact List.rel_append ihp ihq
  | char c => exact .cons (.char c) .nil
  | oneOf members => exact .cons (.oneOf members) .nil
  | anyText => exact .cons .anyText .nil
  | alt hp hq => exact .cons (.alt hp hq) .nil
  | opt hp => exact .cons (.opt hp) .nil
  | capture hp => exact .cons (.capture hp) .nil

theorem flatMap_items (h : List.Forall₂ (Widens ignoreCase) branch branch') :
    List.Forall₂ (Widens ignoreCase) (branch.flatMap Pattern.items)
      (branch'.flatMap Pattern.items) := by
  induction h with
  | nil => exact .nil
  | cons hp _ ih => exact List.rel_append hp.items ih

theorem anyOf (h : List.Forall₂ (Widens ignoreCase) branch branch') :
    Widens ignoreCase (Pattern.anyOf branch) (Pattern.anyOf branch') := by
  induction h with
  | nil => exact .empty
  | cons hp hrest ih =>
      cases hrest with
      | nil => exact hp
      | cons _ _ => exact .alt hp ih

theorem branchMembers?_eq (h : List.Forall₂ (Widens ignoreCase) branch branch') :
    branchMembers? branch = branchMembers? branch' := by
  cases h with
  | nil => rfl
  | cons hp hrest =>
      cases hrest with
      | nil => exact hp.members?_eq
      | cons _ _ => rfl

theorem mapM_branchMembers?_eq
    (h : List.Forall₂ (List.Forall₂ (Widens ignoreCase)) branches branches') :
    branches.mapM branchMembers? = branches'.mapM branchMembers? := by
  induction h with
  | nil => rfl
  | cons hbranch _ ih =>
      rw [List.mapM_cons, List.mapM_cons, branchMembers?_eq hbranch, ih]

/-- Related branches begin with the same character or set, if they begin with one. -/
theorem head?_beq_eq (h : List.Forall₂ (Widens ignoreCase) branch branch')
    {p : Pattern} (hp : p.members?.isSome) :
    (branch.head? == some p) = (branch'.head? == some p) := by
  cases h with
  | nil => rfl
  | @cons q q' _ _ hq _ =>
      simp only [List.head?_cons]
      rw [Bool.eq_iff_iff, beq_iff_eq, beq_iff_eq, Option.some.injEq,
        Option.some.injEq]
      constructor
      · rintro rfl
        exact (hq.eq_of_members? hp).symm
      · rintro rfl
        exact hq.eq_of_members? (hq.members?_eq ▸ hp)

theorem all_head?_beq_eq
    (h : List.Forall₂ (List.Forall₂ (Widens ignoreCase)) branches branches')
    {p : Pattern} (hp : p.members?.isSome) :
    branches.all (fun branch => branch.head? == some p) =
      branches'.all (fun branch => branch.head? == some p) := by
  induction h with
  | nil => rfl
  | cons hbranch _ ih =>
      rw [List.all_cons, List.all_cons, head?_beq_eq hbranch hp, ih]

theorem map_tail
    (h : List.Forall₂ (List.Forall₂ (Widens ignoreCase)) branches branches') :
    List.Forall₂ (List.Forall₂ (Widens ignoreCase)) (branches.map List.tail)
      (branches'.map List.tail) := by
  rw [List.forall₂_map_left_iff, List.forall₂_map_right_iff]
  refine h.imp fun _ _ hbranch => ?_
  cases hbranch with
  | nil => exact .nil
  | cons _ hrest => exact hrest

/-- Related branches share the same beginning, and what is left of them is
related. -/
theorem splitCommon (hbranch : List.Forall₂ (Widens ignoreCase) branch branch')
    (hothers : List.Forall₂ (List.Forall₂ (Widens ignoreCase)) branches branches') :
    (Pattern.splitCommon branch branches).1 =
      (Pattern.splitCommon branch' branches').1 ∧
      List.Forall₂ (Widens ignoreCase) (Pattern.splitCommon branch branches).2.1
        (Pattern.splitCommon branch' branches').2.1 ∧
      List.Forall₂ (List.Forall₂ (Widens ignoreCase))
        (Pattern.splitCommon branch branches).2.2
        (Pattern.splitCommon branch' branches').2.2 := by
  induction hbranch generalizing branches branches' with
  | nil => exact ⟨rfl, .nil, hothers⟩
  | @cons p p' rest rest' hp hrest ih =>
      by_cases hmembers : p.members?.isSome = true
      · obtain rfl := hp.eq_of_members? hmembers
        have hall := all_head?_beq_eq hothers hmembers
        simp only [Pattern.splitCommon, ← hall]
        split
        · obtain ⟨hcommon, hleft, hlefts⟩ := ih (map_tail hothers)
          exact ⟨congrArg (p :: ·) hcommon, hleft, hlefts⟩
        · exact ⟨rfl, .cons hp hrest, hothers⟩
      · have hmembers' : p'.members?.isSome = false := by
          rw [← hp.members?_eq]
          simpa using hmembers
        simp only [Pattern.splitCommon, hmembers, hmembers', Bool.false_and,
          Bool.false_eq_true, if_false]
        exact ⟨trivial, .cons hp hrest, hothers⟩

theorem forall₂_refl_of_members? (h : ∀ p ∈ branch, p.members?.isSome) :
    List.Forall₂ (Widens ignoreCase) branch branch := by
  rw [List.forall₂_same]
  intro p hp
  have hmembers := h p hp
  cases p with
  | char c => exact .char c
  | oneOf members => exact .oneOf members
  | empty | anyText | cat | alt | opt | capture => cases hmembers

/-- The choice between related branches is related. -/
theorem choice
    (h : List.Forall₂ (List.Forall₂ (Widens ignoreCase)) branches branches') :
    Widens ignoreCase (Pattern.choice branches) (Pattern.choice branches') := by
  cases h with
  | nil => exact .empty
  | @cons branch branch' others others' hbranch hothers =>
      cases hothers with
      | nil => exact seq hbranch
      | @cons other other' others others' hother hothers =>
          obtain ⟨_, _, hmembers⟩ := splitCommon_spec branch (other :: others)
          obtain ⟨hcommon, hrest, hrests⟩ :=
            splitCommon hbranch (.cons hother hothers)
          rw [choice_cons _ (List.cons_ne_nil other others),
            choice_cons _ (List.cons_ne_nil other' others')]
          generalize Pattern.splitCommon branch (other :: others) = split
            at hmembers hcommon hrest hrests
          generalize Pattern.splitCommon branch' (other' :: others') = split'
            at hcommon hrest hrests
          obtain ⟨common, rest, rests⟩ := split
          obtain ⟨common', rest', rests'⟩ := split'
          simp only at hmembers hcommon hrest hrests ⊢
          subst hcommon
          have hfront : List.Forall₂ (Widens ignoreCase) common common :=
            forall₂_refl_of_members? hmembers
          rw [mapM_branchMembers?_eq (.cons hrest hrests)]
          split
          · exact seq (List.rel_append hfront (.cons (.oneOf _) .nil))
          · have hseqs :
                List.Forall₂ (Widens ignoreCase) ((rest :: rests).map Pattern.seq)
                ((rest' :: rests').map Pattern.seq) := by
              rw [List.forall₂_map_left_iff, List.forall₂_map_right_iff]
              exact (List.Forall₂.cons hrest hrests).imp fun _ _ => seq
            exact seq (List.rel_append hfront (.cons (anyOf hseqs) .nil))

end Widens

/-- Branches that are related one by one, items included. -/
structure Branches.Widens (ignoreCase : Bool) (narrow wide : Branches) : Prop where
  finished : List.Forall₂ (List.Forall₂ (Pattern.Widens ignoreCase)) narrow.finished
    wide.finished
  items : List.Forall₂ (Pattern.Widens ignoreCase) narrow.items wide.items

namespace Branches.Widens

variable {narrow wide : Branches}

theorem start : Branches.start.Widens ignoreCase Branches.start := ⟨.nil, .nil⟩

theorem push (h : narrow.Widens ignoreCase wide) {p q : Pattern}
    (hitem : Pattern.Widens ignoreCase p q) :
    (narrow.push p).Widens ignoreCase (wide.push q) :=
  ⟨h.finished, .cons hitem h.items⟩

theorem branch (h : narrow.Widens ignoreCase wide) :
    List.Forall₂ (Pattern.Widens ignoreCase) narrow.branch wide.branch :=
  Pattern.Widens.flatMap_items (List.rel_reverse h.items)

theorem next (h : narrow.Widens ignoreCase wide) :
    narrow.next.Widens ignoreCase wide.next :=
  ⟨.cons h.branch h.finished, .nil⟩

theorem pattern (h : narrow.Widens ignoreCase wide) :
    Pattern.Widens ignoreCase narrow.pattern wide.pattern :=
  Pattern.Widens.choice (List.rel_reverse (.cons h.branch h.finished))

end Branches.Widens

/-- Open groups of the same kind, with related branches around them. -/
structure OpenGroup.Widens (ignoreCase : Bool) (narrow wide : OpenGroup) : Prop where
  captures : narrow.captures = wide.captures
  outer : narrow.outer.Widens ignoreCase wide.outer

/-- Readers behind the same token, inside related groups and branches. -/
structure Reader.Widens (ignoreCase : Bool) (narrow wide : Reader) : Prop where
  groups : List.Forall₂ (OpenGroup.Widens ignoreCase) narrow.groups wide.groups
  current : narrow.current.Widens ignoreCase wide.current
  previous : narrow.previous = wide.previous

/-- Behind anything but a question mark or free text, a question mark makes the
last item optional. -/
theorem Reader.optionalAt_cons {groups : List OpenGroup}
    {finished : List (List Pattern)} {item : Pattern} {items : List Pattern}
    {previous : Option Token} (position : Nat)
    (hoptional : previous ≠ some .optional) (hany : previous ≠ some .anyText) :
    Reader.optionalAt ⟨groups, ⟨finished, item :: items⟩, previous⟩ position =
      .ok ⟨groups, ⟨finished, .opt item :: items⟩, previous⟩ := by
  unfold Reader.optionalAt
  split
  · exact absurd ‹_› hoptional
  · exact absurd ‹_› hoptional
  · exact absurd ‹_› hany
  · cases ‹item :: items = []›
  · rename_i hitems _ _ _
    cases hitems
    rfl

namespace Reader.Widens

variable {narrow wide next : Reader}

theorem start : Reader.start.Widens ignoreCase Reader.start := ⟨.nil, .start, rfl⟩

theorem closeAt (h : narrow.Widens ignoreCase wide) {position position' : Nat}
    (hnext : narrow.closeAt position = .ok next) :
    ∃ next', wide.closeAt position' = .ok next' ∧ next.Widens ignoreCase next' := by
  obtain ⟨groups, current, previous⟩ := narrow
  obtain ⟨groups', current', previous'⟩ := wide
  obtain ⟨hgroups, hcurrent, hprevious⟩ := h
  simp only at hgroups hcurrent hprevious
  cases hgroups with
  | nil => cases hnext
  | @cons group group' outer outer' hgroup houter =>
      cases hnext
      refine ⟨_, rfl, houter, ?_, hprevious⟩
      simp only [hgroup.captures]
      refine hgroup.outer.push ?_
      split
      · exact .capture hcurrent.pattern.covers
      · exact hcurrent.pattern

theorem optionalAt (h : narrow.Widens ignoreCase wide) {position position' : Nat}
    (hnext : narrow.optionalAt position = .ok next) :
    ∃ next', wide.optionalAt position' = .ok next' ∧
      next.Widens ignoreCase next' := by
  obtain ⟨groups, ⟨finished, items⟩, previous⟩ := narrow
  obtain ⟨groups', ⟨finished', items'⟩, previous'⟩ := wide
  obtain ⟨hgroups, ⟨hfinished, hitems⟩, hprevious⟩ := h
  simp only at hgroups hfinished hitems hprevious
  subst hprevious
  cases hitems with
  | nil =>
      unfold Reader.optionalAt at hnext
      split at hnext <;> simp_all
  | cons hitem hrest =>
      by_cases hoptional : previous = some .optional
      · subst hoptional
        cases hitem with
        | opt hbody =>
            cases hnext
            exact ⟨_, rfl, hgroups,
              ⟨hfinished, .cons (.alt .empty hbody) hrest⟩, rfl⟩
        | empty | char | oneOf | anyText | cat | alt | capture => cases hnext
      · by_cases hany : previous = some .anyText
        · subst hany
          cases hnext
        · rw [optionalAt_cons position hoptional hany] at hnext
          cases hnext
          exact ⟨_, optionalAt_cons position' hoptional hany, hgroups,
            ⟨hfinished, .cons (.opt hitem) hrest⟩, rfl⟩

/-- Related readers take in the same token and are related behind it. -/
theorem step (h : narrow.Widens ignoreCase wide) {position position' : Nat}
    {token : Token} (hnext : narrow.step (position, token) = .ok next) :
    ∃ next', wide.step (position', token) = .ok next' ∧
      next.Widens ignoreCase next' := by
  obtain ⟨taken, htaken, rfl⟩ := Reader.step_eq_ok_iff.mp hnext
  suffices hwide : ∃ taken', wide.take position' token = .ok taken' ∧
      taken.Widens ignoreCase taken' by
    obtain ⟨taken', htaken', hgroups, hcurrent, _⟩ := hwide
    exact ⟨{ taken' with previous := some token },
      Reader.step_eq_ok_iff.mpr ⟨taken', htaken', rfl⟩, hgroups, hcurrent, rfl⟩
  cases token with
  | char c =>
      cases htaken
      exact ⟨_, rfl, h.groups, h.current.push (.char c), h.previous⟩
  | leftBrace | rightBrace =>
      cases htaken
      exact ⟨_, rfl, h.groups, h.current.push (.char _), h.previous⟩
  | anyText =>
      cases htaken
      exact ⟨_, rfl, h.groups, h.current.push .anyText, h.previous⟩
  | openCapture | openGroup =>
      cases htaken
      exact ⟨_, rfl, .cons ⟨rfl, h.current⟩ h.groups, .start, h.previous⟩
  | bar =>
      cases htaken
      exact ⟨_, rfl, h.groups, h.current.next, h.previous⟩
  | close => exact h.closeAt htaken
  | optional => exact h.optionalAt htaken

end Reader.Widens

end Pattern

end UtteranceTemplate

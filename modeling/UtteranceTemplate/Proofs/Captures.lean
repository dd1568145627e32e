import Mathlib.Data.List.Forall2
import UtteranceTemplate.Pattern.Basic

/-!
The captures of a pattern, in the order of their opening.

`captureBodies` lists what they surround. Taking a pattern apart into items and
putting patterns into sequences and choices keeps the list (`captureBodies_items`,
`captureBodies_seq`, `captureBodies_choice`), although a choice takes out what its
branches begin with. In a way through a text, what a capture keeps was read by what
it surrounds (`forall₂_captureBodies_of_mem_ways`).
-/

namespace UtteranceTemplate

namespace Pattern

/-- What the captures of a pattern surround, in the order of their opening. -/
def captureBodies : Pattern → List Pattern
  | .empty | .char _ | .oneOf _ | .anyText => []
  | .cat p q | .alt p q => p.captureBodies ++ q.captureBodies
  | .opt p => p.captureBodies
  | .capture p => p :: p.captureBodies

theorem length_captureBodies (p : Pattern) :
    p.captureBodies.length = p.captureCount := by
  induction p with
  | empty | char | oneOf | anyText => rfl
  | cat p q ihp ihq | alt p q ihp ihq => simp [captureBodies, captureCount, ihp, ihq]
  | opt p ih | capture p ih => simp [captureBodies, captureCount, ih]

theorem captureBodies_seq (items : List Pattern) :
    (seq items).captureBodies = items.flatMap captureBodies := by
  induction items with
  | nil => rfl
  | cons item rest ih => simp [seq, captureBodies, ih]

theorem captureBodies_items (p : Pattern) :
    p.items.flatMap captureBodies = p.captureBodies := by
  induction p with
  | empty => rfl
  | cat p q ihp ihq => simp [items, captureBodies, ihp, ihq]
  | char | oneOf | anyText | alt | opt | capture => simp [items]

theorem captureBodies_anyOf (patterns : List Pattern) :
    (anyOf patterns).captureBodies = patterns.flatMap captureBodies := by
  induction patterns with
  | nil => rfl
  | cons p rest ih =>
      cases rest with
      | nil => simp [anyOf]
      | cons next rest => simp [anyOf, captureBodies, ih]

theorem captureBodies_of_members? {p : Pattern} (h : p.members?.isSome) :
    p.captureBodies = [] := by
  cases p <;> simp_all [members?, captureBodies]

theorem forall₂_of_mapM_eq_some {α β : Type} {f : α → Option β} {xs : List α}
    {ys : List β} (h : xs.mapM f = some ys) :
    List.Forall₂ (fun x y => f x = some y) xs ys := by
  induction xs generalizing ys with
  | nil =>
      have hnil : ys = [] := by simpa using h.symm
      rw [hnil]
      exact .nil
  | cons x xs ih =>
      simp only [List.mapM_cons, Option.bind_eq_bind, Option.bind_eq_some_iff,
        Option.pure_def, Option.some.injEq] at h
      obtain ⟨y, hy, rest, hrest, rfl⟩ := h
      exact .cons hy (ih hrest)

theorem exists_of_forall₂_of_mem {α β : Type} {R : α → β → Prop} {xs : List α}
    {ys : List β} (h : List.Forall₂ R xs ys) {x : α} (hx : x ∈ xs) :
    ∃ y ∈ ys, R x y := by
  induction h with
  | nil => simp at hx
  | cons hhead _ ih =>
      rcases List.mem_cons.mp hx with rfl | hx
      · exact ⟨_, List.mem_cons_self, hhead⟩
      · obtain ⟨y, hy, hr⟩ := ih hx
        exact ⟨y, List.mem_cons_of_mem _ hy, hr⟩

/-- The beginnings that branches share are taken from each of them, and hold
characters and sets. -/
theorem splitCommon_spec (branch : List Pattern) (others : List (List Pattern)) :
    branch = (splitCommon branch others).1 ++ (splitCommon branch others).2.1 ∧
      others =
        (splitCommon branch others).2.2.map ((splitCommon branch others).1 ++ ·) ∧
      ∀ p ∈ (splitCommon branch others).1, p.members?.isSome := by
  induction branch generalizing others with
  | nil => simp [splitCommon]
  | cons p rest ih =>
      by_cases hp : (p.members?.isSome &&
        others.all (fun branch => branch.head? == some p)) = true
      · obtain ⟨hrest, hothers, hmembers⟩ := ih (others.map List.tail)
        simp only [Bool.and_eq_true, List.all_eq_true, beq_iff_eq] at hp
        have hcons : others.map (fun branch => p :: branch.tail) = others := by
          conv_rhs => rw [← List.map_id others]
          refine List.map_congr_left fun branch hbranch => ?_
          exact (List.eq_cons_of_mem_head? (hp.2 branch hbranch)).symm
        have hp' : (p.members?.isSome &&
            others.all (fun branch => branch.head? == some p)) = true := by
          simpa using hp
        simp only [splitCommon, hp', if_true, List.cons_append, ← hrest, true_and]
        refine ⟨?_, ?_⟩
        · conv_lhs => rw [← hcons]
          have hmap := congrArg (List.map (p :: ·)) hothers
          simpa [Function.comp_def] using hmap
        · intro q hq
          rcases List.mem_cons.mp hq with rfl | hq
          · exact hp.1
          · exact hmembers q hq
      · simp [splitCommon, hp]

/-- The branches of a choice have their captures in the choice, in order. -/
theorem captureBodies_choice (branches : List (List Pattern)) :
    (choice branches).captureBodies =
      branches.flatMap (List.flatMap captureBodies) := by
  match branches with
  | [] => rfl
  | [branch] => simp [choice, captureBodies_seq]
  | branch :: other :: others =>
      obtain ⟨hbranch, hothers, hmembers⟩ :=
        splitCommon_spec branch (other :: others)
      simp only [choice]
      generalize splitCommon branch (other :: others) =
        split at hbranch hothers hmembers
      obtain ⟨common, rest, rests⟩ := split
      simp only at hbranch hothers hmembers ⊢
      have hcommon : common.flatMap captureBodies = [] := by
        rw [List.flatMap_eq_nil_iff]
        exact fun p hp => captureBodies_of_members? (hmembers p hp)
      have hall : (branch :: other :: others).flatMap (List.flatMap captureBodies) =
          (rest :: rests).flatMap (List.flatMap captureBodies) := by
        rw [hothers, hbranch]
        simp [List.flatMap_append, hcommon, List.flatMap_map]
      rw [hall]
      split
      · rename_i members hset
        have hnone : ∀ branch ∈ rest :: rests,
            branch.flatMap captureBodies = [] := by
          intro branch hmem
          obtain ⟨member, _, hmember⟩ :=
            exists_of_forall₂_of_mem (forall₂_of_mapM_eq_some hset) hmem
          match branch, hmember with
          | [p], hmember =>
              have hp : p.members?.isSome := by
                simp only [branchMembers?] at hmember
                simp [hmember]
              simp [captureBodies_of_members? hp]
        rw [List.flatMap_eq_nil_iff.mpr hnone, captureBodies_seq]
        simp [hcommon, captureBodies]
      · simp [captureBodies_seq, hcommon, captureBodies_anyOf, List.flatMap_map]

/-- Whether a pattern reads what lies in a span, if there is one. -/
def ReadsSpan (ignoreCase : Bool) (p : Pattern) (span? : Option Span) : Prop :=
  ∀ span, span? = some span →
    ∃ kept, (kept, span.rest) ∈ p.ways ignoreCase span.start

theorem forall₂_readsSpan_unused (ignoreCase : Bool) (p : Pattern) :
    List.Forall₂ (ReadsSpan ignoreCase) p.captureBodies p.unused := by
  rw [unused, ← length_captureBodies]
  induction p.captureBodies with
  | nil => exact .nil
  | cons body bodies ih =>
      refine .cons ?_ ih
      intro span hspan
      cases hspan

/-- What lies in the span of a capture was read by what the capture surrounds. -/
theorem forall₂_captureBodies_of_mem_ways {ignoreCase : Bool} {p : Pattern}
    {text : Text} {way : Spans × Text} (h : way ∈ p.ways ignoreCase text) :
    List.Forall₂ (ReadsSpan ignoreCase) p.captureBodies way.1 := by
  induction p generalizing text way with
  | empty | char | oneOf | anyText =>
      have hlength := length_of_mem_ways _ _ _ _ h
      rw [List.length_eq_zero_iff.mp hlength]
      exact .nil
  | cat p q ihp ihq =>
      simp only [ways, List.mem_flatMap, List.mem_map] at h
      obtain ⟨first, hfirst, second, hsecond, rfl⟩ := h
      exact List.rel_append (ihp hfirst) (ihq hsecond)
  | alt p q ihp ihq =>
      simp only [ways, List.mem_append, List.mem_map] at h
      rcases h with ⟨first, hfirst, rfl⟩ | ⟨second, hsecond, rfl⟩
      · exact List.rel_append (ihp hfirst) (forall₂_readsSpan_unused ignoreCase q)
      · exact List.rel_append (forall₂_readsSpan_unused ignoreCase p) (ihq hsecond)
  | opt p ih =>
      simp only [ways, List.mem_append, List.mem_singleton] at h
      rcases h with h | rfl
      · exact ih h
      · exact forall₂_readsSpan_unused ignoreCase p
  | capture p ih =>
      simp only [ways, List.mem_map] at h
      obtain ⟨⟨kept, rest⟩, hway, rfl⟩ := h
      refine .cons ?_ (ih hway)
      rintro span ⟨⟩
      exact ⟨kept, hway⟩

end Pattern

end UtteranceTemplate

import UtteranceTemplate.Pattern.Reader
import UtteranceTemplate.Proofs.Captures
import UtteranceTemplate.Proofs.Grouping
import UtteranceTemplate.Proofs.Outcomes

/-!
What reading a row of tokens does to the branches being read.

`Branches.Leads` says that a row leads from some branches to others, whatever groups
are open around them; rows lead on from each other, and a group adds one item. A
well-grouped row always leads on, and the captures that it adds are those of its own
captures, each read on its own (`WellGrouped.exists_leads`). So the written form of a
well-grouped row can be read (`WellGrouped.exists_read`).
-/

namespace UtteranceTemplate

namespace Pattern

open Token

theorem Reader.step_eq_ok_iff {reader next : Reader} {position : Nat}
    {token : Token} :
    reader.step (position, token) = .ok next ↔
      ∃ taken, reader.take position token = .ok taken ∧
        { taken with previous := some token } = next :=
  map_eq_ok_iff

theorem Reader.run_append (reader : Reader) (front back : List (Nat × Token)) :
    reader.run (front ++ back) =
      match reader.run front with
      | .ok reader => reader.run back
      | .error fault => .error fault := by
  induction front generalizing reader with
  | nil => rfl
  | cons token front ih =>
      simp only [List.cons_append, Reader.run]
      cases reader.step token with
      | error fault => rfl
      | ok next => exact ih next

namespace Branches

/-- Some branches lead to others by a row of tokens, whatever groups are open
around them. -/
def Leads (current : Branches) (tokens : List Token) (next : Branches) : Prop :=
  ∀ groups previous row, row.map Prod.snd = tokens →
    ∃ last, Reader.run ⟨groups, current, previous⟩ row = .ok ⟨groups, next, last⟩

variable {current next inner : Branches} {tokens more body : List Token}

theorem Leads.nil (current : Branches) : Leads current [] current := by
  intro groups previous row hrow
  rw [List.map_eq_nil_iff] at hrow
  subst hrow
  exact ⟨previous, rfl⟩

theorem Leads.append {middle : Branches} (hfront : Leads current tokens middle)
    (hback : Leads middle more next) : Leads current (tokens ++ more) next := by
  intro groups previous row hrow
  obtain ⟨front, back, rfl, hfrontRow, hbackRow⟩ := List.map_eq_append_iff.mp hrow
  obtain ⟨last, hlast⟩ := hfront groups previous front hfrontRow
  obtain ⟨last', hlast'⟩ := hback groups last back hbackRow
  exact ⟨last', by rw [Reader.run_append, hlast]; exact hlast'⟩

/-- A token that is taken in without a fault and leaves the open groups alone
leads on by itself. -/
theorem Leads.single {token : Token}
    (h : ∀ groups previous position, Reader.take
      ⟨groups, current, previous⟩ position token = .ok ⟨groups, next, previous⟩) :
    Leads current [token] next := by
  intro groups previous row hrow
  obtain ⟨⟨position, read⟩, rfl, htoken⟩ := List.map_eq_singleton_iff.mp hrow
  have hread : token = read := htoken.symm
  subst hread
  exact ⟨some token, by simp only [Reader.run, Reader.step, h, Except.map]⟩

theorem Leads.char (current : Branches) (c : CodePoint) :
    Leads current [.char c] (current.push (.char c)) :=
  .single fun _ _ _ => rfl

theorem Leads.leftBrace (current : Branches) :
    Leads current [.leftBrace] (current.push (.char '{')) :=
  .single fun _ _ _ => rfl

theorem Leads.rightBrace (current : Branches) :
    Leads current [.rightBrace] (current.push (.char '}')) :=
  .single fun _ _ _ => rfl

theorem Leads.anyText (current : Branches) :
    Leads current [.anyText] (current.push .anyText) :=
  .single fun _ _ _ => rfl

theorem Leads.bar (current : Branches) : Leads current [.bar] current.next :=
  .single fun _ _ _ => rfl

/-- What stands between the two tokens of a group becomes one item. -/
theorem Leads.enclose (current : Branches) (captures : Bool) {opening : Token}
    (hopening : ∀ reader position,
      Reader.take reader position opening = .ok (reader.openAt position captures))
    (hbody : Leads .start body inner) :
    Leads current (opening :: body ++ [.close])
      (current.push (if captures then .capture inner.pattern
        else inner.pattern)) := by
  intro groups previous row hrow
  obtain ⟨front, back, rfl, hfront, hback⟩ := List.map_eq_append_iff.mp hrow
  obtain ⟨⟨position, read⟩, inside, rfl, hopen, hinside⟩ :=
    List.map_eq_cons_iff.mp hfront
  obtain ⟨⟨position', _⟩, rfl, hclose⟩ := List.map_eq_singleton_iff.mp hback
  have hread : opening = read := hopen.symm
  obtain ⟨last, hlast⟩ :=
    hbody (⟨position, captures, current⟩ :: groups) (some opening) inside hinside
  subst hread hclose
  refine ⟨some .close, ?_⟩
  have hstep : Reader.step ⟨groups, current, previous⟩ (position, opening) =
      .ok ⟨⟨position, captures, current⟩ :: groups, .start, some opening⟩ := by
    simp only [Reader.step, hopening]
    rfl
  simp only [List.cons_append, Reader.run, hstep, Reader.run_append, hlast]
  rfl

/-- A group adds the choice between its branches as one item. -/
theorem Leads.group (current : Branches) (hbody : Leads .start body inner) :
    Leads current (.openGroup :: body ++ [.close]) (current.push inner.pattern) :=
  Leads.enclose current false (fun _ _ => rfl) hbody

/-- A capture adds the choice between its branches as one item that is kept. -/
theorem Leads.capture (current : Branches) (hbody : Leads .start body inner) :
    Leads current (.openCapture :: body ++ [.close])
      (current.push (.capture inner.pattern)) :=
  Leads.enclose current true (fun _ _ => rfl) hbody

theorem previous_of_run_append_singleton {reader last : Reader}
    {row : List (Nat × Token)} {token : Nat × Token}
    (h : reader.run (row ++ [token]) = .ok last) :
    last.previous = some token.2 := by
  rw [Reader.run_append] at h
  split at h
  · rename_i middle _
    rw [Reader.run] at h
    split at h
    · rename_i next hnext
      obtain ⟨taken, _, rfl⟩ := Reader.step_eq_ok_iff.mp hnext
      cases h
      rfl
    · cases h
  · cases h

/-- A question mark behind a group makes its item optional. -/
theorem Leads.optional {item : Pattern}
    (h : Leads current (tokens ++ [.close]) (current.push item)) :
    Leads current (tokens ++ [.close, .optional]) (current.push (.opt item)) := by
  intro groups previous row hrow
  rw [← List.singleton_append, ← List.append_assoc] at hrow
  obtain ⟨front, back, rfl, hfront, hback⟩ := List.map_eq_append_iff.mp hrow
  obtain ⟨⟨position, _⟩, rfl, hoptional⟩ := List.map_eq_singleton_iff.mp hback
  obtain ⟨last, hlast⟩ := h groups previous front hfront
  obtain ⟨body, closing, rfl, _, hclosing⟩ := List.map_eq_append_iff.mp hfront
  obtain ⟨⟨position', _⟩, rfl, hclose⟩ := List.map_eq_singleton_iff.mp hclosing
  have hprevious := previous_of_run_append_singleton hlast
  subst hoptional hclose
  simp only at hprevious
  subst hprevious
  exact ⟨some .optional, by rw [Reader.run_append, hlast]; rfl⟩

/-- A row that leads on from the start reads as the choice between the
branches it leads to. -/
theorem Leads.ofTokens? (h : Leads .start tokens next) :
    ofTokens? (placed 0 tokens) = .ok next.pattern := by
  obtain ⟨last, hlast⟩ := h [] none (placed 0 tokens) (map_snd_placed 0 tokens)
  have hstart : Reader.start.run (placed 0 tokens) = .ok ⟨[], next, last⟩ := hlast
  simp [Pattern.ofTokens?, hstart, Reader.finish]

/-- What the captures among the branches surround, in the order of their opening. -/
def captureBodies (branches : Branches) : List Pattern :=
  branches.finished.reverse.flatMap (List.flatMap Pattern.captureBodies) ++
    branches.items.reverse.flatMap Pattern.captureBodies

theorem captureBodies_push (branches : Branches) (item : Pattern) :
    (branches.push item).captureBodies =
      branches.captureBodies ++ item.captureBodies := by
  simp [push, captureBodies]

theorem captureBodies_branch (branches : Branches) :
    branches.branch.flatMap Pattern.captureBodies =
      branches.items.reverse.flatMap Pattern.captureBodies := by
  simp only [branch, List.flatMap_assoc]
  congr 1
  funext p
  exact captureBodies_items p

theorem captureBodies_next (branches : Branches) :
    branches.next.captureBodies = branches.captureBodies := by
  simp [Branches.next, captureBodies, captureBodies_branch]

theorem captureBodies_pattern (branches : Branches) :
    branches.pattern.captureBodies = branches.captureBodies := by
  rw [pattern, captureBodies_choice]
  simp [captureBodies, captureBodies_branch]

end Branches

open Branches

namespace Token

/-- A row that may fill a capture leads on and adds no capture. -/
theorem FillsCapture.exists_leads {body : List Token} (h : FillsCapture body)
    (current : Branches) :
    ∃ next, Leads current body next ∧
      next.captureBodies = current.captureBodies := by
  rcases h with rfl | h
  · refine ⟨_, (Leads.char current ' ').append (Leads.anyText _), ?_⟩
    simp [captureBodies_push, Pattern.captureBodies]
  · induction body generalizing current with
    | nil => exact ⟨current, Leads.nil current, rfl⟩
    | cons token rest ih =>
        have hrest : ∀ other ∈ rest, other = .bar ∨ ∃ c, other = .char c :=
          fun other hother => h other (List.mem_cons_of_mem _ hother)
        rcases h token List.mem_cons_self with rfl | ⟨c, rfl⟩
        · obtain ⟨next, hnext, hbodies⟩ := ih current.next hrest
          exact ⟨next, (Leads.bar current).append hnext, by
            rw [hbodies, captureBodies_next]⟩
        · obtain ⟨next, hnext, hbodies⟩ := ih (current.push (.char c)) hrest
          refine ⟨next, (Leads.char current c).append hnext, ?_⟩
          rw [hbodies, captureBodies_push]
          simp [Pattern.captureBodies]

/-- A well-grouped row leads on, and adds the captures that it holds. -/
theorem WellGrouped.exists_leads {captures : List (List Token)} {tokens : List Token}
    (h : WellGrouped captures tokens) (current : Branches) :
    ∃ next bodies, Leads current tokens next ∧
      next.captureBodies = current.captureBodies ++ bodies ∧
      List.Forall₂ (fun row body => ofTokens? (placed 0 row) = .ok body)
        captures bodies := by
  induction h generalizing current with
  | nil => exact ⟨current, [], Leads.nil current, by simp, .nil⟩
  | char c _ ih =>
      obtain ⟨next, bodies, hnext, hbodies, hall⟩ := ih (current.push (.char c))
      refine ⟨next, bodies, (Leads.char current c).append hnext, ?_, hall⟩
      simpa [captureBodies_push, Pattern.captureBodies] using hbodies
  | leftBrace _ ih =>
      obtain ⟨next, bodies, hnext, hbodies, hall⟩ := ih (current.push (.char '{'))
      refine ⟨next, bodies, (Leads.leftBrace current).append hnext, ?_, hall⟩
      simpa [captureBodies_push, Pattern.captureBodies] using hbodies
  | rightBrace _ ih =>
      obtain ⟨next, bodies, hnext, hbodies, hall⟩ := ih (current.push (.char '}'))
      refine ⟨next, bodies, (Leads.rightBrace current).append hnext, ?_, hall⟩
      simpa [captureBodies_push, Pattern.captureBodies] using hbodies
  | bar _ ih =>
      obtain ⟨next, bodies, hnext, hbodies, hall⟩ := ih current.next
      exact ⟨next, bodies, (Leads.bar current).append hnext,
        by rw [hbodies, captureBodies_next], hall⟩
  | group _ _ ihbody ih =>
      obtain ⟨inner, innerBodies, hinner, hinnerBodies, hinnerAll⟩ := ihbody .start
      obtain ⟨next, bodies, hnext, hbodies, hall⟩ := ih (current.push inner.pattern)
      refine ⟨next, innerBodies ++ bodies, ?_, ?_, List.rel_append hinnerAll hall⟩
      · simpa using (Leads.group current hinner).append hnext
      · rw [hbodies, captureBodies_push, captureBodies_pattern, hinnerBodies]
        simp [start, Branches.captureBodies]
  | optionalGroup _ _ ihbody ih =>
      obtain ⟨inner, innerBodies, hinner, hinnerBodies, hinnerAll⟩ := ihbody .start
      obtain ⟨next, bodies, hnext, hbodies, hall⟩ :=
        ih (current.push (.opt inner.pattern))
      refine ⟨next, innerBodies ++ bodies, ?_, ?_, List.rel_append hinnerAll hall⟩
      · simpa using (Leads.group current hinner).optional.append hnext
      · rw [hbodies, captureBodies_push, Pattern.captureBodies,
          captureBodies_pattern, hinnerBodies]
        simp [start, Branches.captureBodies]
  | capture hbody _ ih =>
      obtain ⟨inner, hinner, hinnerBodies⟩ := hbody.exists_leads .start
      obtain ⟨next, bodies, hnext, hbodies, hall⟩ :=
        ih (current.push (.capture inner.pattern))
      refine ⟨next, inner.pattern :: bodies, ?_, ?_, .cons hinner.ofTokens? hall⟩
      · simpa using (Leads.capture current hinner).append hnext
      · rw [hbodies, captureBodies_push, Pattern.captureBodies,
          captureBodies_pattern, hinnerBodies]
        simp [start, Branches.captureBodies]

end Token

/-- Reading the written form of a legible row is reading its tokens. -/
theorem read_textOf {tokens : List Token} (h : Legible tokens) :
    read (textOf tokens) = ofTokens? (placed 0 tokens) := by
  simp [read, lex_textOf h]

/-- The written form of a well-grouped row can be read, and the captures of the
pattern are those of the row. -/
theorem Token.WellGrouped.exists_read {captures : List (List Token)}
    {tokens : List Token} (h : WellGrouped captures tokens)
    (hlegible : Legible tokens) :
    ∃ pattern, read (textOf tokens) = .ok pattern ∧
      List.Forall₂ (fun row body => ofTokens? (placed 0 row) = .ok body) captures
        pattern.captureBodies := by
  obtain ⟨next, bodies, hnext, hbodies, hall⟩ := h.exists_leads .start
  refine ⟨next.pattern, (read_textOf hlegible).trans hnext.ofTokens?, ?_⟩
  rw [captureBodies_pattern, hbodies]
  simpa [start, Branches.captureBodies] using hall

end Pattern

end UtteranceTemplate

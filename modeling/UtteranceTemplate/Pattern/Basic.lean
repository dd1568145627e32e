import UtteranceTemplate.Text.Basic
import UtteranceTemplate.Text.CaseFolding

/-!
Patterns as trees, and the ways in which a pattern reads the start of a text.

`ways` lists every reading in order of preference: an earlier branch before a
later one, keeping optional text before dropping it, and fewer characters of free
text before more. `search` finds the first reading that a continuation accepts
without listing the others, and `search_eq_findSome?_ways` says that it is the
first of the list.
-/

namespace UtteranceTemplate

/-- What a pattern asks of a text. -/
inductive Pattern
  /-- Reads nothing. -/
  | empty
  /-- Reads one character, the given one. -/
  | char (c : CodePoint)
  /-- Reads one character, a member of a set; the members are given in order
  of mention. -/
  | oneOf (members : List CodePoint)
  /-- Reads one or more characters, none of them a line feed, and prefers fewer. -/
  | anyText
  /-- Reads by the first pattern and goes on by the second. -/
  | cat (first second : Pattern)
  /-- Reads by either pattern and prefers the first. -/
  | alt (first second : Pattern)
  /-- Reads by the pattern or reads nothing, and prefers the former. -/
  | opt (body : Pattern)
  /-- Reads by the pattern and keeps what was read. -/
  | capture (body : Pattern)
  deriving DecidableEq, Repr

/-- A part of a text, given by what it begins and by what is left after it. -/
structure Span where
  start : Text
  rest : Text
  deriving DecidableEq, Repr

/-- The part itself. -/
def Span.text (span : Span) : Text := span.start.upTo span.rest

/-- Where the captures of a pattern lie, in the order of their opening; `none` for a
capture that took no part. -/
abbrev Spans := List (Option Span)

/-- What the captures of a pattern keep, in the order of their opening; `none` for a
capture that took no part. -/
abbrev Captures := List (Option Text)

def Spans.captures (spans : Spans) : Captures :=
  spans.map fun span => span.map Span.text

namespace Pattern

def seq : List Pattern → Pattern
  | [] => .empty
  | p :: rest => .cat p (seq rest)

/-- The parts that a pattern reads by one after the other. -/
def items : Pattern → List Pattern
  | .empty => []
  | .cat p q => p.items ++ q.items
  | p => [p]

/-- The characters of which a pattern reads exactly one, if it is a character
or a set. -/
def members? : Pattern → Option (List CodePoint)
  | .char c => some [c]
  | .oneOf members => some members
  | _ => none

/-- The characters of which a branch reads exactly one, if it is a character
or a set. -/
def branchMembers? : List Pattern → Option (List CodePoint)
  | [p] => p.members?
  | _ => none

/-- The characters and sets that a branch and all the others begin with, the rest of
the branch, and the rests of the others. -/
def splitCommon : List Pattern → List (List Pattern) →
    List Pattern × List Pattern × List (List Pattern)
  | [], others => ([], [], others)
  | p :: rest, others =>
      if p.members?.isSome && others.all (fun branch => branch.head? == some p) then
        match splitCommon rest (others.map List.tail) with
        | (common, rest, others) => (p :: common, rest, others)
      else ([], p :: rest, others)

/-- The choice between patterns, earlier ones preferred. -/
def anyOf : List Pattern → Pattern
  | [] => .empty
  | [p] => p
  | p :: next :: rest => .alt p (anyOf (next :: rest))

/-- The choice between branches, earlier ones preferred. What all branches begin with
is read before the choice, and a choice between single characters is a set. -/
def choice : List (List Pattern) → Pattern
  | [] => .empty
  | [branch] => seq branch
  | branch :: others =>
      match splitCommon branch others with
      | (common, branch, others) =>
          match (branch :: others).mapM branchMembers? with
          | some members => seq (common ++ [.oneOf members.flatten.eraseDups])
          | none => seq (common ++ [anyOf ((branch :: others).map seq)])

def captureCount : Pattern → Nat
  | .empty | .char _ | .oneOf _ | .anyText => 0
  | .cat p q | .alt p q => p.captureCount + q.captureCount
  | .opt p => p.captureCount
  | .capture p => p.captureCount + 1

def unused (p : Pattern) : Spans := List.replicate p.captureCount none

/-- The endings of a text after one or more of its characters, longest first, as far
as no line feed is passed. -/
def freeEndings : Text → List Text
  | [] => []
  | c :: rest => if c = '\n' then [] else rest :: freeEndings rest

/-- Every way in which a pattern reads the start of a text, in order of preference:
where its captures lie, and the text left over. -/
def ways (ignoreCase : Bool) : Pattern → Text → List (Spans × Text)
  | .empty, text => [([], text)]
  | .char c, text =>
      match text with
      | [] => []
      | d :: rest => if sameLetter ignoreCase c d then [([], rest)] else []
  | .oneOf members, text =>
      match text with
      | [] => []
      | d :: rest => if isMember ignoreCase members d then [([], rest)] else []
  | .anyText, text => (freeEndings text).map fun rest => ([], rest)
  | .cat p q, text =>
      (p.ways ignoreCase text).flatMap fun (kept, rest) =>
        (q.ways ignoreCase rest).map fun (more, rest) => (kept ++ more, rest)
  | .alt p q, text =>
      ((p.ways ignoreCase text).map fun (kept, rest) => (kept ++ q.unused, rest)) ++
        (q.ways ignoreCase text).map fun (kept, rest) => (p.unused ++ kept, rest)
  | .opt p, text => p.ways ignoreCase text ++ [(p.unused, text)]
  | .capture p, text =>
      (p.ways ignoreCase text).map fun (kept, rest) =>
        (some ⟨text, rest⟩ :: kept, rest)

def searchFree {β : Type} (accept : Text → Option β) : Text → Option β
  | [] => none
  | c :: rest =>
      if c = '\n' then none
      else
        match accept rest with
        | some found => some found
        | none => searchFree accept rest

/-- The first reading of the start of a text that the continuation accepts. -/
def search {β : Type} (ignoreCase : Bool) :
    Pattern → Text → (Spans → Text → Option β) → Option β
  | .empty, text, accept => accept [] text
  | .char c, text, accept =>
      match text with
      | [] => none
      | d :: rest => if sameLetter ignoreCase c d then accept [] rest else none
  | .oneOf members, text, accept =>
      match text with
      | [] => none
      | d :: rest => if isMember ignoreCase members d then accept [] rest else none
  | .anyText, text, accept => searchFree (accept []) text
  | .cat p q, text, accept =>
      p.search ignoreCase text fun kept rest =>
        q.search ignoreCase rest fun more rest => accept (kept ++ more) rest
  | .alt p q, text, accept =>
      match p.search ignoreCase text fun kept rest =>
        accept (kept ++ q.unused) rest with
      | some found => some found
      | none =>
          q.search ignoreCase text fun kept rest => accept (p.unused ++ kept) rest
  | .opt p, text, accept =>
      match p.search ignoreCase text accept with
      | some found => some found
      | none => accept p.unused text
  | .capture p, text, accept =>
      p.search ignoreCase text fun kept rest =>
        accept (some ⟨text, rest⟩ :: kept) rest

/-- What the captures keep in the most preferred reading of the whole text. -/
def fullMatch? (ignoreCase : Bool) (p : Pattern) (text : Text) : Option Captures :=
  p.search ignoreCase text fun kept rest => if rest.isEmpty then some kept.captures
    else none

theorem searchFree_eq_findSome? {β : Type} (accept : Text → Option β) (text : Text) :
    searchFree accept text = (freeEndings text).findSome? accept := by
  induction text with
  | nil => rfl
  | cons c rest ih =>
      simp only [searchFree, freeEndings]
      split
      · rfl
      · simp only [List.findSome?_cons, ih]
        cases accept rest <;> rfl

theorem findSome?_flatMap {α β γ : Type} (f : α → List β) (g : β → Option γ)
    (items : List α) :
    (items.flatMap f).findSome? g = items.findSome? fun item =>
      (f item).findSome? g := by
  induction items with
  | nil => rfl
  | cons item rest ih =>
      simp only [List.flatMap_cons, List.findSome?_append, List.findSome?_cons, ih]
      cases (f item).findSome? g <;> rfl

/-- Searching finds the first of the ways that the continuation accepts. -/
theorem search_eq_findSome?_ways {β : Type} (ignoreCase : Bool) (p : Pattern)
    (text : Text) (accept : Spans → Text → Option β) :
    p.search ignoreCase text accept =
      (p.ways ignoreCase text).findSome? fun way => accept way.1 way.2 := by
  induction p generalizing text β with
  | empty => simp [search, ways]
  | char | oneOf =>
      cases text with
      | nil => rfl
      | cons d rest =>
          simp only [search, ways]
          split <;> simp
  | anyText => simp [search, ways, searchFree_eq_findSome?, List.findSome?_map,
      Function.comp_def]
  | cat p q ihp ihq =>
      simp only [search, ways, ihp, findSome?_flatMap, ihq, List.findSome?_map,
        Function.comp_def]
  | alt p q ihp ihq =>
      simp only [search, ways, ihp, ihq, List.findSome?_append, List.findSome?_map,
        Function.comp_def]
      cases List.findSome? _ (p.ways ignoreCase text) <;> rfl
  | opt p ih =>
      simp only [search, ways, ih, List.findSome?_append]
      cases List.findSome? _ (p.ways ignoreCase text) <;> simp
  | capture p ih =>
      simp only [search, ways, ih, List.findSome?_map, Function.comp_def]

/-- Every way fills each capture of the pattern once. -/
theorem length_of_mem_ways (ignoreCase : Bool) (p : Pattern) (text : Text) :
    ∀ way ∈ p.ways ignoreCase text, way.1.length = p.captureCount := by
  induction p generalizing text with
  | empty => simp [ways, captureCount]
  | char | oneOf =>
      cases text with
      | nil => simp [ways]
      | cons d rest =>
          simp only [ways]
          split <;> simp [captureCount]
  | anyText => simp [ways, captureCount]
  | cat p q ihp ihq =>
      simp only [ways, List.mem_flatMap, List.mem_map, captureCount]
      rintro _ ⟨first, hfirst, second, hsecond, rfl⟩
      simp [ihp _ _ hfirst, ihq _ _ hsecond]
  | alt p q ihp ihq =>
      simp only [ways, List.mem_append, List.mem_map, captureCount, unused]
      rintro _ (⟨way, hway, rfl⟩ | ⟨way, hway, rfl⟩)
      · simp [ihp _ _ hway]
      · simp [ihq _ _ hway]
  | opt p ih =>
      simp only [ways, List.mem_append, List.mem_singleton, captureCount, unused]
      rintro way (hway | rfl)
      · exact ih _ _ hway
      · simp
  | capture p ih =>
      simp only [ways, List.mem_map, captureCount]
      rintro _ ⟨way, hway, rfl⟩
      simp [ih _ _ hway]

end Pattern

end UtteranceTemplate

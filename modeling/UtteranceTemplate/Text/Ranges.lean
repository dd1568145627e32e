/-!
Disjoint ranges of code points with a value for each, kept as a search tree.
-/

namespace UtteranceTemplate

/-- Ranges of code points in increasing order, each with a value, arranged for
search by halves. -/
inductive RangeTree (α : Type)
  | empty
  | node (left : RangeTree α) (first last : Nat) (value : α) (right : RangeTree α)

namespace RangeTree

variable {α : Type}

/-- The value of the range that holds a code point. -/
def find? : RangeTree α → Nat → Option α
  | .empty, _ => none
  | .node left first last value right, n =>
      if n < first then left.find? n
      else if n ≤ last then some value
      else right.find? n

/-- A tree of at most `depth` levels from the start of a sorted list, and the
ranges left over. -/
def build : (depth : Nat) → List (Nat × Nat × α) → RangeTree α × List (Nat × Nat × α)
  | 0, ranges => (.empty, ranges)
  | depth + 1, ranges =>
      match build depth ranges with
      | (left, []) => (left, [])
      | (left, (first, last, value) :: rest) =>
          match build depth rest with
          | (right, rest) => (.node left first last value right, rest)

/-- The tree of a sorted list of fewer than `2 ^ 12` ranges. -/
def ofSorted (ranges : List (Nat × Nat × α)) : RangeTree α := (build 12 ranges).1

/-- The tree of a sorted list of fewer than `2 ^ 12` ranges without values. -/
def ofRanges (ranges : List (Nat × Nat)) : RangeTree Unit :=
  ofSorted (ranges.map fun range => (range.1, range.2, ()))

def contains (tree : RangeTree α) (n : Nat) : Bool := (tree.find? n).isSome

/-- Building a tree uses up the start of the list; what the tree finds is in a
range of that start. -/
theorem build_spec (depth : Nat) (ranges : List (Nat × Nat × α)) :
    ∃ used, ranges = used ++ (build depth ranges).2 ∧
      ∀ n value, (build depth ranges).1.find? n = some value →
        ∃ first last, (first, last, value) ∈ used ∧ first ≤ n ∧ n ≤ last := by
  induction depth generalizing ranges with
  | zero => exact ⟨[], rfl, by simp [build, find?]⟩
  | succ depth ih =>
      obtain ⟨used, hused, hfind⟩ := ih ranges
      cases hleft : build depth ranges with
      | mk left rest =>
          rw [hleft] at hused hfind
          cases rest with
          | nil => exact ⟨used, by simpa [build, hleft] using hused, by
              simpa [build, hleft] using hfind⟩
          | cons range rest =>
              obtain ⟨first, last, middle⟩ := range
              obtain ⟨more, hmore, hfindMore⟩ := ih rest
              refine ⟨used ++ (first, last, middle) :: more, ?_, ?_⟩
              · simp only [build, hleft]
                rw [hused]
                simpa using hmore
              · intro n value hvalue
                simp only [build, hleft, find?] at hvalue
                split at hvalue
                · obtain ⟨a, b, hmem, hle⟩ := hfind n value hvalue
                  exact ⟨a, b, List.mem_append_left _ hmem, hle⟩
                · split at hvalue
                  · have heq : middle = value := by simpa using hvalue
                    subst heq
                    exact ⟨first, last, by simp, by omega, by omega⟩
                  · obtain ⟨a, b, hmem, hle⟩ := hfindMore n value hvalue
                    exact ⟨a, b, by simp [hmem], hle⟩

/-- What a tree finds is in one of the ranges that it was made from. -/
theorem mem_of_find?_ofSorted {ranges : List (Nat × Nat × α)} {n : Nat} {value : α}
    (h : (ofSorted ranges).find? n = some value) :
    ∃ first last, (first, last, value) ∈ ranges ∧ first ≤ n ∧ n ≤ last := by
  obtain ⟨used, hused, hfind⟩ := build_spec 12 ranges
  obtain ⟨first, last, hmem, hle⟩ := hfind n value h
  exact ⟨first, last, by rw [hused]; exact List.mem_append_left _ hmem, hle⟩

end RangeTree

end UtteranceTemplate

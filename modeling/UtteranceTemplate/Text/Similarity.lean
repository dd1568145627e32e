import UtteranceTemplate.Text.Basic

/-!
How much two texts have in common: the longest run of characters that both hold, and
on its two sides again the longest runs, and so on. Twice the number of these
characters over the number of all characters is the similarity, between zero and one.
-/

namespace UtteranceTemplate

namespace Text

/-- The number of characters that two texts have in common at their starts. -/
def sharedStart : Text → Text → Nat
  | c :: left, d :: right => if c = d then sharedStart left right + 1 else 0
  | _, _ => 0

/-- A run of characters that two texts share: where it starts in each of them, and
its length. -/
structure SharedRun where
  left : Nat
  right : Nat
  size : Nat
  deriving DecidableEq, Repr

/-- The longest shared run; of several the one that starts first in the left text,
and then the one that starts first in the right text. -/
def longestShared (left right : Text) : SharedRun :=
  let runs :=
    (List.range left.length).flatMap fun i =>
      (List.range right.length).map fun j =>
        (⟨i, j, sharedStart (left.drop i) (right.drop j)⟩ : SharedRun)
  runs.foldl (fun best run => if best.size < run.size then run else best) ⟨0, 0, 0⟩

/-- The number of characters in the longest shared runs. Every round takes a
character from the left text, so its length is fuel enough. -/
def sharedCount : (fuel : Nat) → Text → Text → Nat
  | 0, _, _ => 0
  | fuel + 1, left, right =>
      let run := longestShared left right
      if run.size = 0 then 0
      else
        sharedCount fuel (left.take run.left) (right.take run.right) + run.size +
          sharedCount fuel (left.drop (run.left + run.size))
            (right.drop (run.right + run.size))

/-- Whether the similarity of two texts is three fifths or more. Texts whose lengths
differ too much cannot be that similar. -/
def isSimilar (left right : Text) : Bool :=
  let least := 3 * (left.length + right.length)
  least ≤ 10 * min left.length right.length && least ≤
    10 * sharedCount left.length left right

end Text

end UtteranceTemplate

import UtteranceTemplate.Text.LowerCase

/-!
Case folding: each character has a representative among the characters that differ
from it in case only, and two characters are the same letter if their
representatives agree.

The representative is the lower case, with the lower-case characters that share an
upper case brought together: the long s goes with s, the final sigma with sigma, the
micro sign with mu, and the dotless i with i.
-/

namespace UtteranceTemplate

/-- The lower-case characters that share an upper case with another one, each with
the one that stands for both. -/
def sharedCases : List (Nat × Nat) := [
  (305, 105), (383, 115), (953, 837), (956, 181), (963, 962), (976, 946), (977, 952),
  (981, 966), (982, 960), (1008, 954), (1009, 961), (1013, 949), (7296, 1074),
  (7297, 1076), (7298, 1086), (7299, 1089), (7300, 1090), (7301, 1090), (7302, 1098),
  (7303, 1123), (7835, 7777), (8126, 837), (8147, 912), (8163, 944), (42571, 7304),
  (64262, 64261)]

def foldCase (c : CodePoint) : Nat :=
  let n := (lowerCase c).toNat
  if n < 128 then n else (sharedCases.lookup n).getD n

/-- Whether two characters are the same letter, up to case if `ignoreCase` is set. -/
def sameLetter (ignoreCase : Bool) (c d : CodePoint) : Bool :=
  c == d || (ignoreCase && foldCase c == foldCase d)

/-- Whether a character is met by a member of a set. Up to case, a member beyond the
first 65536 code points stands for the characters that it represents itself, so an
upper-case one for none. -/
def meetsMember (ignoreCase : Bool) (member c : CodePoint) : Bool :=
  if ignoreCase && 65536 ≤ member.toNat then foldCase c == member.toNat
  else sameLetter ignoreCase member c

/-- Whether a set holds a character, up to case if `ignoreCase` is set. -/
def isMember (ignoreCase : Bool) (members : List CodePoint) (c : CodePoint) : Bool :=
  members.any fun member => meetsMember ignoreCase member c

@[simp] theorem sameLetter_self (ignoreCase : Bool) (c : CodePoint) :
    sameLetter ignoreCase c c = true := by
  simp [sameLetter]

@[simp] theorem sameLetter_false (c d : CodePoint) :
    sameLetter false c d = (c == d) := by
  simp [sameLetter]

/-- A match of exact case is a match up to case. -/
theorem sameLetter_true_of_false {c d : CodePoint}
    (h : sameLetter false c d = true) :
    sameLetter true c d = true := by
  simp_all [sameLetter]

/-- In exact case a set holds its members and nothing else. -/
theorem isMember_false (members : List CodePoint) (c : CodePoint) :
    isMember false members c = members.contains c := by
  simp only [isMember, meetsMember, Bool.false_and, Bool.false_eq_true, if_false,
    sameLetter_false, List.any_beq']

end UtteranceTemplate

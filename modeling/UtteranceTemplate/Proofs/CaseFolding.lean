import UtteranceTemplate.Text.Blank
import UtteranceTemplate.Text.CaseFolding

/-!
Facts about case folding that hold of every character.

Case folding leaves blanks alone and makes no other character blank, so a blank is
the same letter as itself only (`sameLetter_of_isBlank`). Beyond the first 65536 code
points folding twice is folding once, so a character that meets a member of a set is
the same letter as the member (`sameLetter_of_meetsMember`). The converse fails for
exactly the members that are lost (`meetsMember_eq_sameLetter_of_not_isLost`,
`meetsMember_eq_false_of_isLost`).
-/

namespace UtteranceTemplate

namespace CaseRun

/-- What every run of `caseRuns` keeps to, with its first and last code point: it
starts at the first, its lower cases are code points and none of them is a blank, and
no blank is in it. -/
def IsSound (first last : Nat) (run : CaseRun) : Bool :=
  run.first == first &&
    run.target + (last - first) < 0x110000 &&
    blankCodes.all fun n =>
      !(first ≤ n && n ≤ last) &&
        !(run.target ≤ n && n ≤ run.target + (last - first))

theorem isSound_of_mem : ∀ range ∈ caseRuns,
    range.2.2.IsSound range.1 range.2.1 := by
  decide +kernel

/-- Beyond the first 65536 code points no lower case of a run is in a run. -/
theorem not_mem_of_target : ∀ range ∈ caseRuns,
    65536 ≤ range.2.2.target + (range.2.1 - range.1) → ∀ other ∈ caseRuns,
      other.2.1 < range.2.2.target ∨
        range.2.2.target + (range.2.1 - range.1) < other.1 := by
  decide +kernel

end CaseRun

/-- The lower case of a character is the character itself, or the place in the
targets of a run that the character has in the run. -/
theorem lowerCase_eq_or (c : CodePoint) :
    lowerCase c = c ∨ ∃ range ∈ caseRuns, range.1 ≤ c.toNat ∧ c.toNat ≤ range.2.1 ∧
      (lowerCase c).toNat = range.2.2.target + (c.toNat - range.1) := by
  by_cases hascii : c.toNat < 128
  · by_cases hupper : 65 ≤ c.toNat ∧ c.toNat ≤ 90
    · refine Or.inr ⟨(65, 90, ⟨65, 1, 97⟩), List.Mem.head _, hupper.1, hupper.2, ?_⟩
      simp only [lowerCase, hascii, hupper.1, hupper.2, decide_true,
        Bool.and_self, if_true]
      rw [CodePoint.toNat_ofNat (by omega)]
      omega
    · left
      simp only [lowerCase, hascii, if_true, Bool.and_eq_true, decide_eq_true_eq,
        hupper, if_false]
  · cases hfind : caseTree.find? c.toNat with
    | none => left; simp [lowerCase, hascii, hfind]
    | some run =>
        obtain ⟨first, last, hmem, hfirst, hlast⟩ :=
          RangeTree.mem_of_find?_ofSorted hfind
        have hsound := CaseRun.isSound_of_mem _ hmem
        simp only [CaseRun.IsSound, Bool.and_eq_true, beq_iff_eq,
          decide_eq_true_eq] at hsound
        have hlower : lowerCase c = CodePoint.ofNat (run.apply c.toNat) := by
          simp [lowerCase, hascii, hfind]
        by_cases hstep : (c.toNat - first) % run.step = 0
        · refine Or.inr ⟨_, hmem, hfirst, hlast, ?_⟩
          have hvalid : run.target + (c.toNat - first) < 0x110000 := by omega
          rw [hlower, CaseRun.apply, hsound.1.1, if_pos hstep,
            CodePoint.toNat_ofNat hvalid]
        · left
          rw [hlower, CaseRun.apply, hsound.1.1, if_neg hstep, CodePoint.ofNat_toNat]

theorem lowerCase_of_isBlank {c : CodePoint} (h : isBlank c = true) :
    lowerCase c = c := by
  rw [isBlank_eq_true_iff] at h
  rcases lowerCase_eq_or c with heq | ⟨range, hmem, hfirst, hlast, _⟩
  · exact heq
  · have hsound := CaseRun.isSound_of_mem _ hmem
    simp only [CaseRun.IsSound, Bool.and_eq_true, List.all_eq_true,
      Bool.not_eq_true', Bool.and_eq_false_iff, decide_eq_false_iff_not] at hsound
    have := (hsound.2 _ h).1
    omega

theorem eq_of_isBlank_lowerCase {c : CodePoint} (h : isBlank (lowerCase c) = true) :
    lowerCase c = c := by
  rw [isBlank_eq_true_iff] at h
  rcases lowerCase_eq_or c with heq | ⟨range, hmem, hfirst, hlast, htarget⟩
  · exact heq
  · have hsound := CaseRun.isSound_of_mem _ hmem
    simp only [CaseRun.IsSound, Bool.and_eq_true, List.all_eq_true,
      Bool.not_eq_true', Bool.and_eq_false_iff, decide_eq_false_iff_not] at hsound
    have := (hsound.2 _ h).2
    omega

/-- Representatives are lower cases, or are among the values of `sharedCases`. -/
theorem foldCase_eq_or (c : CodePoint) :
    foldCase c = (lowerCase c).toNat ∨
      ∃ pair ∈ sharedCases, pair.1 = (lowerCase c).toNat ∧ foldCase c = pair.2 := by
  by_cases hascii : (lowerCase c).toNat < 128
  · left; simp [foldCase, hascii]
  · cases hlookup : sharedCases.lookup (lowerCase c).toNat with
    | none => left; simp [foldCase, hascii, hlookup]
    | some n =>
        right
        obtain ⟨before, after, hsplit, _⟩ := List.lookup_eq_some_iff.mp hlookup
        exact ⟨((lowerCase c).toNat, n), by rw [hsplit]; simp, rfl, by
          simp [foldCase, hascii, hlookup]⟩

/-- No shared case is a blank, and none is beyond the first 65536 code points. -/
theorem not_blank_of_sharedCases : ∀ pair ∈ sharedCases,
    pair.1 ∉ blankCodes ∧ pair.2 ∉ blankCodes ∧ pair.1 < 65536 ∧ pair.2 < 65536 := by
  decide

/-- A blank is its own representative. -/
theorem foldCase_of_isBlank {c : CodePoint} (h : isBlank c = true) :
    foldCase c = c.toNat := by
  have hlower := lowerCase_of_isBlank h
  rcases foldCase_eq_or c with heq | ⟨pair, hmem, hkey, _⟩
  · rw [heq, hlower]
  · have hnot := (not_blank_of_sharedCases _ hmem).1
    rw [hkey, hlower] at hnot
    exact absurd ((isBlank_eq_true_iff c).mp h) hnot

/-- A blank represents itself only. -/
theorem eq_of_foldCase_eq_of_isBlank {c d : CodePoint} (h : isBlank c = true)
    (hfold : foldCase d = c.toNat) : d = c := by
  rcases foldCase_eq_or d with heq | ⟨pair, hmem, _, hvalue⟩
  · have hlower : lowerCase d = c := CodePoint.toNat_inj.mp (heq.symm.trans hfold)
    rw [← eq_of_isBlank_lowerCase (c := d) (by rw [hlower]; exact h), hlower]
  · have hnot := (not_blank_of_sharedCases _ hmem).2.1
    rw [← hvalue, hfold] at hnot
    exact absurd ((isBlank_eq_true_iff c).mp h) hnot

/-- A blank is the same letter as itself only, whether case counts or not. -/
theorem sameLetter_of_isBlank {c : CodePoint} (h : isBlank c = true)
    (ignoreCase : Bool) (d : CodePoint) :
    sameLetter ignoreCase c d = (c == d) := by
  cases hcd : c == d with
  | true => simp [sameLetter, hcd]
  | false =>
      cases ignoreCase with
      | false => simpa [sameLetter] using hcd
      | true =>
          simp only [sameLetter, hcd, Bool.true_and, Bool.false_or,
            beq_eq_false_iff_ne, ne_eq]
          intro hfold
          rw [foldCase_of_isBlank h] at hfold
          have := eq_of_foldCase_eq_of_isBlank h hfold.symm
          simp [this] at hcd

theorem sameLetter_comm (ignoreCase : Bool) (c d : CodePoint) :
    sameLetter ignoreCase c d = sameLetter ignoreCase d c := by
  simp only [sameLetter, Bool.beq_comm (a := c)]
  rw [BEq.comm (a := foldCase c)]

/-- The same letter is a blank or is none, whether case counts or not. -/
theorem isBlank_eq_of_sameLetter {ignoreCase : Bool} {c d : CodePoint}
    (h : sameLetter ignoreCase c d = true) : isBlank c = isBlank d := by
  cases hc : isBlank c with
  | true =>
      rw [sameLetter_of_isBlank hc] at h
      rw [← eq_of_beq h, hc]
  | false =>
      cases hd : isBlank d with
      | false => rfl
      | true =>
          rw [sameLetter_comm, sameLetter_of_isBlank hd] at h
          rw [eq_of_beq h, hc] at hd
          exact hd

/-- Beyond the first 65536 code points a representative represents itself. -/
theorem foldCase_eq_toNat_of_foldCase_eq {c member : CodePoint}
    (hlarge : 65536 ≤ member.toNat) (h : foldCase c = member.toNat) :
    foldCase member = member.toNat := by
  have hlower : lowerCase c = member := by
    rcases foldCase_eq_or c with heq | ⟨pair, hmem, _, hvalue⟩
    · exact CodePoint.toNat_inj.mp (heq.symm.trans h)
    · have hsmall := (not_blank_of_sharedCases _ hmem).2.2.2
      omega
  rcases lowerCase_eq_or c with heq | ⟨range, hmem, hfirst, hlast, htarget⟩
  · rw [← hlower, heq] at h ⊢
    exact h
  · have hmember : lowerCase member = member := by
      rcases lowerCase_eq_or member with heq | ⟨other, hother, hfirst', hlast', _⟩
      · exact heq
      · rw [hlower] at htarget
        have := CaseRun.not_mem_of_target _ hmem (by omega) _ hother
        omega
    rcases foldCase_eq_or member with heq | ⟨pair, hmem', hkey, hvalue⟩
    · rw [heq, hmember]
    · have hsmall := (not_blank_of_sharedCases _ hmem').2.2.1
      rw [hkey, hmember] at hsmall
      omega

/-- Whether a set loses a member where case does not count: beyond the first 65536
code points a member stands for what it represents, and a character that does not
represent itself for nothing. -/
def isLost (ignoreCase : Bool) (c : CodePoint) : Bool :=
  ignoreCase && (65536 ≤ c.toNat && foldCase c != c.toNat)

/-- A character that meets a member of a set is the same letter as the member. -/
theorem sameLetter_of_meetsMember {ignoreCase : Bool} {member c : CodePoint}
    (h : meetsMember ignoreCase member c = true) :
    sameLetter ignoreCase member c = true := by
  unfold meetsMember at h
  split at h
  · rename_i hset
    simp only [Bool.and_eq_true, decide_eq_true_eq] at hset
    have hfold : foldCase c = member.toNat := by simpa using h
    have hmember := foldCase_eq_toNat_of_foldCase_eq hset.2 hfold
    simp [sameLetter, hset.1, hmember, hfold]
  · exact h

theorem meetsMember_eq_false_of_isLost {ignoreCase : Bool} {member : CodePoint}
    (h : isLost ignoreCase member = true) (c : CodePoint) :
    meetsMember ignoreCase member c = false := by
  simp only [isLost, Bool.and_eq_true, decide_eq_true_eq, bne_iff_ne, ne_eq] at h
  obtain ⟨hcase, hlarge, hfold⟩ := h
  simp only [meetsMember, hcase, Bool.true_and, decide_eq_true_eq, hlarge, if_true,
    beq_eq_false_iff_ne, ne_eq]
  exact fun hc => hfold (foldCase_eq_toNat_of_foldCase_eq hlarge hc)

theorem meetsMember_eq_sameLetter_of_not_isLost {ignoreCase : Bool}
    {member : CodePoint} (h : isLost ignoreCase member = false) (c : CodePoint) :
    meetsMember ignoreCase member c = sameLetter ignoreCase member c := by
  by_cases hset : (ignoreCase && 65536 ≤ member.toNat) = true
  · simp only [Bool.and_eq_true, decide_eq_true_eq] at hset
    have hmember : foldCase member = member.toNat := by
      simpa [isLost, hset.1, hset.2] using h
    cases hc : sameLetter ignoreCase member c with
    | true =>
        have hfold : foldCase c = member.toNat := by
          simp only [sameLetter, hset.1, Bool.true_and, Bool.or_eq_true,
            beq_iff_eq] at hc
          rcases hc with rfl | hc
          · exact hmember
          · rw [← hc, hmember]
        simp [meetsMember, hset.1, hset.2, hfold]
    | false =>
        cases hmeets : meetsMember ignoreCase member c with
        | false => rfl
        | true => rw [sameLetter_of_meetsMember hmeets] at hc; cases hc
  · simp only [meetsMember, hset, if_false, Bool.false_eq_true]

end UtteranceTemplate

import UtteranceTemplate.Proofs.CompileOutcome
import UtteranceTemplate.Proofs.SingleSpacing

/-!
Templates one behind the other.

Putting a text behind a template that is read to its end changes the reading at the
seam only: the run of words at the end of the first takes in the blanks and the run
of words that follow. All other fragments stay, and the tokens stay up to the space
in front of the second run, which is missing if the two runs touch
(`Template.ReadsAs.append`).
-/

namespace UtteranceTemplate

open Pattern

namespace Text

/-- Words that touch are one word. -/
theorem singleSpaced_append_of_touching {front back : Text}
    (hfront : front.endsInWord = true) (hback : back.beginsInWord = true) :
    singleSpaced (front ++ back) = singleSpaced front ++ singleSpaced back := by
  induction front with
  | nil => cases hfront
  | cons c front ih =>
      rw [List.cons_append]
      by_cases hnil : front = []
      · subst hnil
        have hc : isBlank c = false := by simpa [endsInWord] using hfront
        rw [List.nil_append, singleSpaced_letter_cons hc hback]
        simp [singleSpaced, words, hc, joinWith]
      · have hends : endsInWord front = true := by
          rw [← hfront, ← endsInWord_append [c] hnil]
          rfl
        have hboth := ih hends
        cases hc : isBlank c with
        | true => rw [singleSpaced_blank_cons hc, singleSpaced_blank_cons hc, hboth]
        | false =>
            have hbegins := beginsInWord_append hnil back
            cases hletter : beginsInWord front with
            | true =>
                rw [hletter] at hbegins
                rw [singleSpaced_letter_cons hc hbegins,
                  singleSpaced_letter_cons hc hletter, hboth, List.cons_append]
            | false =>
                rw [hletter] at hbegins
                have hne := words_ne_nil_of_endsInWord hends
                have hall : words (front ++ back) ≠ [] := by
                  intro hnil
                  apply hne
                  rw [words_eq_nil_iff] at hnil ⊢
                  exact fun d hd => hnil d (List.mem_append_left back hd)
                rw [singleSpaced_letter_cons_of_not hc hbegins hall,
                  singleSpaced_letter_cons_of_not hc hletter hne, hboth,
                  List.cons_append, List.cons_append]

theorem singleSpaced_append_isGap (text : Text) {gap : Text} (h : IsGap gap) :
    singleSpaced (text ++ gap) = singleSpaced text := by
  rw [singleSpaced, words_append_isGap text h, singleSpaced]

theorem singleSpaced_isGap_append {gap : Text} (h : IsGap gap) (text : Text) :
    singleSpaced (gap ++ text) = singleSpaced text := by
  rw [singleSpaced, words_isGap_append h, singleSpaced]

/-- Words that do not touch stay apart. -/
theorem words_append_of_not_touching {front back : Text}
    (h : (endsInWord front && beginsInWord back) = false) :
    words (front ++ back) = words front ++ words back := by
  rcases Bool.and_eq_false_iff.mp h with hends | hbegins
  · obtain rfl | ⟨before, c, rfl⟩ := List.eq_nil_or_concat' front
    · rfl
    · have hc : isBlank c = true := by simpa [endsInWord] using hends
      have hnone : words ([] : Text) = [] := rfl
      rw [List.append_assoc, List.singleton_append, words_append_blank_cons hc,
        words_append_blank_cons hc, hnone, List.append_nil]
  · cases back with
    | nil => simp [words]
    | cons c rest =>
        have hc : isBlank c = true := by simpa [beginsInWord] using hbegins
        rw [words_append_blank_cons hc, words_blank_cons hc]

theorem singleSpaced_append_of_not_touching {front back : Text}
    (hfront : words front ≠ []) (hback : words back ≠ [])
    (h : (endsInWord front && beginsInWord back) = false) :
    singleSpaced (front ++ back) =
      singleSpaced front ++ .char ' ' :: singleSpaced back := by
  rw [singleSpaced, words_append_of_not_touching h, joinWith_append hfront hback]
  simp [singleSpaced]

end Text

open Text

namespace Template

/-- Whether a fragment of a row is anything but a run of words. -/
def isMarked (part : Text × Fragment) : Bool := part.2.production ≠ .words

/-- Whether a row of fragments ends in the middle of a run of words that may
go on. -/
def endsInRun (parts : List (Text × Fragment)) : Bool :=
  match parts.getLast? with
  | some (_, .words run) => endsInWord run
  | _ => false

/-- Whether a text begins with a run of words, without a blank. -/
def beginsInRun (text : Text) : Bool :=
  text.head?.any fun c => !isBlank c && !Fragment.isOpening c

/-- What a row of fragments has in common with two rows one behind the other: the
marked fragments are theirs, and so are the tokens, up to the first token of the
second row if the rows touch. -/
structure Joins (vocabulary : Vocabulary) (front back : List (Text × Fragment))
    (touch : Bool) (joined : List (Text × Fragment)) : Prop where
  marked : joined.filter isMarked = front.filter isMarked ++ back.filter isMarked
  tokens : tokensOf vocabulary joined = tokensOf vocabulary front ++
    if touch then (tokensOf vocabulary back).tail else tokensOf vocabulary back

variable {vocabulary : Vocabulary} {front back joined : List (Text × Fragment)}
  {touch : Bool}

theorem tokensOf_cons (part : Text × Fragment) (parts : List (Text × Fragment)) :
    tokensOf vocabulary (part :: parts) =
      part.2.tokens vocabulary ++ tokensOf vocabulary parts :=
  List.flatMap_cons

theorem Joins.nil : Joins vocabulary [] back false back := ⟨rfl, rfl⟩

theorem Joins.cons (h : Joins vocabulary front back touch joined)
    (part : Text × Fragment) :
    Joins vocabulary (part :: front) back touch (part :: joined) := by
  constructor
  · rw [List.filter_cons, List.filter_cons, h.marked]
    split <;> rfl
  · rw [tokensOf_cons, tokensOf_cons, h.tokens, List.append_assoc]

theorem tokensOf_words (source run : Text) (parts : List (Text × Fragment)) :
    tokensOf vocabulary ((source, .words run) :: parts) =
      .char ' ' :: (Fragment.templateTokens run ++ tokensOf vocabulary parts) := rfl

/-- A run of words that takes in blanks joins what follows. -/
theorem joins_run_gap {run gap : Text} (hgap : IsGap gap) :
    Joins vocabulary [(run, .words run)] back false
      ((run ++ gap, .words (run ++ gap)) :: back) := by
  refine ⟨rfl, ?_⟩
  have hspaced := singleSpaced_append_isGap run hgap
  rw [tokensOf_words, tokensOf_words, Fragment.templateTokens, hspaced]
  simp [Fragment.templateTokens, tokensOf]

/-- A run of words that takes in a run behind it joins what follows. -/
theorem joins_run_run {run gap more : Text} (hgap : IsGap gap)
    (hrun : words run ≠ []) (hmore : beginsInWord more = true) :
    Joins vocabulary [(run, .words run)] ((more, .words more) :: back)
      (endsInWord run && beginsInWord (gap ++ more))
      ((run ++ (gap ++ more), .words (run ++ (gap ++ more))) :: back) := by
  refine ⟨rfl, ?_⟩
  have hgapmore := singleSpaced_isGap_append hgap more
  have hwords : words (gap ++ more) ≠ [] := by
    rw [words_isGap_append hgap]
    exact words_ne_nil_of_beginsInWord hmore
  rw [tokensOf_words, tokensOf_words, tokensOf_words, Fragment.templateTokens]
  cases htouch : endsInWord run && beginsInWord (gap ++ more) with
  | true =>
      obtain ⟨hends, hbegins⟩ := Bool.and_eq_true_iff.mp htouch
      rw [singleSpaced_append_of_touching hends hbegins, hgapmore]
      simp [Fragment.templateTokens, tokensOf]
  | false =>
      rw [singleSpaced_append_of_not_touching hrun hwords htouch, hgapmore]
      simp [Fragment.templateTokens, Fragment.templateToken, tokensOf]

theorem endsInRun_cons (part : Text × Fragment) {parts : List (Text × Fragment)}
    (hne : parts ≠ []) :
    endsInRun (part :: parts) = endsInRun parts := by
  have hlast := List.getLast?_append_of_ne_nil [part] hne
  rw [List.singleton_append] at hlast
  rw [endsInRun, hlast, endsInRun]

theorem endsInRun_of_marked {source : Text} {fragment : Fragment}
    (h : fragment.production ≠ .words) : endsInRun [(source, fragment)] = false := by
  cases fragment with
  | words run => exact absurd rfl h
  | parameter | untypedSlot | typedSlot | alternatives => rfl

variable {left right unread : Text}

theorem beginsInRun_gap_append {gap : Text} (hgap : IsGap gap) (hne : gap ≠ [])
    (text : Text) :
    beginsInRun (gap ++ text) = false := by
  cases gap with
  | nil => exact absurd rfl hne
  | cons c gap => simp [beginsInRun, hgap c List.mem_cons_self]

theorem beginsInRun_gap {gap ending : Text} (hgap : IsGap gap)
    (hending : ∀ c, ending.head? = some c → Fragment.isOpening c = true) :
    beginsInRun (gap ++ ending) = false := by
  by_cases hne : gap = []
  · subst hne
    cases ending with
    | nil => rfl
    | cons c ending => simp [beginsInRun, hending c rfl]
  · exact beginsInRun_gap_append hgap hne ending

theorem beginsInRun_gap_run {gap more ending : Text} (hgap : IsGap gap)
    (hne : more ≠ []) (hopen : ∀ c ∈ more, Fragment.isOpening c = false) :
    beginsInRun (gap ++ (more ++ ending)) = beginsInWord (gap ++ more) := by
  cases gap with
  | nil =>
      cases more with
      | nil => exact absurd rfl hne
      | cons c more => simp [beginsInRun, beginsInWord, hopen c List.mem_cons_self]
  | cons c gap => simp [beginsInRun, beginsInWord, hgap c List.mem_cons_self]

theorem beginsInWord_of_head? {text : Text} (hne : text ≠ [])
    (hhead : ∀ c, text.head? = some c → isBlank c = false) :
    beginsInWord text = true := by
  cases text with
  | nil => exact absurd rfl hne
  | cons c text => simp [beginsInWord, hhead c rfl]

/-- A run of words in front of a text reads as one with the run at the start
of the text. -/
theorem ReadsAs.run_joins (h : ReadsAs right back unread) {run : Text}
    (hne : run ≠ []) (hhead : ∀ c, run.head? = some c → isBlank c = false)
    (hopen : ∀ c ∈ run, Fragment.isOpening c = false) (vocabulary : Vocabulary) :
    ∃ joined, ReadsAs (run ++ right) joined unread ∧
      Joins vocabulary [(run, .words run)] back
        (endsInWord run && beginsInRun right) joined := by
  obtain ⟨gap, hgap, ⟨hreads, _, ending, rfl, hending⟩ |
    ⟨more, later, ending, rfl, rfl, hmore, hnonempty, hmoreOpen, hreads⟩⟩ :=
    h.run_append hne hhead hopen
  · refine ⟨_, hreads, ?_⟩
    rw [beginsInRun_gap hgap hending, Bool.and_false]
    exact joins_run_gap hgap
  · refine ⟨_, hreads, ?_⟩
    rw [beginsInRun_gap_run hgap hnonempty hmoreOpen]
    exact joins_run_run hgap
      (words_ne_nil_of_beginsInWord (beginsInWord_of_head? hne hhead))
      (beginsInWord_of_head? hnonempty hmore)

theorem ReadsAs.ne_nil {text : Text} (h : ReadsAs text front unread)
    (hne : front ≠ []) :
    text ≠ [] := by
  cases h with
  | stop => exact absurd rfl hne
  | part _ _ hsource _ _ => simp [hsource.ne_nil]

theorem ReadsAs.eq_nil_of_isOpening {text : Text} (h : ReadsAs text [] [])
    (hhead : ∀ c, text.head? = some c → Fragment.isOpening c = true) :
    text = [] := by
  generalize hparts : ([] : List (Text × Fragment)) = parts at h
  generalize hend : ([] : Text) = nothing at h
  cases h with
  | @stop gap _ hgap _ _ =>
      subst hend
      cases gap with
      | nil => rfl
      | cons c gap =>
          have hopening := Fragment.not_isBlank_of_isOpening (hhead c rfl)
          rw [hgap c List.mem_cons_self] at hopening
          cases hopening
  | part => cases hparts

/-- A template that is read to its end reads on with the text behind it. -/
theorem ReadsAs.append (hleft : ReadsAs left front [])
    (hright : ReadsAs right back unread) (vocabulary : Vocabulary) :
    ∃ joined, ReadsAs (left ++ right) joined unread ∧
      Joins vocabulary front back (endsInRun front && beginsInRun right) joined := by
  generalize hend : ([] : Text) = nothing at hleft
  induction hleft with
  | @stop gap nothing hgap _ _ =>
      subst hend
      rw [List.append_nil]
      exact ⟨back, hright.gap_append hgap, Joins.nil⟩
  | @part gap source rest nothing fragment front hgap hhead hsource
      hafter hrest ih =>
      subst hend
      rw [List.append_assoc, List.append_assoc]
      by_cases hlast : front = [] ∧ fragment.production = .words
      · -- the last run of words may go on behind the seam
        obtain ⟨rfl, hkind⟩ := hlast
        obtain ⟨rfl, hopen⟩ := hsource.eq_words hkind
        obtain rfl := hrest.eq_nil_of_isOpening (hafter hkind)
        obtain ⟨joined, hreads, hjoins⟩ :=
          hright.run_joins hsource.ne_nil hhead hopen vocabulary
        exact ⟨joined, hreads.gap_append hgap, hjoins⟩
      · obtain ⟨joined, hreads, hjoins⟩ := ih rfl
        have hends : endsInRun ((source, fragment) :: front) = endsInRun front := by
          by_cases hnil : front = []
          · subst hnil
            exact endsInRun_of_marked fun hkind => hlast ⟨rfl, hkind⟩
          · exact endsInRun_cons _ hnil
        have hnext : fragment.production = .words →
            ∀ c, (rest ++ right).head? = some c → Fragment.isOpening c = true := by
          intro hkind c hc
          have hne := hrest.ne_nil fun hnil => hlast ⟨hnil, hkind⟩
          rw [List.head?_append_of_ne_nil rest hne] at hc
          exact hafter hkind c hc
        rw [hends]
        exact ⟨_, .part hgap hhead hsource hnext hreads, hjoins.cons _⟩

end Template

end UtteranceTemplate

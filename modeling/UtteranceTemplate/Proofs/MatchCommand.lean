import UtteranceTemplate.Proofs.CommandSources
import UtteranceTemplate.Proofs.MatchLines

/-!
What matching on the command line comes to.

A call names a template, an utterance and the options (`MatchCall`). What it comes to
is said without the command (`Surroundings.ComesTo`): the vocabulary is loaded, then
the letter case is taken, then the template is compiled, and the first of them that
fails decides; otherwise the compiled matcher does. The command reports just that
(`Command.runProgram_match`), as far as its lines can be printed.
-/

namespace UtteranceTemplate

/-- What is asked of matching on the command line. -/
structure MatchCall where
  asked : Option Text
  caseSensitive : Bool
  template : Text
  utterance : Text

/-- What a call comes to. -/
inductive MatchOutcome
  | matched (found : Match)
  | unmatched
  | failed (failure : Failure)

namespace MatchCall

/-- Whether arguments are in order and make a call. -/
def IsReadFrom (call : MatchCall) (tree : FileTree) (texts : List Text) : Prop :=
  ∃ arguments, (Command.signature .match).read texts = .ok arguments ∧
    arguments.has Command.helpOption = false ∧
    Command.checkVocabularyOption tree .match arguments = .ok () ∧
    arguments.operands = [call.template, call.utterance] ∧
    arguments.value? Command.vocabularyOption = call.asked ∧
    arguments.has Command.caseOption = call.caseSensitive

/-- The options of a call, as they may be given. -/
def given (call : MatchCall) : List Given :=
  (call.asked.toList.map fun path => ⟨Command.vocabularyOption, path⟩) ++
    if call.caseSensitive then [⟨Command.caseOption, []⟩] else []

/-- The arguments of a call, as they may be given: the options first, two
dashes behind them. -/
def texts (call : MatchCall) : List Text :=
  (call.asked.toList.flatMap fun path => [Command.vocabularyOption, path]) ++
    (if call.caseSensitive then [Command.caseOption] else []) ++
      ["--".text, call.template, call.utterance]

theorem read_texts (call : MatchCall) :
    (Command.signature .match).read call.texts =
      .ok ⟨call.given, [call.template, call.utterance]⟩ := by
  obtain ⟨asked, caseSensitive, template, utterance⟩ := call
  cases asked <;> cases caseSensitive <;> rfl

/-- Whatever a call asks for, there are arguments that make it, if the path of its
vocabulary may be given. -/
theorem isReadFrom_texts {call : MatchCall} {tree : FileTree}
    (h : Command.checkVocabularyOption tree .match
      ⟨call.given, [call.template, call.utterance]⟩ = .ok ()) :
    call.IsReadFrom tree call.texts := by
  refine ⟨_, call.read_texts, ?_, h, rfl, ?_, ?_⟩
  all_goals
    obtain ⟨asked, caseSensitive, template, utterance⟩ := call
    cases asked <;> cases caseSensitive <;> rfl

end MatchCall

def MatchOutcome.report (surroundings : Surroundings) : MatchOutcome → Report
  | .matched found => .printing (Command.matchLines found)
  | .unmatched => { lines := ["No match.".text], status := 1 }
  | .failed failure => .failing (failure.message surroundings)

namespace MatchOutcome

variable {surroundings : Surroundings} {outcome : MatchOutcome}

theorem status_report_eq_zero_iff :
    (outcome.report surroundings).status = 0 ↔
      ∃ found, outcome = .matched found := by
  cases outcome <;> simp [report, Report.printing, Report.failing]

theorem lines_report_eq_noMatch_iff :
    (outcome.report surroundings).lines = ["No match.".text] ↔
      outcome = .unmatched := by
  cases outcome with
  | matched found => simp [report, Report.printing, Command.matchLines, String.text]
  | unmatched => simp [report]
  | failed failure => simp [report, Report.failing, String.text]

theorem exists_lines_report_eq_error_iff :
    (∃ message, (outcome.report surroundings).lines = ["Error: ".text ++ message]) ↔
      ∃ failure, outcome = .failed failure := by
  cases outcome with
  | matched found => simp [report, Report.printing, Command.matchLines, String.text]
  | unmatched => simp [report, String.text]
  | failed failure => simp [report, Report.failing]

end MatchOutcome

namespace Surroundings

/-- What a call comes to: the first failure of the vocabulary, the letter case and
the template, or else what the matcher says of the utterance. -/
inductive ComesTo (surroundings : Surroundings) (call : MatchCall) :
    MatchOutcome → Prop
  | unloaded {failure : Failure}
      (hloads : surroundings.Loads call.asked (.error failure)) :
      ComesTo surroundings call (.failed failure)
  | unsettled {vocabulary : Vocabulary} {failure : Failure}
      (hloads : surroundings.Loads call.asked (.ok vocabulary))
      (hcase : surroundings.TakesCase call.caseSensitive (.error failure)) :
      ComesTo surroundings call (.failed failure)
  | uncompiled {vocabulary : Vocabulary} {ignoreCase : Bool} {error : TemplateError}
      (hloads : surroundings.Loads call.asked (.ok vocabulary))
      (hcase : surroundings.TakesCase call.caseSensitive (.ok ignoreCase))
      (hcompile : Template.compile vocabulary call.template = .error error) :
      ComesTo surroundings call (.failed (.template error))
  | unmatched {vocabulary : Vocabulary} {ignoreCase : Bool} {matcher : Matcher}
      (hloads : surroundings.Loads call.asked (.ok vocabulary))
      (hcase : surroundings.TakesCase call.caseSensitive (.ok ignoreCase))
      (hcompile : Template.compile vocabulary call.template = .ok matcher)
      (hmatch : matcher.match? call.utterance ignoreCase = .ok none) :
      ComesTo surroundings call .unmatched
  | matched {vocabulary : Vocabulary} {ignoreCase : Bool} {matcher : Matcher}
      {found : Match} (hloads : surroundings.Loads call.asked (.ok vocabulary))
      (hcase : surroundings.TakesCase call.caseSensitive (.ok ignoreCase))
      (hcompile : Template.compile vocabulary call.template = .ok matcher)
      (hmatch : matcher.match? call.utterance ignoreCase = .ok (some found)) :
      ComesTo surroundings call (.matched found)

variable {surroundings : Surroundings} {call : MatchCall} {outcome : MatchOutcome}

/-- Every call comes to something: a compiled matcher never fails. -/
theorem exists_comesTo (surroundings : Surroundings) (call : MatchCall) :
    ∃ outcome, surroundings.ComesTo call outcome := by
  obtain ⟨failure | vocabulary, hloads⟩ := surroundings.exists_loads call.asked
  · exact ⟨_, .unloaded hloads⟩
  · obtain ⟨failure | ignoreCase, hcase⟩ :=
      surroundings.exists_takesCase call.caseSensitive
    · exact ⟨_, .unsettled hloads hcase⟩
    · cases hcompile : Template.compile vocabulary call.template with
      | error error => exact ⟨_, .uncompiled hloads hcase hcompile⟩
      | ok matcher =>
          obtain ⟨draft, hholds, rfl⟩ := Template.exists_draft_of_compile hcompile
          have hsound := hholds.isSound call.template
          obtain ⟨outcome, hmatch, _⟩ :=
            hsound.match?_eq_ok call.utterance ignoreCase
          cases outcome with
          | none => exact ⟨_, .unmatched hloads hcase hcompile hmatch⟩
          | some found => exact ⟨_, .matched hloads hcase hcompile hmatch⟩

/-- A call comes to one thing only. -/
theorem ComesTo.unique {other : MatchOutcome} (h : surroundings.ComesTo call outcome)
    (h' : surroundings.ComesTo call other) : outcome = other := by
  cases h <;> cases h' <;> grind [→ Loads.unique, → TakesCase.unique]

end Surroundings

namespace Command

variable {surroundings : Surroundings} {command : Command} {call : MatchCall}
  {outcome : MatchOutcome} {texts rest : List Text}

/-- Where there is a vocabulary and a letter case, the command matches with them. -/
theorem perform_match_of_loads {vocabulary : Vocabulary} {ignoreCase : Bool}
    (hloads : surroundings.Loads call.asked (.ok vocabulary))
    (htakes : surroundings.TakesCase call.caseSensitive (.ok ignoreCase))
    {arguments : Arguments}
    (hoperands : arguments.operands = [call.template, call.utterance])
    (hasked : arguments.value? vocabularyOption = call.asked)
    (hcase : arguments.has caseOption = call.caseSensitive) :
    { perform surroundings .match arguments with trace := [] } =
      { runMatch vocabulary ignoreCase call.template call.utterance with
        trace := [] } := by
  obtain ⟨trace, hvocabulary⟩ := (Surroundings.vocabulary_of_loads hloads).1 _ rfl
  have htaken := (Surroundings.ignoresCase_of_takesCase htakes).1 _ rfl
  simp only [perform, hasked, hvocabulary, hoperands, hcase, htaken]
  rfl

/-- The command does what the call comes to, apart from the trace. -/
theorem perform_match (hcomes : surroundings.ComesTo call outcome)
    (hreported : ∀ failure, outcome = .failed failure → failure.isReported = true)
    {arguments : Arguments}
    (hoperands : arguments.operands = [call.template, call.utterance])
    (hasked : arguments.value? vocabularyOption = call.asked)
    (hcase : arguments.has caseOption = call.caseSensitive) :
    { perform surroundings .match arguments with trace := [] } =
      outcome.report surroundings := by
  cases hcomes with
  | unloaded hloads =>
      have hfails :=
        (Surroundings.vocabulary_of_loads hloads).2 _ rfl (hreported _ rfl)
      simp only [perform, hasked, hfails]
      rfl
  | unsettled hloads htakes =>
      obtain ⟨trace, hvocabulary⟩ :=
        (Surroundings.vocabulary_of_loads hloads).1 _ rfl
      have hfails :=
        (Surroundings.ignoresCase_of_takesCase htakes).2 _ rfl (hreported _ rfl)
      simp only [perform, hasked, hvocabulary, hoperands, hcase, hfails]
      rfl
  | uncompiled hloads htakes hcompile =>
      rw [perform_match_of_loads hloads htakes hoperands hasked hcase]
      simp only [runMatch, compiling, hcompile]
      rfl
  | unmatched hloads htakes hcompile hmatch
  | matched hloads htakes hcompile hmatch =>
      rw [perform_match_of_loads hloads htakes hoperands hasked hcase]
      simp only [runMatch, compiling, hcompile, hmatch]
      rfl

/-- Whether arguments of the program call a command and leave the rest of
them to it. -/
def IsCalledBy (command : Command) (texts rest : List Text) : Prop :=
  ∃ arguments, readProgram texts = .ok arguments ∧
    arguments.operands = command.name :: rest

theorem isCalledBy_name_cons (command : Command) (rest : List Text) :
    command.IsCalledBy (command.name :: rest) rest := by
  cases command <;> exact ⟨_, rfl, rfl⟩

/-- The program does what the command does, apart from the trace. -/
theorem runProgram_of_isCalledBy (h : command.IsCalledBy texts rest) :
    { runProgram surroundings texts with trace := [] } =
      { command.run surroundings rest with trace := [] } := by
  obtain ⟨arguments, hread, hoperands⟩ := h
  have hne : texts.isEmpty = false := by
    cases texts with
    | nil =>
        cases hread
        cases hoperands
    | cons => rfl
  have hname : ofName? command.name = some command := by cases command <;> rfl
  simp only [runProgram, hne, hread, hoperands, hname, Bool.false_eq_true, if_false]
  cases arguments.has verboseOption <;> rfl

/-- Arguments that are in order are carried out as far as the lines can be
printed. -/
theorem run_eq_perform {arguments : Arguments}
    (hread : command.signature.read texts = .ok arguments)
    (hhelp : arguments.has helpOption = false)
    (hoption : checkVocabularyOption surroundings.tree command arguments = .ok ())
    (hcheck : Signature.checkOperands command.signature.operands arguments.operands =
      .ok ()) :
    run surroundings command texts =
      (perform surroundings command arguments).upToUnprinted := by
  simp only [run, hread, hhelp, hoption, hcheck]
  rfl

theorem run_match (hcomes : surroundings.ComesTo call outcome)
    (hreported : ∀ failure, outcome = .failed failure → failure.isReported = true)
    (hcall : call.IsReadFrom surroundings.tree texts) :
    { run surroundings .match texts with trace := [] } =
      (outcome.report surroundings).upToUnprinted := by
  obtain ⟨arguments, hread, hhelp, hoption, hoperands, hasked, hcase⟩ := hcall
  have hcheck : Signature.checkOperands
      (signature .match).operands arguments.operands = .ok () := by
    rw [hoperands]
    rfl
  rw [run_eq_perform hread hhelp hoption hcheck, Report.upToUnprinted_untraced,
    perform_match hcomes hreported hoperands hasked hcase]

/-- Whatever the files, the settings and the environment are, a call of matching
reports the one thing that it comes to, unless that is a failure that is not meant to
be reported. A match is shown by a line for each slot and each parameter of the
compiled matcher, in their order. If no line holds a half of a pair, the command ends
with status 0 exactly for a match, says that there is none exactly if there is none,
and else shows the first failure. -/
theorem runProgram_match (hcalled : IsCalledBy .match texts rest)
    (hcall : call.IsReadFrom surroundings.tree rest)
    (hreported : ∀ failure, surroundings.ComesTo call (.failed failure) →
      failure.isReported = true) :
    let report := { runProgram surroundings texts with trace := [] }
    ∃ outcome, (∀ other, surroundings.ComesTo call other ↔ other = outcome) ∧
      report = (outcome.report surroundings).upToUnprinted ∧
      (∀ found, outcome = .matched found → ∃ vocabulary matcher,
        surroundings.Loads call.asked (.ok vocabulary) ∧
        Template.compile vocabulary call.template = .ok matcher ∧
        found.slots.keys = matcher.slots ∧ found.parameters = matcher.parameters ∧
        ∀ line ∈ matchLines found, .char '\n' ∉ line) ∧
      ((∀ line ∈ (outcome.report surroundings).lines, ∀ c ∈ line, c.isHalf = false) →
        report = outcome.report surroundings ∧
        (report.status = 0 ↔ ∃ found, surroundings.ComesTo call (.matched found)) ∧
        (report.lines = ["No match.".text] ↔ surroundings.ComesTo call .unmatched) ∧
        ((∃ message, report.lines = ["Error: ".text ++ message]) ↔
          ∃ failure, surroundings.ComesTo call (.failed failure))) := by
  intro report
  obtain ⟨outcome, hcomes⟩ := surroundings.exists_comesTo call
  have hunique : ∀ other, surroundings.ComesTo call other ↔ other = outcome := by
    intro other
    constructor
    · intro hother
      exact hother.unique hcomes
    · rintro rfl
      exact hcomes
  have hreport : report = (outcome.report surroundings).upToUnprinted := by
    have hrun :=
      run_match hcomes (fun failure heq => hreported failure (heq ▸ hcomes)) hcall
    exact (runProgram_of_isCalledBy hcalled).trans hrun
  refine ⟨outcome, hunique, hreport, ?_, ?_⟩
  · rintro found rfl
    cases hcomes with
    | matched hloads _ hcompile hmatch =>
        exact ⟨_, _, hloads, hcompile, lines_of_match hcompile hmatch⟩
  · intro hwhole
    rw [Report.upToUnprinted_of_forall hwhole] at hreport
    refine ⟨hreport, ?_⟩
    rw [hreport]
    simp only [hunique, eq_comm (b := outcome)]
    exact ⟨MatchOutcome.status_report_eq_zero_iff,
      MatchOutcome.lines_report_eq_noMatch_iff,
      MatchOutcome.exists_lines_report_eq_error_iff⟩

theorem ofTemplate_openApp :
    Reading.ofTemplate "open [x:app] [n=one]".text =
      ⟨[⟨0, "open ".text, .words "open ".text⟩,
        ⟨5, "[x:app]".text, .typedSlot "x".text "app".text⟩,
        ⟨13, "[n=one]".text, .parameter "n".text "one".text⟩], []⟩ := by
  decide +kernel

/-- The vocabulary that is asked for counts, and not those of the environment and of
the settings, and the settings say that letter case counts. -/
theorem runProgram_match_openApp :
    let written := "entity_types:\n  app: [Spotify, hi fi]\n".text
    let settings :=
      "\x7b\"vocabulary_path\": \"gone\", \"ignore_case\": false\x7d".text
    let tree : FileTree :=
      ⟨[(⟨true, 0, [Utf8.encode "v.yaml".text]⟩, .file (Utf8.encode written)),
        (Settings.directoryPlace, .directory),
          (Settings.place, .file (Utf8.encode settings))]⟩
    let surroundings : Surroundings := ⟨"/p".text, tree, some "elsewhere".text⟩
    let call : MatchCall :=
      ⟨some "v.yaml".text, false, "open [x:app] [n=one]".text, "open  hi fi".text⟩
    let texts := verboseOption :: "match".text :: call.texts
    IsCalledBy .match texts call.texts ∧ call.IsReadFrom tree call.texts ∧
      (∀ failure, surroundings.ComesTo call (.failed failure) →
        failure.isReported = true) ∧
      { runProgram surroundings texts with trace := [] } =
        { lines := ["Matched.".text, "  x = hi fi".text, "  [n=one]".text]
          status := 0 } := by
  intro written settings tree surroundings call texts
  let vocabulary : Vocabulary := ⟨[("app".text, ["Spotify".text, "hi fi".text])]⟩
  let matcher : Matcher :=
    { template := "open [x:app] [n=one]".text, slots := ["x".text]
      slotTypes := [("x".text, "app".text)], parameters := [("n".text, "one".text)]
      pattern := " open( Spotify| hi fi)".text }
  let found : Match :=
    { template := "open [x:app] [n=one]".text, utterance := "open  hi fi".text
      slots := [("x".text, some "hi fi".text)], parameters :=
        [("n".text, "one".text)] }
  have hcalled : IsCalledBy .match texts call.texts :=
    ⟨⟨[⟨verboseOption, []⟩], _⟩, rfl, rfl⟩
  have hcall : call.IsReadFrom tree call.texts := MatchCall.isReadFrom_texts (by rfl)
  have hentry : tree.hasEntry (.ofText "v.yaml".text) = .ok true := by decide +kernel
  have hload : Vocabulary.load tree (.ofText "v.yaml".text) = .ok vocabulary := by
    decide +kernel
  have hloads : surroundings.Loads call.asked (.ok vocabulary) :=
    .loaded (.asked rfl (by decide)) hentry hload
  let saved : Settings := ⟨some "gone".text, false⟩
  have hsettings : Settings.load tree = .ok saved := by decide +kernel
  have hcase : surroundings.TakesCase false (.ok saved.ignoreCase) :=
    .settings rfl hsettings
  have hcompile : Template.compile vocabulary call.template = .ok matcher := by
    simp only [call, Template.compile, ofTemplate_openApp]
    rfl
  have hmatch : matcher.match? call.utterance false = .ok (some found) := by decide
  have hcomes : surroundings.ComesTo call (.matched found) :=
    .matched hloads hcase hcompile hmatch
  have hreported : ∀ failure, surroundings.ComesTo call (.failed failure) →
      failure.isReported = true := by
    intro failure hfailed
    cases hfailed.unique hcomes
  refine ⟨hcalled, hcall, hreported, ?_⟩
  obtain ⟨outcome, hunique, _, _, hwhole⟩ := runProgram_match hcalled hcall hreported
  obtain rfl := (hunique _).mp hcomes
  exact (hwhole (by decide)).1

/-- The settings name the path of a vocabulary by half a pair. There is no such file,
and the message that says so cannot be printed. -/
theorem not_runProgram_match_halfPair :
    let text := "\x7b\"vocabulary_path\": \"/\\ud800\"\x7d".text
    let tree : FileTree :=
      ⟨[(Settings.directoryPlace, .directory),
        (Settings.place, .file (Utf8.encode text))]⟩
    let surroundings : Surroundings := ⟨"/p".text, tree, none⟩
    let call : MatchCall := ⟨none, false, "a".text, "a".text⟩
    let texts := ["match".text, "a".text, "a".text]
    let report := runProgram surroundings texts
    IsCalledBy .match texts ["a".text, "a".text] ∧
      call.IsReadFrom tree ["a".text, "a".text] ∧
      (∀ failure, surroundings.ComesTo call (.failed failure) →
        failure.isReported = true) ∧
      (∃ failure, surroundings.ComesTo call (.failed failure)) ∧
      ¬ ∃ message, report.lines = ["Error: ".text ++ message] := by
  intro text tree surroundings call texts report
  let path : Text := ['/', .half 0]
  have hcalled : IsCalledBy .match texts ["a".text, "a".text] :=
    isCalledBy_name_cons .match ["a".text, "a".text]
  have hcall : call.IsReadFrom tree ["a".text, "a".text] :=
    ⟨⟨[], _⟩, by rfl, by rfl, by rfl, by rfl, by rfl, by rfl⟩
  have hload : Settings.load tree = .ok ⟨some path, true⟩ := by decide +kernel
  have hentry : tree.hasEntry (FilePath.ofText path).inProject = .ok false := by
    decide +kernel
  have hcomes : surroundings.ComesTo call
      (.failed (.noFile (FilePath.ofText path).inProject)) := by
    apply Surroundings.ComesTo.unloaded
    apply Surroundings.Loads.noFile _ hentry
    exact .settings (by simp [IsUnset, call])
      (by simp [IsUnset, surroundings]) hload rfl (by simp [path])
  have hreported : ∀ failure, surroundings.ComesTo call (.failed failure) →
      failure.isReported = true := by
    intro failure hfailed
    cases hfailed.unique hcomes
    rfl
  refine ⟨hcalled, hcall, hreported, ⟨_, hcomes⟩, ?_⟩
  have hlines : report.lines = [] := by decide +kernel
  rintro ⟨message, hmessage⟩
  rw [hlines] at hmessage
  cases hmessage

end Command

end UtteranceTemplate

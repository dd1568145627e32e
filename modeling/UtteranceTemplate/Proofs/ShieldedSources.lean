import UtteranceTemplate.Proofs.CompileCommand
import UtteranceTemplate.Proofs.MatchCommand
import UtteranceTemplate.Proofs.VocabularyLoading

/-!
Sources of a vocabulary that are shielded by one that comes before them.

What a command sees of a path that is given to it, by its option or by the
environment, is what there is at the end of the path (`FileTree.AgreesAt`). It never
looks at the settings for a vocabulary then, and not for the letter case either if
that is asked for. So in surroundings that agree at the path a command gives the same
report, whatever else there is in them (`Command.runProgram_shielded`).
-/

namespace UtteranceTemplate

/-- Whether two trees agree on there being something at the end of a path, or on why
nobody can know, and on what it is. -/
structure FileTree.AgreesAt (path : FilePath) (tree other : FileTree) : Prop where
  isThere : other.hasEntry path = tree.hasEntry path
  contents : ∀ entry, tree.look path = .ok entry → other.look path = .ok entry

/-- Whether arguments of a command, if they can be read, ask for the vocabulary at a
path or for none, and leave no letter case to the settings. -/
def Command.Asks (command : Command) (asked : Option Text)
    (texts : List Text) : Prop :=
  ∀ arguments, command.signature.read texts = .ok arguments →
    arguments.value? vocabularyOption = asked ∧
      (command = .match → arguments.has caseOption = true)

/-- What is asked of a command that has only its vocabulary to find out from
what surrounds it. -/
inductive Request
  | compile (template : Text) (asJson : Bool)
  | entityTypes
  /-- Letter case is asked to count. -/
  | matchCase (template utterance : Text)

namespace Request

def command : Request → Command
  | .compile _ _ => .compile
  | .entityTypes => .entityTypes
  | .matchCase _ _ => .match

/-- The arguments that are no options. -/
def operands : Request → List Text
  | .compile template _ => [template]
  | .entityTypes => []
  | .matchCase template utterance => [template, utterance]

/-- The options without a value. -/
def flags : Request → List Text
  | .compile _ asJson => if asJson then [Command.jsonOption] else []
  | .entityTypes => []
  | .matchCase _ _ => [Command.caseOption]

/-- The options of a request, with the path of the vocabulary if one is asked for. -/
def options (request : Request) (asked : Option Text) : List Text :=
  (asked.toList.flatMap fun path => [Command.vocabularyOption, path]) ++
    request.flags

def given (request : Request) (asked : Option Text) : List Given :=
  (asked.toList.map fun path => ⟨Command.vocabularyOption, path⟩) ++
    request.flags.map fun flag => ⟨flag, []⟩

end Request

/-- The last value of an option counts, so an option in front changes none
but its own. -/
theorem Arguments.value?_cons_of_ne {given : Given} {arguments : Arguments}
    {name : Text} (h : given.name ≠ name) :
    value? { arguments with given := given :: arguments.given } name =
      arguments.value? name := by
  simp [value?, List.find?_append, h]

namespace Command

variable {command : Command} {asked : Option Text} {texts : List Text}

theorem asks_of_read (request : Request) {operands : List Text}
    (h : request.command.signature.read texts =
      .ok ⟨request.given asked, operands⟩) :
    request.command.Asks asked texts := by
  rintro arguments hread
  obtain rfl := Except.ok.inj (h.symm.trans hread)
  cases request with
  | compile _ asJson => cases asked <;> cases asJson <;> exact ⟨rfl, nofun⟩
  | entityTypes => cases asked <;> exact ⟨rfl, nofun⟩
  | matchCase => cases asked <;> exact ⟨rfl, fun _ => rfl⟩

/-- Whatever the operands are, they can stand behind the options and two dashes. -/
theorem asks_options_append (request : Request) (asked : Option Text) :
    request.command.Asks asked
      (request.options asked ++ "--".text :: request.operands) := by
  have hread : request.command.signature.read
      (request.options asked ++ "--".text :: request.operands) =
        .ok ⟨request.given asked, request.operands⟩ := by
    cases request with
    | compile _ asJson => cases asked <;> cases asJson <;> rfl
    | entityTypes | matchCase => cases asked <;> rfl
  exact asks_of_read request hread

theorem asks_options (request : Request) (asked : Option Text) :
    request.command.Asks asked (request.options asked) := by
  have hread : request.command.signature.read (request.options asked) =
      .ok ⟨request.given asked, []⟩ := by
    cases request with
    | compile _ asJson => cases asked <;> cases asJson <;> rfl
    | entityTypes | matchCase => cases asked <;> rfl
  exact asks_of_read request hread

/-- An option that does not begin like that of the vocabulary has no value,
or is wrong. -/
theorem roleOf_of_not_vocabularyOption (command : Command) {text : Text}
    (h : ¬ vocabularyOption <+: text) :
    (∃ fault, command.signature.roleOf text = .wrong fault) ∨
      ∃ name, name ≠ vocabularyOption ∧
        command.signature.roleOf text = .complete ⟨name, []⟩ := by
  have hname : text.takeWhile (· != .char '=') ≠ vocabularyOption := by
    intro heq
    exact h (heq ▸ List.takeWhile_prefix _)
  have hflags : ∀ option ∈ command.signature.switches,
      option.name ≠ vocabularyOption → option.hasValue = false := by
    cases command <;> decide
  rw [Signature.roleOf]
  cases hfind : command.signature.switches.find? fun option =>
      option.name = text.takeWhile (· != .char '=') with
  | none => exact Or.inl ⟨_, rfl⟩
  | some option =>
      have hsame : option.name = text.takeWhile (· != .char '=') := by
        simpa using List.find?_some hfind
      have hflag := hflags option (List.mem_of_find?_eq_some hfind) (hsame ▸ hname)
      simp only [hflag, Bool.false_eq_true, if_false]
      cases text.contains (.char '=') with
      | true => exact Or.inl ⟨_, rfl⟩
      | false => exact Or.inr ⟨_, hname, rfl⟩

/-- An argument that does not begin like the option of the vocabulary does not change
what is asked for. -/
theorem asks_cons (h : command.Asks asked texts) {text : Text}
    (hdashes : text ≠ "--".text) (hoption : ¬ vocabularyOption <+: text) :
    command.Asks asked (text :: texts) := by
  have hmixes : command.signature.mixes = true := by cases command <;> rfl
  intro arguments hread
  rw [Signature.read, if_neg hdashes] at hread
  by_cases hdashed : Signature.isDashed text = true
  · rw [if_pos hdashed] at hread
    obtain ⟨fault, hrole⟩ | ⟨name, hname, hrole⟩ :=
      roleOf_of_not_vocabularyOption command hoption
    · rw [hrole] at hread
      cases hread
    · rw [hrole] at hread
      obtain ⟨later, hlater, rfl⟩ := map_eq_ok_iff.mp hread
      obtain ⟨hasked, hcase⟩ := h later hlater
      refine ⟨(Arguments.value?_cons_of_ne hname).trans hasked, fun hmatch => ?_⟩
      rw [Arguments.has, List.any_cons, ← Arguments.has, hcase hmatch, Bool.or_true]
  · rw [if_neg hdashed, if_pos hmixes] at hread
    obtain ⟨later, hlater, rfl⟩ := map_eq_ok_iff.mp hread
    exact h later hlater

theorem asks_append (h : command.Asks asked texts) {front : List Text}
    (hfront : ∀ text ∈ front, text ≠ "--".text ∧ ¬ vocabularyOption <+: text) :
    command.Asks asked (front ++ texts) := by
  induction front with
  | nil => exact h
  | cons text front ih =>
      obtain ⟨⟨hdashes, hoption⟩, hrest⟩ := List.forall_mem_cons.mp hfront
      exact asks_cons (ih hrest) hdashes hoption

end Command

namespace FileTree.AgreesAt

variable {path : FilePath} {tree other : FileTree}

theorem of_look_eq (h : other.look path = tree.look path) :
    AgreesAt path tree other := by
  refine ⟨by rw [hasEntry, hasEntry, h], fun entry hentry => h.trans hentry⟩

/-- Where one of the trees has nothing to see, the other has nothing either. -/
theorem exists_look_eq_error (h : AgreesAt path tree other) {fault : FileFault}
    (hlook : tree.look path = .error fault) :
    ∃ reason, other.look path = .error reason := by
  cases hother : other.look path with
  | error reason => exact ⟨reason, rfl⟩
  | ok entry =>
      have hentry := (hasEntry_eq_true_iff other path).mpr ⟨entry, hother⟩
      rw [h.isThere, hasEntry_eq_true_iff, hlook] at hentry
      obtain ⟨_, hcontra⟩ := hentry
      cases hcontra

/-- What is wrong with a path alone is wrong with it in every tree. -/
theorem same_or_isOfSystem {fault reason : FileFault}
    (hlook : tree.look path = .error fault)
    (hother : other.look path = .error reason) :
    fault = reason ∨ fault.isOfSystem = true ∧ reason.isOfSystem = true := by
  cases hfault : fault.isOfSystem with
  | false =>
      rw [look_eq_error_iff hfault, ← look_eq_error_iff hfault other,
        hother] at hlook
      exact Or.inl (Except.error.inj hlook).symm
  | true =>
      cases hreason : reason.isOfSystem with
      | false =>
          rw [look_eq_error_iff hreason, ← look_eq_error_iff hreason tree,
            hlook] at hother
          exact Or.inl (Except.error.inj hother)
      | true => exact Or.inr ⟨rfl, rfl⟩

/-- Trees that agree at a path find the same fault in it as the path of a
vocabulary. -/
theorem checkVocabularyOption_eq {text : Text}
    (h : AgreesAt (.ofText text) tree other) (command : Command)
    {arguments : Arguments}
    (hasked : arguments.value? Command.vocabularyOption = some text) :
    Command.checkVocabularyOption other command arguments =
      Command.checkVocabularyOption tree command arguments := by
  simp only [Command.checkVocabularyOption, hasked]
  cases hlook : tree.look (.ofText text) with
  | ok entry => rw [h.contents entry hlook]
  | error fault =>
      obtain ⟨reason, hother⟩ := h.exists_look_eq_error hlook
      rw [hother]
      rcases same_or_isOfSystem hlook hother with rfl | ⟨hfault, hreason⟩
      · rfl
      · simp only [hfault, hreason, if_true]

theorem load_eq (h : AgreesAt path tree other)
    (hentry : tree.hasEntry path = .ok true) :
    Vocabulary.load other path = Vocabulary.load tree path := by
  obtain ⟨entry, hlook⟩ := (hasEntry_eq_true_iff tree path).mp hentry
  simp only [Vocabulary.load, readText, FileTree.read, hlook, h.contents entry hlook]

end FileTree.AgreesAt

namespace Surroundings

variable {surroundings other : Surroundings} {asked : Option Text} {path : Text}

theorem loadVocabulary_eq
    (h : FileTree.AgreesAt (.ofText path) surroundings.tree other.tree) :
    other.loadVocabulary (.ofText path) =
      surroundings.loadVocabulary (.ofText path) := by
  have htext : other.pathText (.ofText path) =
      surroundings.pathText (.ofText path) :=
    FilePath.text_ofText _ _ _
  rw [loadVocabulary, loadVocabulary, h.isThere]
  cases hentry : surroundings.tree.hasEntry (.ofText path) with
  | error fault => simp only [htext]
  | ok isThere =>
      cases isThere with
      | false => simp only [htext]
      | true => simp only [h.load_eq hentry, withoutVocabulary, htext]

/-- A path that is asked for, or the one in the environment if none is, is the
path that is taken. -/
theorem vocabulary_eq_loadVocabulary (hne : path ≠ [])
    (hpath : asked = some path ∨
      IsUnset asked ∧ surroundings.vocabularyPath = some path) :
    surroundings.vocabulary asked = surroundings.loadVocabulary (.ofText path) := by
  have htakes : surroundings.TakesPath asked (.ok (some (.ofText path))) := by
    rcases hpath with hasked | ⟨hasked, henvironment⟩
    · exact .asked hasked hne
    · exact .environment hasked henvironment hne
  rw [Surroundings.vocabulary, chooseVocabulary_of_takesPath htakes]

end Surroundings

namespace Command

variable {surroundings other : Surroundings} {asked : Option Text} {path : Text}

/-- With the letter case asked for, a command performs alike in surroundings with the
same vocabulary. -/
theorem perform_eq {command : Command} {arguments : Arguments}
    (hvocabulary : other.vocabulary (arguments.value? vocabularyOption) =
      surroundings.vocabulary (arguments.value? vocabularyOption))
    (hcase : command = .match → arguments.has caseOption = true) :
    perform other command arguments = perform surroundings command arguments := by
  rw [perform, perform, hvocabulary]
  cases surroundings.vocabulary (arguments.value? vocabularyOption) with
  | error report => rfl
  | ok loaded =>
      cases command with
      | compile => cases arguments.operands <;> rfl
      | entityTypes => rfl
      | «match» => simp only [hcase rfl, Surroundings.ignoresCase, if_true]

/-- Where the path of the vocabulary is given, a command runs alike in surroundings
that agree at it. -/
theorem run_eq (hne : path ≠ [])
    (hagree : FileTree.AgreesAt (.ofText path) surroundings.tree other.tree)
    (hpath : asked = some path ∨ IsUnset asked ∧
      surroundings.vocabularyPath = some path ∧ other.vocabularyPath = some path)
    {command : Command} {texts : List Text} (hasks : command.Asks asked texts) :
    run other command texts = run surroundings command texts := by
  rw [run, run]
  cases hread : command.signature.read texts with
  | error fault => rfl
  | ok arguments =>
      obtain ⟨hasked, hcase⟩ := hasks arguments hread
      have hoption : checkVocabularyOption other.tree command arguments =
          checkVocabularyOption surroundings.tree command arguments := by
        rcases hpath with hgiven | ⟨hunset, _⟩
        · exact hagree.checkVocabularyOption_eq command (hasked.trans hgiven)
        · simp only [checkVocabularyOption, hasked]
          cases hgiven : asked with
          | none => rfl
          | some empty => rw [hunset empty hgiven]; rfl
      have hvocabulary : other.vocabulary (arguments.value? vocabularyOption) =
          surroundings.vocabulary (arguments.value? vocabularyOption) := by
        rw [hasked,
          Surroundings.vocabulary_eq_loadVocabulary hne
            (hpath.imp_right fun h => ⟨h.1, h.2.2⟩),
          Surroundings.vocabulary_eq_loadVocabulary hne
            (hpath.imp_right fun h => ⟨h.1, h.2.1⟩),
          Surroundings.loadVocabulary_eq hagree]
      simp only [hoption, perform_eq hvocabulary hcase]

theorem runProgram_eq_of_isCalledBy {command : Command} {texts rest : List Text}
    (hcalled : command.IsCalledBy texts rest)
    (hrun : run other command rest = run surroundings command rest) :
    runProgram other texts = runProgram surroundings texts := by
  obtain ⟨arguments, hread, hoperands⟩ := hcalled
  have hname : ofName? command.name = some command := by cases command <;> rfl
  simp only [runProgram, hread, hoperands, hname, hrun]

/-- A command that is given the path of its vocabulary, or finds it in the
environment, has the same report in all surroundings that agree at the path: the
settings, and for a path that is asked for the environment too, may be anything at
all. Any template and any utterance can be asked about like that, behind two dashes,
and most can stand in front of the options. -/
theorem runProgram_shielded (hne : path ≠ [])
    (hagree : FileTree.AgreesAt (.ofText path) surroundings.tree other.tree)
    (hpath : asked = some path ∨ IsUnset asked ∧
      surroundings.vocabularyPath = some path ∧ other.vocabularyPath = some path) :
    (∀ (command : Command) (texts rest : List Text), command.IsCalledBy texts rest →
      command.Asks asked rest →
        runProgram other texts = runProgram surroundings texts) ∧
    (∀ request : Request,
      let texts := request.command.name ::
        (request.options asked ++ "--".text :: request.operands)
      runProgram other texts = runProgram surroundings texts) ∧
    ∀ request : Request,
      (∀ operand ∈ request.operands, operand ≠ "--".text ∧
        ¬ vocabularyOption <+: operand) →
        let texts :=
          request.command.name :: (request.operands ++ request.options asked)
        runProgram other texts = runProgram surroundings texts := by
  have hall : ∀ (command : Command) (texts rest : List Text),
      command.IsCalledBy texts rest →
      command.Asks asked rest →
        runProgram other texts = runProgram surroundings texts :=
    fun command texts rest hcalled hasks =>
      runProgram_eq_of_isCalledBy hcalled (run_eq hne hagree hpath hasks)
  refine ⟨hall, fun request => ?_, fun request hoperands => ?_⟩
  · exact hall _ _ _ (isCalledBy_name_cons _ _) (asks_options_append request asked)
  · exact hall _ _ _ (isCalledBy_name_cons _ _)
      (asks_append (asks_options request asked) hoperands)

/-- The path of the option, and without one that of the environment, shields from
settings that are not JSON and from a file that is not there. A command that comes to
one of these fails. -/
theorem runProgram_shielded_brokenSettings :
    let path := "v.yaml".text
    let vocabulary : FileEntry :=
      .file (Utf8.encode "entity_types:\n  t: [a, b c]\n".text)
    let tree : FileTree := ⟨[(⟨true, 0, [Utf8.encode path]⟩, vocabulary)]⟩
    let broken : FileTree :=
      ⟨[(Settings.directoryPlace, .directory),
        (Settings.place, .file (Utf8.encode "\x7b".text)),
          (⟨true, 0, [Utf8.encode path]⟩, vocabulary)]⟩
    let request : Request := .matchCase "[x:t]".text "b c".text
    let texts (asked : Option Text) :=
      "match".text :: (request.operands ++ request.options asked)
    let lines := ["Matched.".text, "  x = b c".text]
    path ≠ [] ∧ FileTree.AgreesAt (.ofText path) tree broken ∧ IsUnset none ∧
      (∀ operand ∈ request.operands, operand ≠ "--".text ∧
        ¬ vocabularyOption <+: operand) ∧
      (runProgram ⟨"/q".text, broken, some "gone".text⟩ (texts (some path))).lines =
        lines ∧
      (runProgram ⟨"/q".text, broken, some path⟩ (texts none)).lines = lines ∧
      (runProgram ⟨"/q".text, broken, some "gone".text⟩ (texts none)).lines =
        ["Error: Vocabulary file not found: gone".text] ∧
      (runProgram ⟨"/q".text, broken, none⟩ (texts none)).status = 1 := by
  intro path vocabulary tree broken request texts lines
  have hne : path ≠ [] := by decide
  have hagree : FileTree.AgreesAt (.ofText path) tree broken :=
    .of_look_eq (by decide +kernel)
  have hunset : IsUnset none := nofun
  have hoperands : ∀ operand ∈ request.operands,
      operand ≠ "--".text ∧ ¬ vocabularyOption <+: operand := by decide
  let surroundings : Surroundings := ⟨"/p".text, tree, some path⟩
  have hasked :
      runProgram ⟨"/q".text, broken, some "gone".text⟩ (texts (some path)) =
      runProgram surroundings (texts (some path)) :=
    (runProgram_shielded hne hagree (Or.inl rfl)).2.2 request hoperands
  have henvironment : runProgram ⟨"/q".text, broken, some path⟩ (texts none) =
      runProgram surroundings (texts none) :=
    (runProgram_shielded hne hagree (Or.inr ⟨hunset, rfl, rfl⟩)).2.2
      request hoperands
  refine ⟨hne, hagree, hunset, hoperands, ?_, ?_, by decide +kernel,
    by decide +kernel⟩
  · rw [hasked]
    decide +kernel
  · rw [henvironment]
    decide +kernel

end Command

end UtteranceTemplate

import UtteranceTemplate.CommandLine.Help
import UtteranceTemplate.Json.Encode
import UtteranceTemplate.Settings
import UtteranceTemplate.Template.Compile
import UtteranceTemplate.Text.Styling
import UtteranceTemplate.Vocabulary.Bundled
import UtteranceTemplate.Vocabulary.Load

/-!
Running commands: what they print, and with which status they end. What a command
does depends only on its arguments, on the file tree and on the vocabulary path
of the environment.
-/

namespace UtteranceTemplate

/-- What commands can see of the world: the full name of the project's directory, the
files, and the path of the vocabulary in the environment. -/
structure Surroundings where
  project : Text
  tree : FileTree
  vocabularyPath : Option Text

/-- Why a command breaks off without a report of its own. -/
inductive Breakdown
  /-- A vocabulary holds something that nothing can be made of. -/
  | vocabulary (fault : LoadFault) (shown : Text)
  /-- The settings hold something that nothing can be made of. -/
  | settings (fault : SettingsFault)
  /-- A path cannot be looked up. -/
  | path (fault : FileFault) (shown : Text)
  /-- A pattern cannot be read. -/
  | pattern (fault : Pattern.Fault) (text : Text)
  /-- A line holds halves of pairs, which cannot be printed. -/
  | line (text : Text)

/-- What a command does: the lines that it prints, those that it prints as errors,
those that trace it, the status with which it ends, and why it broke off, if it did.
-/
structure Report where
  lines : List Text := []
  errors : List Text := []
  trace : List Text := []
  status : Nat := 0
  breakdown : Option Breakdown := none

namespace Report

/-- A command that only prints. -/
def printing (lines : List Text) : Report := { lines }

def failing (message : Text) : Report :=
  { lines := ["Error: ".text ++ message], status := 1 }

def breaking (breakdown : Breakdown) : Report :=
  { status := 1, breakdown := some breakdown }

/-- Wrong arguments. -/
def misused (command : Option Command) (fault : UsageFault) : Report :=
  { errors := Command.usageLines command fault, status := 2 }

def printed (lines : List Text) : Text :=
  lines.flatMap fun line => line.unstyled ++ [.char '\n']

def output (report : Report) : Text := printed report.lines

/-- A text with the codes of the halves of pairs in it, as errors are printed. -/
def withShownHalves (text : Text) : Text :=
  text.flatMap fun c => if c.isHalf then Text.escapedByCode c.toNat else [c]

/-- What a command prints as errors: its trace first. -/
def errorOutput (report : Report) : Text :=
  withShownHalves ((report.trace.flatMap fun line => line ++ [.char '\n']) ++
    printed report.errors)

/-- Whether a line can be printed: it holds no half of a pair. -/
def isPrinted (line : Text) : Bool := line.unstyled.all (!·.isHalf)

/-- A command as far as its lines can be printed. -/
def upToUnprinted (report : Report) : Report :=
  match report.lines.find? (!isPrinted ·) with
  | none => report
  | some line =>
      { report with
        lines := report.lines.takeWhile isPrinted
        status := 1
        breakdown := some (.line line) }

theorem isPrinted_iff {line : Text} :
    isPrinted line = true ↔ ∀ c ∈ line, c.isHalf = false := by
  have hsame : line.unstyled.filter CodePoint.isHalf = [] ↔
      line.filter CodePoint.isHalf = [] := by
    rw [Text.filter_isHalf_unstyled]
  simpa [isPrinted, List.filter_eq_nil_iff] using hsame

theorem upToUnprinted_of_forall {report : Report}
    (h : ∀ line ∈ report.lines, ∀ c ∈ line, c.isHalf = false) :
    report.upToUnprinted = report := by
  have hnone : report.lines.find? (!isPrinted ·) = none := by
    rw [List.find?_eq_none]
    intro line hline
    simp [isPrinted_iff.mpr (h line hline)]
  rw [upToUnprinted, hnone]

/-- Printing does not look at the trace. -/
theorem upToUnprinted_untraced (report : Report) :
    { report.upToUnprinted with trace := [] } =
      { report with trace := [] }.upToUnprinted := by
  unfold upToUnprinted
  cases hline : report.lines.find? (!isPrinted ·) <;> rfl

def traced (trace : List Text) (report : Report) : Report :=
  { report with trace := trace ++ report.trace }

end Report

namespace Breakdown

/-- The words for what a command breaks off for. -/
def message : Breakdown → Text
  | .vocabulary fault shown => fault.message shown
  | .settings fault => fault.message []
  | .path fault shown => fault.message shown
  | .pattern fault text => fault.message text
  | .line text => Utf8.unwritableMessage CodePoint.isHalf text.unstyled

end Breakdown

/-- A step of a command: its result, or the report with which the command ends. -/
abbrev Attempt (α : Type) := Except Report α

namespace Surroundings

def pathText (surroundings : Surroundings) (path : FilePath) : Text :=
  path.text surroundings.project

def withoutSettings (surroundings : Surroundings) (fault : SettingsFault) : Report :=
  match fault with
  | .unreachable fault =>
      .breaking (.path fault (surroundings.pathText Settings.path))
  | fault =>
      if fault.isReported then
        .failing (fault.message (surroundings.pathText Settings.path))
      else .breaking (.settings fault)

def withoutVocabulary (surroundings : Surroundings) (path : FilePath)
    (fault : LoadFault) : Report :=
  if fault.isReported then .failing (fault.message (surroundings.pathText path))
  else .breaking (.vocabulary fault (surroundings.pathText path))

/-- Loads the vocabulary at a path, with the lines of the trace. -/
def loadVocabulary (surroundings : Surroundings) (path : FilePath) :
    Attempt (Vocabulary × List Text) :=
  match surroundings.tree.hasEntry path with
  | .error fault => .error (.breaking (.path fault (surroundings.pathText path)))
  | .ok false =>
      .error
        (.failing ("Vocabulary file not found: ".text ++ surroundings.pathText path))
  | .ok true =>
      match Vocabulary.load surroundings.tree path with
      | .error fault => .error (surroundings.withoutVocabulary path fault)
      | .ok vocabulary =>
          .ok (vocabulary,
            [Vocabulary.loadedLine (surroundings.pathText path) vocabulary])

/-- The vocabulary to use, with the lines of the trace; `asked` is the path
that is asked for. -/
def vocabulary (surroundings : Surroundings) (asked : Option Text) :
    Attempt (Vocabulary × List Text) :=
  match Settings.chooseVocabulary surroundings.tree asked
    surroundings.vocabularyPath with
  | .error fault => .error (surroundings.withoutSettings fault)
  | .ok none => .ok (Vocabulary.bundled, [])
  | .ok (some path) => surroundings.loadVocabulary path

/-- Whether letter case is ignored: not if it is asked for, and else as the
settings say. -/
def ignoresCase (surroundings : Surroundings) (caseSensitive : Bool) :
    Attempt Bool :=
  if caseSensitive then .ok false
  else
    match Settings.areSaved surroundings.tree with
    | .error fault => .error (surroundings.withoutSettings (.unreachable fault))
    | .ok false => .ok true
    | .ok true =>
        match Settings.load surroundings.tree with
        | .error fault => .error (surroundings.withoutSettings fault)
        | .ok settings => .ok settings.ignoreCase

end Surroundings

namespace Command

def matcherJson (matcher : Matcher) : Json :=
  let texts (entries : Entries Text Text) : Json :=
    .object (entries.map fun (key, value) => (key, .text value))
  .object
    [("template".text, .text matcher.template),
      ("slots".text, Json.texts matcher.slots),
      ("slot_types".text, texts matcher.slotTypes),
      ("parameters".text, texts matcher.parameters),
      ("pattern".text, .text matcher.pattern)]

def matcherLines (matcher : Matcher) : List Text :=
  let slots := joinWith ", ".text matcher.slots
  let types := matcher.slotTypes.map fun (slot, type) =>
    "  ".text ++ slot ++ ": ".text ++ type
  let bindings := matcher.parameters.map fun (name, value) =>
    "  ".text ++ name ++ " = ".text ++ value
  ["Template: ".text ++ matcher.template,
    "Pattern: ".text ++ matcher.pattern,
    "Slots: ".text ++ (if slots.isEmpty then "(none)".text else slots)] ++
    types ++ (if bindings.isEmpty then [] else "Parameters:".text :: bindings)

def matchLines (found : Match) : List Text :=
  let slots := found.slots.map fun (slot, value) =>
    "  ".text ++ slot ++ " = ".text ++ value.getD "(empty)".text
  let bindings := found.parameters.map fun (name, value) =>
    "  [".text ++ name ++ "=".text ++ value ++ "]".text
  "Matched.".text :: (slots ++ bindings)

def compiling (vocabulary : Vocabulary) (template : Text)
    (goOn : Matcher → Report) : Report :=
  let report :=
    match Template.compile vocabulary template with
    | .error error => Report.failing error.message
    | .ok matcher => goOn matcher
  report.traced (Template.trace vocabulary template)

def runCompile (vocabulary : Vocabulary) (template : Text)
    (asJson : Bool) : Report :=
  compiling vocabulary template fun matcher =>
    if asJson then .printing [Json.encode (matcherJson matcher)]
    else .printing (matcherLines matcher)

def runMatch (vocabulary : Vocabulary) (ignoreCase : Bool)
    (template utterance : Text) : Report :=
  compiling vocabulary template fun matcher =>
    match matcher.match? utterance ignoreCase with
    | .error fault => .breaking (.pattern fault matcher.pattern)
    | .ok none => { lines := ["No match.".text], status := 1 }
    | .ok (some found) => .printing (matchLines found)

def runEntityTypes (vocabulary : Vocabulary) : Report :=
  if vocabulary.entries.isEmpty then .printing ["No entity types defined.".text]
  else
    .printing (vocabulary.entries.map fun (name, phrases) =>
      name ++ ": ".text ++ Text.ofNat phrases.length ++ " phrase(s)".text)

def perform (surroundings : Surroundings) (command : Command)
    (arguments : Arguments) : Report :=
  match surroundings.vocabulary (arguments.value? vocabularyOption) with
  | .error report => report
  | .ok (vocabulary, trace) =>
      let report : Report :=
        match command, arguments.operands with
        | .compile, template :: _ =>
            runCompile vocabulary template (arguments.has jsonOption)
        | .match, template :: utterance :: _ =>
            match surroundings.ignoresCase (arguments.has caseOption) with
            | .error report => report
            | .ok ignoreCase => runMatch vocabulary ignoreCase template utterance
        | .entityTypes, _ => runEntityTypes vocabulary
        | _, _ => {}
      report.traced trace

/-- Checks that the path of a vocabulary is not that of a directory, or of a file
that is not to be read. -/
def checkVocabularyOption (tree : FileTree) (command : Command)
    (arguments : Arguments) : Attempt Unit :=
  match arguments.value? vocabularyOption with
  | none => .ok ()
  | some path =>
      if path.isEmpty then .ok ()
      else
        match tree.look (.ofText path) with
        | .ok .directory | .ok .sealedDirectory =>
            .error (.misused command (.directoryValue vocabularyOption path))
        | .ok .sealedFile =>
            .error (.misused command (.unreadableValue vocabularyOption path))
        | .error fault =>
            if fault.isOfSystem then .ok ()
            else .error (.breaking (.path fault path))
        | .ok (.file _) => .ok ()

/-- Runs a command. Help comes before all checks but that of the options' form. -/
def run (surroundings : Surroundings) (command : Command)
    (texts : List Text) : Report :=
  match command.signature.read texts with
  | .error fault => .misused command fault
  | .ok arguments =>
      if arguments.has helpOption then .printing (help command)
      else
        match checkVocabularyOption surroundings.tree command arguments with
        | .error report => report
        | .ok () =>
            match Signature.checkOperands command.signature.operands
              arguments.operands with
            | .error fault => .misused command fault
            | .ok () => (command.perform surroundings arguments).upToUnprinted

/-- Reads the arguments in front of a command. Of help and version the first one
asked for is shown. -/
def readProgram (texts : List Text) : Attempt Arguments :=
  match programSignature.read texts with
  | .error fault => .error (.misused none fault)
  | .ok arguments =>
      match arguments.given.find? fun given =>
          given.name = helpOption || given.name = versionOption with
      | none => .ok arguments
      | some given =>
          .error (.printing
            (if given.name = helpOption then help none
            else [program ++ ", version ".text ++ version]))

/-- Runs the program. A name that is no command's may still be an option of
the program. -/
def runProgram (surroundings : Surroundings) (texts : List Text) : Report :=
  if texts.isEmpty then { errors := help none, status := 2 }
  else
    match readProgram texts with
    | .error report => report
    | .ok arguments =>
        match arguments.operands with
        | [] => .misused none .missingCommand
        | name :: rest =>
            match ofName? name with
            | some command =>
                let report := command.run surroundings rest
                if arguments.has verboseOption then report
                else { report with trace := [] }
            | none =>
                match if Signature.isDashed name then readProgram (name :: rest)
                  else .ok ⟨[], []⟩ with
                | .error report => report
                | .ok _ => .misused none (.noSuchCommand name)

end Command

end UtteranceTemplate

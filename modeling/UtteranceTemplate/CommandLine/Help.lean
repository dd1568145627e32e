import UtteranceTemplate.CommandLine.Arguments

/-!
The commands with the arguments that they take, and their help.
-/

namespace UtteranceTemplate

/-- The commands. -/
inductive Command
  /-- Shows what a template compiles to. -/
  | compile
  /-- Matches an utterance against a template. -/
  | match
  /-- Lists the entity types of the vocabulary. -/
  | entityTypes
  deriving DecidableEq, Repr

namespace Command

def program : Text := "voice-templates".text

def version : Text := "0.1.0".text

def all : List Command := [.compile, .match, .entityTypes]

def name : Command → Text
  | .compile => "compile".text
  | .match => "match".text
  | .entityTypes => "entity-types".text

def ofName? (name : Text) : Option Command :=
  all.find? fun command => command.name = name

def helpOption : Text := "--help".text

def versionOption : Text := "--version".text

def verboseOption : Text := "--verbose".text

def vocabularyOption : Text := "--vocab".text

def jsonOption : Text := "--json".text

def caseOption : Text := "--case-sensitive".text

/-- The arguments in front of a command. -/
def programSignature : Signature :=
  { switches := [⟨versionOption, false⟩, ⟨verboseOption, false⟩, ⟨helpOption, false⟩]
    mixes := false
    operands := [] }

def signature : Command → Signature
  | .compile =>
      { switches :=
          [⟨vocabularyOption, true⟩, ⟨jsonOption, false⟩, ⟨helpOption, false⟩]
        mixes := true
        operands := ["TEMPLATE".text] }
  | .match =>
      { switches :=
          [⟨vocabularyOption, true⟩, ⟨caseOption, false⟩, ⟨helpOption, false⟩]
        mixes := true
        operands := ["TEMPLATE".text, "UTTERANCE".text] }
  | .entityTypes =>
      { switches := [⟨vocabularyOption, true⟩, ⟨helpOption, false⟩]
        mixes := true
        operands := [] }

/-- The name under which a command is called; nothing stands for the program
itself. -/
def callName : Option Command → Text
  | none => program
  | some command => program ++ .char ' ' :: command.name

def usage (command : Option Command) : Text :=
  let arguments :=
    match command with
    | none => ["COMMAND".text, "[ARGS]...".text]
    | some command => command.signature.operands
  "Usage: ".text ++
    joinWith [.char ' '] (callName command :: "[OPTIONS]".text :: arguments)

/-- What a command does, in one line. -/
def summary : Option Command → String
  | none => "Compile voice command templates into utterance matchers."
  | some .compile => "Compile TEMPLATE and print its pattern and slots."
  | some .match => "Match UTTERANCE against TEMPLATE and print the captured slots."
  | some .entityTypes => "List the entity types available to typed slots."

/-- The lines on the options of a command and, for the program, on its commands. -/
def details : Option Command → List String
  | none =>
      ["Options:",
        "  --version  Show the version and exit.",
        "  --verbose  Enable debug logging",
        "  --help     Show this message and exit.",
        "",
        "Commands:",
        "  compile       Compile TEMPLATE and print its pattern and slots.",
        "  entity-types  List the entity types available to typed slots.",
        "  match         Match UTTERANCE against TEMPLATE and print the captured slots."]
  | some .compile =>
      ["Options:",
        "  --vocab FILE  Entity vocabulary YAML file (defaults to the bundled vocabulary)",
        "  --json        Print the matcher as JSON",
        "  --help        Show this message and exit."]
  | some .match =>
      ["Options:",
        "  --vocab FILE      Entity vocabulary YAML file (defaults to the bundled",
        "                    vocabulary)",
        "  --case-sensitive  Match letter case exactly",
        "  --help            Show this message and exit."]
  | some .entityTypes =>
      ["Options:",
        "  --vocab FILE  Entity vocabulary YAML file (defaults to the bundled vocabulary)",
        "  --help        Show this message and exit."]

def help (command : Option Command) : List Text :=
  usage command :: [] :: (' ' :: ' ' :: (summary command).text) :: [] ::
    (details command).map String.text

def usageLines (command : Option Command) (fault : UsageFault) : List Text :=
  let before :=
    if fault.showsUsage then
      [usage command,
        "Try '".text ++ callName command ++ " --help' for help.".text,
        []]
    else []
  before ++ ["Error: ".text ++ fault.message]

end Command

end UtteranceTemplate

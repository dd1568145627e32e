import UtteranceTemplate.Text.Quoted
import UtteranceTemplate.Text.Similarity

/-!
Reading arguments by a signature, which says what options there are. An option starts
with a dash; its value follows an equals sign or is the next argument. Two dashes
alone end the options.
-/

namespace UtteranceTemplate

/-- An option. Its dashes are part of the name. -/
structure Switch where
  name : Text
  hasValue : Bool
  deriving DecidableEq, Repr

/-- What arguments a command takes. If it `mixes` them, options may come behind other
arguments. -/
structure Signature where
  switches : List Switch
  mixes : Bool
  operands : List Text
  deriving DecidableEq, Repr

/-- What is wrong with arguments. -/
inductive UsageFault
  | noSuchOption (name : Text) (similar : List Text)
  | noValue (name : Text)
  | needlessValue (name : Text)
  | missingOperand (name : Text)
  | extraOperands (operands : List Text)
  | missingCommand
  | noSuchCommand (name : Text)
  /-- The value of an option is the path of a directory and should be that of
  a file. -/
  | directoryValue (option path : Text)
  /-- The value of an option is the path of a file for which the user has no
  permission. -/
  | unreadableValue (option path : Text)
  deriving DecidableEq, Repr

/-- An option as it was given. The value is empty for an option without one. -/
structure Given where
  name : Text
  value : Text
  deriving DecidableEq, Repr

/-- Arguments that were read: the options in the order in which they were given, and
the others. -/
structure Arguments where
  given : List Given
  operands : List Text
  deriving DecidableEq, Repr

namespace Signature

/-- What an argument is. -/
inductive Role
  /-- An option with all that belongs to it. -/
  | complete (given : Given)
  /-- An option whose value is the next argument. -/
  | awaiting (name : Text)
  | wrong (fault : UsageFault)

def isDashed (argument : Text) : Bool :=
  match argument with
  | '-' :: _ :: _ => true
  | _ => false

/-- The name of an option that there is not; only of a name with two dashes similar
ones are looked for. -/
def unknown (signature : Signature) (argument name : Text) : UsageFault :=
  match argument with
  | '-' :: '-' :: _ =>
      .noSuchOption name ((signature.switches.map Switch.name).filter fun other =>
        Text.isSimilar other name)
  | _ => .noSuchOption (argument.take 2) []

def roleOf (signature : Signature) (argument : Text) : Role :=
  let name := argument.takeWhile (· != .char '=')
  let value := (argument.dropWhile (· != .char '=')).tail
  let isAttached := argument.contains '='
  match signature.switches.find? fun option => option.name = name with
  | none => .wrong (signature.unknown argument name)
  | some option =>
      if option.hasValue then if isAttached then .complete ⟨name, value⟩
      else .awaiting name
      else if isAttached then .wrong (.needlessValue name)
      else .complete ⟨name, []⟩

def consGiven (given : Given) (arguments : Except UsageFault Arguments) :
    Except UsageFault Arguments :=
  arguments.map fun arguments => { arguments with given := given :: arguments.given }

def read (signature : Signature) : List Text → Except UsageFault Arguments
  | [] => .ok ⟨[], []⟩
  | argument :: rest =>
      if argument = "--".text then .ok ⟨[], rest⟩
      else if isDashed argument then
        match signature.roleOf argument with
        | .complete given => consGiven given (signature.read rest)
        | .wrong fault => .error fault
        | .awaiting name =>
            match rest with
            | [] => .error (.noValue name)
            | value :: rest => consGiven ⟨name, value⟩ (signature.read rest)
      else if signature.mixes then
        (signature.read rest).map fun arguments =>
          { arguments with operands := argument :: arguments.operands }
      else .ok ⟨[], argument :: rest⟩

/-- Pairs the operands with their names: none may be missing and none may be
left over. -/
def checkOperands (names : List Text) : List Text → Except UsageFault Unit
  | operands =>
      match names.drop operands.length with
      | name :: _ => .error (.missingOperand name)
      | [] =>
          if (operands.drop names.length).isEmpty then .ok ()
          else .error (.extraOperands (operands.drop names.length))

end Signature

namespace Arguments

/-- Whether an option was given. -/
def has (arguments : Arguments) (name : Text) : Bool :=
  arguments.given.any fun given => given.name = name

/-- The value of an option; the last one counts. -/
def value? (arguments : Arguments) (name : Text) : Option Text :=
  (arguments.given.reverse.find? fun given => given.name = name).map Given.value

end Arguments

namespace UsageFault

def suggestion (similar : List Text) : Text :=
  match similar with
  | [] => []
  | [name] => " Did you mean ".text ++ name ++ [.char '?']
  | _ =>
      let sorted := similar.mergeSort Text.comesUpTo
      " (Possible options: ".text ++ joinWith ", ".text sorted ++ ")".text

def message : UsageFault → Text
  | .noSuchOption name similar =>
      "No such option: ".text ++ name ++ suggestion similar
  | .noValue name => "Option ".text ++ name.quoted ++ " requires an argument.".text
  | .needlessValue name =>
      "Option ".text ++ name.quoted ++ " does not take a value.".text
  | .missingOperand name => "Missing argument '".text ++ name ++ "'.".text
  | .extraOperands operands =>
      "Got unexpected extra argument".text ++ (if operands.length = 1 then []
        else [.char 's']) ++ " (".text ++ joinWith [.char ' '] operands ++ ")".text
  | .missingCommand => "Missing command.".text
  | .noSuchCommand name => "No such command ".text ++ name.quoted ++ [.char '.']
  | .directoryValue option path =>
      "Invalid value for '".text ++ option ++ "': File ".text ++ path.quoted ++
        " is a directory.".text
  | .unreadableValue option path =>
      "Invalid value for '".text ++ option ++ "': File ".text ++ path.quoted ++
        " is not readable.".text

def showsUsage : UsageFault → Bool
  | .noValue _ | .needlessValue _ => false
  | _ => true

end UsageFault

end UtteranceTemplate

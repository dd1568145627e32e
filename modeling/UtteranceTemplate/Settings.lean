import UtteranceTemplate.Files.Tree
import UtteranceTemplate.Json.Decode
import UtteranceTemplate.Json.Encode

/-!
The settings of a project: the vocabulary that it uses, and whether letter case
counts. They are kept in a JSON file in the project's directory.
-/

namespace UtteranceTemplate

/-- The settings of a project: the path of the vocabulary, seen from the project's
directory, and whether letter case is ignored. -/
structure Settings where
  vocabularyPath : Option Text := none
  ignoreCase : Bool := true
  deriving DecidableEq, Repr

/-- Why settings cannot be loaded. -/
inductive SettingsFault
  /-- There is no file. -/
  | missing
  /-- It cannot be known whether there is a file. -/
  | unreachable (fault : FileFault)
  /-- The file cannot be read. -/
  | unreadable (fault : ReadFault)
  /-- The text of the file is not JSON. -/
  | notJson (fault : Json.Fault) (text : Text)
  /-- The JSON is no object. -/
  | notObject
  /-- The path of the vocabulary is no text. -/
  | badVocabularyPath
  /-- It is not said by a truth value whether letter case is ignored. -/
  | badIgnoreCase
  deriving DecidableEq, Repr

/-- Why settings cannot be saved. -/
inductive SaveFault
  /-- The directory cannot be made, or the file cannot be written. -/
  | file (path : FilePath) (fault : FileFault)
  /-- One of the values cannot be written as JSON. -/
  | value (fault : Json.EncodeFault)
  deriving DecidableEq, Repr

namespace Settings

def directory : FilePath := ⟨.project, [".voice-templates".text]⟩

def path : FilePath := ⟨.project, [".voice-templates".text, "config.json".text]⟩

/-- The names of the settings in their file. -/
def vocabularyPathKey : Text := "vocabulary_path".text

@[inherit_doc vocabularyPathKey]
def ignoreCaseKey : Text := "ignore_case".text

/-- Whether there is something where the settings belong, if that can be known. -/
def areSaved (tree : FileTree) : Except FileFault Bool := tree.hasEntry path

/-- Settings whose values may be any JSON. -/
def toJson (vocabularyPath ignoreCase : Json) : Json :=
  .object [(vocabularyPathKey, vocabularyPath), (ignoreCaseKey, ignoreCase)]

/-- The text of settings whose values may be any JSON. -/
def encode (vocabularyPath ignoreCase : Json) : Text :=
  Json.encode (toJson vocabularyPath ignoreCase) ++ [.char '\n']

/-- Saves settings whose values may be any JSON. Gives the tree as it is then and,
if something fails, why. The directory is made before it is known whether the values
can be written. -/
def save (tree : FileTree) (vocabularyPath ignoreCase : Json) :
    FileTree × Option SaveFault :=
  match tree.makeDirectory directory with
  | .error fault => (tree, some (.file directory fault))
  | .ok tree =>
      match Json.encodeFault? 0 (toJson vocabularyPath ignoreCase) with
      | some fault => (tree, some (.value fault))
      | none =>
          match tree.write path (Utf8.encode (encode vocabularyPath ignoreCase)) with
          | .error fault => (tree, some (.file path fault))
          | .ok tree => (tree, none)

def vocabularyPathOf (members : List (Text × Json)) :
    Except SettingsFault (Option Text) :=
  match Entries.get? members vocabularyPathKey with
  | none | some .null => .ok none
  | some (.text t) => .ok (some t)
  | some _ => .error .badVocabularyPath

def ignoreCaseOf (members : List (Text × Json)) : Except SettingsFault Bool :=
  match Entries.get? members ignoreCaseKey with
  | none => .ok true
  | some (.bool b) => .ok b
  | some _ => .error .badIgnoreCase

def ofJson (json : Json) : Except SettingsFault Settings :=
  match json with
  | .object members =>
      match vocabularyPathOf members with
      | .error fault => .error fault
      | .ok vocabularyPath =>
          (ignoreCaseOf members).map fun ignoreCase => ⟨vocabularyPath, ignoreCase⟩
  | _ => .error .notObject

def decode (text : Text) : Except SettingsFault Settings :=
  match Json.decode text with
  | .error fault => .error (.notJson fault text)
  | .ok json => ofJson json

def load (tree : FileTree) : Except SettingsFault Settings :=
  match areSaved tree with
  | .error fault => .error (.unreachable fault)
  | .ok false => .error .missing
  | .ok true =>
      match tree.readText path with
      | .error fault => .error (.unreadable fault)
      | .ok text => decode text

/-- The path of the vocabulary to use: the one that is asked for, or else that of the
environment, or else that of the settings. An empty path is none. -/
def chooseVocabulary (tree : FileTree) (asked environment : Option Text) :
    Except SettingsFault (Option FilePath) :=
  match asked.filter (!·.isEmpty), environment.filter (!·.isEmpty) with
  | some path, _ => .ok (some (.ofText path))
  | none, some path => .ok (some (.ofText path))
  | none, none =>
      match areSaved tree with
      | .error fault => .error (.unreachable fault)
      | .ok false => .ok none
      | .ok true =>
          (load tree).map fun settings =>
            (settings.vocabularyPath.filter (!·.isEmpty)).map fun path =>
              (FilePath.ofText path).inProject

end Settings

namespace SettingsFault

/-- Whether the fault says that the file holds no settings. The others are that there
is no file, that it cannot be known whether there is one, and that something in it is
too long or too deep to be read. -/
def isReported : SettingsFault → Bool
  | .missing => false
  | .unreachable _ => false
  | .notJson fault _ => fault.isMalformed
  | _ => true

/-- The fault in words, with the written form of the path. -/
def message (path : Text) : SettingsFault → Text
  | .missing => "No config found at ".text ++ path
  | .unreachable fault => fault.message path
  | .unreadable fault =>
      "Cannot read ".text ++ path ++ ": ".text ++ fault.message path
  | .notJson fault text =>
      (if fault.isMalformed then "Invalid JSON in ".text ++ path ++ ": ".text
        else []) ++ fault.message text
  | .notObject =>
      "Invalid config format in ".text ++ path ++ ": expected object".text
  | .badVocabularyPath => "'vocabulary_path' must be a string in ".text ++ path
  | .badIgnoreCase => "'ignore_case' must be true or false in ".text ++ path

/-- Whether the fault in words begins with a key in quotes and ends with the path of
the file, whatever that is. -/
def Names (fault : SettingsFault) (key : Text) : Prop :=
  ∀ path, .char '\'' :: key ++ [.char '\''] <+: fault.message path ∧
    path <:+ fault.message path

theorem names_badVocabularyPath :
    Names .badVocabularyPath Settings.vocabularyPathKey :=
  fun path =>
    ⟨⟨" must be a string in ".text ++ path, rfl⟩, List.suffix_append _ path⟩

theorem names_badIgnoreCase : Names .badIgnoreCase Settings.ignoreCaseKey :=
  fun path =>
    ⟨⟨" must be true or false in ".text ++ path, rfl⟩, List.suffix_append _ path⟩

/-- What is reported names the file. -/
theorem infix_message_of_isReported {fault : SettingsFault}
    (h : fault.isReported = true) (path : Text) : path <:+: fault.message path := by
  cases fault with
  | missing | unreachable => cases h
  | unreadable =>
      rw [message, List.append_assoc]
      exact List.infix_append _ path _
  | notJson reason text =>
      have hmalformed : reason.isMalformed = true := h
      rw [message, if_pos hmalformed, List.append_assoc]
      exact List.infix_append _ path _
  | notObject =>
      rw [message]
      exact List.infix_append _ path _
  | badVocabularyPath => exact (names_badVocabularyPath path).2.isInfix
  | badIgnoreCase => exact (names_badIgnoreCase path).2.isInfix

end SettingsFault

end UtteranceTemplate

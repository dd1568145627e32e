import UtteranceTemplate.Proofs.Concatenation
import UtteranceTemplate.Proofs.JsonWriting
import UtteranceTemplate.Proofs.MatchCommand
import UtteranceTemplate.Proofs.PatternLetters

/-!
What compiling on the command line shows as JSON.

A call names a template and the options (`CompileCall`). Where the vocabulary is
loaded and the template compiles, the command prints one JSON document of printable
ASCII and a line feed behind it, and reading the document gives the parts of the
matcher back in their order (`Command.runProgram_compile_json`): in its names and
bound values nothing can be lost, and in the template and the pattern only two halves
of a pair of units that follow each other are read as the character of the pair
(`Matcher.joined`).
-/

namespace UtteranceTemplate

namespace Json

def ofTexts (entries : Entries Text Text) : Json :=
  .object (entries.map fun (key, value) => (key, .text value))

/-- Whether a value says what a matcher holds: each of its parts under a name of its
own, in this order. -/
structure Shows (json : Json) (matcher : Matcher) : Prop where
  names : ∃ members : Entries Text Json, json = .object members ∧
    members.keys =
      ["template".text, "slots".text, "slot_types".text, "parameters".text,
        "pattern".text]
  template : json.member? "template".text = some (.text matcher.template)
  slots : json.member? "slots".text = some (.array (matcher.slots.map .text))
  slotTypes : json.member? "slot_types".text =
    some (.object (matcher.slotTypes.map fun (slot, type) => (slot, .text type)))
  parameters : json.member? "parameters".text =
    some (.object (matcher.parameters.map fun (name, value) => (name, .text value)))
  pattern : json.member? "pattern".text = some (.text matcher.pattern)

theorem shows_matcherJson (matcher : Matcher) :
    Shows (Command.matcherJson matcher) matcher :=
  ⟨⟨_, rfl, rfl⟩, rfl, rfl, rfl, rfl, rfl⟩

section Texts

variable {depth : Nat} {items : List Text} {entries : Entries Text Text}

theorem itemsFault?_texts (depth : Nat) (items : List Text) :
    itemsFault? depth (items.map .text) = none := by
  induction items with
  | nil => rfl
  | cons t rest ih => simp [itemsFault?, encodeFault?, ih]

theorem membersFault?_texts (depth : Nat) (entries : Entries Text Text) :
    membersFault? depth
      (entries.map fun (key, value) => (key, .text value)) = none := by
  induction entries with
  | nil => rfl
  | cons entry rest ih => simp [membersFault?, encodeFault?, ih]

/-- Rows of texts are written wherever an array may be opened. -/
theorem encodeFault?_texts (h : depth < Decoder.depthLimit) :
    encodeFault? depth (texts items) = none := by
  rw [texts, encodeFault?, if_neg (Nat.not_le.mpr h), itemsFault?_texts]

theorem encodeFault?_ofTexts (h : depth < Decoder.depthLimit) :
    encodeFault? depth (ofTexts entries) = none := by
  rw [ofTexts, encodeFault?, if_neg (Nat.not_le.mpr h), membersFault?_texts]

theorem rereadItems_texts (h : ∀ t ∈ items, IsUnpaired t) :
    rereadItems (items.map .text) = items.map .text := by
  induction items with
  | nil => rfl
  | cons t rest ih =>
      obtain ⟨ht, hrest⟩ := List.forall_mem_cons.mp h
      rw [List.map_cons, rereadItems, reread, joined_eq_self_iff.mpr ht, ih hrest]

theorem rereadMembers_texts
    (h : ∀ entry ∈ entries, IsUnpaired entry.1 ∧ IsUnpaired entry.2) :
    rereadMembers (entries.map fun (key, value) => (key, .text value)) =
      entries.map fun (key, value) => (key, .text value) := by
  induction entries with
  | nil => rfl
  | cons entry rest ih =>
      obtain ⟨⟨hkey, hvalue⟩, hrest⟩ := List.forall_mem_cons.mp h
      rw [List.map_cons, rereadMembers, reread, joined_eq_self_iff.mpr hkey,
        joined_eq_self_iff.mpr hvalue, ih hrest]

/-- Texts that hold no pair are read back in their order. -/
theorem reread_texts (h : ∀ t ∈ items, IsUnpaired t) :
    reread (texts items) = texts items := by
  rw [texts, reread, rereadItems_texts h]

/-- So are texts under different keys. -/
theorem reread_ofTexts (hdistinct : entries.keys.Nodup)
    (h : ∀ entry ∈ entries, IsUnpaired entry.1 ∧ IsUnpaired entry.2) :
    reread (ofTexts entries) = ofTexts entries := by
  rw [ofTexts, reread, rereadMembers_texts h, Entries.ofPairs_of_nodup]
  rw [Entries.keys, List.map_map]
  exact hdistinct

end Texts

end Json

/-- A matcher with the character of a pair in place of its two halves wherever they
follow each other. -/
def Matcher.joined (matcher : Matcher) : Matcher :=
  { matcher with
    template := Json.joined matcher.template
    pattern := Json.joined matcher.pattern }

namespace Template

variable {vocabulary : Vocabulary} {template : Text} {matcher : Matcher}

theorem nodup_keys_of_compile (h : compile vocabulary template = .ok matcher) :
    matcher.slotTypes.keys.Nodup ∧ matcher.parameters.keys.Nodup := by
  obtain ⟨_, hnone, hmade⟩ := isMadeOf_of_compile h
  constructor
  · rw [hmade.slotTypes]
    exact (Draft.sublist_keys_typedEntries _).nodup (noneOffends_iff.mp hnone).2.1
  · rw [hmade.parameters]
    exact Entries.nodup_keys_ofPairs _

/-- A compiled matcher is read back from its JSON. -/
theorem reread_matcherJson (h : compile vocabulary template = .ok matcher) :
    Json.reread (Command.matcherJson matcher) =
      Command.matcherJson matcher.joined := by
  obtain ⟨htypes, hparameters⟩ := nodup_keys_of_compile h
  have hslots : Json.reread (Json.texts matcher.slots) = Json.texts matcher.slots :=
    Json.reread_texts fun slot hslot =>
      Json.isUnpaired_of_isWordChar (isWordChar_of_mem_slots h hslot)
  have hslotTypes : Json.reread (Json.ofTexts matcher.slotTypes) =
      Json.ofTexts matcher.slotTypes := by
    apply Json.reread_ofTexts htypes
    intro entry hentry
    obtain ⟨hslot, htype⟩ := isWordChar_of_mem_slotTypes h hentry
    exact ⟨Json.isUnpaired_of_isWordChar hslot, Json.isUnpaired_of_isWordChar htype⟩
  have hbindings : Json.reread (Json.ofTexts matcher.parameters) =
      Json.ofTexts matcher.parameters := by
    apply Json.reread_ofTexts hparameters
    intro entry hentry
    obtain ⟨hname, hvalue⟩ := isWordChar_of_mem_parameters h hentry
    exact ⟨Json.isUnpaired_of_isWordChar hname, Json.isUnpaired_of_isWordChar hvalue⟩
  -- the template and the pattern are what may change, and the five names are
  -- different
  calc Json.reread (Command.matcherJson matcher)
    _ = .object (Entries.ofPairs
          [("template".text, .text (Json.joined matcher.template)),
            ("slots".text, Json.reread (Json.texts matcher.slots)),
            ("slot_types".text, Json.reread (Json.ofTexts matcher.slotTypes)),
            ("parameters".text, Json.reread (Json.ofTexts matcher.parameters)),
            ("pattern".text, .text (Json.joined matcher.pattern))]) := rfl
    _ = Command.matcherJson matcher.joined := by
        rw [hslots, hslotTypes, hbindings]
        rfl

/-- The JSON of a matcher can be written. -/
theorem encodeFault?_matcherJson (matcher : Matcher) :
    Json.encodeFault? 0 (Command.matcherJson matcher) = none := by
  have hdepth : 1 < Json.Decoder.depthLimit := by decide
  calc Json.encodeFault? 0 (Command.matcherJson matcher)
    _ = (Json.encodeFault? 1 (Json.texts matcher.slots)).or
          ((Json.encodeFault? 1 (Json.ofTexts matcher.slotTypes)).or
            ((Json.encodeFault? 1 (Json.ofTexts matcher.parameters)).or none)) := rfl
    _ = none := by
        rw [Json.encodeFault?_texts hdepth, Json.encodeFault?_ofTexts hdepth,
          Json.encodeFault?_ofTexts hdepth]
        rfl

/-- The JSON of a compiled matcher is read again, with spaces behind it or
without. -/
theorem decode_matcherJson (h : compile vocabulary template = .ok matcher)
    {spaces : Text} (hspaces : Json.Decoder.IsSpacing spaces) :
    Json.decode (Json.encode (Command.matcherJson matcher) ++ spaces) =
      .ok (Command.matcherJson matcher.joined) := by
  rw [Json.decode_encode (encodeFault?_matcherJson matcher) hspaces,
    reread_matcherJson h]

end Template

theorem Matcher.joined_eq_self_iff {matcher : Matcher} :
    matcher.joined = matcher ↔
      Json.IsUnpaired matcher.template ∧ Json.IsUnpaired matcher.pattern := by
  rw [← Json.joined_eq_self_iff, ← Json.joined_eq_self_iff]
  constructor
  · intro h
    exact ⟨congrArg Matcher.template h, congrArg Matcher.pattern h⟩
  · rintro ⟨htemplate, hpattern⟩
    rw [joined, htemplate, hpattern]

/-- A value that says what a matcher holds with pairs in place of their halves says
what the matcher itself holds exactly if there are no such halves. -/
theorem Json.Shows.iff_of_joined {json : Json} {matcher : Matcher}
    (h : json.Shows matcher.joined) :
    json.Shows matcher ↔
      IsUnpaired matcher.template ∧ IsUnpaired matcher.pattern := by
  rw [← Matcher.joined_eq_self_iff]
  constructor
  · intro hshows
    have htemplate := h.template.symm.trans hshows.template
    have hpattern := h.pattern.symm.trans hshows.pattern
    simp only [Option.some.injEq, Json.text.injEq] at htemplate hpattern
    calc matcher.joined
      _ = { matcher with
            template := matcher.joined.template, pattern :=
              matcher.joined.pattern } := rfl
      _ = matcher := by rw [htemplate, hpattern]
  · intro hsame
    rwa [hsame] at h

theorem Vocabulary.isUnpaired_bundled : bundled.IsUnpaired := by
  have hall : ∀ entry ∈ bundled.entries, ∀ phrase ∈ entry.2, ∀ c ∈ phrase,
      c.isHalf = false := by
    decide +kernel
  intro type phrases hlookup phrase hphrase
  exact Json.isUnpaired_of_forall
    (hall _ (Entries.mem_of_get?_eq_some hlookup) phrase hphrase)

section Plain

/-- Printable ASCII and line feeds are printed as they stand. -/
theorem Text.unstyled_of_isPlain {text : Text} (h : Json.IsPlain text) :
    text.unstyled = text := by
  apply unstyled_of_not_mem
  intro hmem
  have hplain := h _ hmem
  revert hplain
  decide

theorem Json.isHalf_of_isPlain {text : Text} (h : IsPlain text) :
    ∀ c ∈ text, c.isHalf = false := by
  intro c hc
  rcases h c hc with rfl | ⟨_, hhigh⟩
  · rfl
  · exact CodePoint.not_isHalf_of_lt (Nat.lt_of_le_of_lt hhigh (by decide))

end Plain

/-- What is asked of compiling on the command line. -/
structure CompileCall where
  asked : Option Text
  asJson : Bool
  template : Text

namespace CompileCall

/-- Whether arguments are in order and make a call. -/
def IsReadFrom (call : CompileCall) (tree : FileTree) (texts : List Text) : Prop :=
  ∃ arguments, (Command.signature .compile).read texts = .ok arguments ∧
    arguments.has Command.helpOption = false ∧
    Command.checkVocabularyOption tree .compile arguments = .ok () ∧
    arguments.operands = [call.template] ∧
    arguments.value? Command.vocabularyOption = call.asked ∧
    arguments.has Command.jsonOption = call.asJson

/-- The options of a call, as they may be given. -/
def given (call : CompileCall) : List Given :=
  (call.asked.toList.map fun path => ⟨Command.vocabularyOption, path⟩) ++
    if call.asJson then [⟨Command.jsonOption, []⟩] else []

/-- The arguments of a call, as they may be given: the options first, two
dashes behind them. -/
def texts (call : CompileCall) : List Text :=
  (call.asked.toList.flatMap fun path => [Command.vocabularyOption, path]) ++
    (if call.asJson then [Command.jsonOption] else []) ++ ["--".text, call.template]

theorem read_texts (call : CompileCall) :
    (Command.signature .compile).read call.texts =
      .ok ⟨call.given, [call.template]⟩ := by
  obtain ⟨asked, asJson, template⟩ := call
  cases asked <;> cases asJson <;> rfl

/-- Any template can be asked for, whatever it begins with. -/
theorem isReadFrom_texts {call : CompileCall} {tree : FileTree}
    (h : Command.checkVocabularyOption tree .compile
      ⟨call.given, [call.template]⟩ = .ok ()) :
    call.IsReadFrom tree call.texts := by
  refine ⟨_, call.read_texts, ?_, h, rfl, ?_, ?_⟩
  all_goals
    obtain ⟨asked, asJson, template⟩ := call
    cases asked <;> cases asJson <;> rfl

end CompileCall

namespace Command

variable {surroundings : Surroundings} {call : CompileCall} {texts rest : List Text}
  {vocabulary : Vocabulary} {matcher : Matcher}

/-- Where there is a vocabulary, the command compiles with it. -/
theorem perform_compile_of_loads
    (hloads : surroundings.Loads call.asked (.ok vocabulary)) {arguments : Arguments}
    (hoperands : arguments.operands = [call.template])
    (hasked : arguments.value? vocabularyOption = call.asked)
    (hjson : arguments.has jsonOption = call.asJson) :
    { perform surroundings .compile arguments with trace := [] } =
      { runCompile vocabulary call.template call.asJson with trace := [] } := by
  obtain ⟨trace, hvocabulary⟩ := (Surroundings.vocabulary_of_loads hloads).1 _ rfl
  simp only [perform, hasked, hvocabulary, hoperands, hjson]
  rfl

/-- Asked for JSON, the command prints the matcher as JSON. -/
theorem run_compile_json (hcall : call.IsReadFrom surroundings.tree texts)
    (hjson : call.asJson = true)
    (hloads : surroundings.Loads call.asked (.ok vocabulary))
    (hcompile : Template.compile vocabulary call.template = .ok matcher) :
    { run surroundings .compile texts with trace := [] } =
      Report.printing [Json.encode (matcherJson matcher)] := by
  obtain ⟨arguments, hread, hhelp, hoption, hoperands, hasked, hgiven⟩ := hcall
  have hcheck : Signature.checkOperands
      (signature .compile).operands arguments.operands = .ok () := by
    rw [hoperands]
    rfl
  have hplain : ∀ line ∈ [Json.encode (matcherJson matcher)], ∀ c ∈ line,
      c.isHalf = false :=
    List.forall_mem_singleton.mpr (Json.isHalf_of_isPlain (Json.isPlain_encode _))
  have hrun : { runCompile vocabulary call.template call.asJson with trace := [] } =
      Report.printing [Json.encode (matcherJson matcher)] := by
    simp only [runCompile, compiling, hcompile, hjson]
    rfl
  rw [run_eq_perform hread hhelp hoption hcheck, Report.upToUnprinted_untraced,
    perform_compile_of_loads hloads hoperands hasked hgiven, hrun,
      Report.upToUnprinted_of_forall hplain]

/-- Whatever the vocabulary that is loaded and the template that compiles, compiling
to JSON ends with status 0 and prints one document of printable ASCII and a line
feed. Read as JSON, it gives the template, the slots, the slot types and the
parameters in their order and the pattern of the matcher. They are exactly as they
were unless the template or the pattern holds the two halves of a pair next to each
other, and the pattern never does unless the template or a phrase does. -/
theorem runProgram_compile_json (hcalled : IsCalledBy .compile texts rest)
    (hcall : call.IsReadFrom surroundings.tree rest) (hjson : call.asJson = true)
    (hloads : surroundings.Loads call.asked (.ok vocabulary))
    (hcompile : Template.compile vocabulary call.template = .ok matcher) :
    let report := runProgram surroundings texts
    report.status = 0 ∧ report.errors = [] ∧ report.breakdown = none ∧
      ∃ document json, report.output = document ++ [.char '\n'] ∧
        Json.IsPlain document ∧ Json.decode document = .ok json ∧
        Json.decode report.output = .ok json ∧
        json.Shows matcher.joined ∧
        (json.Shows matcher ↔
          Json.IsUnpaired matcher.template ∧ Json.IsUnpaired matcher.pattern) ∧
        (Json.IsUnpaired call.template → vocabulary.IsUnpaired →
          json.Shows matcher) := by
  intro report
  -- the statement does not mention the trace, which goes to the errors
  have hreport : { report with trace := [] } =
      Report.printing [Json.encode (matcherJson matcher)] :=
    (runProgram_of_isCalledBy hcalled).trans
      (run_compile_json hcall hjson hloads hcompile)
  have hplain := Json.isPlain_encode (matcherJson matcher)
  have houtput :
      report.output = Json.encode (matcherJson matcher) ++ [.char '\n'] := by
    calc report.output
      _ = { report with trace := [] }.output := rfl
      _ = (Json.encode (matcherJson matcher)).unstyled ++ [.char '\n'] := by
          rw [hreport]
          exact List.append_nil _
      _ = Json.encode (matcherJson matcher) ++ [.char '\n'] := by
        rw [Text.unstyled_of_isPlain hplain]
  have hshows := Json.shows_matcherJson matcher.joined
  have hname : matcher.template = call.template :=
    (Template.isMadeOf_of_compile hcompile).2.2.template
  refine ⟨congrArg Report.status hreport, congrArg Report.errors hreport,
    congrArg Report.breakdown hreport, Json.encode (matcherJson matcher),
    matcherJson matcher.joined,
    houtput, hplain, ?_, ?_, hshows, hshows.iff_of_joined, ?_⟩
  · have hdecode := Template.decode_matcherJson hcompile Json.isSpacing_nil
    rwa [List.append_nil] at hdecode
  · rw [houtput]
    exact Template.decode_matcherJson hcompile (List.forall_mem_singleton.mpr rfl)
  · intro htemplate hvocabulary
    exact hshows.iff_of_joined.mpr
      ⟨hname ▸ htemplate, Template.isUnpaired_pattern hcompile htemplate hvocabulary⟩

/-- A quote, a backslash, a control character and three characters beyond the first
65536 code points. -/
def markedText : Text :=
  "\"\\😀\x07".text ++ [.char (Char.ofNat 0x10d83d), .char (Char.ofNat 0x10de00)]

theorem ofTemplate_marked :
    Reading.ofTemplate ("[n=one] [m=two] ".text ++ markedText ++
        "\x7b now\x7d [s:musicServiceName] [x] [n=three]".text) =
      ⟨[⟨0, "[n=one]".text, .parameter "n".text "one".text⟩,
        ⟨8, "[m=two]".text, .parameter "m".text "two".text⟩,
        ⟨16, markedText ++ "\x7b now\x7d ".text,
          .words (markedText ++ "\x7b now\x7d ".text)⟩,
        ⟨29, "[s:musicServiceName]".text,
          .typedSlot "s".text "musicServiceName".text⟩,
        ⟨50, "[x]".text, .untypedSlot "x".text⟩,
        ⟨54, "[n=three]".text, .parameter "n".text "three".text⟩], []⟩ := by
  decide +kernel

/-- The template binds a parameter twice. -/
theorem runProgram_compile_json_marked :
    let surroundings : Surroundings := ⟨"/p".text, .empty, none⟩
    let template := "[n=one] [m=two] ".text ++ markedText ++
      "\x7b now\x7d [s:musicServiceName] [x] [n=three]".text
    let call : CompileCall := ⟨none, true, template⟩
    let matcher : Matcher :=
      { template, slots := ["s".text, "x".text]
        slotTypes := [("s".text, "musicServiceName".text)]
        parameters := [("n".text, "three".text), ("m".text, "two".text)]
        pattern := " \"\\\\😀\x07".text ++ markedText.drop 4 ++
          "(?: now)?( youtube| spotify| video)( .+?)".text }
    let texts := "compile".text :: call.texts
    IsCalledBy .compile texts call.texts ∧
      call.IsReadFrom surroundings.tree call.texts ∧
      call.asJson = true ∧ surroundings.Loads call.asked (.ok .bundled) ∧
      Template.compile .bundled template = .ok matcher ∧
      (runProgram surroundings texts).status = 0 ∧
      ∃ json, Json.decode (runProgram surroundings texts).output = .ok json ∧
        json.Shows matcher := by
  intro surroundings template call matcher texts
  have hcalled : IsCalledBy .compile texts call.texts :=
    isCalledBy_name_cons .compile call.texts
  have hcall : call.IsReadFrom surroundings.tree call.texts :=
    CompileCall.isReadFrom_texts rfl
  have hloads : surroundings.Loads none (.ok .bundled) :=
    .bundled (.unsaved (by simp [IsUnset]) (by simp [IsUnset, surroundings]) rfl)
  have hcompile : Template.compile .bundled template = .ok matcher := by
    simp only [template, Template.compile, ofTemplate_marked]
    rfl
  have htemplate : Json.IsUnpaired template := Json.isUnpaired_of_forall (by decide)
  obtain ⟨hstatus, _, _, document, json, _, _, _, hdecode, _, _, hexact⟩ :=
    runProgram_compile_json hcalled hcall rfl hloads hcompile
  exact ⟨hcalled, hcall, rfl, hloads, hcompile, hstatus, json, hdecode,
    hexact htemplate Vocabulary.isUnpaired_bundled⟩

end Command

end UtteranceTemplate

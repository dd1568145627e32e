import UtteranceTemplate.Text.Blank
import UtteranceTemplate.Text.WordChar
import UtteranceTemplate.Text.Printable
import UtteranceTemplate.Text.CaseFolding
import UtteranceTemplate.Pattern.Reader
import UtteranceTemplate.Catalogue
import UtteranceTemplate.Utterance
import UtteranceTemplate.Template.Reading
import UtteranceTemplate.Text.Quoted
import UtteranceTemplate.Pattern.Braces
import UtteranceTemplate.Template.Compile
import UtteranceTemplate.Decimal.Notation
import UtteranceTemplate.Template.Unchecked
import UtteranceTemplate.Vocabulary.Bundled
import UtteranceTemplate.Vocabulary.Load
import UtteranceTemplate.Settings
import UtteranceTemplate.CommandLine.Run
import UtteranceTemplate.Main
import UtteranceTemplate.Proofs.CaseFolding
import UtteranceTemplate.Proofs.SingleSpacing
import UtteranceTemplate.Proofs.Drafting
import UtteranceTemplate.Proofs.Grouping
import UtteranceTemplate.Proofs.Captures
import UtteranceTemplate.Proofs.PatternReading
import UtteranceTemplate.Proofs.CompiledMatcher
import UtteranceTemplate.Proofs.PatternSearch
import UtteranceTemplate.Proofs.Choices
import UtteranceTemplate.Proofs.Cutting
import UtteranceTemplate.Proofs.FragmentReading
import UtteranceTemplate.Proofs.FragmentSearch
import UtteranceTemplate.Proofs.TypedSlots
import UtteranceTemplate.Proofs.LocalBraces
import UtteranceTemplate.Proofs.CuttingSearch
import UtteranceTemplate.Proofs.CuttingMatch
import UtteranceTemplate.Proofs.FragmentSource
import UtteranceTemplate.Proofs.TemplateReading
import UtteranceTemplate.Proofs.CompileOutcome
import UtteranceTemplate.Proofs.Seams
import UtteranceTemplate.Proofs.BraceOrder
import UtteranceTemplate.Proofs.Concatenation
import UtteranceTemplate.Proofs.PatternLanguage
import UtteranceTemplate.Proofs.SpacedRows
import UtteranceTemplate.Proofs.OptionalFragments
import UtteranceTemplate.Proofs.ChoiceTexts
import UtteranceTemplate.Proofs.OptionalChoices
import UtteranceTemplate.Proofs.OptionalText
import UtteranceTemplate.Proofs.WholeWords
import UtteranceTemplate.Proofs.Outcomes
import UtteranceTemplate.Proofs.ElidedSlots
import UtteranceTemplate.Proofs.WiderPatterns
import UtteranceTemplate.Proofs.WiderVocabularies
import UtteranceTemplate.Proofs.VocabularyEntries
import UtteranceTemplate.Proofs.VocabularyLoading
import UtteranceTemplate.Proofs.JsonReading
import UtteranceTemplate.Proofs.TextFiles
import UtteranceTemplate.Proofs.SettingsLoading
import UtteranceTemplate.Proofs.JsonTexts
import UtteranceTemplate.Proofs.JsonNumbers
import UtteranceTemplate.Proofs.JsonWriting
import UtteranceTemplate.Proofs.FileTrees
import UtteranceTemplate.Proofs.SettingsSaving
import UtteranceTemplate.Proofs.Respacing
import UtteranceTemplate.Proofs.TemplateSpacing
import UtteranceTemplate.Proofs.OwnPhrases
import UtteranceTemplate.Proofs.CommandSources
import UtteranceTemplate.Proofs.MatchCommand
import UtteranceTemplate.Proofs.CaseInclusion
import UtteranceTemplate.Proofs.ParameterBindings
import UtteranceTemplate.Proofs.VocabularyChecking
import UtteranceTemplate.Proofs.PatternLetters
import UtteranceTemplate.Proofs.CompileCommand
import UtteranceTemplate.Proofs.QuotedTexts
import UtteranceTemplate.Proofs.TracedPieces
import UtteranceTemplate.Proofs.NamedTypes
import UtteranceTemplate.Proofs.ShieldedSources
import UtteranceTemplate.Proofs.OptionalRewrite
import UtteranceTemplate.Proofs.OpaquePhrases
import UtteranceTemplate.Proofs.NormalUtterances

import BotConfig.Binary64
import BotConfig.Binary64.Notation
import BotConfig.CommandLine
import BotConfig.Comment
import BotConfig.Config
import BotConfig.Consistency
import BotConfig.Decimal
import BotConfig.Decode
import BotConfig.Document
import BotConfig.Duration
import BotConfig.EnvironmentFile
import BotConfig.Error
import BotConfig.FileTree
import BotConfig.Handle
import BotConfig.Layer
import BotConfig.Loader
import BotConfig.Log
import BotConfig.Log.Filter
import BotConfig.Main
import BotConfig.Market
import BotConfig.Number
import BotConfig.Numeral
import BotConfig.Order
import BotConfig.Override
import BotConfig.Pair
import BotConfig.Pairlist
import BotConfig.Path
import BotConfig.Pattern.Expression
import BotConfig.Pattern.Property
import BotConfig.Pattern.Reader
import BotConfig.Pattern.SymbolSet
import BotConfig.Program
import BotConfig.Proofs.Acceptable
import BotConfig.Proofs.Acceptance
import BotConfig.Proofs.Alignment
import BotConfig.Proofs.Alike
import BotConfig.Proofs.Amounts
import BotConfig.Proofs.Anchoring
import BotConfig.Proofs.Blame
import BotConfig.Proofs.Blanking
import BotConfig.Proofs.Brackets
import BotConfig.Proofs.Capitals
import BotConfig.Proofs.Closed
import BotConfig.Proofs.Closing
import BotConfig.Proofs.Conservation
import BotConfig.Proofs.Credentials
import BotConfig.Proofs.Defaults
import BotConfig.Proofs.Dependencies
import BotConfig.Proofs.Durations
import BotConfig.Proofs.Elsewhere
import BotConfig.Proofs.Enumeration
import BotConfig.Proofs.Exposure
import BotConfig.Proofs.Fields
import BotConfig.Proofs.Folders
import BotConfig.Proofs.Following
import BotConfig.Proofs.Forms
import BotConfig.Proofs.Forward
import BotConfig.Proofs.FreeText
import BotConfig.Proofs.Fuel
import BotConfig.Proofs.Grammar
import BotConfig.Proofs.Ignoring
import BotConfig.Proofs.Includes
import BotConfig.Proofs.Inclusion
import BotConfig.Proofs.Literals
import BotConfig.Proofs.Locating
import BotConfig.Proofs.Masking
import BotConfig.Proofs.Matching
import BotConfig.Proofs.MergePatch
import BotConfig.Proofs.Merging
import BotConfig.Proofs.Moving
import BotConfig.Proofs.Narrowing
import BotConfig.Proofs.Offenders
import BotConfig.Proofs.Overrides
import BotConfig.Proofs.Parentheses
import BotConfig.Proofs.Paths
import BotConfig.Proofs.Places
import BotConfig.Proofs.Precedence
import BotConfig.Proofs.Presentation
import BotConfig.Proofs.Reading
import BotConfig.Proofs.Redaction
import BotConfig.Proofs.Reloading
import BotConfig.Proofs.Reordering
import BotConfig.Proofs.Repetition
import BotConfig.Proofs.Reporting
import BotConfig.Proofs.Rereading
import BotConfig.Proofs.Respelling
import BotConfig.Proofs.RoundTrip
import BotConfig.Proofs.Rounding
import BotConfig.Proofs.Scanning
import BotConfig.Proofs.Secrecy
import BotConfig.Proofs.Secrets
import BotConfig.Proofs.Sections
import BotConfig.Proofs.Segments
import BotConfig.Proofs.Serialization
import BotConfig.Proofs.Settlement
import BotConfig.Proofs.Shortest
import BotConfig.Proofs.Spelling
import BotConfig.Proofs.Standalone
import BotConfig.Proofs.Substitution
import BotConfig.Proofs.Symbols
import BotConfig.Proofs.Traced
import BotConfig.Proofs.Unambiguous
import BotConfig.Proofs.Uncommented
import BotConfig.Proofs.Unseen
import BotConfig.Proofs.Unused
import BotConfig.Proofs.Vacancy
import BotConfig.Proofs.Verbatim
import BotConfig.Proofs.Visible
import BotConfig.Proofs.Withdrawal
import BotConfig.Redaction
import BotConfig.Settings.ApiServer
import BotConfig.Settings.Edge
import BotConfig.Settings.Exchange
import BotConfig.Settings.Internals
import BotConfig.Settings.Orders
import BotConfig.Settings.PairlistChain
import BotConfig.Settings.Pricing
import BotConfig.Settings.Stake
import BotConfig.Settings.Telegram
import BotConfig.Source
import BotConfig.StoplossSupport
import BotConfig.Strict.Lexeme
import BotConfig.Strict.Reader
import BotConfig.Text.Classes
import BotConfig.Text.Combining
import BotConfig.Text.Quoted
import BotConfig.Text.Unprintable
import BotConfig.Value
import BotConfig.Value.Printer
import BotConfig.Yaml.Event
import BotConfig.Yaml.Lexer
import BotConfig.Yaml.Scalar
import BotConfig.Yaml.Token
import BotConfig.Yaml.Tree

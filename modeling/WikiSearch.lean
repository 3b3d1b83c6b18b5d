import WikiSearch.Main
import WikiSearch.Proofs.Parsing
import WikiSearch.Proofs.Layout
import WikiSearch.Proofs.Length
import WikiSearch.Proofs.Backend.Reading
import WikiSearch.Proofs.Backend.RoundTrip
import WikiSearch.Proofs.Fallback.Budget
import WikiSearch.Proofs.Fallback.Ruling
import WikiSearch.Proofs.Fallback.Idempotence
import WikiSearch.Proofs.Filter.Compilation
import WikiSearch.Proofs.Keyword.FileProperty
import WikiSearch.Proofs.Token.Rules
import WikiSearch.Proofs.Token.Tokenization
import WikiSearch.Proofs.Token.Locality
import WikiSearch.Proofs.Locality
import WikiSearch.Proofs.Keyword.Meaning
import WikiSearch.Proofs.Filter.Builtin
import WikiSearch.Proofs.Toml.Text
import WikiSearch.Proofs.Toml.Document
import WikiSearch.Proofs.Settings.RoundTrip
import WikiSearch.Proofs.Toml.Table
import WikiSearch.Proofs.Settings.Isolation
import WikiSearch.Proofs.Token.EscapedBlank
import WikiSearch.Proofs.Filter.Range
import WikiSearch.Proofs.Keyword.Lists
import WikiSearch.Proofs.Keyword.Truncation
import WikiSearch.Proofs.Token.Quoting
import WikiSearch.Proofs.Literal
import WikiSearch.Proofs.Fallback.Score
import WikiSearch.Proofs.Fallback.Selection
import WikiSearch.Proofs.Fallback.Skipping
import WikiSearch.Proofs.Fallback.Echo
import WikiSearch.Proofs.Fallback.Monotonicity
import WikiSearch.Proofs.Registry.Building
import WikiSearch.Proofs.Registry.Extension
import WikiSearch.Proofs.Settings.Precedence
import WikiSearch.Proofs.Settings.Disabling
import WikiSearch.Proofs.Filter.Normal
import WikiSearch.Proofs.Keyword.FileValue
import WikiSearch.Proofs.Keyword.Underscores
import WikiSearch.Proofs.Outline
import WikiSearch.Proofs.Token.Cursor
import WikiSearch.Proofs.Token.Progress

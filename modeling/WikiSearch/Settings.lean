import WikiSearch.Fallback.Profile
import WikiSearch.Keyword.Registry
import WikiSearch.Query.Options
import WikiSearch.Settings.Layer
import WikiSearch.Toml.Library

/-!
# WikiSearch — settings

The settings are what the layers of files leave of the built-in values: the closest
file that sets a setting decides, and a list is taken whole from there. They say how
queries are read, which keywords are registered, and which fallbacks run.
-/

namespace WikiSearch

/-- Settings about queries. -/
structure ParserSettings where
  maxLength : Nat := defaultMaxLength
  leadingWildcards : Bool := true
  strictMatching : Bool := false
  exemptKeywords : List String := defaultExemptKeywords
  defaultOccur : PlainOccur := .must
deriving DecidableEq, Repr, Inhabited

/-- Settings about keywords. -/
structure KeywordSettings where
  caps : Caps := {}
  disabled : List String := []
deriving DecidableEq, Repr, Inhabited

/-- All settings. -/
structure Settings where
  parser : ParserSettings := {}
  keywords : KeywordSettings := {}
  fallback : Fallback.Profile := {}
deriving DecidableEq, Repr, Inhabited

namespace Settings

/-! ## Layers -/

/-- Settings about queries under one more layer. -/
def ParserLayer.over (layer : ParserLayer) (s : ParserSettings) : ParserSettings where
  maxLength := layer.maxLength.getD s.maxLength
  leadingWildcards := layer.leadingWildcards.getD s.leadingWildcards
  strictMatching := layer.strictMatching.getD s.strictMatching
  exemptKeywords := layer.exemptKeywords.getD s.exemptKeywords
  defaultOccur := layer.defaultOccur.getD s.defaultOccur

/-- Settings about keywords under one more layer. -/
def KeywordLayer.over (layer : KeywordLayer) (s : KeywordSettings) : KeywordSettings where
  caps := {
    pageIds := layer.pageIds.getD s.caps.pageIds
    recommendationFlags := layer.recommendationFlags.getD s.caps.recommendationFlags
    categories := layer.categories.getD s.caps.categories
    topics := layer.topics.getD s.caps.topics }
  disabled := layer.disabled.getD s.disabled

/-- Settings about suggestions under one more layer. -/
def PhraseSuggestLayer.over (layer : PhraseSuggestLayer) (s : Fallback.PhraseSuggestSettings) :
    Fallback.PhraseSuggestSettings where
  enabled := layer.enabled.getD s.enabled
  mayReplace := layer.mayReplace.getD s.mayReplace
  hitsThreshold := layer.hitsThreshold.getD s.hitsThreshold

/-- Settings about the index under one more layer. -/
def IndexLookupLayer.over (layer : IndexLookupLayer) (s : Fallback.IndexLookupSettings) :
    Fallback.IndexLookupSettings where
  enabled := layer.enabled.getD s.enabled
  mayReplace := layer.mayReplace.getD s.mayReplace

/-- Settings about fallbacks under one more layer. -/
def FallbackLayer.over (layer : FallbackLayer) (s : Fallback.Profile) : Fallback.Profile where
  callBudget := layer.callBudget.getD s.callBudget
  phraseSuggest := (layer.phraseSuggest.map (·.over s.phraseSuggest)).getD s.phraseSuggest
  indexLookup := (layer.indexLookup.map (·.over s.indexLookup)).getD s.indexLookup

/-- Settings under one more layer. -/
def Layer.over (layer : Layer) (s : Settings) : Settings where
  parser := (layer.parser.map (·.over s.parser)).getD s.parser
  keywords := (layer.keywords.map (·.over s.keywords)).getD s.keywords
  fallback := (layer.fallback.map (·.over s.fallback)).getD s.fallback

/-- The settings that some layers leave, the closest first. -/
def ofLayers (layers : List Layer) : Settings := layers.foldr Layer.over {}

/-- Without files all settings have their built-in values. -/
@[simp]
theorem ofLayers_nil : ofLayers [] = {} := rfl

/-- The first layer lies on top of the others. -/
@[simp]
theorem ofLayers_cons (layer : Layer) (layers : List Layer) :
    ofLayers (layer :: layers) = layer.over (ofLayers layers) := rfl

/-! ## What the settings say -/

/-- Names in lower case, each once, in their order. -/
def sortedNames (names : List String) : List String :=
  ((names.map Text.foldName).mergeSort fun a b => decide (a ≤ b)).eraseDups

/-- How queries are read. -/
def queryOptions (s : Settings) : QueryOptions where
  maxLength := some s.parser.maxLength
  leadingWildcards := s.parser.leadingWildcards
  strictMatching := s.parser.strictMatching
  exemptKeywords := sortedNames s.parser.exemptKeywords
  defaultOccur := s.parser.defaultOccur.toOccur

/-- Whether a feature stays: none of its keywords is disabled. -/
def keeps (s : Settings) (feature : Feature) : Bool :=
  !feature.keywords.any fun k => s.keywords.disabled.any (Text.sameName · k)

/-- The registered keywords: those of the built-in features that stay. -/
def registry (s : Settings) : Except Registry.Duplicate Registry :=
  Registry.build [.builtins s.keywords.caps, .retain s.keeps]

/-! ## Writing -/

open Toml (Value)

/-- A list of names as a value. -/
def namesValue (names : List String) : Value := .array (names.map .text)

/-- The settings about queries, in the order of their declaration. -/
def parserTable (s : ParserSettings) : Toml.Table :=
  [("max_query_length", .integer s.maxLength),
   ("allow_leading_wildcard", .boolean s.leadingWildcards),
   ("strict_matching", .boolean s.strictMatching),
   ("exempt_keywords", namesValue s.exemptKeywords),
   ("default_occur", .text s.defaultOccur.name)]

/-- The settings about keywords, in the order of their declaration. -/
def keywordTable (s : KeywordSettings) : Toml.Table :=
  [("max_page_ids", .integer s.caps.pageIds),
   ("max_recommendation_flags", .integer s.caps.recommendationFlags),
   ("max_categories", .integer s.caps.categories),
   ("max_topics", .integer s.caps.topics),
   ("disabled", namesValue s.disabled)]

/-- The settings about suggestions, in the order of their declaration. -/
def phraseSuggestTable (s : Fallback.PhraseSuggestSettings) : Toml.Table :=
  [("enabled", .boolean s.enabled), ("rewrite", .boolean s.mayReplace),
   ("rewrite_hits_threshold", .integer s.hitsThreshold)]

/-- The settings about the index, in the order of their declaration. -/
def indexLookupTable (s : Fallback.IndexLookupSettings) : Toml.Table :=
  [("enabled", .boolean s.enabled), ("rewrite", .boolean s.mayReplace)]

/-- The settings about fallbacks, in the order of their declaration. -/
def fallbackTable (s : Fallback.Profile) : Toml.Table :=
  [("costly_call_budget", .integer s.callBudget),
   ("phrase_suggest", .table (phraseSuggestTable s.phraseSuggest)),
   ("index_lookup", .table (indexLookupTable s.indexLookup))]

/-- The table of a file that sets all settings. -/
def toTable (s : Settings) : Toml.Table :=
  [("parser", .table (parserTable s.parser)), ("keywords", .table (keywordTable s.keywords)),
   ("fallback", .table (fallbackTable s.fallback))]

/-- Why settings could not be written: what the library has said. -/
structure SaveError where
  reason : String
deriving DecidableEq, Repr

/-- What a reader is told. -/
def SaveError.message (e : SaveError) : String := "failed to serialize settings: " ++ e.reason

/-- The text of a file that sets all settings, as a library writes it. -/
def toToml (lib : Toml.Library) (s : Settings) : Except SaveError String :=
  (lib.write s.toTable).mapError .mk

/-- The text of a file that sets all settings. The library in use never fails to write one. -/
def render (s : Settings) : String := (s.toToml Toml.library).toOption.getD ""

end Settings

end WikiSearch

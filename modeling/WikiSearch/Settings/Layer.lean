import WikiSearch.Occur
import WikiSearch.Settings.Field

/-!
# WikiSearch — the settings of one file

A file sets some settings and leaves the others to files further away. The files
form layers: the closest lies on top.
-/

namespace WikiSearch

/-- How clauses without a sign take part, as far as it can be chosen. -/
inductive PlainOccur where
  | must
  | should
deriving DecidableEq, Repr, Inhabited

namespace PlainOccur

/-- The name in a settings file. -/
def name : PlainOccur → String
  | must => "must"
  | should => "should"

/-- How such a clause takes part. -/
def toOccur : PlainOccur → Occur
  | must => .must
  | should => .should

/-- The choices with their names. -/
def choices : List (String × PlainOccur) := [must, should].map fun o => (o.name, o)

end PlainOccur

namespace Settings

/-- What a file sets about queries. -/
structure ParserLayer where
  maxLength : Option Nat := none
  leadingWildcards : Option Bool := none
  strictMatching : Option Bool := none
  exemptKeywords : Option (List String) := none
  defaultOccur : Option PlainOccur := none
deriving DecidableEq, Repr, Inhabited

/-- What a file sets about keywords. -/
structure KeywordLayer where
  pageIds : Option Nat := none
  recommendationFlags : Option Nat := none
  categories : Option Nat := none
  topics : Option Nat := none
  disabled : Option (List String) := none
deriving DecidableEq, Repr, Inhabited

/-- What a file sets about suggestions that come with results. -/
structure PhraseSuggestLayer where
  enabled : Option Bool := none
  mayReplace : Option Bool := none
  hitsThreshold : Option Nat := none
deriving DecidableEq, Repr, Inhabited

/-- What a file sets about the index of known good queries. -/
structure IndexLookupLayer where
  enabled : Option Bool := none
  mayReplace : Option Bool := none
deriving DecidableEq, Repr, Inhabited

/-- What a file sets about fallbacks. -/
structure FallbackLayer where
  callBudget : Option Nat := none
  phraseSuggest : Option PhraseSuggestLayer := none
  indexLookup : Option IndexLookupLayer := none
deriving DecidableEq, Repr, Inhabited

/-- What a file sets. -/
structure Layer where
  /-- Whether files further away do not count. -/
  root : Option Bool := none
  parser : Option ParserLayer := none
  keywords : Option KeywordLayer := none
  fallback : Option FallbackLayer := none
deriving DecidableEq, Repr, Inhabited

/-! ## Reading -/

/-- The settings about queries, in the order of their declaration. -/
def parserFields : List (Field ParserLayer) :=
  [.of "max_query_length" readSize fun n s => { s with maxLength := some n },
   .of "allow_leading_wildcard" readBoolean fun b s => { s with leadingWildcards := some b },
   .of "strict_matching" readBoolean fun b s => { s with strictMatching := some b },
   .of "exempt_keywords" readNames fun ks s => { s with exemptKeywords := some ks },
   .of "default_occur" (readChoice PlainOccur.choices)
     fun o s => { s with defaultOccur := some o }]

/-- The settings about keywords, in the order of their declaration. -/
def keywordFields : List (Field KeywordLayer) :=
  [.of "max_page_ids" readSize fun n s => { s with pageIds := some n },
   .of "max_recommendation_flags" readSize fun n s => { s with recommendationFlags := some n },
   .of "max_categories" readSize fun n s => { s with categories := some n },
   .of "max_topics" readSize fun n s => { s with topics := some n },
   .of "disabled" readNames fun ks s => { s with disabled := some ks }]

/-- The settings about suggestions that come with results, in the order of their
declaration. -/
def phraseSuggestFields : List (Field PhraseSuggestLayer) :=
  [.of "enabled" readBoolean fun b s => { s with enabled := some b },
   .of "rewrite" readBoolean fun b s => { s with mayReplace := some b },
   .of "rewrite_hits_threshold" readHits fun n s => { s with hitsThreshold := some n }]

/-- The settings about the index of known good queries, in the order of their
declaration. -/
def indexLookupFields : List (Field IndexLookupLayer) :=
  [.of "enabled" readBoolean fun b s => { s with enabled := some b },
   .of "rewrite" readBoolean fun b s => { s with mayReplace := some b }]

/-- The settings about fallbacks, in the order of their declaration. -/
def fallbackFields : List (Field FallbackLayer) :=
  [.of "costly_call_budget" readSize fun n s => { s with callBudget := some n },
   .of "phrase_suggest" (readSection "RawPhraseSuggestSettings" phraseSuggestFields {})
     fun p s => { s with phraseSuggest := some p },
   .of "index_lookup" (readSection "RawIndexLookupSettings" indexLookupFields {})
     fun l s => { s with indexLookup := some l }]

/-- All settings, in the order of their declaration. -/
def layerFields : List (Field Layer) :=
  [.of "root" readBoolean fun b s => { s with root := some b },
   .of "parser" (readSection "RawParserSettings" parserFields {})
     fun p s => { s with parser := some p },
   .of "keywords" (readSection "RawKeywordSettings" keywordFields {})
     fun k s => { s with keywords := some k },
   .of "fallback" (readSection "RawFallbackSettings" fallbackFields {})
     fun f s => { s with fallback := some f }]

/-- What a TOML table sets. -/
def Layer.ofTable (table : Toml.Table) : Except Problem Layer := readTable layerFields table {}

end Settings

end WikiSearch

import WikiSearch.Keyword.Category
import WikiSearch.Keyword.FileProperty
import WikiSearch.Keyword.PageId
import WikiSearch.Keyword.Recommendation
import WikiSearch.Keyword.Topic

/-!
# WikiSearch — the registered keywords

A registry lists the features that give keywords their meaning, each with the
source that it comes from. It is built in steps, and building fails if two
features claim the same keyword, so that a look-up never has a choice.
-/

namespace WikiSearch

/-- How many entries the built-in list values keep. -/
structure Caps where
  pageIds : Nat := defaultMaxPageIds
  recommendationFlags : Nat := defaultMaxRecommendationFlags
  categories : Nat := defaultMaxCategories
  topics : Nat := defaultMaxTopics
deriving Repr, DecidableEq, Inhabited

/-- The built-in features, in the order of their registration. -/
def builtinFeatures (caps : Caps) : List Feature :=
  [.category caps.categories, .topic caps.topics, .pageId caps.pageIds,
   .recommendation caps.recommendationFlags, .fileProperty]

/-- A feature and the source that registered it. -/
structure Registered where
  source : String
  feature : Feature

/-- The active features, in the order of their registration. -/
structure Registry where
  entries : List Registered

/-- The source of the built-in features. -/
def builtinSource : String := "builtin"

/-- The features of one source, ready to be registered. -/
def registeredBy (source : String) (features : List Feature) : List Registered :=
  features.map (⟨source, ·⟩)

namespace Registry

/-- The registry of the built-in features. -/
def builtin (caps : Caps) : Registry := ⟨registeredBy builtinSource (builtinFeatures caps)⟩

/-- The active features. -/
def features (r : Registry) : List Feature := r.entries.map (·.feature)

/-- The feature that answers to a keyword. -/
def find? (r : Registry) (key : String) : Option Feature := r.features.find? (·.answersTo key)

/-- Whether a feature answers to a keyword. -/
def knows (r : Registry) (key : String) : Bool := (r.find? key).isSome

/-! ## Building a registry -/

/-- A step in building a registry. -/
inductive Step where
  | builtins (caps : Caps)
  | source (name : String) (features : List Feature)
  /-- Keeps, of all features added so far, those that satisfy the test. -/
  | retain (keep : Feature → Bool)

/-- What a step makes of the features added so far. -/
def Step.apply (added : List Registered) : Step → List Registered
  | .builtins caps => added ++ registeredBy builtinSource (builtinFeatures caps)
  | .source name features => added ++ registeredBy name features
  | .retain keep => added.filter (keep ·.feature)

/-- A keyword, without case, and the source that claims it. -/
structure Claim where
  keyword : String
  source : String
deriving Repr, DecidableEq

/-- The keywords that a list of features claims, in order. -/
def claims (added : List Registered) : List Claim :=
  added.flatMap fun e => e.feature.keywords.map fun k => ⟨Text.foldName k, e.source⟩

/-- Two features claim one keyword. -/
structure Duplicate where
  keyword : String
  first : String
  second : String
deriving Repr, DecidableEq

/-- What a reader is told. -/
def Duplicate.message (d : Duplicate) : String :=
  "keyword '" ++ d.keyword ++ "' from " ++ d.second ++ " is already registered by " ++ d.first

/-- The earliest claim that repeats one before it. `earlier` holds the claims that
were looked at. -/
def duplicate? (earlier : List Claim) : List Claim → Option Duplicate
  | [] => none
  | c :: rest =>
    match earlier.find? (·.keyword == c.keyword) with
    | some first => some ⟨c.keyword, first.source, c.source⟩
    | none => duplicate? (earlier ++ [c]) rest

/-- Builds a registry in steps. -/
def build (steps : List Step) : Except Duplicate Registry :=
  let added := steps.foldl Step.apply []
  match duplicate? [] (claims added) with
  | some d => .error d
  | none => .ok ⟨added⟩

end Registry

end WikiSearch

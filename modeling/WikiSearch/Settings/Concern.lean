import WikiSearch.Settings

/-!
# WikiSearch — doubtful settings

Some settings can be used but hardly do what was meant: a limit that has no effect,
or a name that is no keyword.
-/

namespace WikiSearch.Settings

/-- What is doubtful about some settings. -/
inductive Concern where
  /-- The soft limit on the length is above the hard one. -/
  | limitWithoutEffect (configured : Nat)
  /-- No built-in feature answers to a disabled keyword. -/
  | unknownDisabled (keyword : String)
  /-- No registered feature answers to an exempt keyword. -/
  | unregisteredExempt (keyword : String)
deriving DecidableEq, Repr

namespace Concern

/-- What a reader is told. -/
def message : Concern → String
  | limitWithoutEffect n =>
    "max_query_length " ++ toString n ++ " is above the hard ceiling of " ++ toString hardLengthLimit
  | unknownDisabled k => "disabled keyword '" ++ k ++ "' is not a known keyword"
  | unregisteredExempt k => "exempt keyword '" ++ k ++ "' is not registered"

/-- What a reader can do. -/
def hint : Concern → String
  | limitWithoutEffect _ =>
    "Queries are never allowed past the hard ceiling; lower max_query_length."
  | unknownDisabled _ => "Run 'sieve keywords' to list the keywords that can be disabled."
  | unregisteredExempt _ =>
    "Exemptions only apply to registered keywords; check the spelling or the disabled list."

end Concern

/-- What is doubtful about the soft limit. -/
def limitConcerns (s : Settings) : List Concern :=
  if s.parser.maxLength > hardLengthLimit then [.limitWithoutEffect s.parser.maxLength] else []

/-- What is doubtful about the disabled keywords. -/
def disabledConcerns (s : Settings) : List Concern :=
  (s.keywords.disabled.filter (!(Registry.builtin {}).knows ·)).map .unknownDisabled

/-- What is doubtful about the exempt keywords. -/
def exemptConcerns (s : Settings) : List Concern :=
  match s.registry with
  -- disabled keywords are not registered either
  | .ok registry => (s.parser.exemptKeywords.filter (!registry.knows ·)).map .unregisteredExempt
  | .error _ => []

/-- All that is doubtful. -/
def concerns (s : Settings) : List Concern :=
  s.limitConcerns ++ s.disabledConcerns ++ s.exemptConcerns

end WikiSearch.Settings

import WikiSearch.Keyword.Registry
import WikiSearch.Query
import WikiSearch.Query.Options
import WikiSearch.Token.Lexer

/-!
# WikiSearch — reading a query

A query is refused if it is too long, and only then. Otherwise every token becomes
a clause. A candidate for a directive becomes one if its keyword is registered, if
the keyword takes a quoted value where there is one, and if the value can be read;
else it is a plain word.
-/

namespace WikiSearch

namespace Token

/-- The number of characters that a token takes off the length of the query: all of
them if it is a candidate whose keyword is exempt. -/
def exemptLength (options : QueryOptions) (t : Token) : Nat :=
  match t.content with
  | .keyword c => if options.isExempt c.key then t.span.length else 0
  | _ => 0

/-- How a token takes part, and whether its sign says so. -/
def occur (options : QueryOptions) (t : Token) : Occur × Bool :=
  match t.sign with
  | some .require => (.must, true)
  | some .exclude => (.mustNot, true)
  | none => (options.defaultOccur, false)

end Token

namespace Query

/-- Refuses a query of `length` characters that is above the soft limit even without
its exempt tokens. -/
def checkLength (options : QueryOptions) (length : Nat) (tokens : List Token) :
    Except TooLong Unit :=
  let limit := options.effectiveLimit
  -- exempt keywords count off whether they are registered or not
  let exempt := tokens.foldl (fun n t => n + t.exemptLength options) 0
  if length ≤ limit ∨ length - exempt ≤ limit then .ok ()
  else .error ⟨length - exempt, limit, exempt > 0⟩

/-- What a candidate becomes: a directive, or a plain word. -/
def resolve (registry : Registry) (c : Candidate) (negated : Bool) (span : Span) :
    Node × List Warning :=
  match registry.find? c.key with
  | none => (.word c.literal span, [])
  | some feature =>
    if c.delimiter.isSome && !feature.acceptsQuoted then (.word c.literal span, [])
    else match feature.read c.toArgument with
      -- a feature that cannot use the value may have warned about it
      | (none, warnings) => (.word c.literal span, warnings)
      | (some parsed, warnings) => (.directive ⟨c.toArgument, parsed, negated⟩ span, warnings)

/-- The node of a token. -/
def tokenNode (registry : Registry) (negated : Bool) (t : Token) : Node × List Warning :=
  let span : Span := ⟨t.textStart, t.span.stop⟩
  match t.content with
  | .word text => (.word text span, [])
  | .phrase p => (.phrase p span, [])
  | .keyword c => resolve registry c negated span

/-- The clause of a token, with the warnings that came up. -/
def tokenClause (registry : Registry) (options : QueryOptions) (t : Token) :
    Clause Node × List Warning :=
  let (occur, explicit) := t.occur options
  let (node, warnings) := tokenNode registry (occur = .mustNot) t
  (⟨occur, explicit, node, t.span⟩, warnings)

/-- Reads a query. -/
def parse (registry : Registry) (options : QueryOptions) (text : String) : Except TooLong Query := do
  let cs ← checkedChars text
  let tokens := Token.scan 0 true cs
  checkLength options cs.length tokens
  let read := tokens.map (tokenClause registry options)
  return ⟨text, read.map (·.1), read.flatMap (·.2)⟩

end Query

end WikiSearch

import WikiSearch.Json.Filter

/-!
# WikiSearch — queries as JSON
-/

namespace WikiSearch

/-- A warning as a document. -/
def Warning.toJson (w : Warning) : Json :=
  .object [("key", .text w.key), ("args", .texts w.args)]

/-- Some warnings as a document. -/
def warningsToJson (ws : List Warning) : Json := .array (ws.map Warning.toJson)

/-- A range of numbers as a document. -/
def NumericRange.toJson (r : NumericRange) : Json :=
  .object [("field", .text r.field), ("gte", .number? r.low), ("lte", .number? r.high)]

/-- A value of a keyword as a document, with its kind. -/
def KeywordValue.toJson (v : KeywordValue) : Json :=
  let tagged (kind : String) (value : Json) : Json :=
    .object [("kind", .text kind), ("value", value)]
  match v with
  | .pageIds ids => tagged "page_ids" (.numbers ids)
  | .categories names => tagged "categories" (.texts names)
  | .recommendationFlags flags => tagged "recommendation_flags" (.texts flags)
  | .topics ts => tagged "topics" (.texts ts)
  | .numericRange r => tagged "numeric_range" r.toJson
  | .terms ts => tagged "terms" (.texts ts)
  | .text s => tagged "text" (.text s)

/-- The two fields that show where a node was written. -/
def Span.fields (s : Span) : List (String × Json) :=
  [("start", .number s.start), ("end", .number s.stop)]

/-- The fields of a phrase. -/
def Phrase.fields (p : Phrase) : List (String × Json) :=
  [("phrase", .text p.text), ("slop", .number? p.slop), ("stemmed", .bool p.stemmed),
   ("unterminated", .bool !p.terminated)]

/-- The fields of an argument. -/
def Argument.fields (a : Argument) : List (String × Json) :=
  [("key", .text a.key), ("value", .text a.value), ("quoted_value", .text a.quotedValue),
   ("delimiter", .text? (a.delimiter.map String.singleton)), ("suffix", .text a.suffix)]

/-- The fields of a directive. -/
def Directive.fields (d : Directive) : List (String × Json) :=
  d.toArgument.fields ++ [("parsed_value", d.parsed.toJson), ("negated", .bool d.negated)]

namespace Node

mutual

/-- A node as a document, with its type. -/
def toJson : Node → Json
  | word text s => .object ([("type", .text "word"), ("text", .text text)] ++ s.fields)
  | phrase p s => .object ([("type", .text "phrase")] ++ p.fields ++ s.fields)
  | directive d s => .object ([("type", .text "keyword")] ++ d.fields ++ s.fields)
  | clause c => .object (("type", .text "clause") :: clauseFields c)
  | group cs s =>
    .object ([("type", .text "group"), ("clauses", .array (clausesToJson cs))] ++ s.fields)
  | empty => .object ([("type", .text "empty")] ++ Span.origin.fields)

/-- The fields of a clause. -/
def clauseFields : Clause Node → List (String × Json)
  | ⟨occur, explicit, node, s⟩ =>
    [("occur", occur.toJson), ("explicit", .bool explicit), ("node", toJson node)] ++ s.fields

/-- Some clauses as documents. Inside a group a clause has no type of its own. -/
def clausesToJson : List (Clause Node) → List Json
  | [] => []
  | c :: cs => .object (clauseFields c) :: clausesToJson cs

end

end Node

/-- A query as a document. -/
def Query.toJson (q : Query) : Json :=
  .object [("query", .text q.text), ("root", q.root.toJson),
    ("warnings", warningsToJson q.warnings)]

end WikiSearch

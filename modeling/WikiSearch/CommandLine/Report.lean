import WikiSearch.CommandLine.Arguments
import WikiSearch.CommandLine.Grid
import WikiSearch.Fallback.Runner
import WikiSearch.Json.Query
import WikiSearch.Node.Outline
import WikiSearch.Query.Compiled
import WikiSearch.Query.Parser
import WikiSearch.Settings.Concern
import WikiSearch.Settings.Discovery

/-!
# WikiSearch — what the commands report

A command loads the settings that apply to the current directory and then writes its
report, for a reader or as JSON. If the settings cannot be loaded or the query is too
long, it fails and says why.
-/

namespace WikiSearch.CommandLine

/-- What a command leaves behind. -/
structure Report where
  failed : Bool := false
  output : String := ""
  errors : String := ""
  explanation : String := ""
deriving DecidableEq, Repr

/-! ## Parts of reports -/

/-- A line of a report. -/
def line (text : String) : String := text ++ "\n"

/-- The lines of a text. The line end of the last one may be missing. -/
def linesOf (text : String) : List (List Char) :=
  let lines := Text.pieces '\n' text.toList
  if lines.getLast? = some [] then lines.dropLast else lines

/-- A text with every line moved to the right. -/
def indented (text : String) : String :=
  "".intercalate ((linesOf text).map fun l => line ("  " ++ String.ofList l))

/-- A list with an entry a line. -/
def bullets (entries : List String) : String :=
  "".intercalate (entries.map fun entry => line ("  - " ++ entry))

/-- A list with its name and length in front. -/
def counted (name : String) (entries : List String) : String :=
  line (name ++ " (" ++ toString entries.length ++ "):") ++ bullets entries

/-- The warnings about a query, if there are any. -/
def warningsText (warnings : List Warning) : String :=
  if warnings = [] then "" else counted "Warnings" (warnings.map Warning.text)

/-- A report in JSON. -/
def jsonReport (doc : Json) : Report := { output := line doc.render }

/-! ## Queries -/

/-- How a query is read: as the settings say, unless the flags say otherwise. -/
def QueryFlags.over (flags : QueryFlags) (o : QueryOptions) : QueryOptions where
  maxLength := flags.maxLength.or o.maxLength
  leadingWildcards := o.leadingWildcards
  strictMatching := flags.strict || o.strictMatching
  exemptKeywords := o.exemptKeywords
  defaultOccur := if flags.should then .should else o.defaultOccur

/-- The report on a query that is too long. -/
def tooLongReport (e : TooLong) : Report where
  failed := true
  errors := line ("error: " ++ e.message) ++ line ("  " ++ e.toWarning.text)

/-- The report on a query that was read. -/
def parseReport (json : Bool) (q : Query) : Report :=
  if json then jsonReport q.toJson
  else { output := q.root.text ++ warningsText q.warnings }

/-- What a query compiles to, and what would be done about weak results, as JSON. -/
def filterJson (q : Query) (c : Compiled) (methods : List String) : Json :=
  .object
    [("query", .text q.text), ("query_string", .text c.queryString),
     ("text_clauses", .array (c.textClauses.map TextClause.toJson)),
     ("filter", c.filter.toJson), ("results_possible", .bool c.resultsPossible),
     ("fallback_methods", .texts methods), ("warnings", warningsToJson q.warnings)]

/-- What a query compiles to, and what would be done about weak results, for a reader. -/
def filterText (q : Query) (c : Compiled) (methods : List String) : String :=
  line "Query string:" ++ line ("  " ++ c.queryString) ++ line ""
    ++ line "Text clauses:"
    ++ (if c.textClauses.isEmpty then line "  (none)" else "")
    ++ "".intercalate (c.textClauses.map fun t => line ("  " ++ t.occur.name ++ " " ++ t.query))
    ++ line ""
    ++ line "Filter:" ++ indented c.filter.toJson.render ++ line ""
    ++ line ("Results possible: " ++ (if c.resultsPossible then "yes" else "no"))
    ++ line ("Fallback methods: "
      ++ (if methods.isEmpty then "(none)" else ", ".intercalate methods))
    ++ warningsText q.warnings

/-- The report on what a query compiles to. -/
def filterReport (json : Bool) (registry : Registry) (options : QueryOptions)
    (profile : Fallback.Profile) (q : Query) : Report :=
  let c := q.compile registry options
  let methods := (Fallback.Runner.ofProfile q profile).methods.map (·.name)
  if json then jsonReport (filterJson q c methods) else { output := filterText q c methods }

/-! ## Keywords -/

/-- The registered features as JSON. -/
def keywordsJson (registry : Registry) : Json :=
  .array (registry.entries.map fun e => .object
    [("name", .text e.feature.name), ("keywords", .texts e.feature.keywords),
     ("source", .text e.source)])

/-- The registered features as a table. -/
def keywordsGrid (registry : Registry) : Grid where
  head := ["Feature", "Keywords", "Source"]
  rows := registry.entries.map fun e =>
    [e.feature.name, ", ".intercalate e.feature.keywords, e.source]

/-- The report on the registered features. -/
def keywordsReport (json : Bool) (registry : Registry) : Report :=
  if json then jsonReport (keywordsJson registry)
  else if registry.entries.isEmpty then { output := line "No keyword features registered." }
  else { output := (keywordsGrid registry).text }

/-! ## Settings -/

open Settings (Discovery Configuration Concern)

/-- Which settings files apply. -/
def filesText (d : Discovery) : String :=
  (if d.isEmpty then line "No configuration files found; using defaults."
   else
    line "Config files (highest precedence first):"
      ++ "".intercalate (d.walked.map fun path => line ("  " ++ path.text))
      ++ "".intercalate (d.global.toList.map fun path => line ("  " ++ path.text ++ " (global)")))
    ++ match d.walkEnd with
      | .rootFile path => line ("Search stopped at root config " ++ path.text)
      | .top => ""

/-- What is doubtful about the settings and what can be done, if anything is. -/
def concernsText (concerns : List Concern) : String :=
  if concerns = [] then ""
  else
    let hints := ((concerns.map Concern.hint).mergeSort fun a b => decide (a ≤ b)).eraseDups
    line "" ++ counted "Warnings" (concerns.map Concern.message)
      ++ line "" ++ line "Hints:" ++ bullets hints

/-- The report on the settings. The files are listed before the settings are written, so they
are shown even if that fails. -/
def configReport (d : Discovery) (s : Settings) : Report :=
  match s.toToml Toml.library with
  | .error e =>
    { failed := true, output := filesText d ++ line "", errors := line ("error: " ++ e.message) }
  | .ok text =>
    { output := filesText d ++ line "" ++ line "Effective settings:" ++ indented text
        ++ concernsText s.concerns }

/-! ## Commands -/

/-- The report on a query, once it was read. -/
def queryReport (c : Configuration) (registry : Registry) (query : String) (flags : QueryFlags)
    (report : QueryOptions → Query → Report) : Report :=
  let options := flags.over c.settings.queryOptions
  match Query.parse registry options query with
  | .ok q => report options q
  | .error e => tooLongReport e

/-- The report of a command with the settings loaded. -/
def Command.report (command : Command) (d : Discovery) (c : Configuration) : Report :=
  match command, c.settings.registry with
  -- settings are shown even if no registry can be built from them
  | .config, _ => configReport d c.settings
  | _, .error duplicate =>
    { failed := true
      errors := line ("error: failed to build keyword registry: " ++ duplicate.message) }
  | .keywords json, .ok registry => keywordsReport json registry
  | .parse query flags, .ok registry =>
    queryReport c registry query flags fun _ => parseReport flags.json
  | .filter query flags, .ok registry =>
    queryReport c registry query flags fun options =>
      filterReport flags.json registry options c.settings.fallback

/-- The report on settings that could not be loaded. -/
def loadErrorReport (e : Settings.LoadError) : Report :=
  let errors := "error: failed to load configuration: " ++ e.message
  match e with
  | .unreadable .. => { failed := true, errors := line errors }
  | .defective _ defect =>
    { failed := true, errors := errors, explanation := line (" " ++ defect.message) }

/-- Runs a command in a directory of a file tree. -/
def Command.run (tree : FileTree) (home : Option Path) (dir : Path) (command : Command) :
    Report :=
  match Configuration.discover tree home dir with
  | .error e => loadErrorReport e
  | .ok c => command.report (Settings.discover tree home dir) c

end WikiSearch.CommandLine

import WikiSearch.CommandLine.Arguments

/-!
# WikiSearch — help on the command line
-/

namespace WikiSearch.CommandLine

/-- How the program is used. -/
def usage : String :=
  "Usage: sieve <COMMAND>\n\nCommands:\n"
    ++ "  parse <QUERY>     Show the syntax tree and warnings for a query\n"
    ++ "  filter <QUERY>    Show the backend query string and filter a query compiles to\n"
    ++ "  keywords          List registered keyword features\n"
    ++ "  config            Show configuration files, effective settings and warnings\n\n"
    ++ "Options:\n"
    ++ "  --json            Output in JSON format (parse, filter, keywords)\n"
    ++ "  --max-length <N>  Soft length limit in characters (parse, filter)\n"
    ++ "  --strict          Match keyword values exactly (parse, filter)\n"
    ++ "  --should          Treat terms without a sign as optional (parse, filter)\n"

/-- What a reader is told. -/
def UsageError.message : UsageError → String
  | noCommand => "a command is required"
  | unknownCommand => "there is no such command"
  | help => "help is asked for"
  | noQuery => "a query is required"
  | unknownArgument => "unexpected argument"
  | repeated => "a flag is given twice"
  | unwantedValue => "a flag that takes no value has one"
  | notANumber => "the value of '--max-length' is no number"
  | noValue => "'--max-length' needs a value"

end WikiSearch.CommandLine

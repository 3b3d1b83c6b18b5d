/-!
# WikiSearch — TOML values

Settings are kept in files in the TOML format. A file is a table of named values.
-/

namespace WikiSearch.Toml

/-- A TOML value. -/
inductive Value where
  | text (s : String)
  | integer (n : Int)
  /-- A number with a fraction; none if it is too large to be held. -/
  | float (x : Option Float)
  | boolean (b : Bool)
  /-- A date, a time or both, as it was written. -/
  | datetime (written : String)
  | array (items : List Value)
  | table (fields : List (String × Value))
deriving Inhabited

/-- The named values of a file. -/
abbrev Table := List (String × Value)

end WikiSearch.Toml

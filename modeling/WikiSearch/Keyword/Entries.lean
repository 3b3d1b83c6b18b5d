import WikiSearch.Text.Blank
import WikiSearch.Text.Split
import WikiSearch.Warning

/-!
# WikiSearch — list values

Some keywords take a list, its entries separated by a vertical bar. Blanks around
an entry do not count, and empty entries are left out. A list has a cap: entries
beyond it are dropped with a warning.
-/

namespace WikiSearch

/-- The separator between the entries of a list value. -/
def entrySeparator : Char := '|'

/-- The entries of a list value. -/
def listEntries (value : String) : List String :=
  (((Text.pieces entrySeparator value.toList).map Text.trimChars).filter (· ≠ [])).map String.ofList

/-- The first `cap` members of a list, and a warning if there are more. -/
def capped {α : Type} (key : String) (cap : Nat) (values : List α) : List α × List Warning :=
  if values.length > cap then (values.take cap, [⟨Warning.tooManyConditions, [key, toString cap]⟩])
  else (values, [])

/-- What is kept is the same whether or not there is more. -/
theorem capped_eq {α : Type} (key : String) (cap : Nat) (values : List α) :
    capped key cap values = (values.take cap,
      if values.length > cap then [⟨Warning.tooManyConditions, [key, toString cap]⟩] else []) := by
  rw [capped]
  split
  case isTrue => rfl
  case isFalse hfits => rw [List.take_of_length_le (Nat.le_of_not_lt hfits)]

/-- The first `cap` entries of a list value, and a warning if there are more. -/
def cappedEntries (key value : String) (cap : Nat) : List String × List Warning :=
  capped key cap (listEntries value)

/-- A warning that names the entries that cannot be used, if there are any. -/
def refused (warning : String) (invalid : List String) : List Warning :=
  if invalid = [] then [] else [⟨warning, [", ".intercalate invalid, toString invalid.length]⟩]

end WikiSearch

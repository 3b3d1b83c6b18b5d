import WikiSearch.Keyword.Entries
import WikiSearch.Keyword.Feature
import WikiSearch.Text.Lowercase

/-!
# WikiSearch — `incategory:`

Restricts a query to pages in one of the named categories. An underscore in a name
is read as a space, so that a name of several words needs no quotes.
-/

namespace WikiSearch

/-- How many categories a directive keeps unless the settings say otherwise. -/
def defaultMaxCategories : Nat := 100

/-- A text with its underscores read as spaces. -/
def spaced (s : String) : String :=
  String.ofList (s.toList.map fun c => if c = '_' then ' ' else c)

namespace Feature

/-- Pages in one of at most `cap` categories. Strict matching compares names as they
are written, other matching compares them in lower case. -/
def category (cap : Nat) : Feature where
  name := "in category"
  keywords := ["incategory"]
  acceptsQuoted := true
  read arg :=
    let (names, warnings) := cappedEntries arg.key (spaced arg.value) cap
    (if names = [] then none else some (.categories names), warnings)
  filter? strict value :=
    match value with
    | .categories (name :: names) =>
      if strict then some (.terms "category" (name :: names))
      else some (.terms "category.lowercase_keyword" ((name :: names).map Text.lowercase))
    | _ => none

/-- A value is read if the cap leaves an entry of it, underscores being spaces. -/
theorem category_read (cap : Nat) (arg : Argument) :
    (category cap).read arg =
      let names := (listEntries (spaced arg.value)).take cap
      (if names = [] then none else some (.categories names),
        if (listEntries (spaced arg.value)).length > cap
          then [⟨Warning.tooManyConditions, [arg.key, toString cap]⟩] else []) := by
  simp only [category, cappedEntries, capped_eq]

end Feature

end WikiSearch

import WikiSearch.Keyword.Entries
import WikiSearch.Keyword.Feature

/-!
# WikiSearch — `hasrecommendation:`

Restricts a query to pages that carry one of the named recommendation flags. A flag
is held in one of two fields, and both are looked at.
-/

namespace WikiSearch

/-- How many flags a directive keeps unless the settings say otherwise. -/
def defaultMaxRecommendationFlags : Nat := 5

/-- The pages that carry a flag in one of the two fields. -/
def flagFilter (flag : String) : Filter :=
  .anyOf
    [.term "weighted_tags" ("recommendation." ++ flag ++ "/exists"),
     .term "recommendation_tags" (flag ++ "/exists")]

namespace Feature

/-- Pages that carry one of at most `cap` recommendation flags. -/
def recommendation (cap : Nat) : Feature where
  name := "has recommendation"
  keywords := ["hasrecommendation"]
  acceptsQuoted := true
  read arg :=
    let (flags, warnings) := cappedEntries arg.key arg.value cap
    (if flags = [] then none else some (.recommendationFlags flags), warnings)
  filter? _ value :=
    match value with
    | .recommendationFlags (f :: fs) => some (.anyOf ((f :: fs).map flagFilter))
    | _ => none

/-- A value is read if the cap leaves an entry of it. -/
theorem recommendation_read (cap : Nat) (arg : Argument) :
    (recommendation cap).read arg =
      let flags := (listEntries arg.value).take cap
      (if flags = [] then none else some (.recommendationFlags flags),
        if (listEntries arg.value).length > cap
          then [⟨Warning.tooManyConditions, [arg.key, toString cap]⟩] else []) := by
  simp only [recommendation, cappedEntries, capped_eq]

end Feature

end WikiSearch

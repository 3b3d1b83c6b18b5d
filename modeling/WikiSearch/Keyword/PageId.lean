import WikiSearch.Keyword.Entries
import WikiSearch.Keyword.Feature
import WikiSearch.Text.Numeral

/-!
# WikiSearch — `pageid:`

Restricts a query to pages that are listed by id. Entries that are no ids are left
out with a warning; if no id is left, nothing can match.
-/

namespace WikiSearch

/-- How many ids a directive keeps unless the settings say otherwise. -/
def defaultMaxPageIds : Nat := 1000

/-- The page id that an entry stands for. -/
def pageId? (entry : String) : Option Nat := Text.stored? entry.toList

namespace Feature

/-- Pages listed by id, at most `cap` of them. -/
def pageId (cap : Nat) : Feature where
  name := "page id"
  keywords := ["pageid"]
  acceptsQuoted := true
  read arg :=
    let all := listEntries arg.value
    -- the cap counts ids: an entry that is no id never takes the place of one
    let (ids, warnings) := capped arg.key cap (all.filterMap pageId?)
    let invalid := all.filter fun e => (pageId? e).isNone
    (some (.pageIds ids), refused Warning.invalidPageId invalid ++ warnings)
  filter? _ value :=
    match value with
    | .pageIds (id :: ids) => some (.ids (id :: ids))
    | _ => none

/-- Every value is read. What is no id is left out before the cap is applied. -/
theorem pageId_read (cap : Nat) (arg : Argument) :
    (pageId cap).read arg =
      let all := listEntries arg.value
      (some (.pageIds ((all.filterMap pageId?).take cap)),
        refused Warning.invalidPageId (all.filter fun e => (pageId? e).isNone) ++
          if (all.filterMap pageId?).length > cap
            then [⟨Warning.tooManyConditions, [arg.key, toString cap]⟩] else []) := by
  simp only [pageId, capped_eq]

end Feature

end WikiSearch

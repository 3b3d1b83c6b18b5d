/-!
# WikiSearch — names without case

Keyword names are compared without regard to the case of the letters `A` to `Z`.
Letters beyond these keep their case: `É` and `é` are different, and so are `K`
and the Kelvin sign.
-/

namespace WikiSearch.Text

/-- A name with the letters `A` to `Z` in lower case. -/
def foldName (name : String) : String := String.ofList (name.toList.map Char.toLower)

/-- Whether two names are the same up to the case of the letters `A` to `Z`. -/
def sameName (a b : String) : Bool := foldName a == foldName b

/-- Names are the same if they are the same in lower case. -/
theorem sameName_iff {a b : String} : sameName a b = true ↔ foldName a = foldName b := by
  simp [sameName]

end WikiSearch.Text

import WikiSearch.Warning

/-!
# WikiSearch — length limits

A query may be too long, which is the only reason to refuse one. Lengths count
characters.
-/

namespace WikiSearch

/-- No query is longer than this, whatever the settings say. -/
def hardLengthLimit : Nat := 2048

/-- A query that is longer than what is accepted. -/
structure TooLong where
  /-- The length that was compared with the limit; without the exempt clauses, if
  there are any. -/
  length : Nat
  limit : Nat
  /-- Whether exempt clauses were taken off the length. -/
  exempted : Bool
deriving Repr, DecidableEq

namespace TooLong

/-- What a reader is told. -/
def message (e : TooLong) : String :=
  "query is " ++ toString e.length ++ " characters long, which exceeds the limit of "
    ++ toString e.limit

/-- The key of the message for a reader. -/
def messageKey (e : TooLong) : String :=
  if e.exempted then "query-too-long-with-exemptions" else "query-too-long"

/-- The refusal as a message key with its arguments. -/
def toWarning (e : TooLong) : Warning :=
  ⟨e.messageKey, [toString e.length, toString e.limit]⟩

end TooLong

/-- The characters of a query that is within the hard limit. Characters are counted
only if there are more bytes than the limit. -/
def checkedChars (query : String) : Except TooLong (List Char) :=
  if query.utf8ByteSize > hardLengthLimit then
    let length := query.toList.length
    if length > hardLengthLimit then .error ⟨length, hardLengthLimit, false⟩ else .ok query.toList
  else .ok query.toList

/-- Every character takes at least one byte. -/
theorem length_le_utf8Encode (cs : List Char) : cs.length ≤ cs.utf8Encode.size := by
  induction cs with
  | nil => simp
  | cons c cs ih =>
    have hc := c.utf8Size_pos
    rw [List.utf8Encode_cons, List.utf8Encode_singleton, ByteArray.size_append]
    simp only [List.length_cons, List.size_toByteArray, String.length_utf8EncodeChar]
    omega

theorem length_le_utf8ByteSize (query : String) : query.toList.length ≤ query.utf8ByteSize := by
  have h := length_le_utf8Encode query.toList
  rwa [String.utf8Encode_toList, String.size_toByteArray] at h

/-- Few bytes hold few characters, so nothing is lost where characters are not counted. -/
theorem checkedChars_eq (query : String) :
    checkedChars query =
      if query.toList.length > hardLengthLimit then
        .error ⟨query.toList.length, hardLengthLimit, false⟩
      else .ok query.toList := by
  have hle := length_le_utf8ByteSize query
  rw [checkedChars]
  by_cases hbytes : query.utf8ByteSize > hardLengthLimit
  · rw [if_pos hbytes]
  · rw [if_neg hbytes, if_neg (by omega)]

end WikiSearch

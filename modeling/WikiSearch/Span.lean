/-!
# WikiSearch — spans

Every part of a query knows where it was written. Offsets count characters from
the start of the query.
-/

namespace WikiSearch

/-- A stretch of the query: from `start` up to, and without, `stop`. -/
structure Span where
  start : Nat
  stop : Nat
deriving Repr, DecidableEq, Inhabited

namespace Span

/-- The number of characters in the stretch. -/
def length (s : Span) : Nat := s.stop - s.start

/-- The empty stretch at the start of the query. -/
def origin : Span := ⟨0, 0⟩

end Span

end WikiSearch

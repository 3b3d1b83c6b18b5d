import Mathlib.Data.Nat.Digits.Defs
import WikiSearch.Proofs.Filter.Builtin

/-!
# WikiSearch — a range of a file property, from its text to its filter

A directive such as `filewidth:100,200` is followed through all stages: it is one token, the token
becomes a directive, the directive has a filter unless its bounds are the wrong way round, and the
compiled query holds that filter and nothing else.

Bounds are compared as they are held. Sizes are held in bytes, and no more bytes than can be
stored: two sizes that are both too large for that are held as the same number, so that the range
between them is not empty, whichever of them is written first (`kilobytes_lt_iff`).

Main results:

* `Token.scan_range` — the directive is one token.
* `Query.resolve_range` — the token becomes a directive.
* `Query.compile_range` — when results are possible, and what the filter is.
-/

namespace WikiSearch

open Text

/-! ## Bounds as they are held -/

/-- What a bound is held as. -/
def scaled (key : String) : Nat → Nat := if foldName key = "filesize" then kilobytes else id

/-- Of two sizes the smaller one is held as a smaller number if its bytes can be stored. -/
theorem kilobytes_lt_iff {n m : Nat} :
    kilobytes m < kilobytes n ↔ m < n ∧ 1024 * m < UInt64.size := by
  have hsize : UInt64.size = 18446744073709551616 := rfl
  -- the largest number that can be stored is no multiple of 1024
  rw [kilobytes, kilobytes, maxStored, hsize]
  omega

/-- For other properties than the size, bounds are held as they are written. -/
theorem scaled_lt_iff {key : String} {n m : Nat} :
    scaled key m < scaled key n ↔
      m < n ∧ (foldName key = "filesize" → 1024 * m < UInt64.size) := by
  rw [scaled]
  split
  · rename_i hsize
    rw [kilobytes_lt_iff, hsize]
    simp
  · rename_i hother
    simp [hother]

/-- Every keyword has a field, and the size has that of `filesize`. -/
theorem exists_fileField {key : String} (h : Builtin.fileProperty.Answers key) :
    ∃ field, fileField? key = some field ∧ (field = "file_size" ↔ foldName key = "filesize") := by
  rw [Builtin.Answers, Builtin.keywords, filePropertyKeywords] at h
  simp only [List.mem_cons, List.not_mem_nil, or_false] at h
  rw [fileField?]
  rcases h with h | h | h | h | h | h | h <;> rw [h] <;> exact ⟨_, rfl, by decide⟩

/-! ## The text of a range -/

/-- The value of the directive. -/
def rangeText (n m : Nat) : List Char := Nat.toDigits 10 n ++ ',' :: Nat.toDigits 10 m

/-- The value is read as the two bounds that it is made of. -/
theorem bounds?_rangeText {n m : Nat} (hn : n < UInt64.size) (hm : m < UInt64.size)
    (bareIsMinimum : Bool) : bounds? bareIsMinimum (rangeText n m) = some (some n, some m) := by
  have hlow := isNumber_toDigits hn
  have hhigh := isNumber_toDigits hm
  refine bounds?_eq_some_iff.mpr ?_
  exact .pair (comma_not_mem_of_isNumber hlow) (.number hlow) (.number hhigh) (.inl (by simp))

/-- The value holds neither blanks nor backslashes, so it needs no quotes. -/
theorem plain_rangeText (n m : Nat) : ∀ c ∈ rangeText n m, isBlank c = false ∧ c ≠ '\\' := by
  have hdigits (k : Nat) : ∀ c ∈ Nat.toDigits 10 k, isBlank c = false ∧ c ≠ '\\' := by
    intro c hc
    have hdigit := (toDigits_spec k).2.1 c hc
    exact ⟨isBlank_of_isDigit hdigit, ne_backslash_of_isDigit hdigit⟩
  intro c hc
  rw [rangeText, List.mem_append, List.mem_cons] at hc
  -- a digit of the one number, the comma, or a digit of the other
  rcases hc with hc | rfl | hc
  · exact hdigits n c hc
  · decide
  · exact hdigits m c hc

/-- The value starts with a digit, and so not with a quote. -/
theorem head?_rangeText (n m : Nat) : ∃ c, (rangeText n m).head? = some c ∧ c ≠ '"' := by
  obtain ⟨c, cs, hcs, hdigit⟩ := exists_toDigits_eq_cons n
  refine ⟨c, by rw [rangeText, hcs]; rfl, ?_⟩
  rintro rfl
  exact absurd hdigit (by decide)

/-- The text of the directive. -/
theorem toList_range (key : String) (n m : Nat) :
    (key ++ ":" ++ toString n ++ "," ++ toString m).toList = key.toList ++ ':' :: rangeText n m := by
  simp [rangeText]

/-- The directive has 52 characters at most: ten of its keyword, twenty of each number and two
between them. -/
theorem length_range_le {key : String} (hkey : Builtin.fileProperty.Answers key) {n m : Nat}
    (hn : n < UInt64.size) (hm : m < UInt64.size) :
    (key ++ ":" ++ toString n ++ "," ++ toString m).toList.length ≤ 52 := by
  have hdigits {k : Nat} (hk : k < UInt64.size) : (Nat.toDigits 10 k).length ≤ 20 :=
    Nat.toDigits_length 10 k 20 (by decide) (Nat.lt_trans hk (by decide))
  -- the keywords are known, and case does not change how long they are
  have hlength : key.toList.length ≤ 10 := by
    have hkeywords : ∀ k ∈ filePropertyKeywords, k.toList.length ≤ 10 := by decide
    have hfold := hkeywords _ hkey
    rwa [foldName, String.toList_ofList, List.length_map] at hfold
  have hlow := hdigits hn
  have hhigh := hdigits hm
  rw [toList_range, rangeText]
  simp only [List.length_append, List.length_cons]
  omega

/-! ## The token and its directive -/

/-- The candidate that the directive is read as. -/
def rangeCandidate (key : String) (n m : Nat) : Candidate :=
  ⟨⟨key, .ofList (rangeText n m), .ofList (rangeText n m), none, ""⟩,
    .ofList (key.toList ++ ':' :: rangeText n m)⟩

/-- **The directive is one token.** -/
theorem Token.scan_range {key : String} (hkey : Builtin.fileProperty.Answers key) (n m : Nat) :
    ∃ stop, scan 0 true (key ++ ":" ++ toString n ++ "," ++ toString m).toList =
      [⟨.keyword (rangeCandidate key n m), none, ⟨0, stop⟩, 0⟩] := by
  have hscan := scan_directive hkey.isKey (head?_rangeText n m) (plain_rangeText n m)
  rw [String.ofList_toList] at hscan
  rw [toList_range]
  exact ⟨_, hscan⟩

namespace Query

section Range

variable (caps : Caps) {key : String} {n m : Nat}

/-- **The token becomes a directive**, which holds the bounds. -/
theorem resolve_range (hkey : Builtin.fileProperty.Answers key) (hn : n < UInt64.size)
    (hm : m < UInt64.size) (negated : Bool) (span : Span) :
    ∃ k field, (resolve (.builtin caps) (rangeCandidate key n m) negated span).1 =
        .directive k span ∧ k.key = key ∧ fileField? key = some field ∧
      k.parsed = .numericRange ⟨field, some (scaled key n), some (scaled key m)⟩ := by
  obtain ⟨field, hfield, hsize⟩ := exists_fileField hkey
  have hbounds := bounds?_rangeText hn hm (field = "file_size")
  have hvalue : (rangeCandidate key n m).value.toList = rangeText n m := String.toList_ofList
  have hanswers : Builtin.fileProperty.Answers (rangeCandidate key n m).key := hkey
  have hfind : (Registry.builtin caps).find? (rangeCandidate key n m).key =
      some (Builtin.fileProperty.feature caps) := find?_builtin_iff.mpr ⟨_, hanswers, rfl⟩
  -- the bounds are scaled as the field is held, which is the size exactly for the keyword of the
  -- size
  have hread : (Feature.fileProperty.read (rangeCandidate key n m).toArgument).1 =
      some (.numericRange ⟨field, some (scaled key n), some (scaled key m)⟩) := by
    rw [read_fileProperty, hvalue]
    show (fileField? key).bind _ = _
    rw [hfield, Option.bind_some, hbounds]
    simp only [Option.map_some, scaled, hsize]
  have hrecognized : (Registry.builtin caps).recognizes (rangeCandidate key n m) = true := by
    refine (recognizes_iff_of_answers hanswers).mpr ⟨fun _ => rfl, ?_⟩
    exact (reads_iff _ caps .fileProperty).mp (by rw [Builtin.feature, hread]; rfl)
  obtain ⟨parsed, hresolve⟩ := resolve_of_recognizes hrecognized negated span
  obtain ⟨harg, hparsed⟩ := parsed_of_resolve hfind hresolve
  refine ⟨_, field, hresolve, rfl, hfield, ?_⟩
  rw [harg, Builtin.feature, hread, Option.some.injEq] at hparsed
  exact hparsed.symm

/-- Its filter is a range, unless the bounds are held the wrong way round. -/
theorem builds_range (strict : Bool) {k : Directive} {field : String} {low high : Nat}
    (hkey : Builtin.fileProperty.Answers k.key)
    (hparsed : k.parsed = .numericRange ⟨field, some low, some high⟩) :
    k.Builds (.builtin caps) strict
      (if high < low then none else some (.range field (some low) (some high))) := by
  refine ⟨_, find?_builtin_iff.mpr ⟨.fileProperty, hkey, rfl⟩, ?_⟩
  rw [hparsed]
  show (if decide (low > high) = true then none else _) = _
  simp only [decide_eq_true_eq, gt_iff_lt]

end Range

/-! ## The compiled query -/

/-- The filter of a query of one directive. Results are possible exactly if the directive has
a filter. -/
theorem compile_of_singleton {registry : Registry} (options : QueryOptions) {q : Query}
    {c : Clause Node} {k : Directive} {s : Span} {built : Option Filter} (hq : q.clauses = [c])
    (hnode : c.node = .directive k s) (hbuilt : k.Builds registry options.strictMatching built) :
    (q.compile registry options).resultsPossible = built.isSome ∧
      (q.compile registry options).filter =
        built.elim .matchNone fun f =>
          if c.occur = .mustNot then .bool [] [] [f] else .allOf [f] := by
  have hparts : Parts.ofClauses registry options .must q.clauses =
      Parts.ofDirective registry options.strictMatching c.occur k := by
    rw [hq, Parts.ofClauses_cons, hnode, Parts.ofNode, Parts.ofClauses, Parts.append_nil]
  rw [compile, hparts]
  cases built with
  | none =>
    rw [Parts.ofDirective_of_none _ hbuilt]
    exact ⟨rfl, rfl⟩
  | some f =>
    rw [Parts.ofDirective_of_some _ hbuilt]
    -- an excluded clause has its filter on the other side
    by_cases hexcluded : c.occur = .mustNot
    · rw [if_pos hexcluded]
      exact ⟨rfl, (if_pos hexcluded).symm⟩
    · rw [if_neg hexcluded]
      exact ⟨rfl, (if_neg hexcluded).symm⟩

/-- **When a range has results.** Take any keyword for a property of files, in any case, and any
two numbers that can be stored. The directive that asks for the range between them is read within
any limit of at least 52 characters. Results are impossible exactly if the first number is the
greater one and, for sizes, the bytes of the second one can be stored; then nothing matches. In
all other cases the filter is the range of the bounds as they are held, the lower one first, or
what is outside of it if clauses are excluded unless they say otherwise. -/
theorem compile_range (caps : Caps) (readOptions options : QueryOptions) {key : String}
    (hkey : foldName key ∈ filePropertyKeywords) {n m : Nat} (hn : n < UInt64.size)
    (hm : m < UInt64.size) :
    (52 ≤ readOptions.effectiveLimit → ∃ q, parse (.builtin caps) readOptions
      (key ++ ":" ++ toString n ++ "," ++ toString m) = .ok q) ∧
    ∀ q, parse (.builtin caps) readOptions
        (key ++ ":" ++ toString n ++ "," ++ toString m) = .ok q →
      ((q.compile (.builtin caps) options).resultsPossible = false ↔
        m < n ∧ (foldName key = "filesize" → 1024 * m < UInt64.size)) ∧
      ((q.compile (.builtin caps) options).resultsPossible = false →
        (q.compile (.builtin caps) options).filter = .matchNone) ∧
      ((q.compile (.builtin caps) options).resultsPossible = true →
        ∃ field low high, fileField? key = some field ∧ low = scaled key n ∧
          high = scaled key m ∧ low ≤ high ∧
          (q.compile (.builtin caps) options).filter =
            if readOptions.defaultOccur = .mustNot
              then .bool [] [] [.range field (some low) (some high)]
              else .range field (some low) (some high)) := by
  constructor
  · intro hlimit
    have hlength := length_range_le hkey hn hm
    exact ⟨_, parse_of_length_le _ _ _ (Nat.le_trans hlength hlimit)⟩
  · intro q hq
    -- the query is the clause of one token
    obtain ⟨stop, hscan⟩ := Token.scan_range hkey n m
    have hclauses := clauses_of_parse hq
    rw [hscan, List.map_singleton] at hclauses
    obtain ⟨k, field, hresolve, hkkey, hfield, hparsed⟩ := resolve_range caps hkey hn hm
      (decide (readOptions.defaultOccur = .mustNot)) ⟨0, stop⟩
    have hbuilds := builds_range caps options.strictMatching (hkkey ▸ hkey) hparsed
    obtain ⟨hpossible, hfilter⟩ := compile_of_singleton options hclauses hresolve hbuilds
    rw [hpossible, hfilter, ← scaled_lt_iff]
    -- whether there is a filter depends on the bounds as they are held
    by_cases hinverted : scaled key m < scaled key n
    · rw [if_pos hinverted]
      refine ⟨iff_of_true rfl hinverted, fun _ => rfl, ?_⟩
      intro hsome
      exact absurd hsome Bool.false_ne_true
    · rw [if_neg hinverted]
      refine ⟨iff_of_false (by simp) hinverted, ?_, fun _ => ?_⟩
      · intro hnone
        exact absurd hnone Bool.true_eq_false.mp
      · -- a token without a sign takes part as the options say
        exact ⟨field, _, _, hfield, rfl, rfl, Nat.not_lt.mp hinverted, rfl⟩

/-- A range of sizes that is the wrong way round has no results. -/
theorem compile_range_of_sizes :
    foldName "FileSize" ∈ filePropertyKeywords ∧
      ∃ q, parse (.builtin {}) {} "FileSize:3,2" = .ok q ∧
        (q.compile (.builtin {}) {}).resultsPossible = false := by
  have hkey : foldName "FileSize" ∈ filePropertyKeywords := by decide
  have hlow : 3 < UInt64.size := by decide
  have hhigh : 2 < UInt64.size := by decide
  obtain ⟨hread, hcompiled⟩ := compile_range {} {} {} hkey hlow hhigh
  obtain ⟨q, hq⟩ := hread (by decide)
  exact ⟨hkey, q, hq, (hcompiled q hq).1.mpr ⟨by decide, fun _ => by decide⟩⟩

/-- Two sizes that are both too large to be stored in bytes are held as the same number, and so
there are results even with the greater one first. -/
theorem exists_possible_of_large_sizes :
    18014398509481984 < 18014398509481985 ∧ 18014398509481985 < UInt64.size ∧
      ∃ q, parse (.builtin {}) {} "filesize:18014398509481985,18014398509481984" = .ok q ∧
        (q.compile (.builtin {}) {}).resultsPossible = true := by
  have hread := parse_of_length_le (.builtin {}) {}
    "filesize:18014398509481985,18014398509481984" (by decide)
  refine ⟨by decide, by decide, _, hread, ?_⟩
  decide +kernel

end Query

end WikiSearch

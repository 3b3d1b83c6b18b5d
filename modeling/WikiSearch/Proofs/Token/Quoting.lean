import WikiSearch.Proofs.Parsing
import WikiSearch.Proofs.Token.Tokenization
import WikiSearch.Query.Compiled

/-!
# WikiSearch — quoted text reads back

Text for the backend and text of a query are put between quotes in the same way, so what is escaped
for the one can be read as the other. The two sides have been made apart: to escape is to put a
backslash in front of two characters, and to read is to find the one spelling of what is there
(`Spelling`). They fit because the escaped text is a spelling of the text, in which no backslash
and no quote stands by itself. So nothing in the text, at its end or behind it can run into the
closing quote.

Main results:

* `spelling_quotedPieces` — escaped text is a spelling.
* `Token.scan_phrase`, `Token.scan_quotedValue` — quoted text as a phrase and as a value.
* `Token.ofText_inQuotes` — what quoted text reads back as, and a phrase that was compiled.
-/

namespace WikiSearch

open Text Escape Piece

/-- A text between quotes. -/
def Escape.inQuotes (s : String) : String := "\"" ++ Escape.phrase s ++ "\""

/-- What is written behind a phrase with a slop. -/
def Escape.slopText : Option Nat → String
  | some n => "~" ++ toString n
  | none => ""

/-- A compiled phrase is its text between quotes, with its slop. -/
theorem phraseText_eq (p : Phrase) :
    Parts.phraseText p = inQuotes p.text ++ slopText p.slop := rfl

/-! ## Escaped text as a spelling -/

/-- The pieces of an escaped text. -/
def quotedPieces (cs : List Char) : List Piece :=
  cs.map fun c => if c = '"' || c = '\\' then .pair c else .plain c

/-- The pieces are written as the text is escaped. -/
theorem sources_quotedPieces (cs : List Char) :
    sources (quotedPieces cs) = cs.flatMap phraseChar := by
  rw [sources, quotedPieces, List.flatMap_map]
  congr 1
  funext c
  rw [phraseChar]
  split <;> rfl

/-- The pieces stand for the text. -/
theorem chars_quotedPieces (cs : List Char) : chars (quotedPieces cs) = cs := by
  rw [chars, quotedPieces, List.map_map]
  refine List.map_id'' (fun c => ?_) cs
  rw [Function.comp_apply]
  split <;> rfl

/-- Neither a quote nor a backslash stands by itself. -/
theorem plain_mem_quotedPieces {c : Char} {cs : List Char} (h : Piece.plain c ∈ quotedPieces cs) :
    c ≠ '"' ∧ c ≠ '\\' := by
  obtain ⟨d, -, hd⟩ := List.mem_map.mp h
  split at hd
  · contradiction
  · rename_i hplain
    obtain rfl := Piece.plain.inj hd
    simpa using hplain

/-- Nothing else is part of a pair. -/
theorem pair_mem_quotedPieces {c : Char} {cs : List Char} (h : Piece.pair c ∈ quotedPieces cs) :
    c = '"' ∨ c = '\\' := by
  obtain ⟨d, -, hd⟩ := List.mem_map.mp h
  split at hd
  · rename_i hpair
    obtain rfl := Piece.pair.inj hd
    simpa using hpair
  · contradiction

/-- **Escaped text is a spelling**, whatever stands behind the closing quote. -/
theorem spelling_quotedPieces (cs rest : List Char) :
    Spelling quotedEscaping (quotedPieces cs) ('"' :: rest) where
  plain c hc := by simpa [quotedEscaping] using (plain_mem_quotedPieces hc).1
  pair c hc := by simpa [quotedEscaping] using pair_mem_quotedPieces hc
  backslash front back hps := by
    -- every backslash of the text has become a pair
    have hmem : Piece.plain '\\' ∈ quotedPieces cs := by
      rw [hps]
      exact List.mem_append_right front (List.mem_cons_self ..)
    exact absurd rfl (plain_mem_quotedPieces hmem).2
  stops c hc := by
    rw [List.head?_cons, Option.some.injEq] at hc
    simp [quotedEscaping, ← hc]

/-- A slop is a mark behind a phrase, as it is written. -/
theorem marks_slopText (slop : Option Nat) :
    Marks (slopText slop).toList [] (slop.map (min · maxSlop)) false := by
  cases slop with
  | none => exact .nothing (by simp)
  | some n =>
    obtain ⟨hne, hdigits, hvalue⟩ := toDigits_spec n
    have hmarks : Marks ('~' :: Nat.toDigits 10 n) [] _ false := .slop hne ⟨hdigits, by simp⟩
    -- the digits of a number stand for that number
    rw [hvalue] at hmarks
    simpa [slopText, Nat.toString_eq_ofList_toDigits] using hmarks

/-! ## Quoted text is one token -/

namespace Token

/-- **A quoted text is one phrase**, with the slop behind it. -/
theorem scan_phrase (s : String) (slop : Option Nat) :
    scan 0 true (inQuotes s ++ slopText slop).toList =
      [⟨.phrase ⟨s, slop.map (min · maxSlop), false, true⟩, none,
        ⟨0, (inQuotes s ++ slopText slop).toList.length⟩, 0⟩] := by
  have htext : (inQuotes s ++ slopText slop).toList =
      '"' :: (sources (quotedPieces s.toList) ++ '"' :: (slopText slop).toList) := by
    simp [inQuotes, Escape.phrase, sources_quotedPieces]
  have hmark := readMark_of_marks (marks_slopText slop)
  have hread := readPhrase_of_closed (spelling_quotedPieces s.toList (slopText slop).toList)
  rw [List.append_nil] at hmark
  rw [hmark, chars_quotedPieces, String.ofList_toList] at hread
  rw [htext]
  -- a quote is no sign
  have hblank : isBlank '"' = false := by decide
  have hscan := scan_eq_singleton hblank ((readContent_quote true _).trans hread) 0
  rwa [Nat.zero_add] at hscan

/-- **A quoted text is one value**, behind any key. -/
theorem scan_quotedValue {key : String} (hkey : IsKey key.toList) (s : String) :
    scan 0 true (key ++ ":" ++ inQuotes s).toList =
      [⟨.keyword ⟨⟨key, s, inQuotes s, some '"', ""⟩, key ++ ":" ++ inQuotes s⟩, none,
        ⟨0, (key ++ ":" ++ inQuotes s).toList.length⟩, 0⟩] := by
  have hquoted : inQuotes s = .ofList ('"' :: (sources (quotedPieces s.toList) ++ ['"'])) := by
    rw [← String.toList_inj]
    simp [inQuotes, Escape.phrase, sources_quotedPieces]
  have htext : (key ++ ":" ++ inQuotes s).toList =
      key.toList ++ ':' :: '"' :: (sources (quotedPieces s.toList) ++ ['"']) := by
    simp [hquoted]
  -- nothing stands behind the closing quote, so the suffix is empty
  have hread := readQuotedValue_of_closed key.toList
    (spelling_quotedPieces s.toList ([] ++ [])) ⟨by simp, by simp⟩
  rw [List.append_nil, chars_quotedPieces, String.ofList_toList, String.ofList_toList,
    String.ofList_nil, ← hquoted, ← htext, String.ofList_toList] at hread
  refine scan_of_readCandidate? ?_
  rw [htext, readCandidate?_quoted hkey.1 hkey.2, hread, htext]

end Token

/-! ## Phrases that are compiled -/

/-- No phrase of a text has a greater slop than the largest one. -/
theorem Content.Says.slop_le {p : Phrase} {source rest : List Char}
    (h : (Content.phrase p).Says source rest) : ∀ n, p.slop = some n → n ≤ maxSlop := by
  intro n hn
  cases h with
  | unclosedPhrase hspelling => contradiction
  | phrase hspelling hmarks =>
    -- without digits there is no slop, and with digits it is cut off
    cases hmarks with
    | nothing htilde => contradiction
    | stemmed hrun => contradiction
    | slop hne hrun =>
      obtain rfl := Option.some.inj hn
      exact Nat.min_le_right ..

namespace Query

variable {registry : Registry} {options : QueryOptions}

/-- No phrase of a query has a greater slop than the largest one. -/
theorem slop_le_of_parse {text : String} {q : Query} (h : parse registry options text = .ok q)
    {c : Clause Node} (hc : c ∈ q.clauses) {p : Phrase} {s : Span} (hnode : c.node = .phrase p s) :
    ∀ n, p.slop = some n → n ≤ maxSlop := by
  rw [clauses_of_parse h] at hc
  obtain ⟨t, ht, rfl⟩ := List.mem_map.mp hc
  exact (Token.says_of_mem_scan ht (content_of_phrase hnode)).slop_le

/-- The text clauses of a query are those of its clauses, in order. -/
theorem textClauses_compile (registry : Registry) (options : QueryOptions) (q : Query) :
    (q.compile registry options).textClauses =
      q.clauses.flatMap fun c => (Parts.ofNode registry options c.occur c.node).text := by
  show (Parts.ofClauses registry options .must q.clauses).text = _
  induction q.clauses with
  | nil => rfl
  | cons c cs ih => rw [Parts.ofClauses_cons, Parts.text_append, ih, List.flatMap_cons]

end Query

/-! ## Main result -/

namespace Token

/-- **Quoted text reads back.** Any text between quotes is one phrase with that text, and with the
slop that is written behind it, as far as a slop can go; behind a key it is one candidate, of which
the value is that text and the literal is all there is. So whatever phrase a query has, what it is
compiled to is one phrase again, with the same text and the same slop. -/
theorem ofText_inQuotes :
    (∀ s slop, (inQuotes s ++ slopText slop).toList.length ≤ 2048 →
      ofText (inQuotes s ++ slopText slop) =
        .ok [⟨.phrase ⟨s, slop.map (min · (2 ^ 32 - 1)), false, true⟩, none,
          ⟨0, (inQuotes s ++ slopText slop).toList.length⟩, 0⟩]) ∧
    (∀ key s, IsKey key.toList → (key ++ ":" ++ inQuotes s).toList.length ≤ 2048 →
      ofText (key ++ ":" ++ inQuotes s) =
        .ok [⟨.keyword ⟨⟨key, s, inQuotes s, some '"', ""⟩, key ++ ":" ++ inQuotes s⟩, none,
          ⟨0, (key ++ ":" ++ inQuotes s).toList.length⟩, 0⟩]) ∧
    ∀ registry options text q, Query.parse registry options text = .ok q →
      ∀ registry' options',
        (q.compile registry' options').textClauses =
          q.clauses.flatMap (fun c => (Parts.ofNode registry' options' c.occur c.node).text) ∧
        ∀ c ∈ q.clauses, ∀ p span, c.node = .phrase p span → p.text ≠ "" →
          (Parts.ofNode registry' options' c.occur c.node).text =
            [⟨c.occur, Parts.phraseText p⟩] ∧
          ((Parts.phraseText p).toList.length ≤ 2048 →
            ofText (Parts.phraseText p) =
              .ok [⟨.phrase ⟨p.text, p.slop, false, true⟩, none,
                ⟨0, (Parts.phraseText p).toList.length⟩, 0⟩]) := by
  refine ⟨fun s slop hlength => ?_, fun key s hkey hlength => ?_, ?_⟩
  · rw [ofText_of_length_le _ hlength, scan_phrase]
    rfl
  · rw [ofText_of_length_le _ hlength, scan_quotedValue hkey]
  · intro registry options text q hparse registry' options'
    refine ⟨q.textClauses_compile registry' options', fun c hc p span hnode htext => ⟨?_, ?_⟩⟩
    · -- an empty phrase would be left out
      rw [hnode, Parts.ofNode, if_neg htext]
    · intro hlength
      -- the slop has been read from a text, so it is not cut off again
      have hslop : p.slop.map (min · maxSlop) = p.slop := by
        cases hp : p.slop with
        | none => rfl
        | some n =>
          rw [Option.map_some, Nat.min_eq_left (Query.slop_le_of_parse hparse hc hnode n hp)]
      have htokens := scan_phrase p.text p.slop
      rw [hslop, ← phraseText_eq] at htokens
      rw [ofText_of_length_le _ hlength, htokens]

/-- A text with a blank and a quote in it that ends in a backslash. -/
theorem ofText_inQuotes_of_escapes :
    ofText "\"a \\\"b\\\\\"~5000000000" =
        .ok [⟨.phrase ⟨"a \"b\\", some 4294967295, false, true⟩, none, ⟨0, 20⟩, 0⟩] ∧
      ofText "intitle:\"a \\\"b\\\\\"" =
        .ok [⟨.keyword ⟨⟨"intitle", "a \"b\\", "\"a \\\"b\\\\\"", some '"', ""⟩,
          "intitle:\"a \\\"b\\\\\""⟩, none, ⟨0, 17⟩, 0⟩] ∧
      ∃ q, Query.parse (.builtin {}) {} "x -\"a \\\"b\\\\\"~7" = .ok q ∧
        (q.compile (.builtin {}) {}).textClauses =
          [⟨.must, "x"⟩, ⟨.mustNot, "\"a \\\"b\\\\\"~7"⟩] ∧
        ofText "\"a \\\"b\\\\\"~7" =
          .ok [⟨.phrase ⟨"a \"b\\", some 7, false, true⟩, none, ⟨0, 11⟩, 0⟩] := by
  obtain ⟨hphrase, hvalue, hquery⟩ := ofText_inQuotes
  refine ⟨hphrase "a \"b\\" (some 5000000000) (by decide +kernel),
    hvalue "intitle" "a \"b\\" ⟨by decide, List.all_eq_true.mp (by decide +kernel)⟩
      (by decide +kernel), ?_⟩
  -- the query has a word and an excluded phrase
  have hscan : scan 0 true "x -\"a \\\"b\\\\\"~7".toList =
      [⟨.word "x", none, ⟨0, 1⟩, 0⟩,
        ⟨.phrase ⟨"a \"b\\", some 7, false, true⟩, some .exclude, ⟨2, 14⟩, 3⟩] := by
    decide +kernel
  have hparse := Query.parse_of_length_le (.builtin {}) {} "x -\"a \\\"b\\\\\"~7" (by decide)
  rw [hscan] at hparse
  obtain ⟨htext, hphrases⟩ := hquery _ _ _ _ hparse (.builtin {}) {}
  obtain ⟨hnode, hread⟩ := hphrases _ (List.mem_cons_of_mem _ (List.mem_singleton_self _)) _ _ rfl
    (by decide)
  refine ⟨_, hparse, ?_, hread (by decide +kernel)⟩
  rw [htext]
  decide +kernel

end Token

end WikiSearch

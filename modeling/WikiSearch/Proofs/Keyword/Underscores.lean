import WikiSearch.Proofs.Keyword.Meaning
import WikiSearch.Proofs.Token.Quoting

/-!
# WikiSearch — a category with underscores and in quotes

A category whose name has spaces can be written in two ways: with underscores for the spaces, or in
quotes. The two are read by different readers, that of words and that of quoted text, and come
together only in the feature, which takes an underscore for a space wherever it stands. So the two
directives have different values as typed, and the same value once it is read: it does not matter
that a name has underscores of its own, bars with spaces around them, or nothing but spaces.

Quotes, backslashes and blanks other than the space are left out, since a word without quotes does
not hold them as they are.

Main results:

* `Token.scan_bareDirective`, `Token.scan_quotedDirective` — each of the two is one token.
* `listEntries_eq_nil_iff` — which lists have no entries.
* `Query.resolve_category` — what becomes of a candidate depends on its value with spaces alone.
* `Query.parse_underscored` — the two directives are the same.
-/

namespace WikiSearch

open Text

/-! ## The two spellings -/

/-- A text with its spaces written as underscores. -/
def underscored (s : String) : String :=
  String.ofList (s.toList.map fun c => if c = ' ' then '_' else c)

/-- The directive for a name, with underscores for its spaces. -/
def bareDirective (s : String) : String := "incategory:" ++ underscored s

/-- The directive for a name, in quotes. -/
def quotedDirective (s : String) : String := "incategory:\"" ++ s ++ "\""

/-- A name without quotes, backslashes and blanks other than spaces. -/
def IsPlainName (s : String) : Prop :=
  ∀ c ∈ s.toList, c ≠ '"' ∧ c ≠ '\\' ∧ (isBlank c = true → c = ' ')

/-- Whether the directive for a name is one, with the cap of a keyword that is registered: the cap
leaves an entry, and the name does not consist of spaces, underscores and bars. -/
def NamesCategory (cap : Option Nat) (s : String) : Prop :=
  (∃ n ∈ cap, 0 < n) ∧ ∃ c ∈ s.toList, c ≠ ' ' ∧ c ≠ '_' ∧ c ≠ '|'

/-- An underscore is read as a space, so it does not matter which of the two was typed. -/
theorem spaced_underscored (s : String) : spaced (underscored s) = spaced s := by
  simp only [spaced, underscored, String.toList_ofList, List.map_map]
  congr 1
  refine List.map_congr_left fun c _ => ?_
  by_cases hspace : c = ' '
  · simp [hspace]
  · simp [hspace]

/-- The candidate that the directive with underscores is read as. -/
def bareCandidate (s : String) : Candidate :=
  ⟨⟨"incategory", underscored s, underscored s, none, ""⟩, bareDirective s⟩

/-- The candidate that the directive with quotes is read as. -/
def quotedCandidate (s : String) : Candidate :=
  ⟨⟨"incategory", s, "\"" ++ s ++ "\"", some '"', ""⟩, quotedDirective s⟩

/-- The keyword of the two directives is that for categories. -/
theorem answers_incategory : Builtin.category.Answers "incategory" := by
  show foldName "incategory" ∈ ["incategory"]
  decide

/-- The registry of the built-in features has a cap for categories. -/
theorem find?_incategory (caps : Caps) :
    (Registry.builtin caps).find? "incategory" = (some caps.categories).map Feature.category :=
  find?_builtin_iff.mpr ⟨.category, answers_incategory, rfl⟩

section

variable {s : String} (h : IsPlainName s)
include h

/-- With underscores for its spaces a name is a word without escapes. -/
theorem plain_underscored :
    ∀ c ∈ (underscored s).toList, isBlank c = false ∧ c ≠ '\\' ∧ c ≠ '"' := by
  intro c hc
  rw [underscored, String.toList_ofList] at hc
  obtain ⟨d, hd, rfl⟩ := List.mem_map.mp hc
  obtain ⟨hquote, hbackslash, hblank⟩ := h d hd
  -- a space has become an underscore, and other blanks there were none
  by_cases hspace : d = ' '
  · rw [if_pos hspace]
    decide
  · rw [if_neg hspace]
    exact ⟨Bool.eq_false_iff.mpr (mt hblank hspace), hbackslash, hquote⟩

/-- Between quotes a name stands as it is. -/
theorem phrase_eq_self : Escape.phrase s = s := by
  have hchars : s.toList.flatMap Escape.phraseChar = s.toList := by
    refine (List.flatMap_congr fun c hc => ?_).trans (List.flatMap_singleton' s.toList)
    simp [Escape.phraseChar, (h c hc).1, (h c hc).2.1]
  rw [Escape.phrase, hchars, String.ofList_toList]

end

namespace Token

variable {s : String} (h : IsPlainName s)
include h

/-- **The directive with underscores is one token.** -/
theorem scan_bareDirective (hne : s ≠ "") :
    scan 0 true (bareDirective s).toList =
      [⟨.keyword (bareCandidate s), none, ⟨0, (bareDirective s).toList.length⟩, 0⟩] := by
  have hplain := plain_underscored h
  have htext : (bareDirective s).toList =
      "incategory".toList ++ ':' :: (underscored s).toList := by
    simp [bareDirective]
  have hhead : ∃ c, (underscored s).toList.head? = some c ∧ c ≠ '"' := by
    -- a word starts with one of its characters, and none of these is a quote
    have hcons : (underscored s).toList ≠ [] := by
      rw [underscored, String.toList_ofList]
      exact mt List.map_eq_nil_iff.mp (mt String.toList_eq_nil_iff.mp hne)
    obtain ⟨c, cs, hcs⟩ := List.exists_cons_of_ne_nil hcons
    refine ⟨c, by rw [hcs]; rfl, (hplain c ?_).2.2⟩
    rw [hcs]
    exact List.mem_cons_self ..
  have hscan := scan_directive answers_incategory.isKey hhead fun c hc =>
    ⟨(hplain c hc).1, (hplain c hc).2.1⟩
  rw [← htext, String.ofList_toList, String.ofList_toList, String.ofList_toList] at hscan
  exact hscan

/-- **The directive with quotes is one token.** -/
theorem scan_quotedDirective :
    scan 0 true (quotedDirective s).toList =
      [⟨.keyword (quotedCandidate s), none, ⟨0, (quotedDirective s).toList.length⟩, 0⟩] := by
  have hquotes : Escape.inQuotes s = "\"" ++ s ++ "\"" := by rw [Escape.inQuotes, phrase_eq_self h]
  have htext : "incategory" ++ ":" ++ ("\"" ++ s ++ "\"") = quotedDirective s := by
    rw [← String.toList_inj]
    simp [quotedDirective]
  have hscan := scan_quotedValue answers_incategory.isKey s
  rw [hquotes, htext] at hscan
  exact hscan

end Token

/-! ## Lists without entries -/

/-- A list with a character that is neither a blank nor a bar has an entry. -/
theorem ne_nil_of_entries {cs : List Char} {es : List String} (h : Entries cs es) {c : Char}
    (hc : c ∈ cs) (hblank : isBlank c = false) (hbar : c ≠ '|') : es ≠ [] := by
  have hpiece {cs : List Char} {es : List String} (h : EntryPiece cs es) (hc : c ∈ cs) :
      es ≠ [] := by
    cases h with
    | blank hblanks =>
      rw [hblanks c hc] at hblank
      contradiction
    | entry => exact List.cons_ne_nil _ _
  -- the character lies in one of the pieces, and that piece gives an entry
  induction h with
  | last _ hentry => exact hpiece hentry hc
  | cons _ hentry _ ih =>
    rcases List.mem_append.mp hc with hc | hc
    · exact List.append_ne_nil_of_left_ne_nil (hpiece hentry hc) _
    · rcases List.mem_cons.mp hc with rfl | hc
      · exact absurd rfl hbar
      · exact List.append_ne_nil_of_right_ne_nil _ (ih hc)

/-- A list of blanks and bars has no entry. -/
theorem eq_nil_of_entries {cs : List Char} {es : List String} (h : Entries cs es)
    (hcs : ∀ c ∈ cs, isBlank c = true ∨ c = '|') : es = [] := by
  have hpiece {cs : List Char} {es : List String} (h : EntryPiece cs es) (hbar : '|' ∉ cs)
      (hcs : ∀ c ∈ cs, isBlank c = true ∨ c = '|') : es = [] := by
    cases h with
    | blank => rfl
    | @entry front back e _ _ htrim hne =>
      -- an entry starts with a character that is no blank, and no bar stands in a piece
      obtain ⟨c, rest, he⟩ := List.exists_cons_of_ne_nil (mt String.toList_eq_nil_iff.mp hne)
      have hc : c ∈ front ++ e.toList ++ back := by simp [he]
      have hblank : isBlank c = false := htrim.1 c (by simp [he])
      rcases hcs c hc with hc' | rfl
      · rw [hblank] at hc'
        contradiction
      · exact absurd hc hbar
  induction h with
  | last hbar hentry => exact hpiece hentry hbar hcs
  | cons hbar hentry _ ih =>
    rw [List.forall_mem_append, List.forall_mem_cons] at hcs
    rw [hpiece hentry hbar hcs.1, ih hcs.2.2, List.append_nil]

/-- **Which lists have no entries.** -/
theorem listEntries_eq_nil_iff {value : String} :
    listEntries value = [] ↔ ∀ c ∈ value.toList, isBlank c = true ∨ c = '|' := by
  have hentries : Entries value.toList (listEntries value) := listEntries_eq_iff.mp rfl
  constructor
  · intro hnil c hc
    by_contra hnot
    rw [not_or, Bool.not_eq_true] at hnot
    exact ne_nil_of_entries hentries hc hnot.1 hnot.2 hnil
  · exact eq_nil_of_entries hentries

/-- The names that have no entries, underscores and spaces being the same. -/
theorem listEntries_spaced_eq_nil_iff {s : String} (h : IsPlainName s) :
    listEntries (spaced s) = [] ↔ ∀ c ∈ s.toList, c = ' ' ∨ c = '_' ∨ c = '|' := by
  rw [listEntries_eq_nil_iff, spaced, String.toList_ofList, List.forall_mem_map]
  refine forall₂_congr fun c hc => ?_
  -- an underscore counts as the space that it stands for
  by_cases hunderscore : c = '_'
  · rw [hunderscore]
    decide
  · rw [if_neg hunderscore, or_iff_right hunderscore]
    refine or_congr_left ?_
    constructor
    · exact (h c hc).2.2
    · rintro rfl
      decide

/-! ## What becomes of the candidates -/

/-- A category is read by its value with spaces for underscores. -/
theorem read_category_congr {cap : Nat} {arg arg' : Argument} (hkey : arg.key = arg'.key)
    (hvalue : spaced arg.value = spaced arg'.value) :
    (Feature.category cap).read arg = (Feature.category cap).read arg' := by
  simp only [Feature.category, hkey, hvalue]

namespace Query

section Category

variable {registry : Registry} {cap : Option Nat} {s : String}

/-- **What becomes of a candidate** for a category depends on its value with spaces for underscores,
and on nothing else that was typed. -/
theorem resolve_category (hfind : registry.find? "incategory" = cap.map Feature.category)
    (hs : IsPlainName s) :
    ∃ (read : Option KeywordValue) (warnings : List Warning),
      (read.isSome = true ↔ NamesCategory cap s) ∧
      ∀ c : Candidate, c.key = "incategory" → spaced c.value = spaced s → ∀ negated span,
        resolve registry c negated span =
          (match read with
            | none => .word c.literal span
            | some parsed => .directive ⟨c.toArgument, parsed, negated⟩ span, warnings) := by
  cases cap with
  | none =>
    -- a keyword that is not registered
    refine ⟨none, [], by simp [NamesCategory], fun c hkey _ negated span => ?_⟩
    rw [resolve, hkey, hfind]
    rfl
  | some cap =>
    rcases houtcome : (Feature.category cap).read ⟨"incategory", s, "", none, ""⟩ with
      ⟨read, warnings⟩
    refine ⟨read, warnings, ?_, fun c hkey hvalue negated span => ?_⟩
    · have hread : read = if (listEntries (spaced s)).take cap = [] then none
          else some (.categories ((listEntries (spaced s)).take cap)) :=
        (congrArg Prod.fst houtcome).symm.trans
          (congrArg Prod.fst (Feature.category_read cap _))
      have hentries := not_congr (listEntries_spaced_eq_nil_iff hs)
      push Not at hentries
      simp only [NamesCategory, Option.mem_some_iff, exists_eq_left', hread, ← hentries]
      rw [Option.isSome_ite', List.take_eq_nil_iff, not_or, Nat.pos_iff_ne_zero]
    · -- the value stands in what is read with spaces alone
      have hread : (Feature.category cap).read c.toArgument = (read, warnings) :=
        (read_category_congr hkey hvalue).trans houtcome
      have hresolve := resolve_of_find (hkey ▸ hfind) rfl negated span
      rw [hread] at hresolve
      cases read <;> exact hresolve

end Category

/-! ## The directive by itself -/

/-- A query of one candidate without a sign is read if the candidate fits the limits or is exempt
from the soft one. -/
theorem parse_of_candidate (registry : Registry) (options : QueryOptions) {text : String}
    {c : Candidate} (hscan : Token.scan 0 true text.toList =
      [⟨.keyword c, none, ⟨0, text.toList.length⟩, 0⟩])
    (hhard : text.toList.length ≤ 2048)
    (hsoft : text.toList.length ≤ options.effectiveLimit ∨ options.isExempt c.key = true) :
    parse registry options text =
      .ok ⟨text, [⟨options.defaultOccur, false,
          (resolve registry c (options.defaultOccur = .mustNot) ⟨0, text.toList.length⟩).1,
          ⟨0, text.toList.length⟩⟩],
        (resolve registry c (options.defaultOccur = .mustNot) ⟨0, text.toList.length⟩).2⟩ := by
  refine parse_eq_ok_iff.mpr ⟨hhard, ?_, ?_⟩
  · refine hsoft.imp_right fun hexempt => ?_
    -- an exempt candidate takes the whole text off its length
    simp [hscan, Token.exemptTotal, Token.isExempt, hexempt, Span.length]
  · rw [ofTokens, hscan, List.flatMap_singleton]
    rfl

/-- Two directives with the same keyword and the same parsed value add the same. -/
theorem ofDirective_congr (registry : Registry) (strict : Bool) (occur : Occur) {k l : Directive}
    (hkey : k.key = l.key) (hparsed : k.parsed = l.parsed) :
    Parts.ofDirective registry strict occur k = Parts.ofDirective registry strict occur l := by
  simp only [Parts.ofDirective, hkey, hparsed]

/-- **Underscores and quotes make the same directive.** Take a registry whose keyword for
categories has any cap or is not registered, as that of the built-in features, any options, and a
name that is not empty and has no quotes, backslashes and blanks other than spaces. If the name fits
the limits in quotes, then both directives are read, with the same warnings. If the cap leaves an
entry and there is one in the name, then both are a directive with the same parsed value, and they
compile to the same, whatever is compiled with; and otherwise both are a word as it was typed. -/
theorem parse_underscored {registry : Registry} {cap : Option Nat}
    (hfind : registry.find? "incategory" = cap.map Feature.category) (options : QueryOptions)
    {s : String} (hne : s ≠ "") (hs : IsPlainName s)
    (hhard : (quotedDirective s).toList.length ≤ 2048)
    (hsoft : (quotedDirective s).toList.length ≤ options.effectiveLimit ∨
      options.isExempt "incategory" = true) :
    ∃ a b, parse registry options (bareDirective s) = .ok a ∧
      parse registry options (quotedDirective s) = .ok b ∧ a.warnings = b.warnings ∧
      ((NamesCategory cap s ∧ ∃ k l spanA spanB, a.clauses.map (·.node) = [.directive k spanA] ∧
          b.clauses.map (·.node) = [.directive l spanB] ∧ k.parsed = l.parsed ∧
          ∀ registry' options', a.compile registry' options' = b.compile registry' options') ∨
        (¬ NamesCategory cap s ∧ ∃ spanA spanB,
          a.clauses.map (·.node) = [.word (bareDirective s) spanA] ∧
          b.clauses.map (·.node) = [.word (quotedDirective s) spanB])) := by
  -- the quotes only add to the length
  have hshorter : (bareDirective s).toList.length ≤ (quotedDirective s).toList.length := by
    simp [bareDirective, quotedDirective, underscored]
  have hbare := parse_of_candidate registry options (Token.scan_bareDirective hs hne)
    (hshorter.trans hhard) (hsoft.imp_left hshorter.trans)
  have hquoted := parse_of_candidate registry options (Token.scan_quotedDirective hs) hhard hsoft
  obtain ⟨read, warnings, hnames, hresolve⟩ := resolve_category hfind hs
  rw [hresolve (bareCandidate s) rfl (spaced_underscored s)] at hbare
  rw [hresolve (quotedCandidate s) rfl rfl] at hquoted
  refine ⟨_, _, hbare, hquoted, rfl, ?_⟩
  cases read with
  | some parsed =>
    refine .inl ⟨hnames.mp rfl, _, _, _, _, rfl, rfl, rfl, fun registry' options' => ?_⟩
    simp only [compile, Parts.ofClauses_cons, Parts.ofNode]
    rw [ofDirective_congr]
    · rfl
    · rfl
  | none => exact .inr ⟨fun h => absurd (hnames.mpr h) (by simp), _, _, rfl, rfl⟩

/-- A name with bars, an entry of an underscore alone, and a cap that leaves one entry of two. -/
theorem parse_underscored_of_bars :
    NamesCategory (some 1) "a b |_ | c_d" ∧
    ∃ a b, parse (.builtin { categories := 1 }) {} (bareDirective "a b |_ | c_d") = .ok a ∧
      parse (.builtin { categories := 1 }) {} (quotedDirective "a b |_ | c_d") = .ok b ∧
      a.warnings = b.warnings ∧
      ∃ k l spanA spanB, a.clauses.map (·.node) = [.directive k spanA] ∧
        b.clauses.map (·.node) = [.directive l spanB] ∧ k.parsed = l.parsed ∧
        ∀ registry' options', a.compile registry' options' = b.compile registry' options' := by
  have hnames : NamesCategory (some 1) "a b |_ | c_d" :=
    ⟨⟨1, rfl, Nat.one_pos⟩, 'a', by decide, by decide, by decide, by decide⟩
  -- what a plain name may hold can be checked character by character
  have hall : "a b |_ | c_d".toList.all
      (fun c => c ≠ '"' && c ≠ '\\' && (!isBlank c || c = ' ')) = true := by
    decide
  have hplain : IsPlainName "a b |_ | c_d" := by
    intro c hc
    simpa [or_iff_not_imp_left, and_assoc] using List.all_eq_true.mp hall c hc
  obtain ⟨a, b, ha, hb, hwarnings, ⟨-, hsame⟩ | ⟨hnot, -⟩⟩ :=
    parse_underscored (find?_incategory { categories := 1 }) {} (by decide) hplain (by decide)
      (.inl (by decide))
  · exact ⟨hnames, a, b, ha, hb, hwarnings, hsame⟩
  · exact absurd hnames hnot

end Query

end WikiSearch

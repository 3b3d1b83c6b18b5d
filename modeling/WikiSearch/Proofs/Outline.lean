import WikiSearch.Node.Outline
import WikiSearch.Proofs.Filter.Builtin
import WikiSearch.Proofs.Literal

/-!
# WikiSearch — the lines of an outline

The outline of a query should have a line for its group, for each clause and for each node, and a
second one for each directive, no matter what was typed: then nobody can make up a clause by typing
what its lines look like. Words, phrases and the values that keywords have read are put in quotes,
where the end of a line is written `\n`. The value of a directive as it was typed is shown as it is,
and a value can hold the end of a line, in quotes or behind a backslash.

So the outline has one line too many for each end of a line in these values, and a text without such
values is shown line by line, whatever else it holds. That nothing else can break a line is shown
along the tree, for trees put together by hand as well, and the lines are counted by their ends.

Main results:

* `lineEnds_quoted` — text in quotes is on one line.
* `isLines_render_iff` — lines that start at their levels are shown line by line exactly if none of
  them holds the end of a line.
* `Node.outlines_outline` — the lines of a tree, and what breaks them.
* `Query.isLines_outline_iff` — which queries are shown line by line.
* `Query.exists_broken_outline` — a value in quotes that adds a line.
-/

namespace WikiSearch

open Text Piece

/-! ## Ends of lines -/

/-- How many line ends a text holds. -/
def lineEnds (s : String) : Nat := s.toList.count '\n'

@[simp]
theorem lineEnds_append (s t : String) : lineEnds (s ++ t) = lineEnds s + lineEnds t := by
  rw [lineEnds, String.toList_append, List.count_append, lineEnds, lineEnds]

theorem lineEnds_eq_zero_iff {s : String} : lineEnds s = 0 ↔ '\n' ∉ s.toList :=
  List.count_eq_zero

theorem digitChar_ne_newline (n : Nat) : Nat.digitChar n ≠ '\n' :=
  Nat.digitChar_ne '\n' (by decide)

/-- A number is written without line ends. -/
theorem newline_not_mem_toDigits {b : Nat} (hb : 1 < b) (n : Nat) : '\n' ∉ Nat.toDigits b n := by
  induction n using Nat.strongRecOn with
  | ind n ih =>
    rw [Nat.toDigits_eq_if hb]
    split
    · rw [List.mem_singleton]
      exact (digitChar_ne_newline n).symm
    · -- the digits before the last are those of a smaller number
      have hless : n / b < n := Nat.div_lt_self (by omega) hb
      rw [List.mem_append, List.mem_singleton, not_or]
      exact ⟨ih _ hless, (digitChar_ne_newline (n % b)).symm⟩

@[simp]
theorem lineEnds_toString (n : Nat) : lineEnds (toString n) = 0 := by
  rw [lineEnds_eq_zero_iff, Nat.toString_eq_ofList_toDigits, String.toList_ofList]
  exact newline_not_mem_toDigits (by decide) n

/-- Whatever stands for a character in quotes, it is no line end. -/
theorem newline_not_mem_quotedChar (c : Char) : '\n' ∉ quotedChar c := by
  unfold quotedChar
  split
  -- the characters that are written by a letter or behind a backslash
  all_goals try decide
  split
  · simpa using newline_not_mem_toDigits (by decide) c.toNat
  · -- a line end has a letter of its own
    rename_i hnewline _ _ _ _
    simpa [eq_comm] using hnewline

/-- **Text in quotes is on one line.** -/
@[simp]
theorem lineEnds_quoted (s : String) : lineEnds (quoted s) = 0 := by
  rw [lineEnds_eq_zero_iff, quoted, String.toList_ofList]
  simpa using fun c _ => newline_not_mem_quotedChar c

/-- Texts on one line are joined to a text on one line. -/
theorem lineEnds_intercalate {separator : String} (hseparator : lineEnds separator = 0)
    {texts : List String} (htexts : ∀ t ∈ texts, lineEnds t = 0) :
    lineEnds (separator.intercalate texts) = 0 := by
  induction texts with
  | nil => rfl
  | cons t ts ih =>
    rw [List.forall_mem_cons] at htexts
    cases ts with
    | nil => simpa using htexts.1
    | cons u us => simp [String.intercalate_cons_cons, htexts.1, hseparator, ih htexts.2]

/-- A list of texts in quotes is on one line. -/
@[simp]
theorem lineEnds_quotedList (texts : List String) : lineEnds (quotedList texts) = 0 := by
  have htexts : ∀ t ∈ texts.map quoted, lineEnds t = 0 :=
    List.forall_mem_map.mpr fun t _ => lineEnds_quoted t
  have hjoined : lineEnds (", ".intercalate (texts.map quoted)) = 0 :=
    lineEnds_intercalate (by decide) htexts
  rw [quotedList, lineEnds_append, lineEnds_append, hjoined]
  decide

@[simp]
theorem lineEnds_span (s : Span) : lineEnds s.text = 0 := by
  simp only [Span.text, lineEnds_append, lineEnds_toString]
  rfl

/-- What is shown or not is on one line if it is when shown. -/
theorem lineEnds_showIf {s : String} (h : lineEnds s = 0) (condition : Bool) :
    lineEnds (showIf condition s) = 0 := by
  cases condition with
  | true => exact h
  | false => rfl

/-- The line of a directive has the ends of its key and of its value as typed. -/
theorem lineEnds_directive (d : Directive) :
    lineEnds d.outline = lineEnds d.key + lineEnds d.quotedValue := by
  have hliterals : lineEnds "Keyword(" = 0 ∧ lineEnds ":" = 0 ∧ lineEnds ")" = 0 := ⟨rfl, rfl, rfl⟩
  simp [Directive.outline, hliterals, lineEnds_showIf (s := " negated") rfl]

/-! ## Lines -/

/-- A text of lines, each with its end, with two spaces in front for each level. -/
def IsLines (levels : List Nat) (text : List Char) : Prop :=
  ∃ lines : List (List Char), text = lines.flatMap (· ++ ['\n']) ∧
    List.Forall₂ (fun level line =>
      '\n' ∉ line ∧ (line.takeWhile (· = ' ')).length = 2 * level) levels lines

/-- A text of lines has as many ends as lines. -/
theorem IsLines.count_newline {levels : List Nat} {text : List Char} (h : IsLines levels text) :
    text.count '\n' = levels.length := by
  obtain ⟨lines, rfl, hlines⟩ := h
  induction hlines with
  | nil => rfl
  | cons hline _ ih =>
    rw [List.flatMap_cons, List.count_append, ih, List.count_append,
      List.count_eq_zero_of_not_mem hline.1, List.length_cons]
    simp [Nat.add_comm]

/-- The text of a line that starts at its level. -/
def IsFlush (text : String) : Prop := text.toList.head?.any (· ≠ ' ') = true

/-- What stands behind the start of a line does not move it. -/
theorem IsFlush.append {s : String} (h : IsFlush s) (t : String) : IsFlush (s ++ t) := by
  obtain ⟨c, hhead, hc⟩ := (Option.any_eq_true ..).mp h
  rw [IsFlush, String.toList_append, List.head?_append, hhead]
  simpa using hc

/-- A text that is shown on one line and starts at its level. -/
structure IsOneLine (text : String) : Prop where
  flush : IsFlush text
  ends : lineEnds text = 0

/-- A line may go on with what has no line end. -/
theorem IsOneLine.append {s t : String} (hs : IsOneLine s) (ht : lineEnds t = 0) :
    IsOneLine (s ++ t) :=
  ⟨hs.flush.append t, by rw [lineEnds_append, hs.ends, ht]⟩

theorem isOneLine_occur (o : Occur) : IsOneLine o.name := by
  cases o <;> exact ⟨rfl, rfl⟩

/-- A phrase is shown on one line, whatever was typed in it. -/
theorem isOneLine_phrase (p : Phrase) : IsOneLine p.outline := by
  obtain ⟨text, slop, stemmed, terminated⟩ := p
  have hopen : IsOneLine "Phrase(" := ⟨rfl, rfl⟩
  have htext : IsOneLine ("Phrase(" ++ quoted text) := hopen.append (lineEnds_quoted text)
  -- all marks are there or not, and then comes the closing bracket
  have hmarks {s : String} (hs : IsOneLine s) : IsOneLine
      (s ++ showIf stemmed " stemmed" ++ showIf (!terminated) " unterminated" ++ ")") :=
    ((hs.append (lineEnds_showIf rfl stemmed)).append (lineEnds_showIf rfl !terminated)).append rfl
  cases slop with
  | none => exact hmarks (htext.append rfl)
  | some n =>
    have hslop : lineEnds (" ~" ++ toString n) = 0 := by
      rw [lineEnds_append, lineEnds_toString]
      rfl
    exact hmarks (htext.append hslop)

namespace Line

/-- The characters of a line without its end. -/
def chars (l : Line) : List Char := List.replicate (2 * l.level) ' ' ++ l.text.toList

theorem toList_render (l : Line) : l.render.toList = l.chars ++ ['\n'] := by
  simp [render, chars]

/-- Rendered lines stand one behind the other. -/
theorem toList_intercalate_render (lines : List Line) :
    ("".intercalate (lines.map render)).toList = (lines.map chars).flatMap (· ++ ['\n']) := by
  induction lines with
  | nil => rfl
  | cons l ls ih =>
    rw [List.map_cons, List.map_cons, List.flatMap_cons, ← ih, ← toList_render]
    cases ls with
    | nil => simp
    | cons m ms => simp [String.intercalate_cons_cons]

/-- The line ends in a line are those of its text, as the spaces in front are none. -/
theorem count_newline_chars (l : Line) : l.chars.count '\n' = lineEnds l.text := by
  simp [chars, lineEnds, List.count_replicate]

/-- A flush text has just the spaces of its level in front. -/
theorem takeWhile_chars {l : Line} (h : IsFlush l.text) :
    (l.chars.takeWhile (· = ' ')).length = 2 * l.level := by
  have htext : l.text.toList.takeWhile (· = ' ') = [] := by
    cases hcs : l.text.toList with
    | nil => rfl
    | cons c cs =>
      rw [IsFlush, hcs] at h
      simpa using h
  rw [chars, List.takeWhile_append_of_pos (by simp), htext]
  simp

end Line

section Render

variable (lines : List Line)

/-- Lines have their own ends and those that their texts hold. -/
theorem lineEnds_render : lineEnds ("".intercalate (lines.map Line.render)) =
    lines.length + (lines.map fun l => lineEnds l.text).sum := by
  rw [lineEnds, Line.toList_intercalate_render]
  induction lines with
  | nil => rfl
  | cons l ls ih =>
    -- one line after the other: its own end, and those in its text
    rw [List.map_cons, List.flatMap_cons, List.count_append, ih, List.count_append,
      Line.count_newline_chars, List.map_cons, List.sum_cons, List.length_cons]
    simp only [List.count_singleton_self]
    omega

/-- **Lines are shown line by line** exactly if none of them holds the end of a line. -/
theorem isLines_render_iff (hflush : ∀ l ∈ lines, IsFlush l.text) :
    IsLines (lines.map (·.level)) ("".intercalate (lines.map Line.render)).toList ↔
      (lines.map fun l => lineEnds l.text).sum = 0 := by
  constructor
  · intro h
    -- there is one end for each line, so no other is left
    have hcount := h.count_newline
    have hends := lineEnds_render lines
    rw [lineEnds, hcount, List.length_map] at hends
    omega
  · -- without line ends in them the lines are those that were given
    intro hsum
    rw [List.sum_eq_zero_iff_forall_eq_nat, List.forall_mem_map] at hsum
    refine ⟨lines.map Line.chars, Line.toList_intercalate_render lines, ?_⟩
    rw [List.forall₂_map_left_iff, List.forall₂_map_right_iff, List.forall₂_same]
    intro l hl
    refine ⟨?_, Line.takeWhile_chars (hflush l hl)⟩
    rw [← List.count_eq_zero, Line.count_newline_chars]
    exact hsum l hl

end Render

/-! ## The lines of a tree -/

/-- A directive of which the lines hold no line ends but those of the value as typed. -/
structure Directive.IsPlain (d : Directive) : Prop where
  key : lineEnds d.key = 0
  described : IsOneLine d.parsed.describe

namespace Node

mutual

/-- The levels of the lines that a node should have, from a level on: one line for the node, or two
for a directive, the second of which is one level deeper. -/
def levels (level : Nat) : Node → List Nat
  | word _ _ => [level]
  | phrase _ _ => [level]
  | directive _ _ => [level, level + 1]
  | clause c => clauseLevels level c
  | group cs _ => level :: clausesLevels (level + 1) cs
  | empty => [level]

/-- The levels of the lines that a clause should have: one line before those of its node. -/
def clauseLevels (level : Nat) : Clause Node → List Nat
  | ⟨_, _, node, _⟩ => level :: levels (level + 1) node

/-- The levels of the lines that some clauses should have. -/
def clausesLevels (level : Nat) : List (Clause Node) → List Nat
  | [] => []
  | c :: cs => clauseLevels level c ++ clausesLevels level cs

end

mutual

/-- The directives of a tree, in order. -/
def directives : Node → List Directive
  | word _ _ => []
  | phrase _ _ => []
  | directive d _ => [d]
  | clause c => clauseDirectives c
  | group cs _ => clausesDirectives cs
  | empty => []

/-- The directives in a clause. -/
def clauseDirectives : Clause Node → List Directive
  | ⟨_, _, node, _⟩ => directives node

/-- The directives in some clauses. -/
def clausesDirectives : List (Clause Node) → List Directive
  | [] => []
  | c :: cs => clauseDirectives c ++ clausesDirectives cs

end

end Node

/-- What is known of the lines of a tree with some directives: their levels, that they start there,
and where line ends come from. -/
structure Outlines (lines : List Line) (levels : List Nat) (ds : List Directive) : Prop where
  levels : lines.map (·.level) = levels
  flush : ∀ l ∈ lines, IsFlush l.text
  ends : (lines.map fun l => lineEnds l.text).sum = (ds.map (lineEnds ·.quotedValue)).sum

namespace Outlines

variable {lines lines' : List Line} {levels levels' : List Nat} {ds ds' : List Directive}

theorem nil : Outlines [] [] [] := ⟨rfl, by simp, rfl⟩

/-- What is known of some lines and of further ones is known of them together. -/
theorem append (h : Outlines lines levels ds) (h' : Outlines lines' levels' ds') :
    Outlines (lines ++ lines') (levels ++ levels') (ds ++ ds') where
  levels := by rw [List.map_append, h.levels, h'.levels]
  flush := List.forall_mem_append.mpr ⟨h.flush, h'.flush⟩
  ends := by
    rw [List.map_append, List.sum_append, h.ends, h'.ends, List.map_append, List.sum_append]

/-- A line without an end of its own in front of others. -/
theorem cons (h : Outlines lines levels ds) (level : Nat) {text : String} (htext : IsOneLine text) :
    Outlines (⟨level, text⟩ :: lines) (level :: levels) ds where
  levels := by rw [List.map_cons, h.levels]
  flush := List.forall_mem_cons.mpr ⟨htext.flush, h.flush⟩
  ends := by rw [List.map_cons, List.sum_cons, htext.ends, h.ends, Nat.zero_add]

/-- The two lines of a directive. -/
theorem directive (level : Nat) {d : Directive} (hplain : d.IsPlain) (s : Span) :
    Outlines [⟨level, d.outline ++ s.text⟩, ⟨level + 1, d.parsed.describe⟩] [level, level + 1]
      [d] where
  levels := rfl
  flush := by
    refine List.forall_mem_cons.mpr ⟨?_, List.forall_mem_singleton.mpr hplain.described.flush⟩
    have hopen : IsFlush "Keyword(" := rfl
    simp only [Directive.outline, String.append_assoc]
    exact hopen.append _
  ends := by simp [lineEnds_directive, hplain.key, hplain.described.ends]

end Outlines

namespace Node

mutual

/-- **The lines of a tree.** If its directives hold no line ends but those of the values as typed,
then these are all the ends that its lines have. -/
theorem outlines_outline (level : Nat) (n : Node) (h : ∀ d ∈ n.directives, d.IsPlain) :
    Outlines (n.outline level) (n.levels level) n.directives := by
  -- along the tree, as the outline goes: a clause and a group hold further nodes
  match n with
  | .word text s =>
    have hopen : IsOneLine "Word(" := ⟨rfl, rfl⟩
    exact Outlines.nil.cons level
      (((hopen.append (lineEnds_quoted text)).append rfl).append (lineEnds_span s))
  | .phrase p s => exact Outlines.nil.cons level ((isOneLine_phrase p).append (lineEnds_span s))
  | .directive d s =>
    rw [directives, List.forall_mem_singleton] at h
    exact Outlines.directive level h s
  | .clause c => exact outlines_clauseOutline level c h
  | .group cs s =>
    have htext : IsOneLine ("Group" ++ s.text) := IsOneLine.append ⟨rfl, rfl⟩ (lineEnds_span s)
    exact (outlines_clausesOutline (level + 1) cs h).cons level htext
  | .empty => exact Outlines.nil.cons level ⟨rfl, rfl⟩

theorem outlines_clauseOutline (level : Nat) (c : Clause Node)
    (h : ∀ d ∈ clauseDirectives c, d.IsPlain) :
    Outlines (clauseOutline level c) (clauseLevels level c) (clauseDirectives c) := by
  match c with
  | ⟨occur, explicit, node, span⟩ =>
    have htext : IsOneLine (occur.name ++ showIf explicit " explicit") :=
      (isOneLine_occur occur).append (lineEnds_showIf rfl explicit)
    exact (outlines_outline (level + 1) node h).cons level htext

theorem outlines_clausesOutline (level : Nat) (cs : List (Clause Node))
    (h : ∀ d ∈ clausesDirectives cs, d.IsPlain) :
    Outlines (clausesOutline level cs) (clausesLevels level cs) (clausesDirectives cs) := by
  match cs with
  | [] => exact Outlines.nil
  | c :: cs =>
    rw [clausesDirectives, List.forall_mem_append] at h
    exact (outlines_clauseOutline level c h.1).append (outlines_clausesOutline level cs h.2)

end

section Text

variable {n : Node} (h : ∀ d ∈ n.directives, d.IsPlain)
include h

/-- A tree has a line end for each line and those of the values as typed. -/
theorem lineEnds_text : lineEnds n.text =
    (n.levels 0).length + (n.directives.map (lineEnds ·.quotedValue)).sum := by
  have houtline := outlines_outline 0 n h
  rw [text, lineEnds_render, houtline.ends, ← houtline.levels, List.length_map]

/-- **Which trees are shown line by line.** -/
theorem isLines_text_iff : IsLines (n.levels 0) n.text.toList ↔
    ∀ d ∈ n.directives, '\n' ∉ d.quotedValue.toList := by
  have houtline := outlines_outline 0 n h
  rw [text, ← houtline.levels, isLines_render_iff _ houtline.flush, houtline.ends,
    List.sum_eq_zero_iff_forall_eq_nat, List.forall_mem_map]
  exact forall₂_congr fun d _ => lineEnds_eq_zero_iff

end Text

end Node

/-! ## Values of the built-in features -/

/-- A value is shown on one line if the field of a range is. -/
theorem KeywordValue.isOneLine_describe (v : KeywordValue)
    (h : ∀ r, v = .numericRange r → IsOneLine r.field) : IsOneLine v.describe := by
  cases v with
  -- numbers and texts in quotes have no line ends, whichever value they are in
  | pageIds ids =>
    have hids : ∀ t ∈ ids.map toString, lineEnds t = 0 :=
      List.forall_mem_map.mpr fun n _ => lineEnds_toString n
    have hopen : IsOneLine "page ids [" := ⟨rfl, rfl⟩
    exact (hopen.append (lineEnds_intercalate rfl hids)).append rfl
  | categories names => exact IsOneLine.append ⟨rfl, rfl⟩ (lineEnds_quotedList names)
  | recommendationFlags flags => exact IsOneLine.append ⟨rfl, rfl⟩ (lineEnds_quotedList flags)
  | topics ts => exact IsOneLine.append ⟨rfl, rfl⟩ (lineEnds_quotedList ts)
  | numericRange r =>
    have hbound (b : Option Nat) : lineEnds (bound b) = 0 := by
      cases b with
      | none => rfl
      | some n => exact lineEnds_toString n
    exact (((((h r rfl).append rfl).append (hbound r.low)).append rfl).append
      (hbound r.high)).append rfl
  | terms ts => exact IsOneLine.append ⟨rfl, rfl⟩ (lineEnds_quotedList ts)
  | text s => exact IsOneLine.append ⟨rfl, rfl⟩ (lineEnds_quoted s)

/-- The field that a keyword restricts is shown on one line. -/
theorem isOneLine_fileField {key field : String} (h : fileField? key = some field) :
    IsOneLine field := by
  unfold fileField? at h
  split at h
  all_goals first
    | obtain rfl := Option.some.inj h
      exact ⟨rfl, rfl⟩
    | cases h

/-- Only the field of a file is read as a range. -/
theorem Builtin.fileField_of_read {caps : Caps} {kind : Builtin} {arg : Argument} {r : NumericRange}
    (h : ((kind.feature caps).read arg).1 = some (.numericRange r)) :
    fileField? arg.key = some r.field := by
  -- the other four kinds read values of other forms
  cases kind with
  | category => simp [feature, Feature.category_read] at h
  | topic => simp [feature, Feature.topic_read] at h
  | pageId => simp [feature, Feature.pageId_read] at h
  | recommendation => simp [feature, Feature.recommendation_read] at h
  | fileProperty =>
    rw [feature, read_fileProperty, Option.bind_eq_some_iff] at h
    obtain ⟨field, hfield, h⟩ := h
    obtain ⟨bounds, -, hr⟩ := Option.map_eq_some_iff.mp h
    rw [hfield, ← KeywordValue.numericRange.inj hr]

/-! ## What is typed -/

/-- A key holds no line end, which is a blank. -/
theorem newline_not_mem_of_isKey {key : List Char} (h : IsKey key) : '\n' ∉ key := by
  intro hmem
  have hblank := isBlank_of_isKeyChar (h.2 _ hmem)
  revert hblank
  decide

/-- A character that is spelled somehow stands in the source, with a backslash in front of it or
not. -/
theorem mem_sources_of_mem_chars {c : Char} {ps : List Piece} (h : c ∈ Piece.chars ps) :
    c ∈ sources ps := by
  obtain ⟨p, hp, rfl⟩ := List.mem_map.mp h
  refine List.mem_flatMap.mpr ⟨p, hp, ?_⟩
  cases p <;> simp [char, source]

/-- The value as typed of a candidate is made of characters of its source. -/
theorem Candidate.mem_source_of_says {c : Candidate} {source rest : List Char}
    (h : (Content.keyword c).Says source rest) {d : Char} (hd : d ∈ c.quotedValue.toList) :
    d ∈ source := by
  cases h with
  | bareValue _ _ _ _ hchars =>
    rw [String.toList_ofList] at hd
    refine mem_sources_of_mem_chars ?_
    rw [hchars]
    simp [hd]
  | unclosedValue =>
    rw [String.toList_ofList] at hd
    exact List.mem_append_right _ (List.mem_cons_of_mem _ hd)
  | @quotedValue ps key suffix rest hkey hspelling hsuffix =>
    -- what stands behind the closing quote is no part of the value
    rw [String.toList_ofList] at hd
    have hvalue : '"' :: (sources ps ++ ['"']) <+: '"' :: (sources ps ++ '"' :: suffix) :=
      ⟨suffix, by simp⟩
    exact List.mem_append_right _ (List.mem_cons_of_mem _ (hvalue.subset hd))

/-! ## The lines of a query -/

namespace Query

section Parsed

variable {caps : Caps} {options : QueryOptions} {text : String} {q : Query}
  (h : parse (.builtin caps) options text = .ok q)
include h

/-- A directive of a query is made of a candidate of its text. -/
theorem exists_candidate_of_mem_directives {d : Directive} (hd : d ∈ q.directives) :
    ∃ t ∈ Token.scan 0 true text.toList, ∃ c, t.content = .keyword c ∧ ∃ negated span s,
      (resolve (.builtin caps) c negated span).1 = .directive d s := by
  rw [directives, clauses_of_parse h, List.filterMap_map, List.mem_filterMap] at hd
  obtain ⟨t, ht, hnode⟩ := hd
  simp only [Function.comp_apply] at hnode
  split at hnode
  · rename_i d' s hdirective
    obtain rfl := Option.some.inj hnode
    obtain ⟨c, hcontent, hresolve⟩ := exists_candidate_of_node hdirective
    exact ⟨t, ht, c, hcontent, _, _, s, hresolve⟩
  · cases hnode

/-- The lines of a directive hold no line ends but those of its value as typed. -/
theorem isPlain_of_mem_directives {d : Directive} (hd : d ∈ q.directives) : d.IsPlain := by
  obtain ⟨t, -, c, -, negated, span, s, hresolve⟩ := exists_candidate_of_mem_directives h hd
  cases hfind : (Registry.builtin caps).find? c.key with
  | none =>
    -- a candidate without a feature is a word
    rw [resolve, hfind] at hresolve
    cases hresolve
  | some feature =>
    obtain ⟨kind, hkey, rfl⟩ := find?_builtin_iff.mp hfind
    obtain ⟨harg, hread⟩ := parsed_of_resolve hfind hresolve
    rw [← harg] at hkey
    have hends : lineEnds d.key = 0 :=
      lineEnds_eq_zero_iff.mpr (newline_not_mem_of_isKey hkey.isKey)
    -- only a range shows more than what stands in quotes, namely its field
    have hfield : ∀ r, d.parsed = .numericRange r → IsOneLine r.field := by
      intro r hr
      rw [hr] at hread
      exact isOneLine_fileField (Builtin.fileField_of_read hread)
    exact ⟨hends, d.parsed.isOneLine_describe hfield⟩

/-- The value of a directive as typed is made of characters of the text. -/
theorem mem_text_of_mem_quotedValue {d : Directive} (hd : d ∈ q.directives) {c : Char}
    (hc : c ∈ d.quotedValue.toList) : c ∈ text.toList := by
  obtain ⟨t, ht, candidate, hcontent, negated, span, s, hresolve⟩ :=
    exists_candidate_of_mem_directives h hd
  have hvalue : d.quotedValue = candidate.quotedValue := by
    rcases resolve_cases (.builtin caps) candidate negated span with ⟨parsed, hdirective⟩ | hword
    · rw [hdirective] at hresolve
      obtain ⟨rfl, -⟩ := Node.directive.inj hresolve
      rfl
    · rw [hword] at hresolve
      cases hresolve
  rw [hvalue] at hc
  exact List.mem_of_mem_drop (List.mem_of_mem_take
    (candidate.mem_source_of_says (Token.says_of_mem_scan ht hcontent) hc))

/-- The directives of the tree of a query are those of its clauses. -/
theorem directives_root : q.root.directives = q.directives := by
  have hleaf := isLeaf_of_parse h
  have hclauses : Node.clausesDirectives q.clauses = q.directives := by
    rw [directives]
    generalize q.clauses = clauses at hleaf
    induction clauses with
    | nil => rfl
    | cons c cs ih =>
      obtain ⟨occur, explicit, node, span⟩ := c
      rw [List.forall_mem_cons] at hleaf
      rw [Node.clausesDirectives, Node.clauseDirectives, ih hleaf.2]
      -- a leaf holds no further clauses
      cases hleaf.1 <;> rfl
  rw [root]
  split
  · rename_i hempty
    rw [directives, List.isEmpty_iff.mp hempty]
    rfl
  · exact hclauses

end Parsed

/-- **Which queries are shown line by line.** Under the built-in features with any caps, the outline
of a query that was read has a line end for each line that it should have, and one for each line end
in the value of a directive as typed. It is made of just those lines, each at its level, exactly if
no such value holds a line end, as is the case if none was typed. -/
theorem isLines_outline_iff {caps : Caps} {options : QueryOptions} {text : String} {q : Query}
    (h : parse (.builtin caps) options text = .ok q) :
    lineEnds q.root.text =
      (q.root.levels 0).length + (q.directives.map (lineEnds ·.quotedValue)).sum ∧
    (IsLines (q.root.levels 0) q.root.text.toList ↔
      ∀ d ∈ q.directives, '\n' ∉ d.quotedValue.toList) ∧
    ('\n' ∉ text.toList → IsLines (q.root.levels 0) q.root.text.toList) := by
  have hplain : ∀ d ∈ q.root.directives, d.IsPlain := by
    rw [directives_root h]
    exact fun d hd => isPlain_of_mem_directives h hd
  have hends := Node.lineEnds_text hplain
  have hlines := Node.isLines_text_iff hplain
  rw [directives_root h] at hends hlines
  refine ⟨hends, hlines, fun htext => hlines.mpr ?_⟩
  intro d hd hmem
  exact htext (mem_text_of_mem_quotedValue h hd hmem)

/-- A line end in a phrase breaks no line. -/
theorem isLines_outline_iff_of_phrase :
    ∃ q, parse (.builtin {}) {} "\"a\nb\" -incategory:c" = .ok q ∧
      IsLines [0, 1, 2, 1, 2, 3] q.root.text.toList := by
  have hparse := parse_of_length_le (.builtin {}) {} "\"a\nb\" -incategory:c" (by decide)
  refine ⟨_, hparse, ?_⟩
  have hlevels : (ofTokens (.builtin {}) {} "\"a\nb\" -incategory:c"
      (Token.scan 0 true "\"a\nb\" -incategory:c".toList)).root.levels 0 = [0, 1, 2, 1, 2, 3] := by
    decide +kernel
  rw [← hlevels]
  exact (isLines_outline_iff hparse).2.1.mpr (by decide +kernel)

/-- **A value in quotes adds a line.** The line of the directive goes on behind the line end that
was typed, at no level. -/
theorem exists_broken_outline :
    ∃ q, parse (.builtin {}) {} "incategory:\"a\nb\"" = .ok q ∧
      q.root.text = "Group [0..16]\n  MUST\n    Keyword(incategory:\"a\nb\") [0..16]\n" ++
        "      categories [\"a\\nb\"]\n" ∧
      q.root.levels 0 = [0, 1, 2, 3] ∧ ¬ IsLines [0, 1, 2, 3] q.root.text.toList := by
  have hparse := parse_of_length_le (.builtin {}) {} "incategory:\"a\nb\"" (by decide)
  have htext : (ofTokens (.builtin {}) {} "incategory:\"a\nb\""
      (Token.scan 0 true "incategory:\"a\nb\"".toList)).root.text =
      "Group [0..16]\n  MUST\n    Keyword(incategory:\"a\nb\") [0..16]\n" ++
        "      categories [\"a\\nb\"]\n" := by
    decide +kernel
  refine ⟨_, hparse, htext, by decide +kernel, fun hlines => ?_⟩
  -- five ends for four lines
  have hcount := hlines.count_newline
  rw [htext] at hcount
  revert hcount
  decide

end Query

end WikiSearch

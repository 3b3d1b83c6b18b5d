import WikiSearch.Proofs.Settings.Order
import WikiSearch.Settings.Configuration

/-!
# WikiSearch — settings survive being written

The text of a file that sets all settings, put in front of any other files, gives the settings
that it was written from. Two lists of names have to agree for that, those that settings are
written under and those that the sections of a file know, and no setting may be forgotten, or
one from below would shine through.

How a file looks is left to a TOML library, of which no more is asked than that it writes what
TOML can hold and reads back what it has written (`Toml.Library.Faithful`). In the middle stands
the table that is written (`toTable`). The library may give it back in another order, which does
not count; that every setting is read from it goes section by section.

Main results:

* `isSectioned_toTable` — the table is one that can be written in sections.
* `ofTable_toTable` — the layer that the table is read as.
* `ofFileBy_toToml` — written settings come back, whatever lies below.
* `toToml_library`, `ofFile_render` — so they do with the library in use.
-/

namespace WikiSearch.Settings

open Toml (Value IsPlain)

/-! ## The table of the file -/

/-- The settings that are numbers. -/
def counts (s : Settings) : List Nat :=
  [s.parser.maxLength, s.keywords.caps.pageIds, s.keywords.caps.recommendationFlags,
   s.keywords.caps.categories, s.keywords.caps.topics, s.fallback.callBudget,
   s.fallback.phraseSuggest.hitsThreshold]

section Tables

variable {max depth : Nat}

theorem isPlain_parserTable {s : ParserSettings} (h : s.maxLength ≤ max) :
    IsPlain max depth (parserTable s) := by
  refine .simple (v := .integer s.maxLength) ?_ ?_ h <|
    .simple (v := .boolean s.leadingWildcards) ?_ ?_ trivial <|
    .simple (v := .boolean s.strictMatching) ?_ ?_ trivial <|
    .simple (v := .texts s.exemptKeywords) ?_ ?_ trivial <|
    .simple (v := .text s.defaultOccur.name) ?_ ?_ trivial <| .nil depth
  all_goals first | decide | simp

theorem isPlain_keywordTable {s : KeywordSettings} (hids : s.caps.pageIds ≤ max)
    (hflags : s.caps.recommendationFlags ≤ max)
    (hcategories : s.caps.categories ≤ max)
    (htopics : s.caps.topics ≤ max) : IsPlain max depth (keywordTable s) := by
  refine .simple (v := .integer s.caps.pageIds) ?_ ?_ hids <|
    .simple (v := .integer s.caps.recommendationFlags) ?_ ?_ hflags <|
    .simple (v := .integer s.caps.categories) ?_ ?_ hcategories <|
    .simple (v := .integer s.caps.topics) ?_ ?_ htopics <|
    .simple (v := .texts s.disabled) ?_ ?_ trivial <| .nil depth
  all_goals first | decide | simp

theorem isPlain_phraseSuggestTable {s : Fallback.PhraseSuggestSettings}
    (h : s.hitsThreshold ≤ max) : IsPlain max depth (phraseSuggestTable s) := by
  refine .simple (v := .boolean s.enabled) ?_ ?_ trivial <|
    .simple (v := .boolean s.mayReplace) ?_ ?_ trivial <|
    .simple (v := .integer s.hitsThreshold) ?_ ?_ h <| .nil depth
  all_goals first | decide | simp

theorem isPlain_indexLookupTable (s : Fallback.IndexLookupSettings) :
    IsPlain max depth (indexLookupTable s) := by
  refine .simple (v := .boolean s.enabled) ?_ ?_ trivial <|
    .simple (v := .boolean s.mayReplace) ?_ ?_ trivial <| .nil depth
  all_goals first | decide | simp

/-- Fallbacks: the table is plain if its numbers are, with two tables in it. -/
theorem isPlain_fallbackTable {s : Fallback.Profile} (hbudget : s.callBudget ≤ max)
    (hhits : s.phraseSuggest.hitsThreshold ≤ max) :
    IsPlain max (depth + 1) (fallbackTable s) := by
  refine .simple (v := .integer s.callBudget) ?_ ?_ hbudget <|
    .table ?_ ?_ (isPlain_phraseSuggestTable hhits) <|
    .table ?_ ?_ (isPlain_indexLookupTable s.indexLookup) <| .nil _
  all_goals first | decide | simp

/-- **The table can be written in sections**, whatever texts stand in its lists. -/
theorem isSectioned_toTable {s : Settings} (h : ∀ n ∈ s.counts, n ≤ max) :
    Toml.IsSectioned max s.toTable := by
  simp only [counts, List.forall_mem_cons] at h
  obtain ⟨hlength, hids, hflags, hcategories, htopics, hbudget, hhits, -⟩ := h
  -- the depth is more than enough for a section within a section
  have hplain : IsPlain max (78 + 2) s.toTable := by
    refine .table ?_ ?_ (isPlain_parserTable hlength) <|
      .table ?_ ?_ (isPlain_keywordTable hids hflags hcategories htopics) <|
      .table ?_ ?_ (isPlain_fallbackTable hbudget hhits) <| .nil _
    all_goals first | decide | simp
  refine ⟨hplain, ?_⟩
  simp only [toTable, List.forall_mem_cons]
  exact ⟨⟨_, rfl⟩, ⟨_, rfl⟩, ⟨_, rfl⟩, fun _ h => absurd h List.not_mem_nil⟩

end Tables

/-! ## Single settings -/

theorem readBoolean_boolean (b : Bool) : readBoolean (.boolean b) = .ok b := rfl

/-- A number that can be stored is read as it was written. -/
theorem readCount_of_le (wanted : String) {n : Nat} (h : n ≤ Text.maxStored) :
    readCount wanted (.integer n) = .ok n := by
  have hbounds : 0 ≤ (n : Int) ∧ (n : Int) ≤ Text.maxStored := by omega
  rw [readCount, if_pos hbounds]
  rfl

/-- There is no number among texts, and so none that is too large. -/
theorem overflowIn?_texts (names : List String) : overflowIn? (names.map .text) = none := by
  induction names with
  | nil => rw [List.map_nil, overflowIn?]
  | cons name names ih =>
    have hname : overflow? (.text name) = none := by simp [overflow?]
    rw [List.map_cons, overflowIn?, hname, ih]
    rfl

theorem mapM_readName (names : List String) :
    (names.map Value.text).mapM readName = .ok names := by
  induction names with
  | nil => rfl
  | cons name names ih =>
    rw [List.map_cons, List.mapM_cons, ih]
    rfl

/-- A list of names is read as it was written, and never as one name. -/
theorem readNames_namesValue (names : List String) : readNames (namesValue names) = .ok names := by
  have hheld : overflow? (.array (names.map .text)) = none := by
    rw [overflow?, overflowIn?_texts]
  rw [namesValue, readNames, hheld]
  simp only [mapM_readName]
  rfl

theorem readChoice_name (o : PlainOccur) :
    readChoice PlainOccur.choices (.text o.name) = .ok o := by
  cases o <;> rfl

/-! ## Sections -/

/-- Queries: the layer that sets everything. -/
def parserLayer (s : ParserSettings) : ParserLayer where
  maxLength := some s.maxLength
  leadingWildcards := some s.leadingWildcards
  strictMatching := some s.strictMatching
  exemptKeywords := some s.exemptKeywords
  defaultOccur := some s.defaultOccur

/-- Keywords: the layer that sets everything. -/
def keywordLayer (s : KeywordSettings) : KeywordLayer where
  pageIds := some s.caps.pageIds
  recommendationFlags := some s.caps.recommendationFlags
  categories := some s.caps.categories
  topics := some s.caps.topics
  disabled := some s.disabled

/-- Suggestions: the layer that sets everything. -/
def phraseSuggestLayer (s : Fallback.PhraseSuggestSettings) : PhraseSuggestLayer where
  enabled := some s.enabled
  mayReplace := some s.mayReplace
  hitsThreshold := some s.hitsThreshold

/-- The index: the layer that sets everything. -/
def indexLookupLayer (s : Fallback.IndexLookupSettings) : IndexLookupLayer where
  enabled := some s.enabled
  mayReplace := some s.mayReplace

/-- Fallbacks: the layer that sets everything. -/
def fallbackLayer (s : Fallback.Profile) : FallbackLayer where
  callBudget := some s.callBudget
  phraseSuggest := some (phraseSuggestLayer s.phraseSuggest)
  indexLookup := some (indexLookupLayer s.indexLookup)

/-- The layer that sets everything. -/
def layer (s : Settings) : Layer where
  parser := some (parserLayer s.parser)
  keywords := some (keywordLayer s.keywords)
  fallback := some (fallbackLayer s.fallback)

/-- A value that can be read is put in its place. -/
theorem Field.read_of {σ α : Type} {name : String} {read : Value → Except Problem α}
    {put : α → σ → σ} {v : Value} {a : α} (h : read v = .ok a) (s : σ) :
    (Field.of name read put).read v s = .ok (put a s) := by
  show (read v).map (put · s) = _
  rw [h]
  rfl

/-- A field of a table is read by the setting of its name. -/
theorem readTable_cons {σ α : Type} {fields : List (Field σ)} {name : String} {v : Value}
    {read : Value → Except Problem α} {put : α → σ → σ} {a : α} {s : σ} {rest : Toml.Table}
    (hfield : fields.find? (·.name == name) = some (.of name read put)) (hread : read v = .ok a) :
    readTable fields ((name, v) :: rest) s = readTable fields rest (put a s) := by
  simp only [readTable, List.foldlM_cons, hfield, Field.read_of hread]
  rfl

theorem readTable_parserTable {s : ParserSettings} (hlength : s.maxLength ≤ Text.maxStored) :
    readTable parserFields (parserTable s) {} = .ok (parserLayer s) := by
  rw [parserTable, readTable_cons rfl (readCount_of_le _ hlength),
    readTable_cons rfl (readBoolean_boolean _), readTable_cons rfl (readBoolean_boolean _),
    readTable_cons rfl (readNames_namesValue _), readTable_cons rfl (readChoice_name _)]
  rfl

theorem readTable_keywordTable {s : KeywordSettings} (hids : s.caps.pageIds ≤ Text.maxStored)
    (hflags : s.caps.recommendationFlags ≤ Text.maxStored)
    (hcategories : s.caps.categories ≤ Text.maxStored) (htopics : s.caps.topics ≤ Text.maxStored) :
    readTable keywordFields (keywordTable s) {} = .ok (keywordLayer s) := by
  rw [keywordTable, readTable_cons rfl (readCount_of_le _ hids),
    readTable_cons rfl (readCount_of_le _ hflags),
    readTable_cons rfl (readCount_of_le _ hcategories),
    readTable_cons rfl (readCount_of_le _ htopics), readTable_cons rfl (readNames_namesValue _)]
  rfl

theorem readTable_phraseSuggestTable {s : Fallback.PhraseSuggestSettings}
    (hhits : s.hitsThreshold ≤ Text.maxStored) :
    readTable phraseSuggestFields (phraseSuggestTable s) {} = .ok (phraseSuggestLayer s) := by
  rw [phraseSuggestTable, readTable_cons rfl (readBoolean_boolean _),
    readTable_cons rfl (readBoolean_boolean _), readTable_cons rfl (readCount_of_le _ hhits)]
  rfl

theorem readTable_indexLookupTable (s : Fallback.IndexLookupSettings) :
    readTable indexLookupFields (indexLookupTable s) {} = .ok (indexLookupLayer s) := by
  rw [indexLookupTable, readTable_cons rfl (readBoolean_boolean _),
    readTable_cons rfl (readBoolean_boolean _)]
  rfl

/-- Fallbacks: the number and both sections are read. -/
theorem readTable_fallbackTable {s : Fallback.Profile} (hbudget : s.callBudget ≤ Text.maxStored)
    (hhits : s.phraseSuggest.hitsThreshold ≤ Text.maxStored) :
    readTable fallbackFields (fallbackTable s) {} = .ok (fallbackLayer s) := by
  rw [fallbackTable, readTable_cons rfl (readCount_of_le _ hbudget),
    readTable_cons rfl (readTable_phraseSuggestTable hhits),
    readTable_cons rfl (readTable_indexLookupTable _)]
  rfl

/-! ## Files -/

/-- **The layer that the table is read as** sets everything, to what it was. -/
theorem ofTable_toTable {s : Settings} (h : ∀ n ∈ s.counts, n ≤ Text.maxStored) :
    Layer.ofTable s.toTable = .ok (layer s) := by
  simp only [counts, List.forall_mem_cons] at h
  obtain ⟨hlength, hids, hflags, hcategories, htopics, hbudget, hhits, -⟩ := h
  -- each section is a field of the table, read by the reader of its name
  rw [Layer.ofTable, toTable, readTable_cons rfl (readTable_parserTable hlength),
    readTable_cons rfl (readTable_keywordTable hids hflags hcategories htopics),
    readTable_cons rfl (readTable_fallbackTable hbudget hhits)]
  rfl

/-- Nothing shines through a layer that sets everything. -/
theorem over_layer (s t : Settings) : Layer.over (layer s) t = s := rfl

section Library

variable {lib : Toml.Library} {s : Settings} {text : String}

theorem toToml_of_write (h : lib.write s.toTable = .ok text) : s.toToml lib = .ok text := by
  rw [toToml, h]
  rfl

/-- The library may have put the names of the table into another order. -/
theorem ofTextBy_of_read {table : Toml.Table} (h : ∀ n ∈ s.counts, n ≤ Text.maxStored)
    (hread : lib.read text = some table) (hsame : Toml.SameTable s.toTable table) :
    Layer.ofTextBy lib text = .ok (layer s) := by
  rw [Layer.ofTextBy, hread]
  simp only [ofTable_of_same hsame (ofTable_toTable h)]
  rfl

/-- **Written settings come back**, whatever lies below. A library that keeps what it is given
writes all settings whose numbers a file can hold; the text can be read as a file of settings; and
in front of any other files that were read, what this file leaves are the settings that it was
written from, every one of them. -/
theorem ofFileBy_toToml (hlib : lib.Faithful) (h : ∀ n ∈ s.counts, n ≤ Toml.maxWritten)
    (path : String) :
    ∃ text layer, s.toToml lib = .ok text ∧ Layer.ofFileBy lib path text = .ok layer ∧
      ∀ files, (Configuration.ofLayers ((path, layer) :: files)).settings = s := by
  -- what a file can hold can be stored
  have hstored : ∀ n ∈ s.counts, n ≤ Text.maxStored := by
    intro n hn
    have hmax : Toml.maxWritten ≤ Text.maxStored := by decide
    exact Nat.le_trans (h n hn) hmax
  have hsectioned := isSectioned_toTable h
  obtain ⟨text, hwrite⟩ := hlib.writes s.toTable hsectioned
  obtain ⟨table, hread, hsame⟩ := hlib.reads s.toTable text hsectioned hwrite
  refine ⟨text, layer s, toToml_of_write hwrite, ?_, ?_⟩
  · rw [Layer.ofFileBy, ofTextBy_of_read hstored hread hsame]
    rfl
  · -- the file in front is the layer on top
    intro files
    show Settings.ofLayers (layer s :: files.map (·.2)) = s
    rw [ofLayers_cons, over_layer]

end Library

/-- Settings with a number as large as can be, a list of one name, and names with quotes and line
ends come back from under a file that sets others, by way of the library in use. -/
theorem ofFileBy_toToml_of_quotes :
    let s : Settings :=
      { parser := { maxLength := Toml.maxWritten, exemptKeywords := ["a\"b'c\nd", "\\\t\r"] }
        keywords := { disabled := ["'\"\"\"'"] } }
    Toml.library.Faithful ∧ (∀ n ∈ s.counts, n ≤ Toml.maxWritten) ∧
      ∃ text layer, s.toToml Toml.library = .ok text ∧
        Layer.ofFileBy Toml.library "/a" text = .ok layer ∧
        (Configuration.ofLayers [("/a", layer), ("/b", { root := some true })]).settings = s := by
  intro s
  have hcounts : ∀ n ∈ s.counts, n ≤ Toml.maxWritten := by decide
  -- the library in use is one that keeps what it is given
  obtain ⟨text, layer, hwrite, hread, hsettings⟩ :=
    ofFileBy_toToml Toml.faithful_library hcounts "/a"
  exact ⟨Toml.faithful_library, hcounts, text, layer, hwrite, hread, hsettings _⟩

/-! ## The library in use -/

/-- The library in use fails for no settings. -/
theorem toToml_library (s : Settings) : s.toToml Toml.library = .ok s.render := by
  -- no number is too large for the library, so any bound on the numbers will do
  have hbound : ∀ n ∈ s.counts, n ≤ s.counts.sum := by
    simp only [counts, List.forall_mem_cons, List.sum_cons, List.sum_nil]
    refine ⟨?_, ?_, ?_, ?_, ?_, ?_, ?_, fun _ h => absurd h List.not_mem_nil⟩ <;> omega
  obtain ⟨text, -, hwrite, -⟩ := Toml.exists_write_eq (isSectioned_toTable hbound)
  rw [render, toToml_of_write hwrite]
  rfl

/-- What it writes can be read as long as the numbers can be stored, even beyond those that every
file can hold. -/
theorem ofFile_render {s : Settings} (h : ∀ n ∈ s.counts, n ≤ Text.maxStored) (path : String) :
    Layer.ofFile path s.render = .ok (layer s) := by
  obtain ⟨text, table, hwrite, hread, hsame⟩ := Toml.exists_write_eq (isSectioned_toTable h)
  have hrender : s.render = text :=
    Except.ok.inj ((toToml_library s).symm.trans (toToml_of_write hwrite))
  rw [hrender, Layer.ofFile, Layer.ofFileBy, ofTextBy_of_read h hread hsame]
  rfl

end WikiSearch.Settings

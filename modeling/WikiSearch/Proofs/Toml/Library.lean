import WikiSearch.Proofs.Toml.Table
import WikiSearch.Toml.Library

/-!
# WikiSearch — what settings ask of a TOML library

What is known of a library is that it writes what TOML can hold, and that what it has written reads
back as the same table (`Library.Faithful`). Nothing is said about how a file looks. Two tables
are the same if they have the same values under the same names, in whatever order (`SameTable`), as
a library may keep the names of a table in an order of its own.

The library in use is such a library. A table is written as sections, the sections of its
tables behind its own, and what these come to is told from the inside out: sections that share the
front of their paths make one change at that place, which is to add one table (`exists_tables`).

Main results:

* `exists_tables` — the sections of a table come to adding the tables within it.
* `faithful_library` — the library in use keeps what it is given.
-/

namespace WikiSearch.Toml

/-! ## The same table -/

/-- Two tables name related values by the same names, in whatever order. Only fields of
different names may trade places. -/
inductive SameFields (R : Value → Value → Prop) : Table → Table → Prop where
  | nil : SameFields R [] []
  | cons {v w : Value} {fields fields' : Table} (name : String) : R v w →
      SameFields R fields fields' → SameFields R ((name, v) :: fields) ((name, w) :: fields')
  | swap {f g : String × Value} (fields : Table) : f.1 ≠ g.1 →
      SameFields R (f :: g :: fields) (g :: f :: fields)
  | trans {fields fields' fields'' : Table} : SameFields R fields fields' →
      SameFields R fields' fields'' → SameFields R fields fields''

/-- Two values are the same, up to the order of names in tables. -/
inductive Same : Value → Value → Prop where
  | refl (v : Value) : Same v v
  | array {items items' : List Value} : List.Forall₂ Same items items' →
      Same (.array items) (.array items')
  | table {fields fields' : Table} : SameFields Same fields fields' →
      Same (.table fields) (.table fields')

/-- Two tables are the same, up to the order of names. -/
abbrev SameTable : Table → Table → Prop := SameFields Same

namespace SameFields

variable {R : Value → Value → Prop} {fields fields' : Table}

/-- The names are the same. -/
theorem names_perm (h : SameFields R fields fields') :
    (fields.map (·.1)).Perm (fields'.map (·.1)) := by
  induction h with
  | nil => exact .nil
  | cons name _ _ ih => exact ih.cons name
  | swap fields _ => exact .swap _ _ _
  | trans _ _ ih ih' => exact ih.trans ih'

/-- What passes from a value to related ones passes from a table to the other. -/
theorem forall_values {P : Value → Prop} (hpasses : ∀ v w, R v w → P v → P w)
    (h : SameFields R fields fields') (hall : ∀ field ∈ fields, P field.2) :
    ∀ field ∈ fields', P field.2 := by
  induction h with
  | nil => exact hall
  | cons name hv _ ih =>
    rw [List.forall_mem_cons] at hall ⊢
    exact ⟨hpasses _ _ hv hall.1, ih hall.2⟩
  -- the two values in front trade places
  | swap fields _ =>
    simp only [List.forall_mem_cons] at hall ⊢
    exact ⟨hall.2.1, hall.1, hall.2.2⟩
  | trans _ _ ih ih' => exact ih' (ih hall)

/-- A table may be put into any order, as no name is given twice. -/
theorem of_perm (hrefl : ∀ v, R v v) (hperm : fields.Perm fields')
    (hnodup : (fields.map (·.1)).Nodup) : SameFields R fields fields' := by
  induction hperm with
  | nil => exact .nil
  | cons field _ ih => exact .cons field.1 (hrefl _) (ih (List.nodup_cons.mp hnodup).2)
  | swap f g fields =>
    -- two fields of one name would not be apart
    refine .swap fields ?_
    intro hname
    simp [hname] at hnodup
  | trans hfront _ ih ih' =>
    exact .trans (ih hnodup) (ih' ((hfront.map _).nodup_iff.mp hnodup))

end SameFields

/-! ## What a file can hold -/

/-- The largest number that every file can hold: numbers there are signed and have 64 bits. -/
def maxWritten : Nat := Nat.pow 2 63 - 1

/-- Whether the value is no number beyond a bound. -/
def Simple.AtMost (max : Nat) : Simple → Prop
  | .integer n => n ≤ max
  | _ => True

/-- A table of numbers up to a bound, truth values, texts, lists of texts, and tables of these,
which lie within each other at most so deep. Names need no quotes, and none is given twice. -/
inductive IsPlain (max : Nat) : Nat → Table → Prop where
  | nil (depth : Nat) : IsPlain max depth []
  | simple {depth : Nat} {name : String} {v : Simple} {rest : Table} : IsBareName name →
      name ∉ rest.map (·.1) → v.AtMost max → IsPlain max depth rest →
      IsPlain max depth ((name, v.toValue) :: rest)
  | table {depth : Nat} {name : String} {fields rest : Table} : IsBareName name →
      name ∉ rest.map (·.1) → IsPlain max depth fields → IsPlain max (depth + 1) rest →
      IsPlain max (depth + 1) ((name, .table fields) :: rest)

theorem IsPlain.nodup_names {max depth : Nat} {fields : Table} (h : IsPlain max depth fields) :
    (fields.map (·.1)).Nodup := by
  induction h with
  | nil depth => exact .nil
  | simple _ hfresh _ _ ih => exact List.nodup_cons.mpr ⟨hfresh, ih⟩
  | table _ hfresh _ _ _ ih => exact List.nodup_cons.mpr ⟨hfresh, ih⟩

/-- A table that can be written in sections: whatever it names at the top is a table. -/
structure IsSectioned (max : Nat) (table : Table) : Prop where
  plain : IsPlain max maxNames table
  sectioned : ∀ field ∈ table, ∃ fields, field.2 = .table fields

/-- A library that keeps what it is given. -/
structure Library.Faithful (lib : Library) : Prop where
  /-- What a file can hold is written. -/
  writes : ∀ table, IsSectioned maxWritten table → ∃ text, lib.write table = .ok text
  /-- What was written reads back as the same table. -/
  reads : ∀ table text, IsSectioned maxWritten table → lib.write table = .ok text →
    ∃ table', lib.read text = some table' ∧ SameTable table table'

/-! ## Tables that are filled in some order -/

section Fill

variable {α : Type}

/-- Gives names to some things, one after the other. -/
def putEach (fields : List (String × α)) (d : List (String × α)) : List (String × α) :=
  fields.foldl (fun d field => putField field.1 field.2 d) d

/-- A fresh name makes one field more, somewhere among the others. -/
theorem putField_perm {name : String} {a : α} {d : List (String × α)}
    (h : name ∉ d.map (·.1)) : (putField name a d).Perm ((name, a) :: d) := by
  induction d with
  | nil => exact .refl _
  | cons field rest ih =>
    rw [List.map_cons, List.mem_cons, not_or] at h
    rw [putField, if_neg h.1]
    -- the field goes in front of the first larger name, or further back
    split
    · exact .refl _
    · exact ((ih h.2).cons field).trans (.swap _ _ _)

/-- A fresh name that was given leaves the others fresh. -/
theorem nodup_putField (field : String × α) {names : List String} {d : List (String × α)}
    (h : (field.1 :: names ++ d.map (·.1)).Nodup) :
    field.1 ∉ d.map (·.1) ∧ (names ++ (putField field.1 field.2 d).map (·.1)).Nodup := by
  rw [List.cons_append, List.nodup_cons] at h
  have hfresh : field.1 ∉ d.map (·.1) := fun hmem => h.1 (List.mem_append_right _ hmem)
  have hput : ((putField field.1 field.2 d).map (·.1)).Perm (field.1 :: d.map (·.1)) :=
    (putField_perm hfresh).map _
  refine ⟨hfresh, ?_⟩
  rw [(hput.append_left names).nodup_iff, List.perm_middle.nodup_iff, List.nodup_cons]
  exact h

/-- Whatever the order in which fresh names are given, the fields are there in the end. -/
theorem putEach_perm {fields d : List (String × α)}
    (h : (fields.map (·.1) ++ d.map (·.1)).Nodup) : (putEach fields d).Perm (fields ++ d) := by
  -- each field is put among those that are there already, so the induction is on any of these
  induction fields generalizing d with
  | nil => exact .refl _
  | cons field fields ih =>
    obtain ⟨hfresh, hrest⟩ := nodup_putField field h
    exact (ih hrest).trans (((putField_perm hfresh).append_left _).trans List.perm_middle)

end Fill

theorem finishFields_eq_map (d : Draft) : finishFields d = d.map finishField := by
  induction d with
  | nil => rfl
  | cons field d ih => rw [finishFields, ih, List.map_cons]

/-- Values as fields of a table that is being filled. -/
def valueItems (fields : List (String × Simple)) : Draft :=
  fields.map fun (name, v) => (name, .value v.toValue)

/-- Tables with headers as fields of a table that is being filled. -/
def tableItems (tables : List (String × Draft)) : Draft :=
  tables.map fun (name, d) => (name, .table .header d)

/-- A table that was filled with some values and then with some tables. -/
def filled (fields : List (String × Simple)) (tables : List (String × Draft)) : Draft :=
  putEach (tableItems tables) (putAll fields [])

/-- Some values and some tables, when everything was read. -/
def finished (fields : List (String × Simple)) (tables : List (String × Draft)) : Table :=
  (valueItems fields ++ tableItems tables).map finishField

section Filled

variable {fields : List (String × Simple)} {tables : List (String × Draft)}

/-- Putting the values of a section into a table is giving them their names. -/
theorem putAll_eq_putEach (fields : List (String × Simple)) :
    putAll fields [] = putEach (valueItems fields) [] := by
  rw [putAll, putEach, valueItems, List.foldl_map]

theorem names_valueItems : (valueItems fields).map (·.1) = fields.map (·.1) := by
  rw [valueItems, List.map_map]
  rfl

theorem names_tableItems : (tableItems tables).map (·.1) = tables.map (·.1) := by
  rw [tableItems, List.map_map]
  rfl

/-- The names of the values come first, and then those of the tables. -/
theorem names_finished :
    (finished fields tables).map (·.1) = fields.map (·.1) ++ tables.map (·.1) := by
  rw [← names_valueItems, ← names_tableItems, ← List.map_append, finished, List.map_map]
  refine List.map_congr_left ?_
  rintro ⟨name, item⟩ -
  rw [Function.comp_apply, finishField]

/-- What was filled holds these values and tables and nothing else. -/
theorem finishFields_filled_perm (h : (fields.map (·.1) ++ tables.map (·.1)).Nodup) :
    (finishFields (filled fields tables)).Perm (finished fields tables) := by
  -- first the values and then the tables is one filling after the other
  have hfilled : filled fields tables = putEach (valueItems fields ++ tableItems tables) [] := by
    rw [filled, putAll_eq_putEach, putEach, putEach, putEach, List.foldl_append]
  have hperm : (putEach (valueItems fields ++ tableItems tables) []).Perm
      ((valueItems fields ++ tableItems tables) ++ []) := by
    refine putEach_perm ?_
    rwa [List.map_append, names_valueItems, names_tableItems, List.map_nil, List.append_nil]
  rw [List.append_nil, ← hfilled] at hperm
  rw [finishFields_eq_map, finished]
  exact hperm.map _

theorem lookup_eq_none_of_not_mem {name : String} {d : Draft} (h : name ∉ d.map (·.1)) :
    d.lookup name = none := by
  rw [List.lookup_eq_none_iff]
  intro field hfield
  rw [bne_iff_ne]
  rintro rfl
  exact h (List.mem_map_of_mem hfield)

/-- Tables with fresh names are added one after the other. -/
theorem foldlM_addTable? {d : Draft} (h : (tables.map (·.1) ++ d.map (·.1)).Nodup) :
    tables.foldlM (fun d table => addTable? table.1 table.2 d) d =
      some (putEach (tableItems tables) d) := by
  induction tables generalizing d with
  | nil => rfl
  | cons table tables ih =>
    obtain ⟨hfresh, hrest⟩ := nodup_putField (table.1, Item.table .header table.2) h
    -- the name is fresh, so the table can be added
    have hadd : addTable? table.1 table.2 d =
        some (putField table.1 (.table .header table.2) d) := by
      rw [addTable?, lookup_eq_none_of_not_mem hfresh]
      rfl
    rw [List.foldlM_cons, hadd]
    exact ih hrest

/-- Tables are added beside values that have other names. -/
theorem foldlM_addTable?_putAll (h : (fields.map (·.1) ++ tables.map (·.1)).Nodup) :
    tables.foldlM (fun d table => addTable? table.1 table.2 d) (putAll fields []) =
      some (filled fields tables) := by
  have hfields : (fields.map (·.1)).Nodup := (List.nodup_append.mp h).1
  -- the values that stand there already have their own names
  have hnames : ((putAll fields []).map (·.1)).Perm (fields.map (·.1)) := by
    have hput : (putEach (valueItems fields) []).Perm (valueItems fields ++ []) := by
      refine putEach_perm ?_
      rwa [List.map_nil, List.append_nil, names_valueItems]
    rw [← putAll_eq_putEach, List.append_nil] at hput
    rw [← names_valueItems]
    exact hput.map _
  refine foldlM_addTable? ?_
  rw [(hnames.append_left _).nodup_iff, List.perm_append_comm.nodup_iff]
  exact h

end Filled

/-! ## The sections of a table -/

/-- A section adds the table of its last name, where the names in front lead to. -/
theorem Section.add?_append (path : List String) (name : String)
    (fields : List (String × Simple)) (d : Draft) :
    Section.add? ⟨path ++ [name], fields⟩ d =
      alterAt? (addTable? name (putAll fields [])) path d := by
  have hpath : (Section.key ⟨path ++ [name], fields⟩).first ::
      (Section.key ⟨path ++ [name], fields⟩).more = path ++ [name] := by
    cases path <;> rfl
  rw [Section.add?, Key.last, Key.parents]
  simp only [hpath, List.getLast_append, List.dropLast_concat]
  rfl

/-- A section and the tables within it come to one change, which adds the table with all that is
in it. -/
theorem alterAt?_add_fill {fields : List (String × Simple)} {tables : List (String × Draft)}
    (h : (fields.map (·.1) ++ tables.map (·.1)).Nodup) (path : List String) (name : String)
    (d : Draft) :
    ((Section.add? ⟨path ++ [name], fields⟩ d).bind fun d =>
        tables.foldlM (fun d table => alterAt? (addTable? table.1 table.2) (path ++ [name]) d) d) =
      alterAt? (addTable? name (filled fields tables)) path d := by
  rw [Section.add?_append]
  simp only [alterAt?_append]
  rw [alterAt?_foldlM]
  congr 1
  funext d
  -- the table is opened empty of tables, and they are added in it one by one
  rw [addTable?, addTable?]
  split
  · rw [Option.bind_some, foldlM_alterAt?_table, foldlM_addTable?_putAll h]
    rfl
  · rfl

theorem toSimple?_toValue (v : Simple) : v.toValue.toSimple? = some v := by
  cases v with
  | integer n => rfl
  | boolean b => rfl
  | text s => rfl
  | texts items =>
    have hitems : (items.map Value.text).mapM Value.text? = some items := by
      induction items with
      | nil => rfl
      | cons s items ih =>
        rw [List.map_cons, List.mapM_cons, ih]
        rfl
    simp only [Simple.toValue, Value.toSimple?, hitems, Option.map_some]

/-- A simple value has no section. -/
theorem sectionsAt?_toValue (path : List String) (v : Simple) :
    sectionsAt? path v.toValue = some [] := by
  have hsimple : v.toValue.toSimple?.map (fun _ => ([] : List Section)) = some [] := by
    rw [toSimple?_toValue, Option.map_some]
  cases v <;> exact hsimple

section SimpleFields

variable {name : String} {rest : Table}

theorem simpleFields_cons_toValue (v : Simple) :
    simpleFields ((name, v.toValue) :: rest) = (name, v) :: simpleFields rest := by
  simp only [simpleFields, List.filterMap_cons, toSimple?_toValue, Option.map_some]

/-- The names of the simple values are some of all the names. -/
theorem names_simpleFields (fields : Table) :
    ((simpleFields fields).map (·.1)).Sublist (fields.map (·.1)) := by
  induction fields with
  | nil => exact .slnil
  | cons field fields ih =>
    obtain ⟨name, v⟩ := field
    -- a table is left out, and a value keeps its name
    cases hv : v.toSimple? with
    | none =>
      simp only [simpleFields, List.filterMap_cons, hv, Option.map_none]
      exact ih.cons name
    | some simple =>
      simp only [simpleFields, List.filterMap_cons, hv, Option.map_some]
      exact ih.cons_cons name

theorem finished_cons_value (v : Simple) (fields : List (String × Simple))
    (tables : List (String × Draft)) :
    finished ((name, v) :: fields) tables = (name, v.toValue) :: finished fields tables := rfl

/-- One more table stands behind the values. -/
theorem finished_cons_table_perm (d : Draft) (fields : List (String × Simple))
    (tables : List (String × Draft)) :
    (finished fields ((name, d) :: tables)).Perm
      ((name, .table (finishFields d)) :: finished fields tables) := by
  have hitem : finishField (name, .table .header d) = (name, .table (finishFields d)) := by
    rw [finishField, Item.finish]
  rw [finished, finished, tableItems, List.map_cons, List.map_append, List.map_cons, hitem,
    List.map_append]
  exact List.perm_middle

end SimpleFields

theorem IsPlain.isBareName {max depth : Nat} {fields : Table} (h : IsPlain max depth fields) :
    ∀ name ∈ fields.map (·.1), IsBareName name := by
  induction h with
  | nil depth => exact fun _ hname => absurd hname List.not_mem_nil
  | simple hbare _ _ _ ih => exact List.forall_mem_cons.mpr ⟨hbare, ih⟩
  | table hbare _ _ _ _ ih => exact List.forall_mem_cons.mpr ⟨hbare, ih⟩

/-- **The sections of a table come to adding the tables within it**, each of them with all that is
in it; and these tables with the values beside them are the table again. -/
theorem exists_tables {max depth : Nat} {fields : Table} (h : IsPlain max depth fields)
    (path : List String) (hdepth : path.length + depth ≤ maxNames)
    (hpath : ∀ name ∈ path, IsBareName name) :
    ∃ sections tables, sectionsAmong? path fields = some sections ∧
      (∀ s ∈ sections, s.IsWellNamed) ∧
      (∀ d, sections.foldlM (fun d s => s.add? d) d =
        tables.foldlM (fun d table => alterAt? (addTable? table.1 table.2) path d) d) ∧
      SameTable fields (finished (simpleFields fields) tables) := by
  -- the path grows on the way in, and the depth that is left shrinks with it
  induction h generalizing path with
  | nil depth => exact ⟨[], [], rfl, by simp, fun d => rfl, .nil⟩
  | @simple depth name v rest hname hfresh hbound hrest ih =>
    -- a value has no section of its own
    obtain ⟨sections, tables, hsections, hnamed, hadd, hsame⟩ := ih path hdepth hpath
    refine ⟨sections, tables, ?_, hnamed, hadd, ?_⟩
    · simp only [sectionsAmong?, sectionsOf?, if_pos hname, sectionsAt?_toValue, hsections,
        Option.bind_eq_bind, Option.bind_some, List.nil_append]
    · rw [simpleFields_cons_toValue, finished_cons_value]
      exact .cons name (.refl _) hsame
  | @table depth name fields rest hname hfresh hfields hrest ih ih' =>
    have hpath' : ∀ n ∈ path ++ [name], IsBareName n := by
      intro n hn
      rcases List.mem_append.mp hn with hn | hn
      · exact hpath n hn
      · rw [List.mem_singleton.mp hn]
        exact hname
    have hlength : (path ++ [name]).length = path.length + 1 := List.length_append
    obtain ⟨inner, within, hinner, hnamed, hadd, hsame⟩ := ih (path ++ [name]) (by omega) hpath'
    obtain ⟨sections, tables, hsections, hnamed', hadd', hsame'⟩ := ih' path hdepth hpath
    have hnodup :
        ((simpleFields fields).map (·.1) ++ within.map (·.1)).Nodup := by
      rw [← names_finished, ← hsame.names_perm.nodup_iff]
      exact hfields.nodup_names
    let d := filled (simpleFields fields) within
    let own : Section := ⟨path ++ [name], simpleFields fields⟩
    refine ⟨own :: inner ++ sections, (name, d) :: tables, ?_, ?_, ?_, ?_⟩
    · simp only [sectionsAmong?, sectionsOf?, if_pos hname, sectionsAt?, hinner, hsections,
        Option.map_some, Option.bind_eq_bind, Option.bind_some]
      rfl
    · -- the section of the table itself is well named, and so are those within and behind it
      have hown : own.IsWellNamed := by
        have hmax : (path ++ [name]).length ≤ maxNames := by omega
        exact ⟨List.append_ne_nil_of_right_ne_nil _ (List.cons_ne_nil _ _), hmax, hpath',
          fun n hn => hfields.isBareName n ((names_simpleFields fields).subset hn),
          (names_simpleFields fields).nodup hfields.nodup_names⟩
      rw [List.cons_append, List.forall_mem_cons, List.forall_mem_append]
      exact ⟨hown, hnamed, hnamed'⟩
    · intro d'
      rw [List.cons_append, List.foldlM_cons, List.foldlM_cons,
        ← alterAt?_add_fill hnodup path name d']
      simp only [List.foldlM_append, hadd, hadd', Option.bind_eq_bind, Option.bind_assoc]
      rfl
    · -- the inner table is told apart from what was filled by the order of names only
      have hfilled : SameTable fields (finishFields d) :=
        .trans hsame (.of_perm .refl (finishFields_filled_perm hnodup).symm
          (by rwa [names_finished]))
      have hfront := SameFields.cons name (Same.table hfilled) hsame'
      refine .trans hfront (.of_perm .refl (finished_cons_table_perm d _ _).symm ?_)
      rw [← hfront.names_perm.nodup_iff]
      exact (IsPlain.table hname hfresh hfields hrest).nodup_names

/-! ## The library in use -/

/-- A table of tables has no value of its own. -/
theorem simpleFields_of_sectioned {table : Table}
    (h : ∀ field ∈ table, ∃ fields, field.2 = .table fields) : simpleFields table = [] := by
  refine List.filterMap_eq_nil_iff.mpr ?_
  rintro ⟨name, v⟩ hfield
  obtain ⟨fields, rfl⟩ := h _ hfield
  rfl

/-- A table in sections is written, however large its numbers are, and the text holds the same
table. -/
theorem exists_write_eq {max : Nat} {table : Table} (h : IsSectioned max table) :
    ∃ text table', library.write table = .ok text ∧ library.read text = some table' ∧
      SameTable table table' := by
  obtain ⟨hplain, hsectioned⟩ := h
  obtain ⟨sections, tables, hsections, hnamed, hadd, hsame⟩ :=
    exists_tables hplain [] (by simp) (by simp)
  have hnone := simpleFields_of_sectioned hsectioned
  rw [hnone] at hsame
  have hnodup : ((([] : List (String × Simple)).map (·.1)) ++ tables.map (·.1)).Nodup := by
    rw [← names_finished, ← hsame.names_perm.nodup_iff]
    exact hplain.nodup_names
  refine ⟨render sections, finishFields (filled [] tables), ?_, ?_, ?_⟩
  · show write table = _
    rw [write, hsections, hnone]
  · refine ofText?_render_of_tables hnamed ?_
    rw [hadd]
    -- at the top of the file nothing stands yet
    exact foldlM_addTable?_putAll hnodup
  · exact .trans hsame (.of_perm .refl (finishFields_filled_perm hnodup).symm
      (by rwa [names_finished]))

/-- **The library in use keeps what it is given.** -/
theorem faithful_library : library.Faithful where
  writes table h := by
    obtain ⟨text, -, hwrite, -⟩ := exists_write_eq h
    exact ⟨text, hwrite⟩
  reads table text h hwrite := by
    obtain ⟨text', table', hwrite', hread, hsame⟩ := exists_write_eq h
    obtain rfl : text = text' := Except.ok.inj (hwrite.symm.trans hwrite')
    exact ⟨table', hread, hsame⟩

end WikiSearch.Toml

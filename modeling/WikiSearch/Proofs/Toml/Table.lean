import WikiSearch.Proofs.Toml.Document

/-!
# WikiSearch — tables of written files

The lines of a section change the table of a file one by one, each from the top of the file. Put
together they do one thing in one place: the table that the header names comes to be, with all
the fields of the section in the order of their names. That several changes in one place are one
change there holds of changes of any kind (`alterAt?_foldlM`).

Main results:

* `add?_section` — a section adds its table.
* `ofText?_render_of_tables` — the table of a written file, section by section.
-/

namespace WikiSearch.Toml

/-! ## Names that are given again -/

/-- What was given a name last is what it stands for. -/
theorem putField_putField {α : Type} (name : String) (a b : α) (fields : List (String × α)) :
    putField name a (putField name b fields) = putField name a fields := by
  induction fields with
  | nil => simp [putField]
  | cons field rest ih =>
    obtain ⟨other, c⟩ := field
    by_cases heq : name = other
    · simp [putField, heq]
    · by_cases hlt : name < other
      · simp [putField, heq, hlt]
      · simp [putField, heq, hlt, ih]

/-! ## Changes in one place -/

section Changes

variable {f g : Draft → Option Draft}

/-- A change at a longer path is a change further in. -/
theorem alterAt?_append (f : Draft → Option Draft) (p q : List String) (d : Draft) :
    alterAt? f (p ++ q) d = alterAt? (alterAt? f q) p d := by
  induction p generalizing d with
  | nil => rfl
  | cons name p ih => simp only [List.cons_append, alterAt?, ih]

/-- **Two changes in one place** are one change there. -/
theorem alterAt?_bind (f g : Draft → Option Draft) (path : List String) (d : Draft) :
    (alterAt? f path d).bind (alterAt? g path) = alterAt? (fun d => (f d).bind g) path d := by
  -- in each table on the way the second change finds what the first has left under the name
  induction path generalizing d with
  | nil => rfl
  | cons name path ih =>
    simp only [alterAt?, Option.bind_eq_bind]
    cases hlookup : d.lookup name with
    | none =>
      rw [← ih]
      cases alterAt? f path [] with
      | none => rfl
      | some inner => simp [lookup_putField_self, putField_putField]
    | some item =>
      cases item with
      | value v => rfl
      | table origin inner =>
        simp only [← ih]
        cases alterAt? f path inner with
        | none => rfl
        | some inner => simp [lookup_putField_self, putField_putField]
      | tables earlier last =>
        simp only [← ih]
        cases alterAt? f path last with
        | none => rfl
        | some inner => simp [lookup_putField_self, putField_putField]

/-- A change followed by some more in the same place. -/
theorem alterAt?_foldlM {α : Type} (f : Draft → Option Draft) (g : Draft → α → Option Draft)
    (as : List α) (path : List String) (d : Draft) :
    ((alterAt? f path d).bind fun d => as.foldlM (fun d a => alterAt? (g · a) path d) d) =
      alterAt? (fun d => (f d).bind fun d => as.foldlM g d) path d := by
  induction as generalizing f with
  | nil => simp
  | cons a as ih =>
    -- the first of the later changes is drawn into the one in front
    simp only [List.foldlM_cons, Option.bind_eq_bind, ← Option.bind_assoc]
    rw [← ih]
    congr 1
    exact alterAt?_bind f (g · a) path d

/-- A change that does whatever another one does, does so in any place. -/
theorem alterAt?_mono (h : ∀ d d', f d = some d' → g d = some d') {path : List String}
    {d d' : Draft} (hf : alterAt? f path d = some d') : alterAt? g path d = some d' := by
  -- in each table on the way the change further in is one that the other can do
  induction path generalizing d d' with
  | nil => exact h d d' hf
  | cons name path ih =>
    unfold alterAt? at hf ⊢
    cases hlookup : d.lookup name with
    | none =>
      rw [hlookup] at hf
      obtain ⟨inner, hinner, hd⟩ := Option.bind_eq_some_iff.mp hf
      exact Option.bind_eq_some_iff.mpr ⟨inner, ih hinner, hd⟩
    | some item =>
      rw [hlookup] at hf
      cases item with
      | value v => contradiction
      | table origin inner =>
        obtain ⟨inner, hinner, hd⟩ := Option.bind_eq_some_iff.mp hf
        exact Option.bind_eq_some_iff.mpr ⟨inner, ih hinner, hd⟩
      | tables earlier last =>
        obtain ⟨inner, hinner, hd⟩ := Option.bind_eq_some_iff.mp hf
        exact Option.bind_eq_some_iff.mpr ⟨inner, ih hinner, hd⟩

end Changes

/-! ## Sections -/

/-- Puts a field of a section into a table. -/
def assignField? (d : Draft) (field : String × Simple) : Option Draft :=
  assign? field.2.toValue true d field.1 []

/-- The fields of a section in the order of their names. -/
def putAll (fields : List (String × Simple)) (d : Draft) : Draft :=
  fields.foldl (fun d field => putField field.1 (.value field.2.toValue) d) d

/-- Adds a table under a name that stands for nothing yet. -/
def addTable? (name : String) (table d : Draft) : Option Draft :=
  if (d.lookup name).isNone then some (putField name (.table .header table) d) else none

/-- What a section adds: the table that its header names, with its fields. -/
def Section.add? (s : Section) (d : Draft) : Option Draft :=
  alterAt? (addTable? s.key.last (putAll s.fields [])) s.key.parents d

/-- Fields with fresh names of their own are assigned one after the other. -/
theorem foldlM_assignField? {fields : List (String × Simple)} {d : Draft}
    (hnodup : (fields.map (·.1)).Nodup) (hfree : ∀ field ∈ fields, d.lookup field.1 = none) :
    fields.foldlM assignField? d = some (putAll fields d) := by
  induction fields generalizing d with
  | nil => rfl
  | cons field fields ih =>
    rw [List.forall_mem_cons] at hfree
    rw [List.map_cons, List.nodup_cons] at hnodup
    have hassign : assignField? d field = some (putField field.1 (.value field.2.toValue) d) := by
      simp [assignField?, assign?, hfree.1]
    rw [List.foldlM_cons, hassign]
    refine ih hnodup.2 fun other hother => ?_
    rw [lookup_putField_of_ne]
    · exact hfree.2 other hother
    · -- no name is given twice
      intro hsame
      exact hnodup.1 (hsame ▸ List.mem_map_of_mem hother)

/-- The lines of the fields make their changes in the table that was opened last. -/
theorem foldlM_fields (fields : List (String × Simple)) (path : List String) (d : Draft) :
    (fields.map fun (name, v) => Line.field ⟨name, []⟩ v.toValue).foldlM Sheet.add? ⟨d, path⟩ =
      (fields.foldlM (fun d field => alterAt? (assignField? · field) path d) d).map
        (⟨·, path⟩) := by
  induction fields generalizing d with
  | nil => rfl
  | cons field fields ih =>
    -- a line changes the open table only, and leaves the path as it is
    have hfield : Sheet.add? ⟨d, path⟩ (.field ⟨field.1, []⟩ field.2.toValue) =
        (alterAt? (assignField? · field) path d).map (⟨·, path⟩) := by
      cases h : alterAt? (assignField? · field) path d with
      | none => exact Option.bind_eq_none_iff.mpr fun _ hd => absurd (h ▸ hd) (by simp)
      | some d => exact Option.bind_eq_some_iff.mpr ⟨d, h, rfl⟩
    rw [List.map_cons, List.foldlM_cons, List.foldlM_cons, hfield]
    cases alterAt? (assignField? · field) path d with
    | none => rfl
    | some d => exact ih d

/-- Changes in a table that has a header go on in that table. -/
theorem foldlM_alterAt?_table {α : Type} (g : Draft → α → Option Draft) (as : List α)
    (name : String) (inner d : Draft) :
    as.foldlM (fun d a => alterAt? (g · a) [name] d) (putField name (.table .header inner) d) =
      (as.foldlM g inner).map fun inner => putField name (.table .header inner) d := by
  induction as generalizing inner with
  | nil => rfl
  | cons a as ih =>
    -- the table is found under its name and put back under it
    have hstep : alterAt? (g · a) [name] (putField name (.table .header inner) d) =
        (g inner a).map fun inner => putField name (.table .header inner) d := by
      simp only [alterAt?, lookup_putField_self]
      cases g inner a with
      | none => rfl
      | some inner => simp [putField_putField]
    rw [List.foldlM_cons, List.foldlM_cons, hstep]
    cases g inner a with
    | none => rfl
    | some inner => exact ih inner

/-- Opening a table and then filling it is one change, which adds the table. -/
theorem open_fill {name : String} {fields : List (String × Simple)}
    (hnodup : (fields.map (·.1)).Nodup) {d d' : Draft}
    (h : addTable? name (putAll fields []) d = some d') :
    ((openTable? name d).bind fun d =>
      fields.foldlM (fun d field => alterAt? (assignField? · field) [name] d) d) = some d' := by
  rw [addTable?, Option.ite_none_right_eq_some, Option.isNone_iff_eq_none, Option.some.injEq] at h
  obtain ⟨hfree, rfl⟩ := h
  -- a header whose name is free opens an empty table
  have hopen : openTable? name d = some (putField name (.table .header []) d) := by
    rw [openTable?, hfree]
  rw [hopen, Option.bind_some, foldlM_alterAt?_table,
    foldlM_assignField? hnodup fun field _ => rfl, Option.map_some]

/-- **A section adds its table.** -/
theorem add?_section {s : Section} (hnodup : s.names.Nodup) {sheet : Sheet}
    {d : Draft} (h : s.add? sheet.draft = some d) :
    s.lines.foldlM Sheet.add? sheet = some ⟨d, s.key.path⟩ := by
  have hpath : s.key.path = s.key.parents ++ [s.key.last] :=
    (List.dropLast_append_getLast (List.cons_ne_nil _ _)).symm
  -- where the table can be added, it can be opened and then filled
  have hfill := alterAt?_mono (fun _ _ => open_fill hnodup) h
  rw [← alterAt?_foldlM] at hfill
  obtain ⟨opened, hopened, hfilled⟩ := Option.bind_eq_some_iff.mp hfill
  have hheader : Sheet.add? sheet (.opens s.key) = some ⟨opened, s.key.path⟩ :=
    Option.bind_eq_some_iff.mpr ⟨opened, hopened, rfl⟩
  rw [Section.lines, List.foldlM_cons, hheader]
  show (s.fields.map _).foldlM Sheet.add? ⟨opened, s.key.path⟩ = _
  rw [foldlM_fields]
  -- the fields go where the header leads
  simp only [hpath, alterAt?_append]
  rw [hfilled, Option.map_some]

/-- Sections that can be added one after the other are added by their lines. -/
theorem foldlM_sections {sections : List Section} (hnodup : ∀ s ∈ sections, s.names.Nodup)
    {sheet : Sheet} {d : Draft}
    (h : sections.foldlM (fun d s => s.add? d) sheet.draft = some d) :
    ∃ path, (sections.flatMap Section.lines).foldlM Sheet.add? sheet = some ⟨d, path⟩ := by
  induction sections generalizing sheet with
  | nil =>
    obtain rfl : sheet.draft = d := Option.some.inj h
    exact ⟨sheet.current, rfl⟩
  | cons s sections ih =>
    rw [List.forall_mem_cons] at hnodup
    rw [List.foldlM_cons] at h
    obtain ⟨added, hadded, hrest⟩ := Option.bind_eq_some_iff.mp h
    rw [List.flatMap_cons, List.foldlM_append, add?_section hnodup.1 hadded]
    exact ih hnodup.2 hrest

/-- **The table of a written file**, section by section. -/
theorem ofText?_render_of_tables {sections : List Section}
    (hnamed : ∀ s ∈ sections, s.IsWellNamed) {d : Draft}
    (h : sections.foldlM (fun d s => s.add? d) [] = some d) :
    ofText? (render sections) = some (finishFields d) := by
  have hnodup : ∀ s ∈ sections, s.names.Nodup := by
    intro s hs
    obtain ⟨-, -, -, -, hnodup⟩ := hnamed s hs
    exact hnodup
  -- a sheet on which nothing stands yet
  have hdraft : sections.foldlM (fun d s => s.add? d) ({} : Sheet).draft = some d := h
  obtain ⟨path, hlines⟩ := foldlM_sections hnodup hdraft
  rw [ofText?_render hnamed, hlines, Option.map_some]

end WikiSearch.Toml

import WikiSearch.Toml.Value

/-!
# WikiSearch — tables while a TOML file is read

The lines of a file fill its tables bit by bit. A header opens a table, or one more
table of a list of tables, and the lines behind it put values there. A key with
dots puts its value into a table within. No table is opened twice, and no name is
given twice.
-/

namespace WikiSearch.Toml

/-! ## Fields -/

/-- Gives a name to a thing, among things in the order of their names. -/
def putField {α : Type} (name : String) (a : α) : List (String × α) → List (String × α)
  | [] => [(name, a)]
  | (other, b) :: rest =>
    if name = other then (name, a) :: rest
    else if name < other then (name, a) :: (other, b) :: rest
    else (other, b) :: putField name a rest

/-- A name that was given to a thing stands for it. -/
theorem lookup_putField_self {α : Type} (name : String) (a : α) (fields : List (String × α)) :
    (putField name a fields).lookup name = some a := by
  induction fields with
  | nil => simp [putField]
  | cons field rest ih =>
    obtain ⟨other, b⟩ := field
    unfold putField
    split
    · simp
    · split
      · simp
      · rename_i hne _
        simp [List.lookup_cons, beq_false_of_ne hne, ih]

/-- The other names stand for what they stood for. -/
theorem lookup_putField_of_ne {α : Type} {name wanted : String} (h : wanted ≠ name) (a : α)
    (fields : List (String × α)) :
    (putField name a fields).lookup wanted = fields.lookup wanted := by
  induction fields with
  | nil => simp [putField, List.lookup_cons, beq_false_of_ne h]
  | cons field rest ih =>
    obtain ⟨other, b⟩ := field
    unfold putField
    split
    · rename_i heq
      subst heq
      simp [List.lookup_cons, beq_false_of_ne h]
    · split
      · simp [List.lookup_cons, beq_false_of_ne h]
      · simp [List.lookup_cons, ih]

/-! ## Tables that are being filled -/

/-- How a table came about. -/
inductive Origin where
  /-- A header names it. -/
  | header
  /-- It holds a table that a header names. -/
  | implied
  /-- A key with dots names it. -/
  | dotted
deriving DecidableEq, Repr

/-- What a name stands for while a file is read. -/
inductive Item where
  | value (v : Value)
  | table (origin : Origin) (fields : List (String × Item))
  /-- A list of tables with headers of their own; only the last is still filled. -/
  | tables (earlier : List (List (String × Item))) (last : List (String × Item))

/-- A table while it is filled. -/
abbrev Draft := List (String × Item)

/-- Puts a value at a key of one or more names. `takes` says whether the table itself
takes values. Names in front of the last lead through tables that no header names. -/
def assign? (v : Value) (takes : Bool) (draft : Draft) (name : String) :
    List String → Option Draft
  | [] =>
    if takes && (draft.lookup name).isNone then some (putField name (.value v) draft) else none
  | next :: more =>
    match draft.lookup name with
    | none => do
      let inner ← assign? v true [] next more
      some (putField name (.table .dotted inner) draft)
    -- a table with a header is filled under its header alone
    | some (.table .header _) => none
    -- a table that a header implies is passed through but takes no values
    | some (.table origin inner) => do
      let inner ← assign? v (origin == .dotted) inner next more
      some (putField name (.table origin inner) draft)
    | some (.tables earlier last) => do
      let last ← assign? v false last next more
      some (putField name (.tables earlier last) draft)
    | some (.value _) => none

/-- Changes the table that the names of a header lead to. A name that stands for nothing
yet gets a table, and a list of tables stands for its last one. -/
def alterAt? (change : Draft → Option Draft) : List String → Draft → Option Draft
  | [], draft => change draft
  | name :: path, draft =>
    match draft.lookup name with
    | none => do
      let inner ← alterAt? change path []
      some (putField name (.table .implied inner) draft)
    | some (.table origin inner) => do
      let inner ← alterAt? change path inner
      some (putField name (.table origin inner) draft)
    | some (.tables earlier last) => do
      let last ← alterAt? change path last
      some (putField name (.tables earlier last) draft)
    | some (.value _) => none

/-- Opens a table under a name. -/
def openTable? (name : String) (draft : Draft) : Option Draft :=
  match draft.lookup name with
  | none => some (putField name (.table .header []) draft)
  -- what the implied table holds already stays in it
  | some (.table .implied inner) => some (putField name (.table .header inner) draft)
  | _ => none

/-- Opens one more table of the list of tables under a name. -/
def openNext? (name : String) (draft : Draft) : Option Draft :=
  match draft.lookup name with
  | none => some (putField name (.tables [] []) draft)
  | some (.tables earlier last) => some (putField name (.tables (earlier ++ [last]) []) draft)
  | _ => none

/-! ## Tables when everything was read -/

mutual

/-- The value of a name when everything was read. -/
def Item.finish : Item → Value
  | .value v => v
  | .table _ fields => .table (finishFields fields)
  | .tables earlier last => .array (finishTables earlier ++ [.table (finishFields last)])

/-- The fields of a table when everything was read. -/
def finishFields : List (String × Item) → List (String × Value)
  | [] => []
  | field :: rest => finishField field :: finishFields rest

/-- A field of a table when everything was read. -/
def finishField : String × Item → String × Value
  | (name, item) => (name, item.finish)

/-- The tables of a list when everything was read. -/
def finishTables : List (List (String × Item)) → List Value
  | [] => []
  | fields :: rest => .table (finishFields fields) :: finishTables rest

end

end WikiSearch.Toml

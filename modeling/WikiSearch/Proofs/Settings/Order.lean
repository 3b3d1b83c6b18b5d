import Mathlib.Data.List.Pairwise
import WikiSearch.Proofs.Toml.Library
import WikiSearch.Settings.Layer

/-!
# WikiSearch — settings do not depend on the order of names

The names of a table are looked at one after the other, and each puts its setting in place.
Settings of different names go into different places (`Field.Commutes`), so tables that are the same
up to the order of their names set the same. That has to be told from the inside out, as a section
may hold sections, and a value that stands for a section may be a list, which is read by places and
not by names.

Which of several mistakes is reported does depend on the order; so the result is about tables that
can be read.

Main results:

* `readTable_of_same` — the settings of one section.
* `ofTable_of_same` — all settings of a file.
-/

namespace WikiSearch.Settings

open Toml (Value Same SameFields SameTable)

/-! ## Fields -/

/-- A reader that gives the same for the same value. -/
def Respects {α : Type} (read : Value → Except Problem α) : Prop :=
  ∀ v w a, Same v w → read v = .ok a → read w = .ok a

namespace Field

variable {σ : Type}

/-- Two settings that may be read in either order. -/
def Commutes (f g : Field σ) : Prop :=
  ∀ v w s s', (f.read v s).bind (g.read w) = .ok s' ↔ (g.read w s).bind (f.read v) = .ok s'

instance : Std.Symm (@Commutes σ) := ⟨fun _ _ h v w s s' => (h w v s s').symm⟩

/-- Settings that go into different places commute. -/
@[simp]
theorem commutes_of {α β : Type} {name name' : String} {read : Value → Except Problem α}
    {read' : Value → Except Problem β} {put : α → σ → σ} {put' : β → σ → σ}
    (h : ∀ a b s, put' b (put a s) = put a (put' b s)) :
    (Field.of name read put).Commutes (.of name' read' put') := by
  intro v w s s'
  simp only [Field.of]
  cases read v with
  -- a value that cannot be read stops both orders, whichever of the two it is
  | error e =>
    cases read' w with
    | error e' => simp [Except.map, Except.bind]
    | ok b => simp [Except.map, Except.bind]
  | ok a =>
    cases read' w with
    | error e' => simp [Except.map, Except.bind]
    | ok b => simp [Except.map, Except.bind, h]

/-- A setting that is read the same is put in place the same. -/
theorem respects_of {α : Type} {name : String} {read : Value → Except Problem α}
    {put : α → σ → σ} (h : Respects read) (s : σ) :
    Respects fun v => (Field.of name read put).read v s := by
  intro v w s' hsame hread
  simp only [Field.of] at hread ⊢
  cases hv : read v with
  | error e =>
    rw [hv] at hread
    contradiction
  | ok a => rw [h v w a hsame hv, ← hread, hv]

end Field

/-- The settings of a section in which the order of names does not count. -/
structure Orderless {σ : Type} (fields : List (Field σ)) : Prop where
  respects : ∀ f ∈ fields, ∀ s, Respects fun v => f.read v s
  commutes : fields.Pairwise Field.Commutes

/-! ## Sections -/

section Sections

variable {σ : Type} {fields : List (Field σ)} {empty s : σ}

/-- A table is read field by field, and each name is known. -/
theorem readTable_cons_eq_ok_iff {name : String} {v : Value} {rest : Toml.Table} {r : σ} :
    readTable fields ((name, v) :: rest) s = .ok r ↔
      ∃ f s', fields.find? (·.name == name) = some f ∧ f.read v s = .ok s' ∧
        readTable fields rest s' = .ok r := by
  simp only [readTable, List.foldlM_cons]
  cases fields.find? (·.name == name) with
  | none => simp [bind, Except.bind]
  | some f =>
    simp only [Option.some.injEq, exists_and_left, exists_eq_left']
    cases f.read v s with
    | error e => simp [bind, Except.bind]
    | ok s' => simp [bind, Except.bind]

theorem Orderless.commutes_of_ne (h : Orderless fields) {f g : Field σ} (hf : f ∈ fields)
    (hg : g ∈ fields) (hne : f.name ≠ g.name) : f.Commutes g :=
  h.commutes.forall hf hg fun hsame => hne (congrArg Field.name hsame)

theorem name_of_find? {name : String} {f : Field σ}
    (h : fields.find? (·.name == name) = some f) : f ∈ fields ∧ f.name = name := by
  have hname := List.find?_some h
  exact ⟨List.mem_of_find?_eq_some h, eq_of_beq hname⟩

/-- **The order of names does not count**, where a table can be read. -/
theorem readTable_of_same (h : Orderless fields) {table table' : Toml.Table}
    (hsame : SameTable table table') {r : σ} (hread : readTable fields table s = .ok r) :
    readTable fields table' s = .ok r := by
  -- on how the tables come to be the same, from any settings read so far
  induction hsame generalizing s r with
  | nil => exact hread
  | cons name hv _ ih =>
    obtain ⟨f, s', hf, hs, hrest⟩ := readTable_cons_eq_ok_iff.mp hread
    have hvalue := h.respects f (name_of_find? hf).1 s _ _ _ hv hs
    exact readTable_cons_eq_ok_iff.mpr ⟨f, s', hf, hvalue, ih hrest⟩
  | @swap x y rest hne =>
    obtain ⟨f, s₁, hf, hs₁, hread⟩ := readTable_cons_eq_ok_iff.mp hread
    obtain ⟨g, s₂, hg, hs₂, hrest⟩ := readTable_cons_eq_ok_iff.mp hread
    obtain ⟨hmem, hname⟩ := name_of_find? hf
    obtain ⟨hmem', hname'⟩ := name_of_find? hg
    -- the two settings have different names, so they may trade places
    have hcommutes := h.commutes_of_ne hmem hmem' (by rw [hname, hname']; exact hne)
    have hboth : (f.read x.2 s).bind (g.read y.2) = .ok s₂ := by
      rw [hs₁]
      exact hs₂
    have hswapped := (hcommutes _ _ _ _).mp hboth
    cases hs : g.read y.2 s with
    | error e =>
      rw [hs] at hswapped
      contradiction
    | ok t =>
      rw [hs] at hswapped
      exact readTable_cons_eq_ok_iff.mpr
        ⟨g, t, hg, hs, readTable_cons_eq_ok_iff.mpr ⟨f, s₂, hf, hswapped, hrest⟩⟩
  | trans _ _ ih ih' => exact ih' (ih hread)

/-- A list is read by places, and the values in the same place are the same. -/
theorem readList_of_same (h : ∀ f ∈ fields, ∀ s, Respects fun v => f.read v s)
    {items items' : List Value} (hsame : List.Forall₂ Same items items') {r : σ}
    (hread : readList fields items s = .ok r) : readList fields items' s = .ok r := by
  -- value by value, and what is read goes on to the next place
  induction hsame generalizing fields s with
  | nil => exact hread
  | @cons v w items items' hv _ ih =>
    cases fields with
    | nil => exact hread
    | cons f fields =>
      rw [List.forall_mem_cons] at h
      simp only [readList, List.zip_cons_cons, List.foldlM_cons] at hread ⊢
      cases hs : f.read v s with
      | error e =>
        rw [hs] at hread
        contradiction
      | ok s' =>
        rw [hs] at hread
        have hw : f.read w s = .ok s' := h.1 s _ _ _ hv hs
        rw [hw]
        exact ih h.2 hread

/-- A section is read the same, as a table or as a list. -/
theorem respects_readSection (h : Orderless fields) (label : String) (empty : σ) :
    Respects (readSection label fields empty) := by
  intro v w r hsame hread
  cases hsame with
  | refl => exact hread
  | array hitems => exact readList_of_same h.respects hitems hread
  | table hfields => exact readTable_of_same h hfields hread

end Sections

/-! ## Single settings -/

/-- Truth values have no names in them. -/
theorem respects_readBoolean : Respects readBoolean := by
  intro v w b hsame hread
  cases hsame with
  | refl => exact hread
  | array => contradiction
  | table => contradiction

/-- Numbers have no names in them. -/
theorem respects_readCount (wanted : String) : Respects (readCount wanted) := by
  intro v w n hsame hread
  cases hsame with
  | refl => exact hread
  | array => contradiction
  | table => contradiction

/-- A list that is read as names is a list of texts. -/
theorem eq_texts_of_mapM_readName {items : List Value} {names : List String}
    (h : items.mapM readName = .ok names) : items = names.map .text := by
  induction items generalizing names with
  | nil =>
    obtain rfl : [] = names := Except.ok.inj h
    rfl
  | cons v items ih =>
    rw [List.mapM_cons] at h
    -- only a text is read as a name
    cases v with
    | text s =>
      cases hrest : items.mapM readName with
      | error e =>
        rw [hrest] at h
        contradiction
      | ok rest =>
        rw [hrest] at h
        obtain rfl : s :: rest = names := Except.ok.inj h
        rw [ih hrest, List.map_cons]
    | _ => contradiction

/-- The same as a list of texts is that list only. -/
theorem eq_texts_of_same {names : List String} {items : List Value}
    (h : List.Forall₂ Same (names.map .text) items) : items = names.map .text := by
  induction names generalizing items with
  | nil =>
    cases h
    rfl
  | cons name names ih =>
    cases h with
    | cons hv hrest =>
      -- the same as a text is that text
      cases hv
      rw [ih hrest, List.map_cons]

/-- A list of names is read the same. -/
theorem respects_readNames : Respects readNames := by
  intro v w names hsame hread
  cases hsame with
  | refl => exact hread
  | @array items items' hitems =>
    -- what can be read is a list of texts, and those have no order of names
    have htexts : items = names.map .text := by
      simp only [readNames] at hread
      split at hread
      · contradiction
      · cases hmap : items.mapM readName with
        | error e =>
          rw [hmap] at hread
          contradiction
        | ok read =>
          rw [hmap] at hread
          obtain rfl : read = names := Except.ok.inj hread
          exact eq_texts_of_mapM_readName hmap
    rw [htexts] at hitems hread
    rw [eq_texts_of_same hitems]
    exact hread
  | table =>
    simp only [readNames] at hread
    split at hread <;> contradiction

/-- A list or a table with nothing in it. -/
def IsHollow (v : Value) : Prop := v = .array [] ∨ v = .table []

/-- The same as nothing is nothing. -/
theorem IsHollow.of_same {v w : Value} (h : IsHollow v) (hsame : Same v w) : IsHollow w := by
  cases hsame with
  | refl => exact h
  | array hitems =>
    obtain rfl : _ = [] := by simpa [IsHollow] using h
    cases hitems
    exact .inl rfl
  | table hfields =>
    -- a table with the same names as an empty one is empty
    obtain rfl : _ = [] := by simpa [IsHollow] using h
    have hnames := hfields.names_perm.symm
    rw [List.map_nil, List.perm_nil, List.map_eq_nil_iff] at hnames
    rw [hnames]
    exact .inr rfl

/-- A choice that is made by a table is made by its only name. -/
theorem readChoice_table_eq_ok_iff {α : Type} {choices : List (String × α)} {fields : Toml.Table}
    {a : α} : readChoice choices (.table fields) = .ok a ↔
      ∃ name v, fields = [(name, v)] ∧ readChoice.choose choices name = .ok a ∧ IsHollow v := by
  match fields with
  | [] => simp [readChoice]
  | [(name, v)] =>
    simp only [readChoice, List.cons.injEq, Prod.mk.injEq, and_true]
    cases hname : readChoice.choose choices name with
    | error e => simp [hname, bind, Except.bind]
    | ok b =>
      -- behind the name nothing may stand, be it an empty list or an empty table
      match v with
      | .array [] => simp [hname, bind, Except.bind, IsHollow]
      | .table [] => simp [hname, bind, Except.bind, IsHollow]
      | .array (x :: xs) => simp [hname, bind, Except.bind, IsHollow]
      | .table (x :: xs) => simp [hname, bind, Except.bind, IsHollow]
      | .text s | .integer n | .float x | .boolean c | .datetime s =>
        simp [hname, bind, Except.bind, IsHollow]
  | x :: y :: rest => simp [readChoice]

/-- A choice is read the same, by its text or by the one name of its table. -/
theorem respects_readChoice {α : Type} (choices : List (String × α)) :
    Respects (readChoice choices) := by
  intro v w a hsame hread
  cases hsame with
  | refl => exact hread
  -- no list stands for a choice
  | array => contradiction
  | @table fields fields' hfields =>
    obtain ⟨name, v, rfl, hname, hhollow⟩ := readChoice_table_eq_ok_iff.mp hread
    -- a table with one name has one order
    have hnames : fields'.map (·.1) = [name] := List.perm_singleton.mp hfields.names_perm.symm
    obtain ⟨⟨name', w⟩, rfl, rfl⟩ := List.map_eq_singleton_iff.mp hnames
    have hw : IsHollow w :=
      hfields.forall_values (fun _ _ hvalue hhollow => hhollow.of_same hvalue)
        (List.forall_mem_singleton.mpr hhollow) _ (List.mem_singleton.mpr rfl)
    exact readChoice_table_eq_ok_iff.mpr ⟨_, w, rfl, hname, hw⟩

/-! ## All settings -/

namespace Orderless

variable {σ : Type}

theorem nil : Orderless ([] : List (Field σ)) := ⟨by simp, .nil⟩

/-- One more setting, which goes into another place than the ones behind it. -/
theorem cons {α : Type} {name : String} {read : Value → Except Problem α} {put : α → σ → σ}
    {fields : List (Field σ)} (hread : Respects read)
    (hcommutes : ∀ f ∈ fields, (Field.of name read put).Commutes f) (h : Orderless fields) :
    Orderless (.of name read put :: fields) where
  respects := List.forall_mem_cons.mpr ⟨Field.respects_of hread, h.respects⟩
  commutes := List.pairwise_cons.mpr ⟨hcommutes, h.commutes⟩

end Orderless

theorem orderless_parserFields : Orderless parserFields := by
  refine .cons (respects_readCount _) ?_ <| .cons respects_readBoolean ?_ <|
    .cons respects_readBoolean ?_ <| .cons respects_readNames ?_ <|
    .cons (respects_readChoice _) ?_ .nil
  all_goals simp

theorem orderless_keywordFields : Orderless keywordFields := by
  refine .cons (respects_readCount _) ?_ <| .cons (respects_readCount _) ?_ <|
    .cons (respects_readCount _) ?_ <| .cons (respects_readCount _) ?_ <|
    .cons respects_readNames ?_ .nil
  all_goals simp

theorem orderless_phraseSuggestFields : Orderless phraseSuggestFields := by
  refine .cons respects_readBoolean ?_ <| .cons respects_readBoolean ?_ <|
    .cons (respects_readCount _) ?_ .nil
  all_goals simp

theorem orderless_indexLookupFields : Orderless indexLookupFields := by
  refine .cons respects_readBoolean ?_ <| .cons respects_readBoolean ?_ .nil
  all_goals simp

/-- Fallbacks: a number, and two sections that are orderless themselves. -/
theorem orderless_fallbackFields : Orderless fallbackFields := by
  refine .cons (respects_readCount _) ?_ <|
    .cons (respects_readSection orderless_phraseSuggestFields _ _) ?_ <|
    .cons (respects_readSection orderless_indexLookupFields _ _) ?_ .nil
  all_goals simp

/-- A file: whether it is the root, and three sections that are orderless themselves. -/
theorem orderless_layerFields : Orderless layerFields := by
  refine .cons respects_readBoolean ?_ <|
    .cons (respects_readSection orderless_parserFields _ _) ?_ <|
    .cons (respects_readSection orderless_keywordFields _ _) ?_ <|
    .cons (respects_readSection orderless_fallbackFields _ _) ?_ .nil
  all_goals simp

/-- **What a file sets does not depend on the order of names**, at the top or in any section. -/
theorem ofTable_of_same {table table' : Toml.Table} (hsame : SameTable table table') {layer : Layer}
    (h : Layer.ofTable table = .ok layer) : Layer.ofTable table' = .ok layer :=
  readTable_of_same orderless_layerFields hsame h

end WikiSearch.Settings

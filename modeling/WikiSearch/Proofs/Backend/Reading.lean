import Mathlib.Data.List.Forall2
import WikiSearch.Occur
import WikiSearch.Text.Numeral

/-!
# WikiSearch — how the backend reads a query string

The backend gets words and phrases as one string in a syntax of its own. This module
says what such a string means, without regard to how it was made:

* a backslash makes the next character literal, inside quotes and outside of them;
* single blanks that are neither literal nor inside quotes separate clauses;
* `+` or `-` at the front of a clause means that it must or must not match, and
  without either it should match;
* a quote opens a phrase, which ends at the next quote and may be followed by `~` and a
  number; anything else is a word.

A string that breaks these rules has no reading.

Main results:

* `splitClauses_intercalate` — clauses that are put together by blanks are found again.
* `readItem?_glyphs` — a clause that is written in one of the ways above is read back.
* `readItems?_of_spells` — both together, for a whole query string.
-/

namespace WikiSearch.Backend

open Text

/-- A character of a query string, and whether a backslash made it literal. -/
structure Glyph where
  char : Char
  literal : Bool
deriving Repr, DecidableEq

/-- Whether a glyph is a certain character with the meaning that it has in the syntax. -/
def Glyph.is (g : Glyph) (c : Char) : Bool := !g.literal && g.char == c

/-- The glyphs of a query string. A backslash at the very end has nothing to make
literal. -/
def glyphs : List Char → List Glyph
  | [] => []
  | '\\' :: c :: rest => ⟨c, true⟩ :: glyphs rest
  | c :: rest => ⟨c, false⟩ :: glyphs rest

/-- The clauses between the blanks outside of quotes. `quoted` says whether the first
glyph stands inside quotes. -/
def splitClauses (quoted : Bool) : List Glyph → List (List Glyph)
  | [] => [[]]
  | g :: gs =>
    if g.is ' ' && !quoted then [] :: splitClauses false gs
    else match splitClauses (quoted ^^ g.is '"') gs with
      | [] => [[g]]
      | clause :: more => (g :: clause) :: more

/-- What a clause holds. -/
inductive Body where
  | word (glyphs : List Glyph)
  | phrase (text : List Char) (slop : Option Nat)
deriving Repr, DecidableEq

/-- A clause as the backend understands it. -/
structure Item where
  occur : Occur
  body : Body
deriving Repr, DecidableEq

/-- Reads the sign at the front of a clause. -/
def readOccur : List Glyph → Occur × List Glyph
  | [] => (.should, [])
  | g :: gs =>
    if g.is '+' then (.must, gs)
    else if g.is '-' then (.mustNot, gs)
    else (.should, g :: gs)

/-- Reads what follows the closing quote of a phrase: nothing, or `~` and a number. -/
def readSlop? : List Glyph → Option (Option Nat)
  | [] => some none
  | g :: gs =>
    if g.is '~' && !gs.isEmpty && gs.all (fun d => !d.literal && isDigit d.char) then
      some (some (digitsValue (gs.map (·.char))))
    else none

/-- Reads a clause behind its sign. A quote inside a word has no meaning. -/
def readBody? : List Glyph → Option Body
  | [] => none
  | g :: gs =>
    if g.is '"' then
      match gs.dropWhile (!·.is '"') with
      | [] => none
      | _ :: rest => (readSlop? rest).map (.phrase ((gs.takeWhile (!·.is '"')).map (·.char)))
    else if gs.any (·.is '"') then none
    else some (.word (g :: gs))

/-- Reads a clause. -/
def readItem? (gs : List Glyph) : Option Item :=
  (readBody? (readOccur gs).2).map (⟨(readOccur gs).1, ·⟩)

/-- Reads a query string. An empty one has no clauses. -/
def readItems? (cs : List Char) : Option (List Item) :=
  if cs.isEmpty then some [] else (splitClauses false (glyphs cs)).mapM readItem?

/-! ## Glyphs -/

theorem glyphs_literal (c : Char) (cs : List Char) :
    glyphs ('\\' :: c :: cs) = ⟨c, true⟩ :: glyphs cs := by
  rw [glyphs]

/-- Any other character has its own meaning. -/
theorem glyphs_plain {c : Char} (h : c ≠ '\\') (cs : List Char) :
    glyphs (c :: cs) = ⟨c, false⟩ :: glyphs cs := by
  rw [glyphs]
  -- the equation of a pair does not apply
  intro d ds hc
  exact absurd hc h

@[simp]
theorem is_literal (c d : Char) : (⟨c, true⟩ : Glyph).is d = false := rfl

@[simp]
theorem is_plain (c d : Char) : (⟨c, false⟩ : Glyph).is d = (c == d) := rfl

/-- The characters are read as these glyphs, whatever follows them. -/
def Spells (cs : List Char) (gs : List Glyph) : Prop :=
  ∀ rest, glyphs (cs ++ rest) = gs ++ glyphs rest

namespace Spells

variable {cs ds : List Char} {gs hs : List Glyph}

theorem nil : Spells [] [] := fun _ => rfl

/-- What is written one behind the other is read one behind the other. -/
theorem append (hcs : Spells cs gs) (hds : Spells ds hs) : Spells (cs ++ ds) (gs ++ hs) := by
  intro rest
  rw [List.append_assoc, hcs, hds, List.append_assoc]

/-- By themselves the characters are read as their glyphs, too. -/
theorem glyphs_eq (h : Spells cs gs) : glyphs cs = gs := by
  have hnil := h []
  rwa [List.append_nil, glyphs, List.append_nil] at hnil

theorem literal (c : Char) : Spells ['\\', c] [⟨c, true⟩] := glyphs_literal c

theorem plain {c : Char} (h : c ≠ '\\') : Spells [c] [⟨c, false⟩] := glyphs_plain h

/-- Characters that are written one by one are read one by one. -/
theorem flatMap {write : Char → List Char} {read : Char → Glyph}
    (h : ∀ c ∈ cs, Spells (write c) [read c]) : Spells (cs.flatMap write) (cs.map read) := by
  induction cs with
  | nil => exact nil
  | cons c cs ih =>
    -- each character is read whatever follows it, also what is written for the next
    rw [List.flatMap_cons, List.map_cons]
    exact append (h c (List.mem_cons_self ..)) (ih fun d hd => h d (List.mem_cons_of_mem _ hd))

/-- Characters without a backslash among them are read as they are. -/
theorem of_plain (h : ∀ c ∈ cs, c ≠ '\\') : Spells cs (cs.map (⟨·, false⟩)) := by
  have hcs : Spells (cs.flatMap fun c => [c]) (cs.map (⟨·, false⟩)) :=
    flatMap fun c hc => plain (h c hc)
  rwa [List.flatMap_singleton'] at hcs

/-- Pieces with blanks between them are read with blanks between them. -/
theorem intercalate {css : List (List Char)} {gss : List (List Glyph)}
    (h : List.Forall₂ Spells css gss) :
    Spells ([' '].intercalate css) ([⟨' ', false⟩].intercalate gss) := by
  induction h with
  | nil => exact nil
  | cons hcs hmore ih =>
    cases hmore with
    | nil => simpa using hcs
    | cons hnext hmore =>
      -- the blank between two pieces is plain, as the first leaves no backslash behind
      rw [List.intercalate_cons_cons, List.intercalate_cons_cons]
      exact append (append hcs (plain (by decide))) ih

end Spells

/-! ## Clauses that stay together -/

/-- Runs over glyphs without meeting a blank that separates clauses. The result says
whether what follows stands inside quotes. -/
def passes? (quoted : Bool) : List Glyph → Option Bool
  | [] => some quoted
  | g :: gs => if g.is ' ' && !quoted then none else passes? (quoted ^^ g.is '"') gs

/-- Glyphs are passed over one after the other. -/
theorem passes?_append (quoted : Bool) (gs hs : List Glyph) :
    passes? quoted (gs ++ hs) = (passes? quoted gs).bind (passes? · hs) := by
  induction gs generalizing quoted with
  | nil => rfl
  | cons g gs ih =>
    rw [List.cons_append, passes?, passes?]
    split
    · rfl
    · exact ih _

/-- Glyphs without quotes and separating blanks leave the quotes as they are. -/
theorem passes?_of_plain {quoted : Bool} {gs : List Glyph} (hquote : ∀ g ∈ gs, g.is '"' = false)
    (hblank : quoted = false → ∀ g ∈ gs, g.is ' ' = false) : passes? quoted gs = some quoted := by
  induction gs with
  | nil => rfl
  | cons g gs ih =>
    have hg := hquote g (List.mem_cons_self ..)
    have ih' := ih (fun h hh => hquote h (List.mem_cons_of_mem _ hh))
      fun hq h hh => hblank hq h (List.mem_cons_of_mem _ hh)
    -- inside of quotes a blank is not a separating one
    cases quoted with
    | true => simpa [passes?, hg] using ih'
    | false =>
      have hb := hblank rfl g (List.mem_cons_self ..)
      simpa [passes?, hg, hb] using ih'

/-- What is passed over without a separating blank is one clause. -/
theorem splitClauses_of_passes {quoted after : Bool} {gs : List Glyph}
    (h : passes? quoted gs = some after) : splitClauses quoted gs = [gs] := by
  induction gs generalizing quoted with
  | nil => rfl
  | cons g gs ih =>
    rw [passes?] at h
    rw [splitClauses]
    -- where the glyphs pass, none of them is a blank outside of quotes
    split at h
    · contradiction
    · rename_i hg
      rw [if_neg hg, ih h]

/-- A clause outside of quotes ends at the next blank. -/
theorem splitClauses_append {quoted : Bool} {gs : List Glyph} (h : passes? quoted gs = some false)
    (rest : List Glyph) :
    splitClauses quoted (gs ++ ⟨' ', false⟩ :: rest) = gs :: splitClauses false rest := by
  induction gs generalizing quoted with
  -- the blank stands outside of quotes, as the clause left none open
  | nil =>
    obtain rfl : quoted = false := Option.some.inj h
    rfl
  | cons g gs ih =>
    rw [passes?] at h
    rw [List.cons_append, splitClauses]
    split at h
    · contradiction
    · rename_i hg
      rw [if_neg hg, ih h]

/-- **Clauses are found again.** Clauses that hold no separating blank and leave no quote
open can be put together by blanks. -/
theorem splitClauses_intercalate {clauses : List (List Glyph)} (hne : clauses ≠ [])
    (h : ∀ gs ∈ clauses, passes? false gs = some false) :
    splitClauses false ([⟨' ', false⟩].intercalate clauses) = clauses := by
  induction clauses with
  | nil => exact absurd rfl hne
  | cons gs more ih =>
    have hgs := h gs (List.mem_cons_self ..)
    -- there is a blank behind a clause only if another clause follows
    cases more with
    | nil => simpa using splitClauses_of_passes hgs
    | cons next more =>
      rw [List.intercalate_cons_cons, List.append_assoc, List.singleton_append,
        splitClauses_append hgs, ih (by simp) fun hs hhs => h hs (List.mem_cons_of_mem _ hhs)]

/-! ## Clauses are read back -/

section Written

/-- The glyphs of plain text. -/
def plainGlyphs (cs : List Char) : List Glyph := cs.map (⟨·, false⟩)

/-- The glyphs of text in quotes. -/
def quotedGlyphs (cs : List Char) : List Glyph := cs.map fun c => ⟨c, c = '"' || c = '\\'⟩

/-- The glyphs of what stands behind a closing quote. -/
def slopGlyphs : Option Nat → List Glyph
  | none => []
  | some n => plainGlyphs ('~' :: Nat.toDigits 10 n)

/-- The glyphs of a word or a phrase. -/
def Body.glyphs : Body → List Glyph
  | .word gs => gs
  | .phrase text slop => ⟨'"', false⟩ :: quotedGlyphs text ++ ⟨'"', false⟩ :: slopGlyphs slop

/-- The glyphs of a clause. -/
def Item.glyphs (i : Item) : List Glyph := plainGlyphs i.occur.mark.toList ++ i.body.glyphs

/-- A word is not empty, and nothing in it could be taken for a part of the syntax. -/
def Body.WellFormed : Body → Prop
  | .word gs => gs ≠ [] ∧ ∀ g ∈ gs, ∀ c ∈ [' ', '"', '+', '-'], g.is c = false
  | .phrase _ _ => True

variable {body : Body} {item : Item}

/-- No glyph of quoted text closes the quotes. -/
theorem mem_quotedGlyphs {text : List Char} {g : Glyph} (h : g ∈ quotedGlyphs text) :
    g.is '"' = false := by
  obtain ⟨c, -, rfl⟩ := List.mem_map.mp h
  by_cases hc : c = '"'
  · simp [hc]
  · simp [Glyph.is, hc]

/-- What stands behind a closing quote is read back. -/
theorem readSlop?_slopGlyphs (slop : Option Nat) : readSlop? (slopGlyphs slop) = some slop := by
  cases slop with
  | none => rfl
  | some n =>
    -- a number is written with its digits, of which there is at least one
    obtain ⟨hne, hdigits, hvalue⟩ := toDigits_spec n
    rw [slopGlyphs, plainGlyphs, List.map_cons, readSlop?, if_pos]
    · rw [List.map_map, show (Glyph.char ∘ fun c => Glyph.mk c false) = id from rfl, List.map_id,
        hvalue]
    · simpa [hne] using hdigits

/-- A word or a phrase does not start with a sign. -/
theorem glyphs_eq_cons (h : body.WellFormed) :
    ∃ g gs, body.glyphs = g :: gs ∧ g.is '+' = false ∧ g.is '-' = false := by
  cases body with
  | word gs =>
    -- nothing in a word could be taken for a sign
    obtain ⟨hne, hplain⟩ := h
    obtain ⟨g, gs, rfl⟩ := List.exists_cons_of_ne_nil hne
    have hg := hplain g (List.mem_cons_self ..)
    exact ⟨g, gs, rfl, hg '+' (by simp), hg '-' (by simp)⟩
  | phrase text slop =>
    -- it starts with its quote
    exact ⟨_, _, rfl, rfl, rfl⟩

/-- The sign of a clause is read back. -/
theorem readOccur_glyphs (h : item.body.WellFormed) :
    readOccur item.glyphs = (item.occur, item.body.glyphs) := by
  rw [Item.glyphs]
  cases item.occur with
  | must => rfl
  | mustNot => rfl
  | should =>
    -- without a mark the body comes first, and is not taken for one
    obtain ⟨g, gs, hg, hplus, hminus⟩ := glyphs_eq_cons h
    rw [hg]
    show readOccur (g :: gs) = _
    simp [readOccur, hplus, hminus]

/-- A word or a phrase is read back. -/
theorem readBody?_glyphs (h : body.WellFormed) : readBody? body.glyphs = some body := by
  cases body with
  | word gs =>
    -- a word holds no quote with a meaning
    obtain ⟨hne, hplain⟩ := h
    obtain ⟨g, gs, rfl⟩ := List.exists_cons_of_ne_nil hne
    have hquote : ∀ a ∈ g :: gs, a.is '"' = false := fun a ha => hplain a ha '"' (by simp)
    have hany : gs.any (·.is '"') = false := by
      rw [List.any_eq_false]
      intro a ha
      rw [hquote a (List.mem_cons_of_mem _ ha)]
      decide
    rw [Body.glyphs, readBody?, hquote g (List.mem_cons_self ..), hany]
    rfl
  | phrase text slop =>
    -- the first quote behind the opening one is the closing one
    have hquote : ∀ g ∈ quotedGlyphs text, (!g.is '"') = true := by
      intro g hg
      rw [mem_quotedGlyphs hg]
      rfl
    have hchars : (quotedGlyphs text).map (·.char) = text := by
      rw [quotedGlyphs, List.map_map]
      exact List.map_id _
    rw [Body.glyphs, List.cons_append, readBody?, if_pos (by rfl),
      List.dropWhile_append_of_pos hquote, List.takeWhile_append_of_pos hquote]
    simp [readSlop?_slopGlyphs, hchars]

/-- **A clause is read back** from its glyphs. -/
theorem readItem?_glyphs (h : item.body.WellFormed) : readItem? item.glyphs = some item := by
  rw [readItem?, readOccur_glyphs h, readBody?_glyphs h]
  rfl

/-- Text without blanks and quotes is passed over. -/
theorem passes?_plainGlyphs {cs : List Char} (h : ∀ c ∈ cs, c ≠ ' ' ∧ c ≠ '"') :
    passes? false (plainGlyphs cs) = some false := by
  apply passes?_of_plain
  · intro g hg
    obtain ⟨c, hc, rfl⟩ := List.mem_map.mp hg
    simp [(h c hc).2]
  · intro _ g hg
    obtain ⟨c, hc, rfl⟩ := List.mem_map.mp hg
    simp [(h c hc).1]

/-- So is what stands behind a closing quote. -/
theorem passes?_slopGlyphs (slop : Option Nat) : passes? false (slopGlyphs slop) = some false := by
  cases slop with
  | none => rfl
  | some n =>
    apply passes?_plainGlyphs
    intro c hc
    rcases List.mem_cons.mp hc with rfl | hc
    · decide
    · -- a digit is neither a blank nor a quote
      have hdigit := (toDigits_spec n).2.1 c hc
      constructor <;> rintro rfl <;> exact absurd hdigit (by decide)

/-- A word or a phrase stays together: it holds no separating blank and leaves no quote open. -/
theorem passes?_body (h : body.WellFormed) : passes? false body.glyphs = some false := by
  cases body with
  | word gs =>
    exact passes?_of_plain (fun g hg => h.2 g hg '"' (by simp)) fun _ g hg =>
      h.2 g hg ' ' (by simp)
  | phrase text slop =>
    -- blanks between the quotes separate nothing
    have htext : passes? true (quotedGlyphs text) = some true :=
      passes?_of_plain (fun g hg => mem_quotedGlyphs hg) nofun
    show passes? true (quotedGlyphs text ++ _) = _
    rw [passes?_append, htext]
    exact passes?_slopGlyphs slop

/-- So does a clause with its sign. -/
theorem passes?_glyphs (h : item.body.WellFormed) : passes? false item.glyphs = some false := by
  have hmark : passes? false (plainGlyphs item.occur.mark.toList) = some false := by
    cases item.occur <;> rfl
  rw [Item.glyphs, passes?_append, hmark]
  exact passes?_body h

/-- Clauses are read back one by one. -/
theorem mapM_readItem?_glyphs {items : List Item} (h : ∀ i ∈ items, i.body.WellFormed) :
    (items.map Item.glyphs).mapM readItem? = some items := by
  induction items with
  | nil => rfl
  | cons i items ih =>
    rw [List.map_cons, List.mapM_cons, readItem?_glyphs (h i (List.mem_cons_self ..)),
      ih fun j hj => h j (List.mem_cons_of_mem _ hj)]
    rfl

/-- **A query string is read back.** Clauses that spell well-formed items and are put
together by blanks are read as these items. -/
theorem readItems?_of_spells {css : List (List Char)} {items : List Item}
    (hspells : List.Forall₂ (fun cs i => Spells cs i.glyphs) css items)
    (hitems : ∀ i ∈ items, i.body.WellFormed) :
    readItems? ([' '].intercalate css) = some items := by
  cases hspells with
  | nil => rfl
  | @cons cs item css items hcs hmore =>
    -- each clause stays together, so the blanks between them are all that separates
    have hpasses : ∀ gs ∈ (item :: items).map Item.glyphs, passes? false gs = some false := by
      intro gs hgs
      obtain ⟨i, hi, rfl⟩ := List.mem_map.mp hgs
      exact passes?_glyphs (hitems i hi)
    have hglyphs := (Spells.intercalate
      (List.forall₂_map_right_iff.mpr (.cons hcs hmore))).glyphs_eq
    have hsplit := splitClauses_intercalate (by simp) hpasses
    rw [← hglyphs] at hsplit
    rw [readItems?, if_neg, hsplit, mapM_readItem?_glyphs hitems]
    -- an empty string would be a clause without glyphs, which is no item
    intro hempty
    rw [List.isEmpty_iff.mp hempty] at hsplit
    have hnil := (List.cons.inj hsplit).1
    have hread := readItem?_glyphs (hitems item (List.mem_cons_self ..))
    rw [← hnil] at hread
    contradiction

example : readItems? "+c\\+? -\"say \\\"hi\\\"\"~3".toList =
    some [⟨.must, .word [⟨'c', false⟩, ⟨'+', true⟩, ⟨'?', false⟩]⟩,
      ⟨.mustNot, .phrase "say \"hi\"".toList (some 3)⟩] := by decide +kernel

end Written

end WikiSearch.Backend

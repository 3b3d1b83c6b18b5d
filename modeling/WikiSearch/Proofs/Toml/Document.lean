import WikiSearch.Proofs.Toml.Value

/-!
# WikiSearch — written files read back

A file that is written section by section is read line by line: every section gives the line
that opens its table, then a line for each of its fields, and the blank lines between sections
give nothing. What the table of the file is depends on how the lines fit together; that they are
the right lines holds of any sections whose names need no quotes.

Main results:

* `readLines_render` — the lines of a written file.
* `ofText?_render` — the table of a written file, line by line.
-/

namespace WikiSearch.Toml

open Text

/-! ## Names -/

/-- A path as it is written. -/
def writtenPath (path : List String) : List Char := ['.'].intercalate (path.map String.toList)

theorem toList_intercalate_path (path : List String) :
    (".".intercalate path).toList = writtenPath path := by
  rw [String.toList_intercalate]
  rfl

theorem IsBareName.exists_cons {name : String} (h : IsBareName name) :
    ∃ c cs, name.toList = c :: cs ∧ isBare c = true := by
  obtain ⟨hne, hbare⟩ := h
  obtain ⟨c, cs, hname⟩ := List.exists_cons_of_ne_nil (mt String.toList_eq_nil_iff.mp hne)
  rw [hname, List.all_cons, Bool.and_eq_true] at hbare
  exact ⟨c, cs, hname, hbare.1⟩

theorem neverSkipped_isBare : NeverSkipped isBare := ⟨rfl, rfl, rfl, rfl, rfl⟩

/-- A name is read up to where its characters end. -/
theorem reads_name {name : String} (h : IsBareName name) {rest : List Char}
    (hrest : ∀ c ∈ rest.head?, isBare c = false) :
    readName.Reads (name.toList ++ rest) name rest := by
  obtain ⟨c, cs, hname, hc⟩ := h.exists_cons
  -- the first character and all others are such that no quotes are needed
  have hcs : ∀ d ∈ cs, isBare d = true := by
    intro d hd
    exact List.all_eq_true.mp h.2 d (by rw [hname]; exact List.mem_cons_of_mem _ hd)
  refine reads_ofFunction ?_
  rw [hname, List.cons_append, readName?, if_pos hc, takeWhile_append_of_run hcs hrest,
    dropWhile_append_of_run hcs hrest, ← hname, String.ofList_toList]
  · exact ne_of_holds hc rfl
  · exact ne_of_holds hc rfl

/-! ## Keys -/

theorem skipSpaces_cons {c : Char} (h : isSpace c = false) (cs : List Char) :
    Toml.skipSpaces (c :: cs) = c :: cs := by
  simp [Toml.skipSpaces, h]

theorem writtenPath_cons_cons (name next : String) (names : List String) :
    writtenPath (name :: next :: names) = name.toList ++ '.' :: writtenPath (next :: names) := by
  rw [writtenPath, List.map_cons, List.map_cons, List.intercalate_cons_cons, List.append_assoc]
  rfl

/-- A path starts with the first character of its first name. -/
theorem exists_writtenPath_eq_cons {name : String} (h : IsBareName name) (names : List String) :
    ∃ c cs, writtenPath (name :: names) = c :: cs ∧ isBare c = true := by
  obtain ⟨c, cs, hname, hc⟩ := h.exists_cons
  cases names with
  | nil =>
    refine ⟨c, cs, ?_, hc⟩
    rw [← hname]
    exact List.intercalate_singleton
  | cons next names =>
    rw [writtenPath_cons_cons, hname]
    exact ⟨c, _, rfl, hc⟩

/-- Another character in front is not skipped. -/
theorem Rest.skip?_of_head {cs tail : List Char} {c : Char} (hne : ∀ d ∈ tail.head?, d ≠ c)
    (h : tail.length < cs.length) : Rest.skip? c (⟨tail, h⟩ : Rest cs) = none := by
  cases tail with
  | nil => rfl
  | cons d tail => exact Rest.skip?_of_ne (hne d rfl) h

/-- Without a dot behind it a name is the last one. -/
theorem readNames_last {name : String} {cs rest : List Char} (h : readName.Reads cs name rest)
    (hdot : ∀ c ∈ (Toml.skipSpaces rest).head?, c ≠ '.') :
    Reader.Reads readNames cs ⟨name, []⟩ (Toml.skipSpaces rest) := by
  obtain ⟨hlength, hread⟩ := h
  refine ⟨Nat.lt_of_le_of_lt (skipSpaces_length_le rest) hlength, ?_⟩
  have hlast : Rest.skip? '.' (Rest.skipSpaces (⟨rest, hlength⟩ : Rest cs)) = none :=
    Rest.skip?_of_head hdot _
  rw [readNames]
  simp only [hread, Option.bind_eq_bind, Option.bind_some, hlast]
  rfl

/-- Behind a name and its dot the names go on. -/
theorem readNames_cons {name : String} {cs rest tail : List Char} {key : Key}
    (h : readName.Reads cs name ('.' :: tail))
    (hmore : Reader.Reads readNames (Toml.skipSpaces tail) key rest) :
    Reader.Reads readNames cs ⟨name, key.path⟩ rest := by
  obtain ⟨hlength, hread⟩ := h
  obtain ⟨hlength', hread'⟩ := hmore
  have htail : (Toml.skipSpaces tail).length < cs.length :=
    Nat.lt_of_le_of_lt (skipSpaces_length_le tail) (Nat.lt_of_succ_lt hlength)
  refine ⟨Nat.lt_trans hlength' htail, ?_⟩
  have hdot : Rest.skip? '.' (Rest.skipSpaces (⟨'.' :: tail, hlength⟩ : Rest cs)) =
      some ⟨tail, Nat.lt_of_succ_lt hlength⟩ := rfl
  rw [readNames]
  simp only [hread, Option.bind_eq_bind, Option.bind_some, hdot]
  exact congrArg (Option.bind · _) hread'

/-- A path is read name by name, with the blanks behind it. -/
theorem reads_names {name : String} {names : List String} {rest : List Char}
    (h : ∀ n ∈ name :: names, IsBareName n) (hrest : ∀ c ∈ rest.head?, isBare c = false)
    (hdot : ∀ c ∈ (Toml.skipSpaces rest).head?, c ≠ '.') :
    Reader.Reads readNames (writtenPath (name :: names) ++ rest) ⟨name, names⟩
      (Toml.skipSpaces rest) := by
  induction names generalizing name with
  | nil =>
    have hname := reads_name (h name (List.mem_cons_self ..)) hrest
    rw [writtenPath, List.map_singleton, List.intercalate_singleton]
    exact readNames_last hname hdot
  | cons next names ih =>
    rw [List.forall_mem_cons] at h
    obtain ⟨c, cs, hpath, hc⟩ := exists_writtenPath_eq_cons (h.2 next (List.mem_cons_self ..)) names
    rw [writtenPath_cons_cons, List.append_assoc, List.cons_append]
    show Reader.Reads readNames _ ⟨name, (⟨next, names⟩ : Key).path⟩ _
    refine readNames_cons (reads_name h.1 ?_) ?_
    · exact forall_mem_head?_cons (by decide) _
    · -- no blank stands behind a dot
      have hmore := ih h.2
      rw [hpath, List.cons_append] at hmore ⊢
      rwa [skipSpaces_cons (neverSkipped_isBare.isSpace hc)]

/-- A key is a path of not too many names. -/
theorem reads_key {name : String} {names : List String} {rest : List Char}
    (h : ∀ n ∈ name :: names, IsBareName n) (hlength : names.length < maxNames)
    (hrest : ∀ c ∈ rest.head?, isBare c = false)
    (hdot : ∀ c ∈ (Toml.skipSpaces rest).head?, c ≠ '.') :
    readKey.Reads (writtenPath (name :: names) ++ rest) ⟨name, names⟩ (Toml.skipSpaces rest) := by
  obtain ⟨hshorter, hread⟩ := reads_names h hrest hdot
  refine ⟨hshorter, ?_⟩
  -- the number of names is looked at only when all of them have been read
  rw [readKey, hread, Option.filter_some, if_pos]
  exact decide_eq_true hlength

/-! ## Lines -/

/-- What is written for a value starts with no blank. -/
theorem exists_written_eq_cons (v : Simple) :
    ∃ c cs, v.written = c :: cs ∧ isSpace c = false := by
  cases v with
  | integer n =>
    obtain ⟨c, cs, hwritten, hc⟩ := exists_toDigits_eq_cons n
    exact ⟨c, cs, hwritten, neverSkipped_isDigit.isSpace hc⟩
  | boolean b =>
    cases b with
    | true => exact ⟨'t', _, rfl, rfl⟩
    | false => exact ⟨'f', _, rfl, rfl⟩
  | text s =>
    obtain ⟨q, tail, hwritten, hquote⟩ := exists_writtenText_eq_cons s.toList
    exact ⟨q, tail, hwritten, neverSkipped_isQuote.isSpace hquote⟩
  | texts items =>
    -- a list starts with its bracket, however long it is
    cases items with
    | nil => exact ⟨'[', _, rfl, rfl⟩
    | cons s more =>
      cases more with
      | nil => exact ⟨'[', _, rfl, rfl⟩
      | cons next more => exact ⟨'[', _, rfl, rfl⟩

/-- A field is a key, an equals sign and a value, with spaces between them. -/
theorem readField_of_reads {item : Reader Value} {cs more tail rest : List Char} {key : Key}
    {v : Value} (hkey : readKey.Reads cs key more) (hequals : Toml.skipSpaces more = '=' :: tail)
    (hvalue : item.Reads (Toml.skipSpaces tail) v rest) :
    (readField Rest.skipSpaces item).Reads cs (key, v) rest := by
  obtain ⟨hlength, hread⟩ := hkey
  have hmore : ('=' :: tail).length < cs.length := by
    rw [← hequals]
    exact Nat.lt_of_le_of_lt (skipSpaces_length_le more) hlength
  have htail : (Toml.skipSpaces tail).length < cs.length :=
    Nat.lt_of_le_of_lt (skipSpaces_length_le tail) (Nat.lt_of_succ_lt hmore)
  -- the spaces between the key and the equals sign are skipped
  have hskip : Rest.skipSpaces (⟨more, hlength⟩ : Rest cs) = ⟨'=' :: tail, hmore⟩ :=
    Subtype.ext hequals
  refine ⟨Nat.lt_trans hvalue.1 htail, ?_⟩
  rw [readField]
  simp only [hread, Option.bind_eq_bind, Option.bind_some, hskip, Rest.skip?_self]
  exact congrArg (Option.bind · _) (Rest.read?_of_reads hvalue htail)

/-- A written field reads back. -/
theorem reads_field {name : String} (h : IsBareName name) (v : Simple) (rest : List Char) :
    (readField Rest.skipSpaces (readValue maxDepth)).Reads (writtenField name v ++ rest)
      (⟨name, []⟩, v.toValue) ('\n' :: rest) := by
  obtain ⟨c, cs, hwritten, hc⟩ := exists_written_eq_cons v
  have htext : writtenField name v ++ rest =
      writtenPath [name] ++ ' ' :: '=' :: ' ' :: (v.written ++ '\n' :: rest) := by
    simp [writtenField, writtenPath]
  -- the key is all there is up to the equals sign
  have hkey : readKey.Reads (writtenField name v ++ rest) ⟨name, []⟩
      ('=' :: ' ' :: (v.written ++ '\n' :: rest)) := by
    rw [htext]
    exact reads_key (List.forall_mem_singleton.mpr h) (by decide)
      (forall_mem_head?_cons (by decide) _) (forall_mem_head?_cons (by decide) _)
  refine readField_of_reads hkey rfl ?_
  have hskip : Toml.skipSpaces (' ' :: (v.written ++ '\n' :: rest)) =
      v.written ++ '\n' :: rest := by
    show Toml.skipSpaces (v.written ++ '\n' :: rest) = _
    rw [hwritten, List.cons_append, skipSpaces_cons hc]
  rw [hskip]
  exact reads_written v (forall_mem_head?_cons (.inr (.inr rfl)) _)

/-- A line ends where nothing but the line end is left of it. -/
theorem readLine_of_reads {cs rest : List Char} {line : Line}
    (h : (readHeader.orElse ((readField Rest.skipSpaces (readValue maxDepth)).map
      fun (key, v) => Line.field key v)).Reads cs line ('\n' :: rest)) :
    readLine.Reads cs line rest := by
  obtain ⟨hlength, hread⟩ := h
  have hend : Rest.endLine? (⟨'\n' :: rest, hlength⟩ : Rest cs) =
      some ⟨rest, Nat.lt_of_succ_lt hlength⟩ := rfl
  refine ⟨Nat.lt_of_succ_lt hlength, ?_⟩
  rw [readLine]
  simp only [hread, Option.bind_eq_bind, Option.bind_some, hend]

/-- The line of a field reads back. -/
theorem reads_fieldLine {name : String} (h : IsBareName name) (v : Simple) (rest : List Char) :
    readLine.Reads (writtenField name v ++ rest) (.field ⟨name, []⟩ v.toValue) rest := by
  obtain ⟨c, cs, hname, hc⟩ := h.exists_cons
  -- no header starts with a character of a name
  have hheader : readHeader (writtenField name v ++ rest) = none := by
    rw [readHeader, writtenField, hname]
    simp only [List.cons_append, Option.bind_eq_bind,
      Reader.char_of_ne (ne_of_holds hc (d := '[') rfl), Option.bind_none]
  exact readLine_of_reads (Reader.Reads.orElse_of_none hheader ((reads_field h v rest).map _))

theorem readHeader_of_reads {tail rest : List Char} {key : Key} {c : Char} (hc : isBare c = true)
    (h : readKey.Reads (c :: tail) key (']' :: rest)) :
    readHeader.Reads ('[' :: c :: tail) (.opens key) rest := by
  have hlength : (c :: tail).length < ('[' :: c :: tail).length := Nat.lt_succ_self _
  -- one bracket opens the header and not two
  have hone : Rest.skip? '[' (⟨c :: tail, hlength⟩ : Rest ('[' :: c :: tail)) = none :=
    Rest.skip?_of_ne (ne_of_holds hc rfl) hlength
  have hskip : Rest.skipSpaces (⟨c :: tail, hlength⟩ : Rest ('[' :: c :: tail)) =
      ⟨c :: tail, hlength⟩ :=
    Subtype.ext (skipSpaces_cons (neverSkipped_isBare.isSpace hc) tail)
  have hchar : Reader.char '[' ('[' :: c :: tail) = some ((), ⟨c :: tail, hlength⟩) := rfl
  refine ⟨Nat.lt_of_succ_lt (Nat.lt_trans h.1 hlength), ?_⟩
  rw [readHeader]
  simp only [hchar, Option.bind_eq_bind, Option.bind_some, hone, hskip,
    Rest.read?_of_reads h hlength, Rest.skip?_self]

/-- The line that opens a table reads back. -/
theorem reads_headerLine {name : String} {names : List String}
    (h : ∀ n ∈ name :: names, IsBareName n) (hlength : names.length < maxNames)
    (rest : List Char) :
    readLine.Reads ('[' :: writtenPath (name :: names) ++ ']' :: '\n' :: rest)
      (.opens ⟨name, names⟩) rest := by
  obtain ⟨c, cs, hpath, hc⟩ := exists_writtenPath_eq_cons (h name (List.mem_cons_self ..)) names
  have hkey : readKey.Reads (writtenPath (name :: names) ++ ']' :: '\n' :: rest) ⟨name, names⟩
      (']' :: '\n' :: rest) :=
    reads_key h hlength (forall_mem_head?_cons (by decide) _) (forall_mem_head?_cons (by decide) _)
  rw [hpath, List.cons_append] at hkey
  rw [hpath, List.cons_append, List.cons_append]
  exact readLine_of_reads ((readHeader_of_reads hc hkey).orElse _)

/-! ## Files -/

theorem readLines_nil {cs : List Char} (h : Toml.skipLines false cs = []) :
    readLines cs = some [] := by
  rw [readLines, if_pos h]

/-- Blank lines in front of a line give nothing. -/
theorem readLines_cons {cs front rest : List Char} {line : Line}
    (hfront : Toml.skipLines false cs = front) (h : readLine.Reads front line rest) :
    readLines cs = (readLines rest).map (line :: ·) := by
  subst hfront
  -- the reader takes something, so something is left of the text
  have hne : Toml.skipLines false cs ≠ [] := by
    intro hnil
    have hlength := h.1
    rw [hnil] at hlength
    exact absurd hlength (Nat.not_lt_zero _)
  obtain ⟨hlength, hread⟩ := h.afterLines
  rw [readLines, if_neg hne]
  simp only [hread, Option.bind_eq_bind, Option.bind_some]
  cases readLines rest with
  | none => rfl
  | some lines => rfl

/-- The names of the fields of a section. -/
def Section.names (s : Section) : List String := s.fields.map (·.1)

/-- Whether a section is well named: all its names stand without quotes, the header does not have
too many, and no field has the name of another. -/
def IsWellNamed (path names : List String) : Prop :=
  path ≠ [] ∧ path.length ≤ maxNames ∧ (∀ name ∈ path, IsBareName name) ∧
    (∀ name ∈ names, IsBareName name) ∧ names.Nodup

instance (path names : List String) : Decidable (IsWellNamed path names) :=
  inferInstanceAs (Decidable (_ ∧ _))

/-- Whether a section is well named. -/
def Section.IsWellNamed (s : Section) : Prop := Toml.IsWellNamed s.path s.names

/-- The key in the header of a section. -/
def Section.key (s : Section) : Key := ⟨s.path.headD "", s.path.tail⟩

/-- The lines of a section: its header, and its fields. -/
def Section.lines (s : Section) : List Line :=
  .opens s.key :: s.fields.map fun (name, v) => .field ⟨name, []⟩ v.toValue

/-- The lines of the fields are read field by field. -/
theorem readLines_fields {fields : List (String × Simple)}
    (h : ∀ name ∈ fields.map (·.1), IsBareName name) (rest : List Char) :
    readLines (fields.flatMap (fun (name, v) => writtenField name v) ++ rest) =
      (readLines rest).map
        ((fields.map fun (name, v) => Line.field ⟨name, []⟩ v.toValue) ++ ·) := by
  induction fields with
  | nil => simp
  | cons field fields ih =>
    obtain ⟨name, v⟩ := field
    rw [List.map_cons, List.forall_mem_cons] at h
    have hline := reads_fieldLine h.1 v
      (fields.flatMap (fun (name, v) => writtenField name v) ++ rest)
    -- a line starts with its name, so nothing is skipped in front of it
    obtain ⟨c, cs, hname, hc⟩ := h.1.exists_cons
    rw [List.flatMap_cons, List.append_assoc, readLines_cons ?_ hline, ih h.2, Option.map_map]
    · rfl
    · simp only [writtenField, hname, List.cons_append]
      exact neverSkipped_isBare.skipLines hc _

/-- **One section** of a file, with blank lines in front of it or none. -/
theorem readLines_section {s : Section} (h : s.IsWellNamed) {cs rest : List Char}
    (hcs : Toml.skipLines false cs = s.written ++ rest) :
    readLines cs = (readLines rest).map (s.lines ++ ·) := by
  obtain ⟨path, fields⟩ := s
  obtain ⟨hne, hlength, hpath, hfields, -⟩ := h
  obtain ⟨name, names, rfl⟩ := List.exists_cons_of_ne_nil hne
  have hwritten : Section.written ⟨name :: names, fields⟩ ++ rest =
      '[' :: writtenPath (name :: names) ++ ']' :: '\n' ::
        (fields.flatMap (fun (name, v) => writtenField name v) ++ rest) := by
    rw [Section.written, toList_intercalate_path]
    simp
  -- the blank lines go with the header, and behind that there are none
  rw [hwritten] at hcs
  rw [readLines_cons hcs (reads_headerLine hpath hlength _), readLines_fields hfields,
    Option.map_map]
  rfl

/-- Written sections start with the bracket of the first header. -/
theorem exists_writtenSections_eq_cons (s : Section) (sections : List Section) :
    ∃ cs, ['\n'].intercalate ((s :: sections).map Section.written) = '[' :: cs := by
  cases sections with
  | nil =>
    rw [List.map_singleton, List.intercalate_singleton]
    exact ⟨_, rfl⟩
  | cons next sections =>
    rw [List.map_cons, List.map_cons, List.intercalate_cons_cons]
    exact ⟨_, rfl⟩

/-- **The lines of a written file.** -/
theorem readLines_render {sections : List Section} (h : ∀ s ∈ sections, s.IsWellNamed)
    {cs : List Char}
    (hcs : Toml.skipLines false cs = ['\n'].intercalate (sections.map Section.written)) :
    readLines cs = some (sections.flatMap Section.lines) := by
  induction sections generalizing cs with
  | nil => exact readLines_nil hcs
  | cons s sections ih =>
    rw [List.forall_mem_cons] at h
    cases sections with
    | nil =>
      rw [List.map_singleton, List.intercalate_singleton, ← List.append_nil s.written] at hcs
      rw [readLines_section h.1 hcs, readLines_nil rfl]
      rfl
    | cons next sections =>
      -- the blank line between the two sections is the last thing in front of the second
      rw [List.map_cons, List.map_cons, List.intercalate_cons_cons, List.append_assoc,
        List.singleton_append, ← List.map_cons] at hcs
      rw [readLines_section h.1 hcs, ih h.2]
      · rfl
      · obtain ⟨tail, hnext⟩ := exists_writtenSections_eq_cons next sections
        rw [hnext]
        rfl

/-! ## Tables -/

/-- Text without control characters is well formed. -/
theorem wellFormed_of_isAllowed {cs : List Char} (h : cs.all isAllowed = true) :
    wellFormed cs = true := by
  fun_induction wellFormed cs with
  | case1 => rfl
  | case2 rest ih =>
    -- there is no carriage return at all
    rw [List.all_cons, Bool.and_eq_true] at h
    exact absurd h.1 (by decide)
  | case3 c rest _ ih =>
    rw [List.all_cons, Bool.and_eq_true] at h
    rw [h.1, ih h.2]
    rfl

theorem isAllowed_of_isBare {c : Char} (h : isBare c = true) : isAllowed c = true := by
  simp only [isBare, Bool.or_eq_true, Bool.and_eq_true, decide_eq_true_eq] at h
  rcases h with (((⟨hlow, hhigh⟩ | ⟨hlow, hhigh⟩) | hdigit) | rfl) | rfl
  · exact isAllowed_of_between (by decide) (by decide) hlow hhigh
  · exact isAllowed_of_between (by decide) (by decide) hlow hhigh
  · exact isAllowed_of_isDigit hdigit
  · decide
  · decide

theorem IsBareName.isAllowed {name : String} (h : IsBareName name) :
    name.toList.all isAllowed = true := by
  rw [List.all_eq_true]
  intro c hc
  exact isAllowed_of_isBare (List.all_eq_true.mp h.2 c hc)

theorem isAllowed_writtenPath {path : List String} (h : ∀ name ∈ path, IsBareName name) :
    (writtenPath path).all isAllowed = true := by
  induction path with
  | nil => rfl
  | cons name names ih =>
    rw [List.forall_mem_cons] at h
    cases names with
    | nil =>
      rw [writtenPath, List.map_singleton, List.intercalate_singleton]
      exact h.1.isAllowed
    | cons next names =>
      rw [writtenPath_cons_cons, List.all_append, List.all_cons, h.1.isAllowed, ih h.2]
      rfl

/-- A written section may stand in a file. -/
theorem isAllowed_sectionWritten {s : Section} (h : s.IsWellNamed) :
    s.written.all isAllowed = true := by
  obtain ⟨-, -, hpath, hfields, -⟩ := h
  -- the header and each line are made of names, signs and a value
  have hlines : (s.fields.flatMap (fun (name, v) => writtenField name v)).all isAllowed =
      true := by
    rw [List.all_flatMap, List.all_eq_true]
    rintro ⟨name, v⟩ hfield
    have hname := (hfields name (List.mem_map_of_mem hfield)).isAllowed
    simp only [writtenField, List.all_append, hname, isAllowed_written]
    rfl
  rw [Section.written, toList_intercalate_path]
  simp only [List.cons_append, List.all_cons, List.all_append, isAllowed_writtenPath hpath, hlines]
  rfl

/-- Written sections may stand in a file, with the blank lines between them. -/
theorem isAllowed_writtenSections {sections : List Section} (h : ∀ s ∈ sections, s.IsWellNamed) :
    (['\n'].intercalate (sections.map Section.written)).all isAllowed = true := by
  induction sections with
  | nil => rfl
  | cons s sections ih =>
    rw [List.forall_mem_cons] at h
    cases sections with
    | nil =>
      rw [List.map_singleton, List.intercalate_singleton]
      exact isAllowed_sectionWritten h.1
    | cons next sections =>
      rw [List.map_cons, List.map_cons, List.intercalate_cons_cons, ← List.map_cons,
        List.all_append, List.all_append, isAllowed_sectionWritten h.1, ih h.2]
      rfl

/-- **The table of a written file** is what its lines make, one after the other. -/
theorem ofText?_render {sections : List Section} (h : ∀ s ∈ sections, s.IsWellNamed) :
    ofText? (render sections) = ((sections.flatMap Section.lines).foldlM Sheet.add? {}).map
      fun sheet => finishFields sheet.draft := by
  have hallowed := wellFormed_of_isAllowed (isAllowed_writtenSections h)
  -- the text starts with a bracket or is empty, so nothing is skipped in front of it
  have hfront : Toml.skipLines false (['\n'].intercalate (sections.map Section.written)) =
        ['\n'].intercalate (sections.map Section.written) ∧
      ∀ cs, ['\n'].intercalate (sections.map Section.written) ≠ '\uFEFF' :: cs := by
    cases sections with
    | nil => exact ⟨rfl, fun cs => by simp⟩
    | cons s sections =>
      obtain ⟨tail, hwritten⟩ := exists_writtenSections_eq_cons s sections
      rw [hwritten]
      exact ⟨rfl, fun cs => by simp⟩
  have hlines := readLines_render h hfront.1
  rw [ofText?, render, String.toList_ofList]
  split
  · rename_i cs hmark
    exact absurd hmark (hfront.2 cs)
  · rw [hallowed, if_pos rfl, hlines]
    simp only [Option.bind_eq_bind, Option.bind_some]
    cases (sections.flatMap Section.lines).foldlM Sheet.add? {} with
    | none => rfl
    | some sheet => rfl

end WikiSearch.Toml

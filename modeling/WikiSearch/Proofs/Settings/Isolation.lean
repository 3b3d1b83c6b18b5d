import Mathlib.Tactic.ByContra
import WikiSearch.Settings.Discovery

/-!
# WikiSearch — what lies beyond a root file has no say

Settings files are looked for from a directory upwards. The way ends for good at the first file
that says it is the root, and, as for what comes of it, also at the first file that is of no use:
the search does go on above such a file, but it is read before anything that is found there, and
reading it fails. So whatever lies further up or in the home directory, the outcome is the same.

The two cases are brought together by one lemma: with either file, what is loaded is the way up to
it and nothing else (`discover_eq_load`). Two trees that are alike that far then load the same.

Main results:

* `Path.pairwise_ancestors` — a path leads through each directory once.
* `walk_append` — how far the search goes.
* `discover_eq_load` — what is loaded where the way ends.
* `discover_isolated` — no file beyond the end of the way matters, and no file counts twice.
-/

namespace WikiSearch

/-! ## The directories around a path -/

namespace Path

/-- The directories around a path are above it. -/
theorem length_steps_le_of_mem_ancestors {path dir : Path} (h : dir ∈ path.ancestors) :
    dir.steps.length ≤ path.steps.length := by
  fun_induction ancestors path with
  | case1 path hnone =>
    obtain rfl := List.mem_singleton.mp h
    exact Nat.le_refl _
  | case2 path parent hparent ih =>
    rcases List.mem_cons.mp h with rfl | h
    · exact Nat.le_refl _
    · -- the parent has one step less
      obtain ⟨name, hsteps⟩ := steps_parent? hparent
      have hle := ih h
      rw [hsteps, List.length_append, List.length_singleton]
      omega

/-- **A path leads through each directory once**: every one is further up than those in front. -/
theorem pairwise_ancestors (path : Path) :
    path.ancestors.Pairwise fun dir above => above.steps.length < dir.steps.length := by
  fun_induction ancestors path with
  | case1 path hnone => exact List.pairwise_singleton _ _
  | case2 path parent hparent ih =>
    refine List.pairwise_cons.mpr ⟨fun above habove => ?_, ih⟩
    obtain ⟨name, hsteps⟩ := steps_parent? hparent
    have hle := length_steps_le_of_mem_ancestors habove
    rw [hsteps, List.length_append, List.length_singleton]
    omega

theorem sameAs_comm (path other : Path) : path.sameAs other = other.sameAs path := by
  simp only [sameAs, eq_comm]

/-- The same path has as many steps. -/
theorem sameAs_of_length_ne {path other : Path} (h : path.steps.length ≠ other.steps.length) :
    path.sameAs other = false := by
  have hsteps : path.steps ≠ other.steps := fun heq => h (congrArg List.length heq)
  simp [sameAs, hsteps]

end Path

namespace Settings

/-! ## The way up -/

/-- The settings files in some directories. -/
def filesIn (tree : FileTree) (dirs : List Path) : List Path :=
  (dirs.map (·.child fileName)).filter tree.isFile

/-- The way up ends at a place if there is a file that says it is the root, or one that is of no
use. -/
def EndsAt (tree : FileTree) (place : Path) : Prop :=
  tree.isFile place = true ∧
    ∀ layer, Layer.load tree place = .ok layer → layer.root = some true

/-- Two trees are alike at a place: there is a file in both of them or in neither, and it reads
the same. -/
structure AlikeAt (tree tree' : FileTree) (place : Path) : Prop where
  isFile_eq : tree.isFile place = tree'.isFile place
  read_eq : tree.isFile place = true → tree.read place = tree'.read place

section Tree

variable {tree : FileTree} {place : Path}

/-- What can be loaded is a file. -/
theorem isFile_of_load {layer : Layer} (h : Layer.load tree place = .ok layer) :
    tree.isFile place = true := by
  rw [Layer.load, FileTree.read] at h
  rw [FileTree.isFile]
  cases hfind : tree.find place with
  | error reason => simp [hfind] at h
  | ok entry =>
    cases entry with
    | file content => rfl
    | directory => simp [hfind] at h

/-- A root is a file that can be loaded and says that it is one. -/
theorem isRoot_iff :
    isRoot tree place = true ↔ ∃ layer, Layer.load tree place = .ok layer ∧
      layer.root = some true := by
  rw [isRoot]
  cases Layer.load tree place with
  | error e => simp
  | ok layer => simp

/-- The way ends at a file that can be loaded if that says it is the root. -/
theorem endsAt_iff_of_load {layer : Layer} (h : Layer.load tree place = .ok layer) :
    EndsAt tree place ↔ layer.root = some true := by
  constructor
  · intro hend
    exact hend.2 layer h
  · intro hroot
    refine ⟨isFile_of_load h, fun other hother => ?_⟩
    rw [h, Except.ok.injEq] at hother
    rw [← hother, hroot]

/-- Where the way does not end, every file can be loaded. -/
theorem exists_layer_of_not_endsAt (h : ¬ EndsAt tree place) (hfile : tree.isFile place = true) :
    ∃ layer, Layer.load tree place = .ok layer := by
  cases hload : Layer.load tree place with
  | error e => exact absurd ⟨hfile, fun layer hlayer => by simp [hload] at hlayer⟩ h
  | ok layer => exact ⟨layer, rfl⟩

/-- Where the way does not end there is no root. -/
theorem isRoot_of_not_endsAt (h : ¬ EndsAt tree place) : isRoot tree place = false := by
  rw [Bool.eq_false_iff]
  intro hroot
  obtain ⟨layer, hlayer, htrue⟩ := isRoot_iff.mp hroot
  exact h ((endsAt_iff_of_load hlayer).mpr htrue)

/-- The way ends at a root, or at a file that cannot be loaded. -/
theorem EndsAt.cases (h : EndsAt tree place) :
    isRoot tree place = true ∨ ∃ e, Layer.load tree place = .error e := by
  cases hload : Layer.load tree place with
  | error e => exact .inr ⟨e, rfl⟩
  | ok layer => exact .inl (isRoot_iff.mpr ⟨layer, hload, (endsAt_iff_of_load hload).mp h⟩)

end Tree

/-! ## The search -/

section Search

variable {tree : FileTree} {below : List Path}

/-- **How far the search goes.** Directories without a root in them are passed through, and their
files are taken along. -/
theorem walk_append (h : ∀ d ∈ below, isRoot tree (d.child fileName) = false)
    (above : List Path) :
    walk tree (below ++ above) =
      (filesIn tree below ++ (walk tree above).1, (walk tree above).2) := by
  induction below with
  | nil => rfl
  | cons d below ih =>
    rw [List.forall_mem_cons] at h
    rw [List.cons_append, walk, ih h.2]
    -- a directory without a settings file adds nothing, and one with a file adds it and goes on
    cases hfile : tree.isFile (d.child fileName) with
    | false => simp [filesIn, hfile]
    | true => simp [filesIn, hfile, h.1]

/-- Without a root the search goes all the way up. -/
theorem walk_eq_of_not_root (h : ∀ d ∈ below, isRoot tree (d.child fileName) = false) :
    walk tree below = (filesIn tree below, .top) := by
  have hwalk := walk_append h []
  simpa only [List.append_nil, walk] using hwalk

/-- A search finds files where they are looked for, in that order. -/
theorem walk_sublist (tree : FileTree) (dirs : List Path) :
    (walk tree dirs).1.Sublist (dirs.map (·.child fileName)) := by
  induction dirs with
  | nil => exact List.Sublist.refl _
  | cons d dirs ih =>
    rw [walk, List.map_cons]
    split
    · exact ih.cons _
    · split
      · -- a root is the last file that is found
        exact (List.nil_sublist _).cons_cons _
      · exact ih.cons_cons _

theorem mem_filesIn {dirs : List Path} {place : Path} :
    place ∈ filesIn tree dirs ↔
      (∃ d ∈ dirs, d.child fileName = place) ∧ tree.isFile place = true := by
  rw [filesIn, List.mem_filter, List.mem_map]

end Search

/-! ## Loading several files -/

section Load

variable {tree tree' : FileTree} {paths rest : List Path}

/-- What comes of some files that are used: settings from all of them, or what is wrong with the
last one. -/
def Yields (tree : FileTree) (files : List Path) (result : Except LoadError Configuration) : Prop :=
  (∃ configuration, result = .ok configuration ∧ configuration.sources = files.map Path.text) ∨
    ∃ last e, files.getLast? = some last ∧ Layer.load tree last = .error e ∧ result = .error e

/-- Files that can all be loaded give settings from all of them. -/
theorem yields_of_usable (h : ∀ p ∈ paths, ∃ layer, Layer.load tree p = .ok layer) :
    Yields tree paths (Configuration.load tree paths) := by
  -- the files are read one by one, and each keeps its name
  have hread : ∃ layers : List (String × Layer),
      (paths.mapM fun path => (Layer.load tree path).map (path.text, ·)) = .ok layers ∧
        layers.map (·.1) = paths.map Path.text := by
    induction paths with
    | nil => exact ⟨[], rfl, rfl⟩
    | cons p paths ih =>
      rw [List.forall_mem_cons] at h
      obtain ⟨⟨layer, hlayer⟩, hpaths⟩ := h
      obtain ⟨layers, hlayers, hnames⟩ := ih hpaths
      refine ⟨(p.text, layer) :: layers, ?_, by rw [List.map_cons, List.map_cons, hnames]⟩
      rw [List.mapM_cons, hlayer, hlayers]
      rfl
  obtain ⟨layers, hlayers, hnames⟩ := hread
  refine .inl ⟨Configuration.ofLayers layers, ?_, hnames⟩
  rw [Configuration.load, hlayers]
  rfl

/-- The first file that cannot be loaded is the one that is reported, whatever comes behind it. -/
theorem load_append_of_error {e : LoadError} {place : Path}
    (h : ∀ p ∈ paths, ∃ layer, Layer.load tree p = .ok layer)
    (hplace : Layer.load tree place = .error e) (rest : List Path) :
    Configuration.load tree (paths ++ place :: rest) = .error e := by
  have hread : ((paths ++ place :: rest).mapM fun path =>
      (Layer.load tree path).map (path.text, ·)) = .error e := by
    -- the files in front are read one by one until the bad one is reached
    induction paths with
    | nil =>
      rw [List.nil_append, List.mapM_cons, hplace]
      rfl
    | cons p paths ih =>
      rw [List.forall_mem_cons] at h
      obtain ⟨⟨layer, hlayer⟩, hpaths⟩ := h
      rw [List.cons_append, List.mapM_cons, hlayer, ih hpaths]
      rfl
  rw [Configuration.load, hread]
  rfl

/-- Files of which only the last may be of no use. -/
theorem yields_append (h : ∀ p ∈ paths, ∃ layer, Layer.load tree p = .ok layer)
    (last : Option Path) :
    Yields tree (paths ++ last.toList) (Configuration.load tree (paths ++ last.toList)) := by
  cases last with
  | none =>
    rw [Option.toList_none, List.append_nil]
    exact yields_of_usable h
  | some place =>
    -- if the last one can be loaded as well, all of them can
    cases hplace : Layer.load tree place with
    | error e =>
      exact .inr ⟨place, e, by simp, hplace, load_append_of_error h hplace []⟩
    | ok layer =>
      refine yields_of_usable fun p hp => ?_
      rcases List.mem_append.mp hp with hp | hp
      · exact h p hp
      · exact ⟨layer, List.mem_singleton.mp hp ▸ hplace⟩

/-- Files that load the same give the same settings. -/
theorem load_congr (h : ∀ p ∈ paths, Layer.load tree p = Layer.load tree' p) :
    Configuration.load tree paths = Configuration.load tree' paths := by
  have hread : (paths.mapM fun path => (Layer.load tree path).map (path.text, ·)) =
      paths.mapM fun path => (Layer.load tree' path).map (path.text, ·) := by
    induction paths with
    | nil => rfl
    | cons p paths ih =>
      rw [List.forall_mem_cons] at h
      rw [List.mapM_cons, List.mapM_cons, h.1, ih h.2]
  rw [Configuration.load, Configuration.load, hread]

end Load

/-! ## Where the way ends -/

section End

variable {tree : FileTree} {dir top : Path} {below above : List Path}

/-- The files on the way up to its end can be loaded. -/
theorem exists_layer_of_mem_filesIn (hbelow : ∀ d ∈ below, ¬ EndsAt tree (d.child fileName)) :
    ∀ p ∈ filesIn tree below, ∃ layer, Layer.load tree p = .ok layer := by
  intro p hp
  obtain ⟨⟨d, hd, rfl⟩, hfile⟩ := mem_filesIn.mp hp
  exact exists_layer_of_not_endsAt (hbelow d hd) hfile

/-- **What is loaded where the way ends**: the files up to there, and nothing else. -/
theorem discover_eq_load (hdir : dir.ancestors = below ++ top :: above)
    (hbelow : ∀ d ∈ below, ¬ EndsAt tree (d.child fileName))
    (htop : EndsAt tree (top.child fileName)) (home : Option Path) :
    Configuration.discover tree home dir =
      Configuration.load tree (filesIn tree below ++ [top.child fileName]) := by
  have hwalk := walk_append (fun d hd => isRoot_of_not_endsAt (hbelow d hd)) (top :: above)
  rw [Configuration.discover, Settings.discover, hdir, hwalk, walk]
  cases hroot : isRoot tree (top.child fileName) with
  | true =>
    -- the search ends there, and the home directory is not asked
    simp [htop.1, Discovery.files]
  | false =>
    -- the search goes on, but nothing that it finds is reached
    obtain ⟨e, he⟩ := htop.cases.resolve_left (by simp [hroot])
    have husable := exists_layer_of_mem_filesIn hbelow
    rw [load_append_of_error husable he []]
    simp only [htop.1, Bool.not_true, Bool.false_eq_true, if_false, Discovery.files,
      List.append_assoc, List.cons_append]
    exact load_append_of_error husable he _

end End

/-! ## Trees that are alike -/

section Alike

variable {tree tree' : FileTree} {place : Path}

/-- Two trees are alike where they hold the same. -/
theorem AlikeAt.of_find_eq (h : tree.find place = tree'.find place) : AlikeAt tree tree' place where
  isFile_eq := by rw [FileTree.isFile, FileTree.isFile, h]
  read_eq _ := by rw [FileTree.read, FileTree.read, h]

theorem AlikeAt.load_eq (h : AlikeAt tree tree' place) (hfile : tree.isFile place = true) :
    Layer.load tree place = Layer.load tree' place := by
  rw [Layer.load, Layer.load, h.read_eq hfile]

/-- The way ends in both of two trees that are alike there, or in neither. -/
theorem AlikeAt.endsAt_iff (h : AlikeAt tree tree' place) :
    EndsAt tree place ↔ EndsAt tree' place := by
  rw [EndsAt, EndsAt, ← h.isFile_eq]
  refine and_congr_right fun hfile => ?_
  rw [h.load_eq hfile]

/-- In trees that are alike in some directories the same files lie there. -/
theorem filesIn_congr {dirs : List Path}
    (h : ∀ d ∈ dirs, AlikeAt tree tree' (d.child fileName)) :
    filesIn tree dirs = filesIn tree' dirs := by
  refine List.filter_congr fun p hp => ?_
  obtain ⟨d, hd, rfl⟩ := List.mem_map.mp hp
  exact (h d hd).isFile_eq

end Alike

/-! ## The files that are found -/

section Found

variable {tree : FileTree} {home : Option Path} {dir : Path}

/-- The file in the home directory is a file, and it is none of those on the way. -/
theorem global_eq_some {file : Path} (h : (Settings.discover tree home dir).global = some file) :
    tree.isFile file = true ∧
      ∀ p ∈ (Settings.discover tree home dir).walked, file.sameAs p = false := by
  simp only [Settings.discover] at h ⊢
  cases hend : (walk tree dir.ancestors).2 with
  | rootFile root => simp [hend] at h
  | top =>
    simp only [hend, Option.filter_eq_some_iff, Bool.and_eq_true, Bool.not_eq_true',
      List.any_eq_false, Bool.not_eq_true] at h
    exact h.2

/-- **No file counts twice.** Those on the way lie in different directories, and the one in the
home directory is left out if it is among them. -/
theorem pairwise_files (tree : FileTree) (home : Option Path) (dir : Path) :
    (Settings.discover tree home dir).files.Pairwise fun p q => p.sameAs q = false := by
  -- each directory is further up than those before it, so no two places have as many steps
  have hplaces : (dir.ancestors.map (·.child fileName)).Pairwise
      fun p q => p.sameAs q = false := by
    rw [List.pairwise_map]
    refine (Path.pairwise_ancestors dir).imp fun {d above} hlt => ?_
    refine Path.sameAs_of_length_ne ?_
    rw [Path.steps_child (by decide) (by decide), Path.steps_child (by decide) (by decide),
      List.length_append, List.length_append]
    omega
  have hwalked : (Settings.discover tree home dir).walked.Pairwise
      fun p q => p.sameAs q = false := hplaces.sublist (walk_sublist tree dir.ancestors)
  rw [Discovery.files]
  cases hglobal : (Settings.discover tree home dir).global with
  | none => simpa using hwalked
  | some file =>
    refine List.pairwise_append.mpr ⟨hwalked, List.pairwise_singleton _ _, fun p hp q hq => ?_⟩
    obtain rfl := List.mem_singleton.mp hq
    rw [Path.sameAs_comm]
    exact (global_eq_some hglobal).2 p hp

/-- The file in the home directory, unless it is among those in some directories. -/
def fileAtHome (tree : FileTree) (home : Option Path) (dirs : List Path) : Option Path :=
  (home.map homeFile).filter fun file =>
    tree.isFile file && !(filesIn tree dirs).any file.sameAs

/-- Where the way goes all the way up, all files on it are found, and the one in the home
directory comes behind them unless it is among them. -/
theorem files_of_not_endsAt (h : ∀ d ∈ dir.ancestors, ¬ EndsAt tree (d.child fileName)) :
    (Settings.discover tree home dir).files =
      filesIn tree dir.ancestors ++ (fileAtHome tree home dir.ancestors).toList := by
  -- the search itself leaves the file at home out if it was met on the way
  rw [Discovery.files, Settings.discover,
    walk_eq_of_not_root fun d hd => isRoot_of_not_endsAt (h d hd), fileAtHome]

end Found

/-! ## Main results -/

/-- **Nothing beyond the end of the way matters.** Let the way up from a directory end at some
file, which says that it is the root or is of no use. Then settings come of the files up to there,
or else what is wrong with that file is reported; and every tree that is alike at the places up to
there gives the same, whatever else it holds and whatever the home directory is. If the way does
not end, the files that are used are those on it, with the one in the home directory behind them
if there is one and it is not on the way. In no case is a file used twice. -/
theorem discover_isolated (tree : FileTree) (home : Option Path) (dir : Path) :
    (∀ below top above, dir.ancestors = below ++ top :: above →
      (∀ d ∈ below, ¬ EndsAt tree (d.child fileName)) → EndsAt tree (top.child fileName) →
      Yields tree (filesIn tree below ++ [top.child fileName])
        (Configuration.discover tree home dir) ∧
      ∀ tree' home', (∀ d ∈ below ++ [top], AlikeAt tree tree' (d.child fileName)) →
        Configuration.discover tree' home' dir = Configuration.discover tree home dir) ∧
    ((∀ d ∈ dir.ancestors, ¬ EndsAt tree (d.child fileName)) →
      (Settings.discover tree home dir).files =
        filesIn tree dir.ancestors ++ (fileAtHome tree home dir.ancestors).toList ∧
      Yields tree (Settings.discover tree home dir).files
        (Configuration.discover tree home dir)) ∧
    (Settings.discover tree home dir).files.Pairwise fun p q => p.sameAs q = false := by
  refine ⟨fun below top above hdir hbelow htop => ⟨?_, fun tree' home' halike => ?_⟩,
    fun hopen => ⟨files_of_not_endsAt hopen, ?_⟩, pairwise_files tree home dir⟩
  · rw [discover_eq_load hdir hbelow htop]
    exact yields_append (exists_layer_of_mem_filesIn hbelow) (some (top.child fileName))
  · -- in the other tree the way ends at the same place
    rw [List.forall_mem_append] at halike
    obtain ⟨hlower, hupper⟩ := halike
    have hhere := hupper top (List.mem_singleton.mpr rfl)
    have hbelow' : ∀ d ∈ below, ¬ EndsAt tree' (d.child fileName) := fun d hd =>
      mt (hlower d hd).endsAt_iff.mpr (hbelow d hd)
    rw [discover_eq_load hdir hbelow htop, discover_eq_load hdir hbelow' (hhere.endsAt_iff.mp htop),
      ← filesIn_congr hlower]
    -- and so the same files are loaded, with the same texts
    refine (load_congr fun p hp => ?_).symm
    rcases List.mem_append.mp hp with hp | hp
    · obtain ⟨⟨d, hd, rfl⟩, hfile⟩ := mem_filesIn.mp hp
      exact (hlower d hd).load_eq hfile
    · obtain rfl := List.mem_singleton.mp hp
      exact hhere.load_eq htop.1
  · rw [Configuration.discover, files_of_not_endsAt hopen]
    exact yields_append (exists_layer_of_mem_filesIn hopen) _

/-- A tree with some files in it. -/
def filesTree (files : List (Path × Except ReadError String)) : FileTree where
  find path :=
    match files.find? (·.1 = path) with
    | some (_, content) => .ok (.file content)
    | none => .error .notFound

/-- A tree with settings in `/srv/work` and in `/srv`, and with other files. -/
def nestedTree (text : String) (others : List (Path × Except ReadError String)) : FileTree :=
  filesTree ((⟨true, ["srv", "work", fileName]⟩, .ok "[parser]\nmax_query_length = 40\n") ::
    (⟨true, ["srv", fileName]⟩, .ok text) :: others)

/-- A file that is there and can be read as settings is loaded. -/
theorem load_of_find_eq {tree : FileTree} {place : Path} {text : String} {layer : Layer}
    (hfind : tree.find place = .ok (.file (.ok text)))
    (htext : (Layer.ofText text).toOption = some layer) : Layer.load tree place = .ok layer := by
  rw [Layer.load, FileTree.read, hfind]
  cases hread : Layer.ofText text with
  | error defect =>
    rw [hread] at htext
    contradiction
  | ok read =>
    rw [hread] at htext
    obtain rfl := Option.some.inj htext
    show Layer.ofFile place.text text = _
    rw [Layer.ofFile_eq, hread]
    rfl

/-- From `/srv/work`, a root in `/srv` hides a broken file above it and the home directory; with no
root there, the home directory counts. -/
theorem discover_isolated_of_nested :
    let work : Path := ⟨true, ["srv", "work"]⟩
    let above : Path := ⟨true, ["srv"]⟩
    let home : Path := ⟨true, ["home"]⟩
    let closed := nestedTree "root = true\n" []
    let beyond := nestedTree "root = true\n"
      [(⟨true, ["home", fileName]⟩, .ok ""), (⟨true, [fileName]⟩, .error .notText)]
    let passable := nestedTree "root = false\n" [(⟨true, ["home", fileName]⟩, .ok "")]
    (¬ EndsAt closed (work.child fileName) ∧ EndsAt closed (above.child fileName) ∧
      Configuration.discover beyond (some home) work = Configuration.discover closed none work) ∧
    (∀ d ∈ work.ancestors, ¬ EndsAt passable (d.child fileName)) ∧
      (Settings.discover passable (some home) work).files =
        [work.child fileName, above.child fileName, home.child fileName] := by
  intro work above home closed beyond passable
  have hancestors : work.ancestors = [work, above, ⟨true, []⟩] := by decide +kernel
  have hwork (text : String) (others : List (Path × Except ReadError String)) :
      ¬ EndsAt (nestedTree text others) (work.child fileName) := by
    have hload : Layer.load (nestedTree text others) (work.child fileName) =
        .ok { parser := some { maxLength := some 40 } } := load_of_find_eq rfl (by decide +kernel)
    simp [endsAt_iff_of_load hload]
  refine ⟨?_, ?_⟩
  · -- the root in the directory above ends the way, so the two trees need be alike up to it only
    have habove : Layer.load closed (above.child fileName) = .ok { root := some true } :=
      load_of_find_eq rfl (by decide +kernel)
    have htop : EndsAt closed (above.child fileName) := by simp [endsAt_iff_of_load habove]
    refine ⟨hwork _ _, htop, ((discover_isolated closed none work).1 [work] above [⟨true, []⟩]
      hancestors (by simpa using hwork _ _) htop).2 beyond (some home) ?_⟩
    rw [List.forall_mem_append, List.forall_mem_singleton, List.forall_mem_singleton]
    exact ⟨.of_find_eq rfl, .of_find_eq rfl⟩
  · -- without a root the way goes on to the top, where there is no file
    have habove : Layer.load passable (above.child fileName) = .ok { root := some false } :=
      load_of_find_eq rfl (by decide +kernel)
    have htop : ¬ EndsAt passable (Path.child ⟨true, []⟩ fileName) := by
      have hnone : passable.isFile (Path.child ⟨true, []⟩ fileName) = false := rfl
      simp [EndsAt, hnone]
    have hopen : ∀ d ∈ work.ancestors, ¬ EndsAt passable (d.child fileName) := by
      simp [hancestors, hwork, endsAt_iff_of_load habove, htop, passable]
    refine ⟨hopen, ((discover_isolated passable (some home) work).2.1 hopen).1.trans ?_⟩
    rw [hancestors]
    rfl

end Settings

end WikiSearch

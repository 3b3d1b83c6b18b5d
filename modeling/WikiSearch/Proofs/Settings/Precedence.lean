import WikiSearch.Settings.Configuration

/-!
# WikiSearch — the closest file decides

Files are merged from the one furthest away to the closest, each overwriting what it sets. What
comes out should not be read off that order of events: for every single setting, the value is the
one in the first file that sets it, whatever else that file or any other file says. Two things
could go wrong on the way, a section that is taken as a whole and so resets what it leaves open,
and a value that is put in the place of another setting; so each of the sixteen settings is
followed by itself, from its place in a file to its place in the merged settings.

* `Setting` — the settings, with their places in a file (`set?`) and among the merged ones (`get`).
* `get_over` — one file over others: what it sets, and nothing else.
* `get_ofLayers_eq` — the closest file that sets a setting decides.
-/

namespace WikiSearch.Settings

/-! ## The settings one by one -/

/-- A single setting. -/
inductive Setting where
  | maxLength
  | leadingWildcards
  | strictMatching
  | exemptKeywords
  | defaultOccur
  | pageIds
  | recommendationFlags
  | categories
  | topics
  | disabled
  | callBudget
  | suggestEnabled
  | suggestMayReplace
  | suggestThreshold
  | lookupEnabled
  | lookupMayReplace
deriving DecidableEq, Repr

namespace Setting

/-- What a setting can be set to. -/
def Value : Setting → Type
  | maxLength | pageIds | recommendationFlags | categories | topics | callBudget
  | suggestThreshold => Nat
  | leadingWildcards | strictMatching | suggestEnabled | suggestMayReplace | lookupEnabled
  | lookupMayReplace => Bool
  | exemptKeywords | disabled => List String
  | defaultOccur => PlainOccur

/-- What a file sets a setting to, if it does. A section that is missing sets nothing. -/
def set? : (x : Setting) → Layer → Option x.Value
  | maxLength, l => l.parser.bind (·.maxLength)
  | leadingWildcards, l => l.parser.bind (·.leadingWildcards)
  | strictMatching, l => l.parser.bind (·.strictMatching)
  | exemptKeywords, l => l.parser.bind (·.exemptKeywords)
  | defaultOccur, l => l.parser.bind (·.defaultOccur)
  | pageIds, l => l.keywords.bind (·.pageIds)
  | recommendationFlags, l => l.keywords.bind (·.recommendationFlags)
  | categories, l => l.keywords.bind (·.categories)
  | topics, l => l.keywords.bind (·.topics)
  | disabled, l => l.keywords.bind (·.disabled)
  | callBudget, l => l.fallback.bind (·.callBudget)
  | suggestEnabled, l => l.fallback.bind (·.phraseSuggest.bind (·.enabled))
  | suggestMayReplace, l => l.fallback.bind (·.phraseSuggest.bind (·.mayReplace))
  | suggestThreshold, l => l.fallback.bind (·.phraseSuggest.bind (·.hitsThreshold))
  | lookupEnabled, l => l.fallback.bind (·.indexLookup.bind (·.enabled))
  | lookupMayReplace, l => l.fallback.bind (·.indexLookup.bind (·.mayReplace))

/-- The value of a setting. -/
def get : (x : Setting) → Settings → x.Value
  | maxLength, s => s.parser.maxLength
  | leadingWildcards, s => s.parser.leadingWildcards
  | strictMatching, s => s.parser.strictMatching
  | exemptKeywords, s => s.parser.exemptKeywords
  | defaultOccur, s => s.parser.defaultOccur
  | pageIds, s => s.keywords.caps.pageIds
  | recommendationFlags, s => s.keywords.caps.recommendationFlags
  | categories, s => s.keywords.caps.categories
  | topics, s => s.keywords.caps.topics
  | disabled, s => s.keywords.disabled
  | callBudget, s => s.fallback.callBudget
  | suggestEnabled, s => s.fallback.phraseSuggest.enabled
  | suggestMayReplace, s => s.fallback.phraseSuggest.mayReplace
  | suggestThreshold, s => s.fallback.phraseSuggest.hitsThreshold
  | lookupEnabled, s => s.fallback.indexLookup.enabled
  | lookupMayReplace, s => s.fallback.indexLookup.mayReplace

/-- The value of a setting that no file sets: what queries, keywords and fallbacks go by
themselves. -/
def unset : (x : Setting) → x.Value
  | maxLength => defaultMaxLength
  | leadingWildcards => ({} : QueryOptions).leadingWildcards
  | strictMatching => ({} : QueryOptions).strictMatching
  | exemptKeywords => defaultExemptKeywords
  | defaultOccur => .must
  | pageIds => ({} : Caps).pageIds
  | recommendationFlags => ({} : Caps).recommendationFlags
  | categories => ({} : Caps).categories
  | topics => ({} : Caps).topics
  | disabled => []
  | callBudget => ({} : Fallback.Profile).callBudget
  | suggestEnabled => ({} : Fallback.Profile).phraseSuggest.enabled
  | suggestMayReplace => ({} : Fallback.Profile).phraseSuggest.mayReplace
  | suggestThreshold => ({} : Fallback.Profile).phraseSuggest.hitsThreshold
  | lookupEnabled => ({} : Fallback.Profile).indexLookup.enabled
  | lookupMayReplace => ({} : Fallback.Profile).indexLookup.mayReplace

end Setting

/-! ## One file over others -/

/-- A setting in a section, under one more file: what that file sets it to in this section, if it
has the section and sets it there. -/
theorem get_section {ρ σ α : Type} (layOver : ρ → σ → σ) (get : σ → α) (set? : ρ → Option α)
    (h : ∀ l s, get (layOver l s) = (set? l).getD (get s)) {section? : Option ρ} {s : σ} :
    get ((section?.map (layOver · s)).getD s) = (section?.bind set?).getD (get s) := by
  cases section? with
  | none => rfl
  | some l => exact h l s

/-- **One file over others** overwrites a setting exactly if it sets it. -/
theorem Setting.get_over (x : Setting) (layer : Layer) (s : Settings) :
    x.get (layer.over s) = (x.set? layer).getD (x.get s) := by
  cases x with
  | maxLength => exact get_section ParserLayer.over (·.maxLength) (·.maxLength) fun _ _ => rfl
  | leadingWildcards =>
    exact get_section ParserLayer.over (·.leadingWildcards) (·.leadingWildcards) fun _ _ => rfl
  | strictMatching =>
    exact get_section ParserLayer.over (·.strictMatching) (·.strictMatching) fun _ _ => rfl
  | exemptKeywords =>
    exact get_section ParserLayer.over (·.exemptKeywords) (·.exemptKeywords) fun _ _ => rfl
  | defaultOccur =>
    exact get_section ParserLayer.over (·.defaultOccur) (·.defaultOccur) fun _ _ => rfl
  | pageIds => exact get_section KeywordLayer.over (·.caps.pageIds) (·.pageIds) fun _ _ => rfl
  | recommendationFlags =>
    exact get_section KeywordLayer.over (·.caps.recommendationFlags) (·.recommendationFlags)
      fun _ _ => rfl
  | categories =>
    exact get_section KeywordLayer.over (·.caps.categories) (·.categories) fun _ _ => rfl
  | topics => exact get_section KeywordLayer.over (·.caps.topics) (·.topics) fun _ _ => rfl
  | disabled => exact get_section KeywordLayer.over (·.disabled) (·.disabled) fun _ _ => rfl
  | callBudget => exact get_section FallbackLayer.over (·.callBudget) (·.callBudget) fun _ _ => rfl
  -- the last two sections stand in another one
  | suggestEnabled =>
    refine get_section FallbackLayer.over (·.phraseSuggest.enabled)
      (·.phraseSuggest.bind (·.enabled)) fun _ _ => ?_
    exact get_section PhraseSuggestLayer.over (·.enabled) (·.enabled) fun _ _ => rfl
  | suggestMayReplace =>
    refine get_section FallbackLayer.over (·.phraseSuggest.mayReplace)
      (·.phraseSuggest.bind (·.mayReplace)) fun _ _ => ?_
    exact get_section PhraseSuggestLayer.over (·.mayReplace) (·.mayReplace) fun _ _ => rfl
  | suggestThreshold =>
    refine get_section FallbackLayer.over (·.phraseSuggest.hitsThreshold)
      (·.phraseSuggest.bind (·.hitsThreshold)) fun _ _ => ?_
    exact get_section PhraseSuggestLayer.over (·.hitsThreshold) (·.hitsThreshold) fun _ _ => rfl
  | lookupEnabled =>
    refine get_section FallbackLayer.over (·.indexLookup.enabled)
      (·.indexLookup.bind (·.enabled)) fun _ _ => ?_
    exact get_section IndexLookupLayer.over (·.enabled) (·.enabled) fun _ _ => rfl
  | lookupMayReplace =>
    refine get_section FallbackLayer.over (·.indexLookup.mayReplace)
      (·.indexLookup.bind (·.mayReplace)) fun _ _ => ?_
    exact get_section IndexLookupLayer.over (·.mayReplace) (·.mayReplace) fun _ _ => rfl

theorem Setting.get_default (x : Setting) : x.get {} = x.unset := by
  cases x <;> rfl

/-! ## All files -/

/-- The value of a setting under some layers, the closest first. -/
theorem Setting.get_ofLayers (x : Setting) (layers : List Layer) :
    x.get (ofLayers layers) = (layers.findSome? x.set?).getD x.unset := by
  induction layers with
  | nil => exact x.get_default
  | cons layer layers ih =>
    rw [ofLayers_cons, get_over, ih, List.findSome?_cons]
    -- either the layer on top sets it or the search goes on below
    cases x.set? layer with
    | none => rfl
    | some v => rfl

/-- **The closest file decides.** Whatever files there are, the closest first, each of the sixteen
settings has the value that the first file sets it to which sets it at all, and the value that
queries, keywords and fallbacks have by themselves if no file does. So a file that leaves a
setting open has no say in it, wherever it stands and whichever sections it has; and files that
are added behind the others change no setting that one of the others sets. -/
theorem get_ofLayers_eq (files : List (String × Layer)) (x : Setting) :
    x.get (Configuration.ofLayers files).settings =
      (files.findSome? fun file => x.set? file.2).getD x.unset ∧
    (∀ before file after, files = before ++ file :: after → x.set? file.2 = none →
      x.get (Configuration.ofLayers files).settings =
        x.get (Configuration.ofLayers (before ++ after)).settings) ∧
    ∀ further, (∃ file ∈ files, (x.set? file.2).isSome = true) →
      x.get (Configuration.ofLayers (files ++ further)).settings =
        x.get (Configuration.ofLayers files).settings := by
  have hget (files : List (String × Layer)) : x.get (Configuration.ofLayers files).settings =
      (files.findSome? fun file => x.set? file.2).getD x.unset := by
    show x.get (ofLayers (files.map (·.2))) = _
    rw [Setting.get_ofLayers, List.findSome?_map]
    rfl
  refine ⟨hget files, ?_, ?_⟩
  · rintro before file after rfl hnone
    rw [hget, hget, List.findSome?_append, List.findSome?_append, List.findSome?_cons, hnone]
  · rintro further hset
    -- the search ends before it comes to the files behind
    obtain ⟨v, hv⟩ := Option.isSome_iff_exists.mp (List.findSome?_isSome_iff.mpr hset)
    rw [hget, hget, List.findSome?_append, hv]
    rfl

/-- A list from the closer file is taken alone, even if it is empty; a section that leaves the
length open does not reset it; and a third file has no say in either. -/
theorem get_ofLayers_eq_of_sections :
    let near : String × Layer :=
      ("/a/b", { parser := some { strictMatching := some true }
                 keywords := some { disabled := some [] } })
    let far : String × Layer :=
      ("/a", { parser := some { maxLength := some 50 }
               keywords := some { disabled := some ["pageid"] } })
    let last : String × Layer :=
      ("/", { parser := some { maxLength := some 7, strictMatching := some false } })
    Setting.maxLength.get (Configuration.ofLayers [near, far]).settings =
        Setting.maxLength.get (Configuration.ofLayers [far]).settings ∧
      Setting.maxLength.get (Configuration.ofLayers [near, far, last]).settings =
        Setting.maxLength.get (Configuration.ofLayers [near, far]).settings ∧
      Setting.disabled.get (Configuration.ofLayers [near, far]).settings = ([] : List String) := by
  intro near far last
  obtain ⟨-, hopen, hfurther⟩ := get_ofLayers_eq [near, far] .maxLength
  -- the nearer file has the section but leaves this setting open
  have hset : ∃ file ∈ [near, far], (Setting.maxLength.set? file.2).isSome = true :=
    ⟨far, List.mem_cons_of_mem _ (List.mem_cons_self ..), rfl⟩
  exact ⟨hopen [] near [far] rfl rfl, hfurther [last] hset, (get_ofLayers_eq _ .disabled).1⟩

end WikiSearch.Settings

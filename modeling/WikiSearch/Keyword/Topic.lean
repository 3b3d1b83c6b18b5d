import WikiSearch.Keyword.Entries
import WikiSearch.Keyword.Feature
import WikiSearch.Text.Lowercase

/-!
# WikiSearch — `articletopic:`

Restricts a query to pages that are classified under one of the named topics. Case
does not matter. Topics that are not known are left out with a warning; if no topic
is left, nothing can match.
-/

namespace WikiSearch

/-- How many topics a directive keeps unless the settings say otherwise. -/
def defaultMaxTopics : Nat := 50

/-- The topics of the topic taxonomy. -/
def knownTopics : List String :=
  ["biography", "women", "geographical", "africa", "asia", "europe", "north-america", "oceania",
   "south-america", "stem", "biology", "chemistry", "computing", "engineering", "mathematics",
   "physics", "medicine-and-health", "technology", "culture", "architecture", "literature",
   "music", "sports", "visual-arts", "film", "history", "history-and-society",
   "politics-and-government", "economics", "education", "military-and-warfare",
   "transportation", "society", "environment", "food-and-drink"]

/-- Whether a topic is known. -/
def isKnownTopic (topic : String) : Bool := knownTopics.contains topic

namespace Feature

/-- Pages classified under one of at most `cap` topics. -/
def topic (cap : Nat) : Feature where
  name := "article topic"
  keywords := ["articletopic"]
  acceptsQuoted := true
  read arg :=
    let all := (listEntries arg.value).map Text.lowercase
    if all = [] then (none, [])
    else
      -- the cap counts known topics: an unknown one never takes the place of one
      let (topics, warnings) := capped arg.key cap (all.filter isKnownTopic)
      let unknown := all.filter fun t => !isKnownTopic t
      (some (.topics topics), refused Warning.invalidTopic unknown ++ warnings)
  filter? _ value :=
    match value with
    | .topics (t :: ts) =>
      some (.terms "weighted_tags" ((t :: ts).map ("classification.articletopic/" ++ ·)))
    | _ => none

/-- A value without entries is not read. What is no topic is left out before the cap is
applied. -/
theorem topic_read (cap : Nat) (arg : Argument) :
    (topic cap).read arg =
      let all := (listEntries arg.value).map Text.lowercase
      (if all = [] then none else some (.topics ((all.filter isKnownTopic).take cap)),
        refused Warning.invalidTopic (all.filter fun t => !isKnownTopic t) ++
          if (all.filter isKnownTopic).length > cap
            then [⟨Warning.tooManyConditions, [arg.key, toString cap]⟩] else []) := by
  simp only [topic, capped_eq]
  split
  case isTrue hnone =>
    -- without entries there is nothing to report, so it does not matter that none are looked at
    simp [hnone, refused]
  case isFalse hsome => rfl

end Feature

end WikiSearch

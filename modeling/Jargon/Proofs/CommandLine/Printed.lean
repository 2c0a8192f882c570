import Jargon.CommandLine.Execute
import Jargon.Proofs.Decimal.Layouts

/-!
# What is printed

The JSON of a scoring, of a check and of a build is written out here, member by member.  A scoring is
known by its fields, and a check by three conditions on them.

* `Json.spelled`, `Json.prettyAt_object`   an object, its members one below the other;
* `IsScoring`              the scoring of a text;
* `Report.Readable`        its numbers are known from what is printed;
* `Thresholds.Complies`    the conditions of a check;
* `pretty_reportJson`, `pretty_verdictJson`, `pretty_buildJson`   the three objects.
-/

namespace Jargon

/-! ## objects in JSON -/

namespace Json

/-- An object whose first line stands at some margin: its members one below the other, two spaces
further in. -/
def spelled (margin : String) (members : List String) : String :=
  "\x7b\n" ++ ",\n".intercalate (members.map fun member => margin ++ "  " ++ member) ++ "\n"
    ++ margin ++ "\x7d"

/-- the spaces in front of a line at some level -/
def margin (level : Nat) : String := String.ofList (List.replicate (2 * level) ' ')

theorem margin_succ (level : Nat) : margin (level + 1) = margin level ++ "  " := by
  rw [margin, Nat.mul_add, ← List.replicate_append_replicate, String.ofList_append]
  rfl

theorem lineStart_eq (level : Nat) : lineStart level = "\n" ++ margin level := by
  rw [lineStart, ← List.singleton_append, String.ofList_append]
  rfl

@[simp]
theorem margin_zero : margin 0 = "" := rfl

@[simp]
theorem prettyAt_bool (level : Nat) (b : Bool) : prettyAt level (.bool b) = toString b := by
  cases b <;> rfl

@[simp]
theorem prettyAt_nat (level n : Nat) : prettyAt level (.nat n) = toString n := by rw [prettyAt]

@[simp]
theorem prettyAt_number (level : Nat) (x : Binary64) :
    prettyAt level (.number x) = numberText x := by rw [prettyAt]

@[simp]
theorem prettyAt_string (level : Nat) (text : String) :
    prettyAt level (.string text) = quoted text := by rw [prettyAt]

theorem prettyMembers_eq (level : Nat) (member : String × Json) (rest : List (String × Json)) :
    prettyMembers level (member :: rest) =
      "\n" ++ ",\n".intercalate
        ((member :: rest).map fun m => margin level ++ prettyMember level m) := by
  induction rest generalizing member with
  | nil =>
    rw [prettyMembers, lineStart_eq, String.append_assoc, List.map_singleton,
      String.intercalate_singleton]
  | cons next rest ih =>
    have hfirst : ",\n".intercalate
        ((member :: next :: rest).map fun m => margin level ++ prettyMember level m) =
        margin level ++ prettyMember level member ++ ",\n" ++ ",\n".intercalate
          ((next :: rest).map fun m => margin level ++ prettyMember level m) :=
      String.intercalate_cons_of_ne_nil (List.cons_ne_nil _ _)
    have hcomma : ",\n" = "," ++ "\n" := rfl
    rw [hfirst, prettyMembers, ih, lineStart_eq]
    · simp only [hcomma, String.append_assoc]
    · exact nofun

theorem prettyAt_object (level : Nat) (member : String × Json) (rest : List (String × Json)) :
    prettyAt level (.object (member :: rest)) =
      spelled (margin level) ((member :: rest).map (prettyMember (level + 1))) := by
  have hbrace : "\x7b\n" = "\x7b" ++ "\n" := rfl
  rw [prettyAt, prettyMembers_eq, lineStart_eq, spelled, List.map_map, margin_succ, hbrace]
  · simp only [String.append_assoc, Function.comp_def]
  · exact nofun

/-- a text that a finite number is read back from, and that is `null` for any other -/
def Denotes (text : String) (x : Binary64) : Prop :=
  if x.isFinite then Binary64.read? text = some x else text = "null"

theorem denotes_numberText (x : Binary64) : Denotes (numberText x) x := by
  unfold Denotes numberText
  split
  · exact Decimal.Layout.read?_write _ x
  · rfl

end Json

/-! ## scorings and checks -/

/-- the scoring of a text against a list of entries, field by field -/
structure IsScoring (text : String) (entries : List String) (coefficient : Binary64)
    (r : Report) : Prop where
  wordCount : r.wordCount = Text.wordCount text
  hits : r.hits = Text.hits text entries
  ratio : r.ratio = .ofNat r.hits / .ofNat r.wordCount
  synergyLevel : r.synergyLevel = (r.ratio * .ofNat 1000).floorUInt64
  score : r.score = r.ratio * coefficient * Density.optimal

theorem isScoring_iff {text : String} {entries : List String} {coefficient : Binary64}
    {r : Report} : IsScoring text entries coefficient r ↔ r = .ofText text entries coefficient := by
  constructor
  · rintro ⟨hwords, hhits, hratio, hlevel, hscore⟩
    obtain ⟨wordCount, hits, ratio, synergyLevel, score⟩ := r
    dsimp only at hwords hhits hratio hlevel hscore
    subst hwords hhits hratio hlevel hscore
    rfl
  · rintro rfl
    exact ⟨rfl, rfl, rfl, rfl, rfl⟩

theorem IsScoring.unique {text : String} {entries : List String} {coefficient : Binary64}
    {r r' : Report} (h : IsScoring text entries coefficient r)
    (h' : IsScoring text entries coefficient r') : r = r' :=
  (isScoring_iff.mp h).trans (isScoring_iff.mp h').symm

/-- the members of a scoring in JSON -/
def Report.members (r : Report) : List String :=
  ["\"word_count\": " ++ toString r.wordCount,
    "\"buzzword_hits\": " ++ toString r.hits,
    "\"ratio\": " ++ Json.numberText r.ratio,
    "\"synergy_level\": " ++ toString r.synergyLevel.toNat,
    "\"score\": " ++ Json.numberText r.score]

/-- the numbers of a scoring are known from their texts -/
structure Report.Readable (r : Report) : Prop where
  plain : Binary64.read? (Decimal.Layout.plain.write r.score) = some r.score
  ratio : Json.Denotes (Json.numberText r.ratio) r.ratio
  score : Json.Denotes (Json.numberText r.score) r.score

theorem Report.readable (r : Report) : r.Readable :=
  ⟨Decimal.Layout.read?_write _ _, Json.denotes_numberText _, Json.denotes_numberText _⟩

namespace Thresholds

/-- the score is above the least one -/
def EnoughBuzzwords (t : Thresholds) (r : Report) : Prop := t.minScore < r.score

/-- the text is long, and its score is below the greatest one -/
def Vague (t : Thresholds) (r : Report) : Prop :=
  t.minWordCount.toNat < r.wordCount ∧ r.score < t.maxScore

/-- the score in percent is above what may make sense -/
def Meaningless (t : Thresholds) (r : Report) : Prop :=
  .ofNat t.maxCoherencePercent.toNat < r.score * .ofNat 100

def Complies (t : Thresholds) (r : Report) : Prop :=
  t.EnoughBuzzwords r ∧ t.Vague r ∧ t.Meaningless r

instance (t : Thresholds) (r : Report) : Decidable (t.EnoughBuzzwords r) :=
  inferInstanceAs (Decidable (_ < _))

instance (t : Thresholds) (r : Report) : Decidable (t.Vague r) :=
  inferInstanceAs (Decidable (_ ∧ _))

instance (t : Thresholds) (r : Report) : Decidable (t.Meaningless r) :=
  inferInstanceAs (Decidable (_ < _))

instance (t : Thresholds) (r : Report) : Decidable (t.Complies r) :=
  inferInstanceAs (Decidable (_ ∧ _))

theorem and_eq_decide_complies (t : Thresholds) (r : Report) :
    (decide (t.EnoughBuzzwords r) && decide (t.Vague r) && decide (t.Meaningless r)) =
      decide (t.Complies r) := by
  rw [Bool.eq_iff_iff, decide_eq_true_iff]
  simp [Complies, and_assoc]

/-- the members of a check in JSON; the last one is the scoring -/
def members (t : Thresholds) (r : Report) : List String :=
  ["\"has_enough_buzzwords\": " ++ toString (decide (t.EnoughBuzzwords r)),
    "\"sufficiently_vague\": " ++ toString (decide (t.Vague r)),
    "\"properly_meaningless\": " ++ toString (decide (t.Meaningless r)),
    "\"report\": " ++ Json.spelled "  " r.members]

end Thresholds

namespace Verdict

variable (r : Report) (t : Thresholds)

@[simp]
theorem report_ofReport : (ofReport r t).report = r := rfl

@[simp]
theorem hasEnoughBuzzwords_ofReport :
    (ofReport r t).hasEnoughBuzzwords = decide (t.EnoughBuzzwords r) := rfl

@[simp]
theorem sufficientlyVague_ofReport : (ofReport r t).sufficientlyVague = decide (t.Vague r) :=
  (Bool.decide_and _ _).symm

@[simp]
theorem properlyMeaningless_ofReport :
    (ofReport r t).properlyMeaningless = decide (t.Meaningless r) := rfl

@[simp]
theorem passes_ofReport : (ofReport r t).passes = decide (t.Complies r) := by
  rw [Bool.eq_iff_iff, passes_iff, decide_eq_true_iff]
  rfl

end Verdict

/-- the members of a build in JSON -/
def BuildInfo.members (b : BuildInfo) : List String :=
  ["\"version\": " ++ Json.quoted b.version,
    "\"git_hash\": " ++ Json.quoted b.revision,
    "\"git_dirty\": " ++ toString b.dirty,
    "\"profile\": " ++ Json.quoted b.profile,
    "\"built_at\": " ++ toString b.builtAt.toNat,
    "\"rustc\": " ++ Json.quoted b.compiler]

namespace CommandLine

open Json (spelled prettyAt prettyMember quoted margin)

/-! ## the three objects -/

theorem map_prettyMember_report (level : Nat) (r : Report) :
    [("word_count", Json.nat r.wordCount), ("buzzword_hits", .nat r.hits),
      ("ratio", .number r.ratio), ("synergy_level", .nat r.synergyLevel.toNat),
      ("score", .number r.score)].map (prettyMember level) = r.members := by
  have hwords : quoted "word_count" ++ ": " = "\"word_count\": " := by decide
  have hhits : quoted "buzzword_hits" ++ ": " = "\"buzzword_hits\": " := by decide
  have hratio : quoted "ratio" ++ ": " = "\"ratio\": " := by decide
  have hlevel : quoted "synergy_level" ++ ": " = "\"synergy_level\": " := by decide
  have hscore : quoted "score" ++ ": " = "\"score\": " := by decide
  simp [prettyMember, hwords, hhits, hratio, hlevel, hscore, Report.members]

@[simp]
theorem prettyAt_reportJson (level : Nat) (r : Report) :
    prettyAt level (reportJson r) = spelled (margin level) r.members := by
  rw [reportJson, Json.prettyAt_object, map_prettyMember_report]

theorem pretty_reportJson (r : Report) : (reportJson r).pretty = spelled "" r.members :=
  prettyAt_reportJson 0 r

theorem pretty_verdictJson (t : Thresholds) (r : Report) :
    (verdictJson (.ofReport r t)).pretty = spelled "" (t.members r) := by
  have henough : quoted "has_enough_buzzwords" ++ ": " = "\"has_enough_buzzwords\": " := by decide
  have hvague : quoted "sufficiently_vague" ++ ": " = "\"sufficiently_vague\": " := by decide
  have hmeaningless : quoted "properly_meaningless" ++ ": " = "\"properly_meaningless\": " := by
    decide
  have hreport : quoted "report" ++ ": " = "\"report\": " := by decide
  have hmargin : margin 1 = "  " := rfl
  rw [Json.pretty, verdictJson, Json.prettyAt_object]
  simp [prettyMember, henough, hvague, hmeaningless, hreport, hmargin, Thresholds.members]

theorem pretty_buildJson (b : BuildInfo) : (buildJson b).pretty = spelled "" b.members := by
  have hversion : quoted "version" ++ ": " = "\"version\": " := by decide
  have hrevision : quoted "git_hash" ++ ": " = "\"git_hash\": " := by decide
  have hdirty : quoted "git_dirty" ++ ": " = "\"git_dirty\": " := by decide
  have hprofile : quoted "profile" ++ ": " = "\"profile\": " := by decide
  have hbuilt : quoted "built_at" ++ ": " = "\"built_at\": " := by decide
  have hcompiler : quoted "rustc" ++ ": " = "\"rustc\": " := by decide
  rw [Json.pretty, buildJson, Json.prettyAt_object]
  simp [prettyMember, hversion, hrevision, hdirty, hprofile, hbuilt, hcompiler, BuildInfo.members]

end CommandLine

end Jargon

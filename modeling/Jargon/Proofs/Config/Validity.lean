import Jargon.Proofs.Binary64.Order
import Jargon.Proofs.Config.Agreement

/-!
# What validation requires and what it reports

Nine requirements are looked at one after the other.  Each is stated here as what violates it, with
the scores as real numbers and blank entries as texts of nothing but white space; validation
reports the first requirement that is violated.

* `Violates`              the violations, each with what is said of it;
* `check_eq_some_iff`     each condition finds the violations of its requirement;
* `validate_eq_error_iff_first`   the first violated requirement is reported;
* `validate_accepts`      so the valid configurations are those without a violation.
-/

namespace Jargon.Config

/-! ## requirements -/

inductive Requirement where
  | mode
  | finiteScores
  | sign
  | order
  | percent
  | wordList (list : WordList)
  | level
  deriving DecidableEq

/-- in the order in which they are looked at -/
def requirements : List Requirement :=
  [.mode, .finiteScores, .sign, .order, .percent, .wordList .vocabulary, .wordList .actionVerbs,
    .wordList .conceptNouns, .level]

/-- a text of nothing but white space, as the empty one -/
def BlankEntry (entry : String) : Prop := ∀ c ∈ entry.toList, Text.isBlank c = true

/-- what violates a requirement, and what is said then -/
inductive Violates (c : Config) : Requirement → Complaint → Prop
  | mode (h : c.insertionMode ∉ insertionModes) :
      Violates c .mode (.insertionMode c.insertionMode)
  | finiteScores (h : ¬ ((∃ lo : ℝ, c.compliance.minScore.value? = some (lo : EReal)) ∧
        ∃ hi : ℝ, c.compliance.maxScore.value? = some (hi : EReal))) :
      Violates c .finiteScores .scoresNotFinite
  | sign {lo : EReal} (hlo : c.compliance.minScore.value? = some lo) (h : lo < 0) :
      Violates c .sign (.negativeScore c.compliance.minScore)
  | order {lo hi : EReal} (hlo : c.compliance.minScore.value? = some lo)
        (hhi : c.compliance.maxScore.value? = some hi) (h : hi ≤ lo) :
      Violates c .order (.scoresOutOfOrder c.compliance.minScore c.compliance.maxScore)
  | percent (h : 100 < c.compliance.maxCoherencePercent.toNat) :
      Violates c .percent (.percentTooLarge c.compliance.maxCoherencePercent)
  | emptyList {list : WordList} (h : c.lexicon.list? list = some []) :
      Violates c (.wordList list) (.emptyList list)
  | blankEntry {list : WordList} {entries : List String} {index : ℕ} {entry : String}
        (hset : c.lexicon.list? list = some entries) (hentry : entries[index]? = some entry)
        (hblank : BlankEntry entry)
        (hfirst : ∀ i < index, ∀ e, entries[i]? = some e → ¬ BlankEntry e) :
      Violates c (.wordList list) (.blankEntry list index)
  | level (h : c.logLevel ∉ logLevels) :
      Violates c .level (.logLevel c.logLevel)

/-! ## conditions -/

/-- the condition that looks at a requirement -/
def Requirement.check (c : Config) : Requirement → Option Complaint
  | .mode => checkMode c
  | .finiteScores => checkFinite c.compliance
  | .sign => checkSign c.compliance
  | .order => checkOrder c.compliance
  | .percent => checkPercent c.compliance
  | .wordList list => checkList list (c.lexicon.list? list)
  | .level => checkLevel c

theorem complaints_eq_map (c : Config) : c.complaints = requirements.map (·.check c) := rfl

theorem blankEntry_iff (entry : String) : BlankEntry entry ↔ Text.isBlankText entry = true :=
  (Text.isBlankText_iff entry).symm

theorem firstBlank?_eq_some_iff {entries : List String} {index : ℕ} :
    Text.firstBlank? entries = some index ↔
      (∃ entry, entries[index]? = some entry ∧ BlankEntry entry) ∧
        ∀ i < index, ∀ e, entries[i]? = some e → ¬ BlankEntry e := by
  rw [Text.firstBlank?, List.findIdx?_eq_some_iff_getElem]
  simp only [blankEntry_iff]
  constructor
  · rintro ⟨hlt, hblank, hfirst⟩
    refine ⟨⟨_, List.getElem?_eq_getElem hlt, hblank⟩, fun i hi e he => ?_⟩
    obtain ⟨-, rfl⟩ := List.getElem?_eq_some_iff.mp he
    exact hfirst i hi
  · rintro ⟨⟨entry, hentry, hblank⟩, hfirst⟩
    obtain ⟨hlt, rfl⟩ := List.getElem?_eq_some_iff.mp hentry
    exact ⟨hlt, hblank, fun i hi => hfirst i hi _ (List.getElem?_eq_getElem (hi.trans hlt))⟩

theorem checkList_eq_some_iff {c : Config} {list : WordList} {said : Complaint} :
    checkList list (c.lexicon.list? list) = some said ↔ Violates c (.wordList list) said := by
  cases hset : c.lexicon.list? list with
  | none =>
    constructor
    · intro h
      cases h
    · intro h
      cases h with
      | emptyList h => rw [hset] at h; cases h
      | blankEntry h => rw [hset] at h; cases h
  | some entries =>
    cases entries with
    | nil =>
      constructor
      · intro h
        cases h
        exact .emptyList hset
      · intro h
        cases h with
        | emptyList h => rfl
        | blankEntry h hentry => rw [hset] at h; cases h; cases hentry
    | cons entry entries =>
      show (Text.firstBlank? (entry :: entries)).map (.blankEntry list) = some said ↔ _
      rw [Option.map_eq_some_iff]
      constructor
      · rintro ⟨index, hindex, rfl⟩
        obtain ⟨⟨blank, hblank, hall⟩, hfirst⟩ := firstBlank?_eq_some_iff.mp hindex
        exact .blankEntry hset hblank hall hfirst
      · intro h
        cases h with
        | emptyList h => rw [hset] at h; cases h
        | blankEntry h hentry hblank hfirst =>
          rw [hset] at h
          cases h
          exact ⟨_, firstBlank?_eq_some_iff.mpr ⟨⟨_, hentry, hblank⟩, hfirst⟩, rfl⟩

/-- **Each condition complains exactly of the violations of its requirement.** -/
theorem check_eq_some_iff {c : Config} {r : Requirement} {said : Complaint} :
    r.check c = some said ↔ Violates c r said := by
  cases r with
  | mode =>
    show checkMode c = some said ↔ _
    rw [checkMode, Option.ite_none_left_eq_some, List.contains_iff_mem, Option.some.injEq]
    constructor
    · rintro ⟨h, rfl⟩
      exact .mode h
    · intro hv
      cases hv with
      | mode h => exact ⟨h, rfl⟩
  | finiteScores =>
    show checkFinite c.compliance = some said ↔ _
    rw [checkFinite, Option.ite_none_left_eq_some, Bool.and_eq_true, Option.some.injEq,
      Binary64.isFinite_iff_value, Binary64.isFinite_iff_value]
    constructor
    · rintro ⟨h, rfl⟩
      exact .finiteScores h
    · intro hv
      cases hv with
      | finiteScores h => exact ⟨h, rfl⟩
  | sign =>
    show checkSign c.compliance = some said ↔ _
    rw [checkSign, Option.ite_none_right_eq_some, Binary64.lt_iff_value, Binary64.value?_zero,
      Option.some.injEq]
    constructor
    · rintro ⟨⟨lo, zero, hlo, hzero, h⟩, rfl⟩
      cases hzero
      exact .sign hlo h
    · intro hv
      cases hv with
      | sign hlo h => exact ⟨⟨_, 0, hlo, rfl, h⟩, rfl⟩
  | order =>
    show checkOrder c.compliance = some said ↔ _
    rw [checkOrder, Option.ite_none_right_eq_some, Binary64.le_iff_value, Option.some.injEq]
    constructor
    · rintro ⟨⟨hi, lo, hhi, hlo, h⟩, rfl⟩
      exact .order hlo hhi h
    · intro hv
      cases hv with
      | order hlo hhi h => exact ⟨⟨_, _, hhi, hlo, h⟩, rfl⟩
  | percent =>
    show checkPercent c.compliance = some said ↔ _
    rw [checkPercent, Option.ite_none_right_eq_some, UInt32.lt_iff_toNat_lt, Option.some.injEq]
    constructor
    · rintro ⟨h, rfl⟩
      exact .percent h
    · intro hv
      cases hv with
      | percent h => exact ⟨h, rfl⟩
  | wordList list => exact checkList_eq_some_iff
  | level =>
    show checkLevel c = some said ↔ _
    rw [checkLevel, Option.ite_none_left_eq_some, List.contains_iff_mem, Option.some.injEq]
    constructor
    · rintro ⟨h, rfl⟩
      exact .level h
    · intro hv
      cases hv with
      | level h => exact ⟨h, rfl⟩

theorem check_eq_none_iff {c : Config} {r : Requirement} :
    r.check c = none ↔ ∀ said, ¬ Violates c r said := by
  simp only [Option.eq_none_iff_forall_ne_some, ne_eq, check_eq_some_iff]

/-! ## the first violation -/

theorem validate_eq_error_iff {c : Config} {said : Complaint} :
    c.validate = .error said ↔ firstComplaint c.complaints = some said := by
  unfold validate
  cases firstComplaint c.complaints <;> simp

theorem validate_eq_error_iff_first {c : Config} {said : Complaint} :
    c.validate = .error said ↔
      ∃ before r after, requirements = before ++ r :: after ∧
        (∀ q ∈ before, ∀ other, ¬ Violates c q other) ∧ Violates c r said := by
  rw [validate_eq_error_iff, firstComplaint, complaints_eq_map, List.findSome?_map,
    List.findSome?_eq_some_iff]
  simp only [Function.comp_apply, id, check_eq_some_iff, check_eq_none_iff]
  constructor
  · rintro ⟨before, r, after, heq, hr, hbefore⟩
    exact ⟨before, r, after, heq, hbefore, hr⟩
  · rintro ⟨before, r, after, heq, hbefore, hr⟩
    exact ⟨before, r, after, heq, hr, hbefore⟩

theorem mem_requirements (r : Requirement) : r ∈ requirements := by
  cases r with
  | wordList list => cases list <;> decide
  | _ => decide

theorem validate_eq_ok_iff_violates {c : Config} :
    c.validate = .ok () ↔ ∀ r said, ¬ Violates c r said := by
  rw [validate_eq_ok_iff, complaints_eq_map, List.forall_mem_map]
  simp only [check_eq_none_iff]
  exact ⟨fun h r => h r (mem_requirements r), fun h r _ => h r⟩

/-! ## valid configurations -/

structure Valid (c : Config) : Prop where
  mode : c.insertionMode ∈ insertionModes
  scores : ∃ lo hi : ℝ, c.compliance.minScore.value? = some (lo : EReal) ∧
    c.compliance.maxScore.value? = some (hi : EReal) ∧ 0 ≤ lo ∧ lo < hi
  percent : c.compliance.maxCoherencePercent.toNat ≤ 100
  lists : ∀ list entries, c.lexicon.list? list = some entries →
    entries ≠ [] ∧ ∀ entry ∈ entries, ¬ BlankEntry entry
  level : c.logLevel ∈ logLevels

theorem Valid.not_violates {c : Config} (h : Valid c) (r : Requirement) (said : Complaint) :
    ¬ Violates c r said := by
  obtain ⟨lo, hi, hlo, hhi, hnonneg, hlt⟩ := h.scores
  intro hv
  cases hv with
  | mode hn => exact hn h.mode
  | finiteScores hn => exact hn ⟨⟨lo, hlo⟩, hi, hhi⟩
  | sign hlo' hneg =>
    rw [hlo, Option.some.injEq] at hlo'
    rw [← hlo', ← EReal.coe_zero, EReal.coe_lt_coe_iff] at hneg
    exact absurd hnonneg (not_le.mpr hneg)
  | order hlo' hhi' hle =>
    rw [hlo, Option.some.injEq] at hlo'
    rw [hhi, Option.some.injEq] at hhi'
    rw [← hlo', ← hhi', EReal.coe_le_coe_iff] at hle
    exact absurd hlt (not_lt.mpr hle)
  | percent hn => exact absurd h.percent (Nat.not_le.mpr hn)
  | emptyList hset => exact (h.lists _ _ hset).1 rfl
  | blankEntry hset hentry hblank =>
    exact (h.lists _ _ hset).2 _ (List.mem_of_getElem? hentry) hblank
  | level hn => exact hn h.level

theorem valid_of_not_violates {c : Config} (h : ∀ r said, ¬ Violates c r said) : Valid c where
  mode := by_contra fun hn => h _ _ (.mode hn)
  scores := by
    have hfinite : (∃ lo : ℝ, c.compliance.minScore.value? = some (lo : EReal)) ∧
        ∃ hi : ℝ, c.compliance.maxScore.value? = some (hi : EReal) :=
      by_contra fun hn => h _ _ (.finiteScores hn)
    obtain ⟨⟨lo, hlo⟩, hi, hhi⟩ := hfinite
    refine ⟨lo, hi, hlo, hhi, ?_, ?_⟩
    · by_contra hneg
      exact h _ _ (.sign hlo (EReal.coe_lt_coe_iff.mpr (not_le.mp hneg)))
    · by_contra hle
      exact h _ _ (.order hlo hhi (EReal.coe_le_coe_iff.mpr (not_lt.mp hle)))
  percent := Nat.not_lt.mp fun hn => h _ _ (.percent hn)
  lists := by
    intro list
    have hcheck : checkList list (c.lexicon.list? list) = none :=
      check_eq_none_iff (r := .wordList list).mpr (h _)
    rw [checkList_eq, Option.map_eq_none_iff, Lexicon.Overrides.bind_check_eq_none_iff] at hcheck
    simp only [blankEntry_iff, Bool.not_eq_true]
    exact hcheck
  level := by_contra fun hn => h _ _ (.level hn)

/-- **Validation accepts the valid configurations and reports the first violation of others.** -/
theorem validate_accepts (c : Config) :
    (c.validate = .ok () ↔ Valid c) ∧
      ∀ said, c.validate = .error said ↔
        ∃ before r after, requirements = before ++ r :: after ∧
          (∀ q ∈ before, ∀ other, ¬ Violates c q other) ∧ Violates c r said := by
  refine ⟨?_, fun said => validate_eq_error_iff_first⟩
  rw [validate_eq_ok_iff_violates]
  exact ⟨valid_of_not_violates, Valid.not_violates⟩

end Jargon.Config

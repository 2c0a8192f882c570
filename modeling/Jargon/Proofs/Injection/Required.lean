import Mathlib.Algebra.Order.BigOperators.Group.Finset
import Jargon.Proofs.Engine.Safety

/-!
# How many buzzwords are inserted

One buzzword is asked for each five words, less the buzzwords that the text has already.  These are
found by going through the list, so one that the list names several times is taken off as many
times.  Only where the list names it once is the number that of the different buzzwords.

* `distinctPresent_eq_sum`        the buzzwords in a text, each as often as the list names it;
* `distinctPresent_eq_card_iff`   when these are the different ones;
* `distinctPresent_cons`          an entry more in the list;
* `required_discounts`            what this makes of the insertions.
-/

namespace Jargon

namespace Text

/-! ## the buzzwords in a text -/

/-- the different strings of a list that stand in the text -/
def presentStrings (text : String) (entries : List String) : Finset String :=
  entries.toFinset.filter fun entry => entry.toList <:+: text.toList

section

variable {text entry : String} {entries more : List String}

theorem mem_presentStrings :
    entry ∈ presentStrings text entries ↔ entry ∈ entries ∧ entry.toList <:+: text.toList := by
  rw [presentStrings, Finset.mem_filter, List.mem_toFinset]

theorem presentStrings_eq_toFinset (text : String) (entries : List String) :
    presentStrings text entries =
      (entries.filter fun entry => entry.toList <:+: text.toList).toFinset := by
  rw [List.toFinset_filter, presentStrings]
  simp only [decide_eq_true_eq]

/-- order and repetition in the list make no difference -/
theorem presentStrings_congr (h : ∀ entry, entry ∈ more ↔ entry ∈ entries) :
    presentStrings text more = presentStrings text entries := by
  ext entry
  rw [mem_presentStrings, mem_presentStrings, h]

/-- without the empty entry, presence in the text is all that is asked of an entry -/
theorem distinctPresent_eq_length_filter (text : String) (hne : "" ∉ entries) :
    distinctPresent text entries =
      (entries.filter fun entry => entry.toList <:+: text.toList).length := by
  rw [distinctPresent, ← List.countP_eq_length_filter]
  refine List.countP_congr fun entry hentry => ?_
  have hnonempty : entry ≠ "" := fun h => hne (h ▸ hentry)
  simp [hnonempty, occursIn_iff]

theorem distinctPresent_eq_sum (text : String) (hne : "" ∉ entries) :
    distinctPresent text entries =
      ∑ entry ∈ presentStrings text entries, entries.count entry := by
  rw [distinctPresent_eq_length_filter text hne, ← List.sum_toFinset_count_eq_length,
    ← presentStrings_eq_toFinset]
  refine Finset.sum_congr rfl fun entry hentry => List.count_filter ?_
  exact decide_eq_true (mem_presentStrings.mp hentry).2

theorem one_le_count_of_mem (h : entry ∈ presentStrings text entries) :
    1 ≤ entries.count entry :=
  List.one_le_count_iff.mpr (mem_presentStrings.mp h).1

theorem card_presentStrings_le (text : String) (hne : "" ∉ entries) :
    (presentStrings text entries).card ≤ distinctPresent text entries := by
  rw [distinctPresent_eq_sum text hne, Finset.card_eq_sum_ones]
  exact Finset.sum_le_sum fun _ => one_le_count_of_mem

theorem distinctPresent_eq_card_iff (text : String) (hne : "" ∉ entries) :
    distinctPresent text entries = (presentStrings text entries).card ↔
      ∀ entry ∈ presentStrings text entries, entries.count entry = 1 := by
  rw [distinctPresent_eq_sum text hne, Finset.card_eq_sum_ones, eq_comm,
    Finset.sum_eq_sum_iff_of_le fun _ => one_le_count_of_mem]
  exact forall₂_congr fun _ _ => eq_comm

theorem distinctPresent_cons (text : String) (hne : entry ≠ "") (entries : List String) :
    distinctPresent text (entry :: entries) =
      distinctPresent text entries + if entry.toList <:+: text.toList then 1 else 0 := by
  rw [distinctPresent, List.countP_cons, ← distinctPresent]
  simp [hne, occursIn_iff]

/-- an entry that is named once more, anywhere in the list -/
theorem presentStrings_of_perm_cons (text : String) (hentry : entry ∈ entries)
    (h : more.Perm (entry :: entries)) :
    presentStrings text more = presentStrings text entries := by
  refine presentStrings_congr fun other => ?_
  rw [h.mem_iff, List.mem_cons]
  exact or_iff_right_of_imp fun hother => hother ▸ hentry

theorem distinctPresent_of_perm_cons (text : String) (hne : "" ∉ entries) (hentry : entry ∈ entries)
    (h : more.Perm (entry :: entries)) :
    distinctPresent text more =
      distinctPresent text entries + if entry ∈ presentStrings text entries then 1 else 0 := by
  have hpresent : entry ∈ presentStrings text entries ↔ entry.toList <:+: text.toList := by
    rw [mem_presentStrings, and_iff_right hentry]
  rw [distinctPresent, h.countP_eq, ← distinctPresent,
    distinctPresent_cons text (fun hempty => hne (hempty ▸ hentry)), if_congr hpresent rfl rfl]

end

end Text

/-! ## the insertions -/

namespace Lexicon

/-- the empty entry is blank -/
theorem Constructed.empty_notMem {l : Lexicon} (h : l.Constructed) : "" ∉ l.vocabulary := by
  have hc := h.check
  rw [Lexicon.check, Option.orElse_eq_none] at hc
  intro hin
  have hblank := ((WordList.check_eq_none_iff _ _).mp hc.1).2 "" hin
  exact absurd hblank (by decide)

end Lexicon

namespace Injection

theorem max_sub_eq_max_sub_iff {asked fewer more least : ℕ} (h : fewer ≤ more) :
    max (asked - more) least = max (asked - fewer) least ↔
      more = fewer ∨ asked ≤ fewer + least := by
  omega

end Injection

namespace Engine

open Text

variable {σ : Type}

theorem required_eq (e : Engine σ) (text : String) :
    e.required text = max (wordCount text / 5 - distinctPresent text e.lexicon.vocabulary) 3 := rfl

/-- **Each buzzword of the text is taken off as often as the list names it.**  So the insertions
are those for the different buzzwords iff the list names none of these twice, or so many are in the
text that the least number is inserted anyway.  To name a buzzword once more leaves the different
ones as they are, and takes it off once more where it stands in the text. -/
theorem required_discounts {e : Engine σ} (h : e.lexicon.Constructed) (text : String) :
    let vocabulary := e.lexicon.vocabulary
    let present := presentStrings text vocabulary
    (distinctPresent text vocabulary = ∑ entry ∈ present, vocabulary.count entry ∧
      e.required text =
        max (wordCount text / 5 - ∑ entry ∈ present, vocabulary.count entry) 3) ∧
    (distinctPresent text vocabulary = present.card ↔
      ∀ entry ∈ present, vocabulary.count entry = 1) ∧
    (e.required text = max (wordCount text / 5 - present.card) 3 ↔
      (∀ entry ∈ present, vocabulary.count entry = 1) ∨
        wordCount text / 5 ≤ present.card + 3) ∧
    ∀ entry ∈ vocabulary, ∀ again : Engine σ,
      again.lexicon.vocabulary.Perm (entry :: vocabulary) →
        presentStrings text again.lexicon.vocabulary = present ∧
        (distinctPresent text again.lexicon.vocabulary = distinctPresent text vocabulary ↔
          entry ∉ present) ∧
        (again.required text = e.required text ↔
          entry ∉ present ∨ wordCount text / 5 ≤ distinctPresent text vocabulary + 3) := by
  intro vocabulary present
  have hne : "" ∉ vocabulary := h.empty_notMem
  have hsum : distinctPresent text vocabulary = _ := distinctPresent_eq_sum text hne
  have hcard := distinctPresent_eq_card_iff text hne
  refine ⟨⟨hsum, ?_⟩, hcard, ?_, fun entry hentry again hagain => ?_⟩
  · rw [required_eq, ← hsum]
  · rw [required_eq, Injection.max_sub_eq_max_sub_iff (card_presentStrings_le text hne), hcard]
  · have hmore : distinctPresent text again.lexicon.vocabulary =
        distinctPresent text vocabulary + if entry ∈ present then 1 else 0 :=
      distinctPresent_of_perm_cons text hne hentry hagain
    have hle : distinctPresent text vocabulary ≤ distinctPresent text again.lexicon.vocabulary :=
      hmore ▸ Nat.le_add_right _ _
    have hsame : distinctPresent text again.lexicon.vocabulary = distinctPresent text vocabulary ↔
        entry ∉ present := by
      rw [hmore]
      split <;> simp_all
    refine ⟨presentStrings_of_perm_cons text hentry hagain, hsame, ?_⟩
    rw [required_eq, required_eq, Injection.max_sub_eq_max_sub_iff hle, hsame]

/-- two entries, one of them inside the other, both of them in a text of twenty-five words -/
theorem required_discounts_winWin :
    let l : Lexicon := ⟨["win", "win-win"], ["empower"], ["paradigm"]⟩
    let e : Engine Unit := ofLexicon l ()
    let text := "win-win a b c d e f g h i j k l m n o p q r s t u v w x"
    let present := presentStrings text e.lexicon.vocabulary
    e.lexicon.Constructed ∧ present.card = 2 ∧
      distinctPresent text e.lexicon.vocabulary = present.card ∧
      e.required text = max (wordCount text / 5 - present.card) 3 := by
  intro l e text present
  have hl : Lexicon.ofLists ["win", "win-win"] ["empower"] ["paradigm"] = .ok l :=
    Lexicon.ofLists_eq_ok_iff.mpr ⟨rfl, by decide +kernel⟩
  have he : e.lexicon.Constructed := .ofLists hl
  have hpresent : present = {"win", "win-win"} := by decide +kernel
  have hcount : ∀ entry ∈ present, e.lexicon.vocabulary.count entry = 1 := by
    rw [hpresent]
    decide +kernel
  obtain ⟨-, hcard, hrequired, -⟩ := required_discounts he text
  exact ⟨he, by rw [hpresent]; rfl, hcard.mpr hcount, hrequired.mpr (.inl hcount)⟩

/-- a buzzword that is named twice, and once in a text of twenty-five words -/
theorem required_namedTwice :
    let once : Lexicon := ⟨["synergy"], ["empower"], ["paradigm"]⟩
    let twice : Lexicon := ⟨["synergy", "synergy"], ["empower"], ["paradigm"]⟩
    let text := "synergy a b c d e f g h i j k l m n o p q r s t u v w x"
    (Lexicon.ofLists ["synergy"] ["empower"] ["paradigm"] = .ok once ∧
      Lexicon.ofLists ["synergy", "synergy"] ["empower"] ["paradigm"] = .ok twice) ∧
    (presentStrings text twice.vocabulary).card = 1 ∧
    (distinctPresent text once.vocabulary = 1 ∧ distinctPresent text twice.vocabulary = 2) ∧
    (ofLexicon once ()).required text = 4 ∧ (ofLexicon twice ()).required text = 3 ∧
    max (wordCount text / 5 - (presentStrings text twice.vocabulary).card) 3 = 4 := by
  decide +kernel

end Engine

end Jargon

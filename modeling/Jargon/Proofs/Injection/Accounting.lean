import Mathlib.Algebra.BigOperators.Group.List.Basic
import Mathlib.Algebra.GroupWithZero.Nat
import Jargon.Proofs.Engine.Schedule
import Jargon.Proofs.Injection.Hits
import Jargon.Proofs.Text.Separators

/-!
# What an injection adds

A measure that adds up where a text is cut at a space gains from an injection exactly what the
drawn buzzwords measure, wherever they go.  The number of words is such a measure, and so is the
count of any needle that holds no space itself, whatever else is in the vocabulary.

* `total`            what buzzwords measure together;
* `measure_weave`    what the woven text measures;
* `counts_inject`    so an injection is accounted for exactly.
-/

namespace Jargon

namespace Injection

open Text

/-! ## the woven text -/

/-- what buzzwords measure together -/
def total (measure : List Char → Nat) (buzzwords : List String) : Nat :=
  (buzzwords.map fun buzzword => measure buzzword.toList).sum

@[simp]
theorem total_cons (measure : List Char → Nat) (buzzword : String) (buzzwords : List String) :
    total measure (buzzword :: buzzwords) = measure buzzword.toList + total measure buzzwords :=
  List.sum_cons

@[simp]
theorem total_append (measure : List Char → Nat) (a b : List String) :
    total measure (a ++ b) = total measure a + total measure b := by
  rw [total, List.map_append, List.sum_append]
  rfl

/-- the order of the buzzwords is of no account -/
theorem total_perm (measure : List Char → Nat) {a b : List String} (h : a.Perm b) :
    total measure a = total measure b := (h.map _).sum_eq

section

variable {measure : List Char → Nat} (h : SplitsAtSpaces measure)
include h

theorem measure_stackChars (stack : List String) (rest : List Char) :
    measure (stackChars stack ++ rest) = total measure stack + measure rest := by
  induction stack with
  | nil => simp [total]
  | cons buzzword stack ih =>
    rw [stackChars_cons, List.append_assoc, List.cons_append, h, ih, total_cons, Nat.add_assoc]

/-- **Weaving adds what the stacks measure.**  The induction is on the stacks; each is set apart by
the space that it stands behind. -/
theorem measure_weave (held : List (List String)) (text : List Char)
    (hlen : held.length ≤ text.count ' ') :
    measure (weave text held) = measure text + total measure held.flatten := by
  induction held generalizing text with
  | nil => simp [total]
  | cons stack held ih =>
    rw [List.length_cons] at hlen
    have hs : ' ' ∈ text := List.count_pos_iff.mp (Nat.lt_of_lt_of_le (Nat.succ_pos _) hlen)
    obtain ⟨a, b, rfl, ha⟩ := List.eq_append_cons_of_mem hs
    have hb : held.length ≤ b.count ' ' := by
      rw [List.count_append, List.count_eq_zero.mpr ha, List.count_cons_self] at hlen
      omega
    rw [weave_cut ha, h, measure_stackChars h, ih b hb, h, List.flatten_cons, total_append]
    omega

end

/-! ## a plan carried out -/

theorem length_slots_ne_zero (mode : InsertionMode) {text : List Char} (h : ' ' ∈ text) :
    (slots mode text).length ≠ 0 := by
  obtain ⟨a, b, rfl, ha⟩ := List.eq_append_cons_of_mem h
  cases mode <;> rw [slots, slotsFrom_cut ha] <;> simp

variable {σ : Type} [WordSource σ]

/-- what the woven text of a plan measures, its buzzwords in the order they were drawn -/
theorem measure_planned {measure : List Char → Nat} (h : SplitsAtSpaces measure)
    {mode : InsertionMode} {vocabulary : List String} {text : List Char} {count : Nat}
    {made : List Insertion} {s s' : σ} (hs : ' ' ∈ text)
    (hplan : plan mode vocabulary (slots mode text).length count s = .ok (made, s')) :
    measure (weave text (planned (slots mode text).length made)) =
      measure text + total measure (made.map Insertion.buzzword) := by
  have hlen : (planned (slots mode text).length made).length ≤ text.count ' ' := by
    rw [length_planned]
    exact length_slots_le mode text
  rw [measure_weave h _ _ hlen,
    total_perm measure (flatten_planned_of_plan (length_slots_ne_zero mode hs) hplan)]

/-- an injection into a text with a space, and the buzzwords it drew -/
theorem exists_injectTraced_measure (mode : InsertionMode) {vocabulary : List String}
    (hv : vocabulary ≠ []) (count : Nat) {text : String} (hs : ' ' ∈ text.toList) (s : σ) :
    ∃ words out s', injectTraced mode vocabulary count text s = .ok ((words, out), s') ∧
      words.length = count ∧ (∀ word ∈ words, word ∈ vocabulary) ∧
      ∀ measure, SplitsAtSpaces measure →
        measure out.toList = measure text.toList + total measure words := by
  obtain ⟨made, s', hplan⟩ := exists_plan mode hv (slots mode text.toList).length count s
  obtain ⟨out, hout⟩ := injectTraced_eq_ok_of_plan hplan
  obtain ⟨made', hplan', hweave⟩ := inject_eq_ok_iff.mp (inject_of_injectTraced hout)
  obtain ⟨rfl, -⟩ := Prod.mk.inj (Except.ok.inj (hplan.symm.trans hplan'))
  obtain ⟨hcount, hmem⟩ := plan_forall (fun _ _ _ hone => (planOne_fits hone).1) hplan
  refine ⟨_, out, s', hout, ?_, ?_, ?_⟩
  · rw [List.length_map, hcount]
  · intro word hword
    obtain ⟨i, hi, rfl⟩ := List.mem_map.mp hword
    exact hmem i hi
  · intro measure h
    rw [hweave, String.toList_ofList]
    exact measure_planned h hs hplan

end Injection

namespace Engine

open Injection Text

variable {σ : Type} [WordSource σ]

/-- **An injection into a text with a space is accounted for exactly.**  Every buzzword that is drawn
adds one word and one more for each space in it, and every needle without a space is found as often
as before and once more for each time it stands in a drawn buzzword, whether it is an entry or not.
So entries without spaces add their hits. -/
theorem counts_inject {e : Engine σ} (hv : e.lexicon.vocabulary ≠ []) {text : String}
    (hs : ' ' ∈ text.toList) :
    ∃ words out source,
      injectTraced e.mode e.lexicon.vocabulary (e.required text) text e.source =
        .ok ((words, out), source) ∧
      inject text e = .ok (out, { e with source }) ∧
      words.length = e.required text ∧ (∀ word ∈ words, word ∈ e.lexicon.vocabulary) ∧
      wordCount out = wordCount text + (words.map fun word => 1 + word.toList.count ' ').sum ∧
      (∀ needle : String, ' ' ∉ needle.toList →
        countOccurrences out needle =
          countOccurrences text needle + (words.map (countOccurrences · needle)).sum) ∧
      ((∀ entry ∈ e.lexicon.vocabulary, ' ' ∉ entry.toList) →
        hits out e.lexicon.vocabulary =
          hits text e.lexicon.vocabulary + (words.map (hits · e.lexicon.vocabulary)).sum) := by
  obtain ⟨words, out, source, hout, hlen, hmem, hmeasure⟩ :=
    exists_injectTraced_measure e.mode hv (e.required text) hs e.source
  refine ⟨words, out, source, hout,
    generate_eq_ok.mpr ⟨source, inject_of_injectTraced hout, rfl⟩, hlen, hmem, ?_, ?_, ?_⟩
  · have hwords := hmeasure _ splits_wordCount
    rw [wordCount, wordCount, Nat.add_comm, hwords, Nat.add_comm 1, total]
  · intro needle hneedle
    have hcount := hmeasure _ (splits_scanCount hneedle)
    simp only [countOccurrences_eq]
    exact hcount
  · intro hentries
    have hhits := hmeasure _ (splits_hitsIn hentries)
    simp only [hits_eq_hitsIn]
    exact hhits

/-- a needle that overlaps itself, in a text with adjacent spaces -/
theorem counts_inject_adjacentSpaces :
    let l : Lexicon := ⟨["aa", "win-win"], ["empower"], ["paradigm"]⟩
    let e : Engine Stepper := { ofLexicon l ⟨0, 0x6000000000000000⟩ with mode := .scatter }
    (e.lexicon.vocabulary ≠ [] ∧ ' ' ∈ "aaa  a".toList ∧ ' ' ∉ "aa".toList ∧
      ∀ entry ∈ e.lexicon.vocabulary, ' ' ∉ entry.toList) ∧
    ∃ (words : List String) (out : String) (source : Stepper),
      inject "aaa  a" e = .ok (out, { e with source }) ∧ words.length = e.required "aaa  a" ∧
      wordCount out = 3 + (words.map fun word => 1 + word.toList.count ' ').sum ∧
      countOccurrences out "aa" = 1 + (words.map (countOccurrences · "aa")).sum ∧
      hits out e.lexicon.vocabulary = 1 + (words.map (hits · e.lexicon.vocabulary)).sum := by
  intro l e
  have hv : e.lexicon.vocabulary ≠ [] := by decide
  have hs : ' ' ∈ "aaa  a".toList := by decide
  have hneedle : ' ' ∉ "aa".toList := by decide
  have hentries : ∀ entry ∈ e.lexicon.vocabulary, ' ' ∉ entry.toList := by decide
  obtain ⟨words, out, source, -, hout, hlen, -, hwords, hcount, hhits⟩ := counts_inject hv hs
  exact ⟨⟨hv, hs, hneedle, hentries⟩, words, out, source, hout, hlen, hwords,
    hcount "aa" hneedle, hhits hentries⟩

end Engine

end Jargon

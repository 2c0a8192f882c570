import Mathlib.Data.List.Infix
import Jargon.Engine.Operation
import Jargon.Proofs.Injection.Repeated
import Jargon.Proofs.Injection.Stacks
import Jargon.Proofs.Text.Packing

/-!
# Injection never loses hits

A buzzword that is put behind a space may tear apart an entry of several words that stood there.
If no two entries of the list can be torn by one space, every space that gets buzzwords costs at
most one hit, and each buzzword brings at least one.

* `Apart`                no two entries can lie across one space;
* `apart_builtin`        the built-in vocabulary is such a list;
* `le_hitsIn_weave`      hits of a text and of the text with its stacks;
* `hits_inject_builtin`  so no injection of built-in buzzwords lowers the hits.
-/

namespace Jargon.Injection

open Text

/-! ## entries across a space -/

/-- no two entries can lie across one cut behind a space -/
def Apart (entries : List String) : Prop :=
  entries.Pairwise fun e f => ∀ a b : List Char,
    ¬ (Straddles e.toList (a ++ [' ']) b ∧ Straddles f.toList (a ++ [' ']) b)

/-- the beginnings of an entry that end with a space -/
def openings (entry : List Char) : List (List Char) :=
  entry.inits.filter fun u => u.getLast? = some ' '

/-- an entry across a cut behind a space leaves one of its openings in front of it -/
theorem exists_opening {needle a b : List Char} (h : Straddles needle (a ++ [' ']) b) :
    ∃ u ∈ openings needle, u <:+ a ++ [' '] := by
  obtain ⟨u, v, rfl, hu, -, hua, -⟩ := h
  refine ⟨u, List.mem_filter.mpr ⟨?_, ?_⟩, hua⟩
  · exact (List.mem_inits _ _).mpr (List.prefix_append u v)
  · have hlast := hua.getLast hu
    rw [List.getLast_append_singleton] at hlast
    rw [List.getLast?_eq_some_getLast hu, hlast]
    rfl

theorem apart_of_openings {entries : List String}
    (h : entries.Pairwise fun e f => ∀ u ∈ openings e.toList, ∀ w ∈ openings f.toList,
      ¬ u <:+ w ∧ ¬ w <:+ u) : Apart entries := by
  refine h.imp fun hef a b ⟨he, hf⟩ => ?_
  obtain ⟨u, hu, hua⟩ := exists_opening he
  obtain ⟨w, hw, hwa⟩ := exists_opening hf
  rcases List.suffix_or_suffix_of_suffix hua hwa with huw | hwu
  · exact (hef u hu w hw).1 huw
  · exact (hef u hu w hw).2 hwu

theorem apart_builtin : Apart Lexicon.builtinVocabulary :=
  apart_of_openings (by decide +kernel)

/-! ## hits of the woven text -/

theorem hitsIn_append_le_of_apart {entries : List String} (h : Apart entries) (a b : List Char) :
    hitsIn entries (a ++ [' '] ++ b) ≤
      hitsIn entries (a ++ [' ']) + hitsIn entries b + 1 :=
  hitsIn_append_le (h.imp fun hef => hef a b)

/-- each buzzword of a stack is a hit -/
theorem length_le_hitsIn_stackChars {entries : List String} (hne : "" ∉ entries)
    {stack : List String} (hw : ∀ word ∈ stack, word ∈ entries) :
    stack.length ≤ hitsIn entries (stackChars stack) := by
  induction stack with
  | nil => exact Nat.zero_le _
  | cons word stack ih =>
    have hword : word ∈ entries := hw word List.mem_cons_self
    have hone := hitsIn_pos_of_mem hword fun e => hne (e ▸ hword)
    have hrest := ih fun other hm => hw other (List.mem_cons_of_mem _ hm)
    have hsplit := le_hitsIn_append entries word.toList ([' '] ++ stackChars stack)
    have hspace := le_hitsIn_append entries [' '] (stackChars stack)
    rw [stackChars_cons, List.length_cons]
    show stack.length + 1 ≤ hitsIn entries (word.toList ++ ([' '] ++ stackChars stack))
    omega

/-- **Weaving costs at most one hit for each stack, and every buzzword is one.**  The induction is
on the text; `done` is what stands in front of it since the last stack that is not empty. -/
theorem le_hitsIn_weave {entries : List String} (ha : Apart entries) (hne : "" ∉ entries)
    (text : List Char) (held : List (List String)) (done : List Char)
    (hlen : held.length ≤ text.count ' ')
    (hw : ∀ stack ∈ held, ∀ word ∈ stack, word ∈ entries) :
    hitsIn entries (done ++ text) + held.flatten.length ≤
      hitsIn entries (done ++ weave text held) + held.countP (!·.isEmpty) := by
  induction text generalizing held done with
  | nil =>
    obtain rfl : held = [] := List.eq_nil_of_length_eq_zero (Nat.le_zero.mp hlen)
    exact Nat.le_refl _
  | cons c rest ih =>
    by_cases hc : c = ' '
    · subst hc
      cases held with
      | nil => simp
      | cons stack held =>
        rw [List.count_cons_self, List.length_cons] at hlen
        have hw' : ∀ other ∈ held, ∀ word ∈ other, word ∈ entries :=
          fun other hm => hw other (List.mem_cons_of_mem _ hm)
        rw [weave_space, List.append_cons done ' ' rest, List.append_cons done ' ' (_ ++ _),
          List.flatten_cons, List.length_append]
        by_cases hs : stack = []
        -- without a stack the space belongs to what stands in front
        · subst hs
          have hrest := ih held (done ++ [' ']) (Nat.le_of_succ_le_succ hlen) hw'
          rw [List.countP_cons_of_neg (by decide), List.length_nil, Nat.zero_add, stackChars_nil,
            List.nil_append]
          exact hrest
        -- a stack cuts the text behind its space
        · have hcut := hitsIn_append_le_of_apart ha done rest
          have hrest := ih held [] (Nat.le_of_succ_le_succ hlen) hw'
          have hstack := length_le_hitsIn_stackChars hne (hw stack List.mem_cons_self)
          have hfront := le_hitsIn_append entries (done ++ [' '])
            (stackChars stack ++ weave rest held)
          have hback := le_hitsIn_append entries (stackChars stack) (weave rest held)
          rw [List.countP_cons_of_pos (by simpa using hs)]
          rw [List.nil_append, List.nil_append] at hrest
          omega
    · rw [List.count_cons_of_ne hc] at hlen
      rw [weave_cons_of_ne hc, List.append_cons done c rest, List.append_cons done c (weave _ _)]
      exact ih held (done ++ [c]) hlen hw

theorem countP_le_length_flatten (held : List (List String)) :
    held.countP (!·.isEmpty) ≤ held.flatten.length := by
  induction held with
  | nil => exact Nat.le_refl 0
  | cons stack held ih =>
    rw [List.flatten_cons, List.length_append]
    cases stack with
    | nil =>
      rw [List.countP_cons_of_neg (by decide)]
      exact Nat.le_trans ih (Nat.le_add_left _ _)
    | cons word stack =>
      rw [List.countP_cons_of_pos (by rfl), List.length_cons]
      omega

/-! ## hits of a plan carried out -/

section

variable {σ : Type} [WordSource σ] {entries : List String} {mode : InsertionMode} {text : List Char}
  {count : Nat} {made : List Insertion} {s s' : σ}

theorem length_slots_le (mode : InsertionMode) (text : List Char) :
    (slots mode text).length ≤ text.count ' ' := by
  rw [← length_slotsFrom text 0]
  cases mode with
  | firstSpace => exact List.length_take_le' 1 _
  | scatter => exact Nat.le_refl _

/-- a plan of entries for the slots of a text, carried out -/
theorem le_hitsIn_planned (ha : Apart entries) (hne : "" ∉ entries)
    (h : plan mode entries (slots mode text).length count s = .ok (made, s'))
    (hn : (slots mode text).length ≠ 0) :
    hitsIn entries text + count ≤
      hitsIn entries (weave text (planned (slots mode text).length made)) +
        (planned (slots mode text).length made).countP (!·.isEmpty) := by
  have hlen : (planned (slots mode text).length made).length ≤ text.count ' ' := by
    rw [length_planned]
    exact length_slots_le mode text
  have hall := le_hitsIn_weave ha hne text _ [] hlen (mem_vocabulary_of_planned hn h)
  rwa [length_flatten_planned hn h] at hall

end

end Jargon.Injection

namespace Jargon.Engine

open Injection

variable {σ : Type} [WordSource σ]

/-- with entries that no space can tear but one at a time -/
theorem exists_inject_le_hits {e : Engine σ} (hv : e.lexicon.vocabulary ≠ [])
    (ha : Apart e.lexicon.vocabulary) (hne : "" ∉ e.lexicon.vocabulary) (text : String) :
    ∃ out source, inject text e = .ok (out, { e with source }) ∧
      Text.hits text e.lexicon.vocabulary ≤ Text.hits out e.lexicon.vocabulary ∧
      (e.mode = .firstSpace → ' ' ∈ text.toList →
        Text.hits text e.lexicon.vocabulary + e.required text - 1 ≤
          Text.hits out e.lexicon.vocabulary) := by
  obtain ⟨made, source, hplan⟩ := exists_plan e.mode hv (slots e.mode text.toList).length
    (e.required text) e.source
  refine ⟨_, source, generate_eq_ok.mpr ⟨source, inject_eq_ok_iff.mpr ⟨made, hplan, rfl⟩, rfl⟩, ?_⟩
  rw [Text.hits_eq_hitsIn, Text.hits_eq_hitsIn, String.toList_ofList]
  by_cases hn : (slots e.mode text.toList).length = 0
  -- without a slot nothing changes, and `firstSpace` has one for every text with a space
  · have hheld : planned (slots e.mode text.toList).length made = [] :=
      List.eq_nil_of_length_eq_zero (by rw [length_planned, hn])
    rw [hheld, weave_nil]
    refine ⟨Nat.le_refl _, fun hm hs => ?_⟩
    obtain ⟨a, b, hab, hna⟩ := List.eq_append_cons_of_mem hs
    rw [hm, hab, slots, slotsFrom_cut hna] at hn
    exact absurd hn (by simp)
  · have hall := le_hitsIn_planned ha hne hplan hn
    have hcuts := countP_le_length_flatten (planned (slots e.mode text.toList).length made)
    rw [length_flatten_planned hn hplan] at hcuts
    refine ⟨by omega, fun hm _ => ?_⟩
    have hone : (slots e.mode text.toList).length ≤ 1 := by
      rw [hm]
      exact List.length_take_le 1 _
    have hcut : (planned (slots e.mode text.toList).length made).countP (!·.isEmpty) ≤ 1 :=
      Nat.le_trans List.countP_le_length (by rw [length_planned]; exact hone)
    omega

/-- **An injection of built-in buzzwords never lowers the hits.**  Behind the first space it raises
them by the number of buzzwords, but for one that it may tear apart. -/
theorem hits_inject_builtin (e : Engine σ) (h : e.lexicon = .builtin) (text : String) :
    ∃ out source, inject text e = .ok (out, { e with source }) ∧
      Text.hits text Lexicon.builtinVocabulary ≤ Text.hits out Lexicon.builtinVocabulary ∧
      (e.mode = .firstSpace → ' ' ∈ text.toList →
        Text.hits text Lexicon.builtinVocabulary + e.required text - 1 ≤
          Text.hits out Lexicon.builtinVocabulary) := by
  have hv : e.lexicon.vocabulary = Lexicon.builtinVocabulary := by rw [h]; rfl
  rw [← hv]
  exact exists_inject_le_hits (by rw [hv]; decide) (by rw [hv]; exact apart_builtin)
    (by rw [hv]; decide) text

/-- a text whose only hit is torn apart by the buzzwords put behind its first space -/
theorem hits_inject_builtin_tornApart :
    let e : Engine Stepper := ofLexicon .builtin ⟨0, 0x1000000000000000⟩
    (e.lexicon = .builtin ∧ e.mode = .firstSpace ∧ ' ' ∈ "deep dive".toList) ∧
    ∃ out source, inject "deep dive" e = .ok (out, { e with source }) ∧
      Text.hits "deep dive" Lexicon.builtinVocabulary ≤ Text.hits out Lexicon.builtinVocabulary ∧
      Text.hits "deep dive" Lexicon.builtinVocabulary + e.required "deep dive" - 1 ≤
        Text.hits out Lexicon.builtinVocabulary := by
  intro e
  have hspace : ' ' ∈ "deep dive".toList := by decide
  obtain ⟨out, source, hout, hkept, hraised⟩ := hits_inject_builtin e rfl "deep dive"
  exact ⟨⟨rfl, rfl, hspace⟩, out, source, hout, hkept, hraised rfl hspace⟩

end Jargon.Engine

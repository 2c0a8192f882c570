import Mathlib.Data.List.Infix
import Jargon.Engine.Operation
import Jargon.Proofs.Engine.Safety

/-!
# Speeches

A speech of `m + n` sentences is one of `m` and then one of `n`.  If no entry holds a period, the
sentences can be read off the text alone: each ends with its only period, and one space stands
behind it.

* `piecesAfter`        a text cut behind each occurrence of a mark;
* `IsPiece`            a sentence as it stands in a speech, with its period and its space;
* `piecesAfter_flatten`, `count_flatten`, `spaced_flatten`   pieces are found again;
* `Prose.speech_add`   speeches, one after the other;
* `exists_sentences`   a speech is made of as many sentences as were asked for;
* `speech_composes`    so its periods, its spaces and its pieces are known.
-/

namespace Jargon

namespace Text

/-! ## pieces -/

/-- The text cut behind each occurrence of the mark, and what is left behind the last one; `taken` is
what has been read of the next piece. -/
def piecesAfter (mark taken : List Char) : List Char → List (List Char) × List Char
  | [] => ([], taken)
  | c :: rest =>
    if mark.isSuffixOf (taken ++ [c]) then
      let (pieces, left) := piecesAfter mark [] rest
      ((taken ++ [c]) :: pieces, left)
    else piecesAfter mark (taken ++ [c]) rest

theorem piecesAfter_hit {mark taken rest : List Char} {c : Char} (h : mark <:+ taken ++ [c]) :
    piecesAfter mark taken (c :: rest) =
      ((taken ++ [c]) :: (piecesAfter mark [] rest).1, (piecesAfter mark [] rest).2) :=
  if_pos (List.isSuffixOf_iff_suffix.mpr h)

theorem piecesAfter_miss {mark taken rest : List Char} {c : Char} (h : ¬ mark <:+ taken ++ [c]) :
    piecesAfter mark taken (c :: rest) = piecesAfter mark (taken ++ [c]) rest :=
  if_neg fun hs => h (List.isSuffixOf_iff_suffix.mp hs)

/-- the end of a sentence in a speech -/
def fullStop : List Char := ['.', ' ']

/-- ends at its only period, but for one space, and does not begin with a space -/
def IsPiece (piece : List Char) : Prop :=
  ∃ body, piece = body ++ fullStop ∧ '.' ∉ body ∧ body.head? ≠ some ' '

/-- the scan passes a body without a period; what it has taken holds none, either -/
theorem piecesAfter_body {taken body : List Char} (ht : '.' ∉ taken) (hb : '.' ∉ body)
    (rest : List Char) :
    piecesAfter fullStop taken (body ++ fullStop ++ rest) =
      ((taken ++ body ++ fullStop) :: (piecesAfter fullStop [] rest).1,
        (piecesAfter fullStop [] rest).2) := by
  induction body generalizing taken with
  | nil =>
    have hperiod : ¬ fullStop <:+ taken ++ ['.'] := by
      intro hs
      have hlast := hs.getLast (List.cons_ne_nil '.' [' '])
      rw [List.getLast_append_singleton] at hlast
      exact absurd hlast (by decide)
    have hspace : fullStop <:+ taken ++ ['.'] ++ [' '] :=
      ⟨taken, (List.append_assoc taken ['.'] [' ']).symm⟩
    rw [List.append_nil]
    show piecesAfter fullStop taken ('.' :: ' ' :: rest) = _
    rw [piecesAfter_miss hperiod, piecesAfter_hit hspace, List.append_assoc taken]
    rfl
  | cons c body ih =>
    have ht' : '.' ∉ taken ++ [c] := by
      rw [List.mem_append, not_or]
      exact ⟨ht, fun hm => hb (List.mem_singleton.mp hm ▸ List.mem_cons_self)⟩
    have hmiss : ¬ fullStop <:+ taken ++ [c] := fun hs => ht' (hs.subset List.mem_cons_self)
    show piecesAfter fullStop taken (c :: (body ++ fullStop ++ rest)) = _
    rw [piecesAfter_miss hmiss, ih ht' fun hm => hb (List.mem_cons_of_mem c hm),
      List.append_assoc taken]
    rfl

section

variable {pieces : List (List Char)} (h : ∀ piece ∈ pieces, IsPiece piece)
include h

/-- **Pieces put together are cut apart again.** -/
theorem piecesAfter_flatten : piecesAfter fullStop [] pieces.flatten = (pieces, []) := by
  induction pieces with
  | nil => rfl
  | cons piece pieces ih =>
    obtain ⟨body, rfl, hbody, -⟩ := h piece List.mem_cons_self
    have hrest := ih fun other hm => h other (List.mem_cons_of_mem _ hm)
    rw [List.flatten_cons, piecesAfter_body List.not_mem_nil hbody, hrest, List.nil_append]

theorem count_flatten : pieces.flatten.count '.' = pieces.length := by
  induction pieces with
  | nil => rfl
  | cons piece pieces ih =>
    obtain ⟨body, rfl, hbody, -⟩ := h piece List.mem_cons_self
    have hrest := ih fun other hm => h other (List.mem_cons_of_mem _ hm)
    rw [List.flatten_cons, List.count_append, List.count_append, List.count_eq_zero.mpr hbody, hrest,
      List.length_cons, fullStop]
    show 0 + 1 + pieces.length = pieces.length + 1
    omega

theorem head?_flatten_ne : pieces.flatten.head? ≠ some ' ' := by
  cases pieces with
  | nil => exact nofun
  | cons piece pieces =>
    obtain ⟨body, rfl, -, hhead⟩ := h piece List.mem_cons_self
    cases body with
    | nil => exact fun he => absurd (Option.some.inj he) (by decide)
    | cons c body => exact hhead

/-- **One space stands behind each period.**  The induction finds the piece that the period is in. -/
theorem spaced_flatten {a b : List Char} (hab : pieces.flatten = a ++ '.' :: b) :
    ∃ c, b = ' ' :: c ∧ c.head? ≠ some ' ' := by
  induction pieces generalizing a with
  | nil => exact absurd hab.symm (List.append_ne_nil_of_right_ne_nil a (List.cons_ne_nil _ _))
  | cons piece pieces ih =>
    obtain ⟨body, rfl, hbody, -⟩ := h piece List.mem_cons_self
    have hpieces : ∀ other ∈ pieces, IsPiece other :=
      fun other hm => h other (List.mem_cons_of_mem _ hm)
    rw [List.flatten_cons, List.append_assoc] at hab
    rcases List.append_eq_append_iff.mp hab with ⟨behind, -, hb⟩ | ⟨within, hw, hb⟩
    · match behind, hb with
      | [], hb =>
        obtain ⟨-, rfl⟩ := List.cons.inj hb
        exact ⟨pieces.flatten, rfl, head?_flatten_ne hpieces⟩
      | [_], hb => exact absurd (List.cons.inj (List.cons.inj hb).2).1 (by decide)
      | _ :: _ :: behind, hb => exact ih hpieces (List.cons.inj (List.cons.inj hb).2).2
    · cases within with
      | nil =>
        obtain ⟨-, rfl⟩ := List.cons.inj hb
        exact ⟨pieces.flatten, rfl, head?_flatten_ne hpieces⟩
      | cons d within =>
        obtain ⟨rfl, -⟩ := List.cons.inj hb
        exact absurd (hw ▸ List.mem_append_right a List.mem_cons_self) hbody

end

end Text

/-- no entry of a lexicon holds a period -/
def Lexicon.PeriodFree (l : Lexicon) : Prop :=
  ∀ entry ∈ l.vocabulary ++ l.actionVerbs ++ l.conceptNouns, '.' ∉ entry.toList

theorem Lexicon.periodFree_builtin : builtin.PeriodFree := by
  unfold PeriodFree
  decide +kernel

namespace Prose

open Draw

variable {σ : Type} [WordSource σ] {l : Lexicon}

/-! ## one speech after the other -/

theorem speechAfter_append (before text : String) (units : Nat) :
    (speechAfter l (before ++ text) units : Draw σ String) =
      (before ++ ·) <$> speechAfter l text units := by
  induction units generalizing text with
  | zero => rfl
  | succ units ih =>
    show (sentence l >>= fun s => speechAfter l (before ++ text ++ s ++ " ") units) =
      (before ++ ·) <$> (sentence l >>= fun s => speechAfter l (text ++ s ++ " ") units)
    rw [map_bind]
    congr 1
    funext s
    rw [← ih, String.append_assoc, String.append_assoc, String.append_assoc]

theorem speechAfter_add (text : String) (m n : Nat) :
    (speechAfter l text (m + n) : Draw σ String) =
      speechAfter l text m >>= fun text => speechAfter l text n := by
  induction m generalizing text with
  | zero =>
    rw [Nat.zero_add]
    rfl
  | succ m ih =>
    rw [Nat.succ_add]
    show (sentence l >>= fun s => speechAfter l (text ++ s ++ " ") (m + n)) =
      (sentence l >>= fun s => speechAfter l (text ++ s ++ " ") m) >>= _
    rw [bind_assoc]
    congr 1
    funext s
    exact ih _

/-- **A speech of `m + n` sentences is one of `m` and then one of `n`.** -/
theorem speech_add (m n : Nat) :
    (speech l (m + n) : Draw σ String) =
      speech l m >>= fun first => (first ++ ·) <$> speech l n := by
  rw [speech, speechAfter_add]
  show speech l m >>= _ = _
  congr 1
  funext first
  have happend := speechAfter_append (σ := σ) (l := l) first "" n
  rwa [String.append_empty] at happend

/-! ## the sentences of a speech -/

/-- the sentence template, each of its six places filled from the list that it asks for -/
inductive IsSentence (l : Lexicon) : String → Prop
  | filled {verb noun verb₂ buzzword verb₃ noun₂ : String} (hverb : verb ∈ l.actionVerbs)
      (hnoun : noun ∈ l.conceptNouns) (hverb₂ : verb₂ ∈ l.actionVerbs)
      (hbuzzword : buzzword ∈ l.vocabulary) (hverb₃ : verb₃ ∈ l.actionVerbs)
      (hnoun₂ : noun₂ ∈ l.conceptNouns) :
      IsSentence l ("We need to " ++ verb ++ " our " ++ noun ++ " to " ++ verb₂ ++ " " ++ buzzword
        ++ " and " ++ verb₃ ++ " " ++ noun₂ ++ ".")

theorem isSentence_of_sentence {text : String} {s s' : σ} (h : sentence l s = .ok (text, s')) :
    IsSentence l text := by
  obtain ⟨verb, s₁, hverb, h⟩ := bind_eq_ok.mp h
  obtain ⟨noun, s₂, hnoun, h⟩ := bind_eq_ok.mp h
  obtain ⟨verb₂, s₃, hverb₂, h⟩ := bind_eq_ok.mp h
  obtain ⟨buzzword, s₄, hbuzzword, h⟩ := bind_eq_ok.mp h
  obtain ⟨verb₃, s₅, hverb₃, h⟩ := bind_eq_ok.mp h
  obtain ⟨noun₂, s₆, hnoun₂, h⟩ := bind_eq_ok.mp h
  obtain ⟨rfl, -⟩ := pure_eq_ok.mp h
  exact .filled (pick_eq_ok_mem hverb) (pick_eq_ok_mem hnoun) (pick_eq_ok_mem hverb₂)
    (pick_eq_ok_mem hbuzzword) (pick_eq_ok_mem hverb₃) (pick_eq_ok_mem hnoun₂)

/-- a sentence as it stands in a speech -/
def spoken (sentence : String) : List Char := sentence.toList ++ [' ']

/-- what stands between the opening of a sentence and its period -/
def sentenceParts (verb noun verb₂ buzzword verb₃ noun₂ : String) : List String :=
  [verb, " our ", noun, " to ", verb₂, " ", buzzword, " and ", verb₃, " ", noun₂]

theorem toList_sentence (verb noun verb₂ buzzword verb₃ noun₂ : String) :
    ("We need to " ++ verb ++ " our " ++ noun ++ " to " ++ verb₂ ++ " " ++ buzzword ++ " and "
      ++ verb₃ ++ " " ++ noun₂ ++ ".").toList =
      "We need to ".toList ++
        (sentenceParts verb noun verb₂ buzzword verb₃ noun₂).flatMap String.toList ++ ['.'] := by
  have hperiod : ".".toList = ['.'] := by decide
  simp only [sentenceParts, String.toList_append, List.flatMap_cons, List.flatMap_nil,
    List.append_nil, List.append_assoc, hperiod]

theorem isPiece_spoken (hl : l.PeriodFree) {text : String} (h : IsSentence l text) :
    Text.IsPiece (spoken text) := by
  have hvocabulary : ∀ entry ∈ l.vocabulary, '.' ∉ entry.toList := fun entry hm =>
    hl entry (List.mem_append_left _ (List.mem_append_left _ hm))
  have hactionVerbs : ∀ entry ∈ l.actionVerbs, '.' ∉ entry.toList := fun entry hm =>
    hl entry (List.mem_append_left _ (List.mem_append_right _ hm))
  have hconceptNouns : ∀ entry ∈ l.conceptNouns, '.' ∉ entry.toList := fun entry hm =>
    hl entry (List.mem_append_right _ hm)
  cases h with
  | @filled verb noun verb₂ buzzword verb₃ noun₂ hverb hnoun hverb₂ hbuzzword hverb₃ hnoun₂ =>
    have hparts : ∀ part ∈ sentenceParts verb noun verb₂ buzzword verb₃ noun₂,
        '.' ∉ part.toList := by
      simp only [sentenceParts, List.forall_mem_cons]
      exact ⟨hactionVerbs _ hverb, by decide, hconceptNouns _ hnoun, by decide,
        hactionVerbs _ hverb₂, by decide, hvocabulary _ hbuzzword, by decide,
        hactionVerbs _ hverb₃, by decide, hconceptNouns _ hnoun₂, nofun⟩
    rw [spoken, toList_sentence]
    refine ⟨_, List.append_assoc _ ['.'] [' '], ?_, ?_⟩
    · rw [List.mem_append, List.mem_flatMap, not_or]
      exact ⟨by decide, fun ⟨part, hm, hperiod⟩ => hparts part hm hperiod⟩
    · rw [List.head?_append_of_ne_nil _ (by decide)]
      decide

/-- **A speech is made of as many sentences as were asked for**, with a space behind each. -/
theorem exists_sentences {text out : String} {units : Nat} {s s' : σ}
    (h : speechAfter l text units s = .ok (out, s')) :
    ∃ sentences : List String, sentences.length = units ∧
      (∀ sentence ∈ sentences, IsSentence l sentence) ∧
      out.toList = text.toList ++ (sentences.map spoken).flatten := by
  induction units generalizing text s with
  | zero =>
    obtain ⟨rfl, -⟩ := pure_eq_ok.mp h
    exact ⟨[], rfl, nofun, (List.append_nil _).symm⟩
  | succ units ih =>
    obtain ⟨first, s₁, hfirst, h⟩ := bind_eq_ok.mp h
    obtain ⟨sentences, hlen, hall, hout⟩ := ih h
    refine ⟨first :: sentences, by rw [List.length_cons, hlen], ?_, ?_⟩
    · intro sentence hm
      rcases List.mem_cons.mp hm with rfl | hm
      · exact isSentence_of_sentence hfirst
      · exact hall sentence hm
    · rw [hout, String.toList_append, String.toList_append, List.map_cons, List.flatten_cons, spoken,
        ← List.append_assoc, ← List.append_assoc]
      rfl

/-- what a speech of so many sentences looks like -/
structure IsSpeech (l : Lexicon) (units : Nat) (out : String) : Prop where
  periods : out.toList.count '.' = units
  spaced : ∀ a b, out.toList = a ++ '.' :: b → ∃ c, b = ' ' :: c ∧ c.head? ≠ some ' '
  empty : out = "" ↔ units = 0
  pieces : ∃ sentences : List String, sentences.length = units ∧
    (∀ sentence ∈ sentences, IsSentence l sentence) ∧
    Text.piecesAfter ['.', ' '] [] out.toList =
      (sentences.map fun sentence => sentence.toList ++ [' '], [])

theorem isSpeech_of_speech (hl : l.PeriodFree) {out : String} {units : Nat} {s s' : σ}
    (h : speech l units s = .ok (out, s')) : IsSpeech l units out := by
  obtain ⟨sentences, hlen, hall, hout⟩ := exists_sentences h
  have hpieces : ∀ piece ∈ sentences.map spoken, Text.IsPiece piece := by
    intro piece hm
    obtain ⟨sentence, hs, rfl⟩ := List.mem_map.mp hm
    exact isPiece_spoken hl (hall sentence hs)
  have htext : out.toList = (sentences.map spoken).flatten := hout
  have hcount : out.toList.count '.' = units := by
    rw [htext, Text.count_flatten hpieces, List.length_map, hlen]
  refine ⟨hcount, fun a b hab => Text.spaced_flatten hpieces (htext ▸ hab), ⟨?_, ?_⟩,
    sentences, hlen, hall, ?_⟩
  · rintro rfl
    exact hcount.symm
  · intro hzero
    rw [← hlen, List.length_eq_zero_iff] at hzero
    rw [hzero] at htext
    exact String.toList_eq_nil_iff.mp htext
  · rw [htext]
    exact Text.piecesAfter_flatten hpieces

end Prose

namespace Engine

variable {σ : Type} [WordSource σ]

theorem speech_add (m n : Nat) :
    (speech (m + n) : Session σ String) = do
      let first ← speech m
      let second ← speech n
      return first ++ second := by
  have hsecond : ∀ first, (speech n >>= fun second => pure (first ++ second) : Session σ String) =
      generate fun e => (first ++ ·) <$> Prose.speech e.lexicon n := by
    intro first
    rw [← map_eq_pure_bind, speech, map_generate]
  simp only [hsecond]
  rw [speech, speech, generate_bind _ fun _ _ _ => rfl]
  simp only [Prose.speech_add]

/-- **Speeches compose, and their sentences can be told apart.**  A speech of `m + n` sentences is one
of `m` and then one of `n`, by the same engine; over lists with entries there always is one.  If no
entry holds a period, and no built-in one does, its sentences are cut out of its text. -/
theorem speech_composes :
    (∀ m n, (speech (m + n) : Session σ String) = do
      let first ← speech m
      let second ← speech n
      return first ++ second) ∧
    Lexicon.builtin.PeriodFree ∧
    ∀ e : Engine σ, e.lexicon.Filled → ∀ units, ∃ out source,
      speech units e = .ok (out, { e with source }) ∧
        (e.lexicon.PeriodFree → Prose.IsSpeech e.lexicon units out) := by
  refine ⟨speech_add, Lexicon.periodFree_builtin, fun e hfilled units => ?_⟩
  obtain ⟨out, source, hout⟩ := Prose.total_speechAfter hfilled "" units e.source
  exact ⟨out, source, generate_eq_ok.mpr ⟨source, hout, rfl⟩,
    fun hl => Prose.isSpeech_of_speech hl hout⟩

/-- entries of several words that look like parts of the template, and two sentences made of them -/
theorem speech_composes_templateEntries :
    let l : Lexicon := ⟨["and", "We need to"], ["empower our", " "], ["paradigm to leverage"]⟩
    let e : Engine Stepper := ofLexicon l ⟨0, 0x5000000000000000⟩
    let out := "We need to empower our our paradigm to leverage to   We need to and empower our "
      ++ "paradigm to leverage. We need to empower our our paradigm to leverage to   and and   "
      ++ "paradigm to leverage. "
    (e.lexicon.Filled ∧ e.lexicon.PeriodFree) ∧
    (∃ source, speech (1 + 1) e = .ok (out, { e with source })) ∧ Prose.IsSpeech l 2 out := by
  intro l e out
  have hfilled : e.lexicon.Filled := ⟨by decide, by decide, by decide⟩
  have hl : e.lexicon.PeriodFree := by
    unfold Lexicon.PeriodFree
    decide
  obtain ⟨-, -, hspeech⟩ := speech_composes (σ := Stepper)
  obtain ⟨out', source, hout, hshape⟩ := hspeech e hfilled (1 + 1)
  have hsaid : (speech (1 + 1) e).toOption.map Prod.fst = some out := by decide +kernel
  rw [hout] at hsaid
  obtain rfl : out' = out := Option.some.inj hsaid
  exact ⟨⟨hfilled, hl⟩, ⟨source, hout⟩, hshape hl⟩

end Engine

end Jargon

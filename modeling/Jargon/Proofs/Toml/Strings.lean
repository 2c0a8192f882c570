import Jargon.Proofs.Toml.Escapes
import Jargon.Proofs.Toml.Quotes

/-!
# Written strings read back

In each of its forms a written string is read as the text it was written for, up to its last quote
and not past it.  A form that takes the text as it is was chosen for a text that has nothing in it
that would be read otherwise.

* `verbatimFrom_append`, `foldedFrom_escapedLines`   the forms over several lines;
* `choose_literal`, `choose_literalLines`            what is known of a text in such a form;
* `string?_stringChars`                              any text, in the form chosen for it.
-/

namespace Jargon.Toml

/-! ## between three single quotes -/

theorem verbatimFrom_of_closing {text after : List Char} {extra : Nat}
    (h : closing? '\'' text = some (extra, after)) (read : List Char) :
    verbatimFrom read text = some (read.reverse ++ List.replicate extra '\'', after) := by
  cases text with
  | nil => cases h
  | cons c text =>
    rw [verbatimFrom]
    simp only [h]

theorem verbatimFrom_append {text rest : List Char} (hplain : ∀ c ∈ text, needsEscape c = false)
    (hrun : longestRun '\'' text ≤ 2) (hr : rest.head? ≠ some '\'') (read : List Char) :
    verbatimFrom read (text ++ '\'' :: '\'' :: '\'' :: rest) =
      some (read.reverse ++ text, rest) := by
  induction text generalizing read with
  | nil => exact verbatimFrom_of_closing (closing?_replicate (n := 0) (by decide) hr) read
  | cons c text ih =>
    have hl := Nat.le_trans (leading_le_longestRun _ _) hrun
    rcases closing?_append hl hr with ⟨n, ht, hc⟩ | hc
    · rw [verbatimFrom_of_closing hc, ← ht]
    · have hn := hplain c List.mem_cons_self
      have hreturn : c ≠ '\r' := by
        rintro rfl
        cases hn
      have hallowed : (isPlainChar c || c == '\n' || c == '\r') = true := by
        rw [needsEscape, Bool.and_eq_false_iff] at hn
        rcases hn with hn | hn
        · rw [Bool.not_eq_false'] at hn
          rw [hn]
          rfl
        · rw [bne_eq_false_iff_eq] at hn
          rw [hn]
          rfl
      have ih' := ih (fun d hd => hplain d (List.mem_cons_of_mem c hd))
        (Nat.le_trans (longestRun_tail _ c text) hrun) (c :: read)
      rw [List.cons_append] at hc ⊢
      rw [verbatimFrom]
      simp only [hc, strayReturn_cons hreturn, hallowed, Bool.false_eq_true, ↓reduceIte]
      rw [ih', List.reverse_cons, List.append_assoc]
      rfl

/-! ## between three double quotes -/

theorem foldedFrom_of_closing {text after : List Char} {extra : Nat}
    (h : closing? '"' text = some (extra, after)) (read : List Char) :
    foldedFrom .plain read text = some (read.reverse ++ List.replicate extra '"', after) := by
  cases text with
  | nil => cases h
  | cons c text =>
    have hreturn : c ≠ '\r' := by
      rintro rfl
      match text, h with
      | [], h => cases h
      | [_], h => cases h
      | _ :: _ :: _, h =>
        rw [closing?, if_neg (fun hq => absurd hq.1 (by decide))] at h
        cases h
    rw [foldedFrom]
    simp only [strayReturn_cons hreturn, h, Bool.false_eq_true, reduceCtorEq, false_and, ↓reduceIte]

/-- a character that no three quotes begin with -/
theorem foldedFrom_plain {c : Char} {rest : List Char} (hc : closing? '"' (c :: rest) = none)
    (h : (isBasicChar c || c == '"' || c == '\n') = true) (read : List Char) :
    foldedFrom .plain read (c :: rest) = foldedFrom .plain (c :: read) rest := by
  have hreturn : c ≠ '\r' := by
    rintro rfl
    cases h
  have hbackslash : c ≠ '\\' := by
    rintro rfl
    cases h
  rw [foldedFrom]
  simp only [strayReturn_cons hreturn, hc, h, hbackslash, Bool.true_or, Bool.false_eq_true,
    reduceCtorEq, false_and, ↓reduceIte]

theorem foldedFrom_backslash {rest : List Char} (hc : closing? '"' ('\\' :: rest) = none)
    (read : List Char) :
    foldedFrom .plain read ('\\' :: rest) = foldedFrom (.escape .letter) read rest := by
  rw [foldedFrom]
  simp only [strayReturn_cons (by decide : '\\' ≠ '\r'), hc, Bool.false_eq_true, reduceCtorEq,
    false_and, ↓reduceIte]

theorem leading_escaped {c : Char} (h : c ≠ '"') (rest : List Char) :
    leading '"' (escaped c ++ rest) = 0 := by
  rcases escaped_cases h with ⟨he, -⟩ | ⟨chars, he, -⟩
  · rw [he]
    exact leading_cons_of_ne h rest
  · rw [he]
    exact leading_cons_of_ne (by decide) _

theorem leading_escapedLines (text : List Char) {run : Nat} (hr : run ≤ 2) :
    run + leading '"' (escapedLines run text) ≤ 2 := by
  induction text generalizing run with
  | nil => exact hr
  | cons c text ih =>
    rw [escapedLines]
    split
    · split
      · rw [leading_cons_of_ne (by decide)]
        exact hr
      · rw [leading_cons_self]
        have hnext : run + 1 + leading '"' (escapedLines (run + 1) text) ≤ 2 := ih (by omega)
        omega
    · rename_i hq
      split
      · rw [leading_cons_of_ne (by decide)]
        exact hr
      · rw [leading_escaped hq]
        exact hr

/-- quotes alone are written for themselves -/
theorem eq_replicate_of_escapedLines {text : List Char} {run n : Nat}
    (h : escapedLines run text = List.replicate n '"') : text = List.replicate n '"' := by
  induction text generalizing run n with
  | nil => rw [← h, escapedLines]
  | cons c text ih =>
    have hhead : ∀ {d rest}, d ≠ '"' → d :: rest ≠ List.replicate n '"' := by
      intro d rest hd heq
      have hm : d ∈ List.replicate n '"' := heq ▸ List.mem_cons_self
      exact hd (List.eq_of_mem_replicate hm)
    rw [escapedLines] at h
    split at h
    · split at h
      · exact absurd h (hhead (by decide))
      · rename_i hq _
        cases n with
        | zero => cases h
        | succ n =>
          rw [List.replicate_succ, List.cons.injEq] at h
          rw [List.replicate_succ, hq, ih h.2]
    · rename_i hq
      split at h
      · exact absurd h (hhead (by decide))
      · rcases escaped_cases hq with ⟨he, -⟩ | ⟨chars, he, -⟩
        · rw [he] at h
          exact absurd h (hhead hq)
        · rw [he] at h
          exact absurd h (hhead (by decide))

theorem foldedFrom_escapedLines (text : List Char) {run : Nat} (hrun : run ≤ 2) {rest : List Char}
    (hr : rest.head? ≠ some '"') (read : List Char) :
    foldedFrom .plain read (escapedLines run text ++ '"' :: '"' :: '"' :: rest) =
      some (read.reverse ++ text, rest) := by
  induction text generalizing run read with
  | nil => exact foldedFrom_of_closing (closing?_replicate (n := 0) (by decide) hr) read
  | cons c text ih =>
    have hl : leading '"' (escapedLines run (c :: text)) ≤ 2 :=
      Nat.le_trans (Nat.le_add_left _ run) (leading_escapedLines (c :: text) hrun)
    rcases closing?_append hl hr with ⟨n, ht, hc⟩ | hc
    · rw [foldedFrom_of_closing hc, ← eq_replicate_of_escapedLines ht]
    · have hnext : ∀ run, run ≤ 2 →
          foldedFrom .plain (c :: read) (escapedLines run text ++ '"' :: '"' :: '"' :: rest) =
            some (read.reverse ++ c :: text, rest) := by
        intro run hrun
        rw [ih hrun, List.reverse_cons, List.append_assoc]
        rfl
      rw [escapedLines] at hc ⊢
      by_cases hq : c = '"'
      · by_cases h2 : run = 2
        · rw [if_pos hq, if_pos h2] at hc ⊢
          have hs : Spells c .letter ['"'] := by
            rw [hq]
            exact .done rfl
          rw [List.cons_append] at hc ⊢
          rw [foldedFrom_backslash hc, ← hnext 0 (by omega), ← foldedFrom_spells hs]
          rfl
        · rw [if_pos hq, if_neg h2, List.cons_append] at hc ⊢
          rw [foldedFrom_plain hc rfl, ← hnext (run + 1) (by omega), hq]
      · by_cases hn : c = '\n'
        · rw [if_neg hq, if_pos hn, List.cons_append] at hc ⊢
          rw [foldedFrom_plain hc rfl, ← hn]
          exact hnext 0 (by omega)
        · rw [if_neg hq, if_neg hn, List.append_assoc] at hc ⊢
          rcases escaped_cases hq with ⟨he, hb⟩ | ⟨chars, he, hs⟩
          · rw [he, List.singleton_append] at hc ⊢
            rw [foldedFrom_plain hc (by rw [hb]; rfl)]
            exact hnext 0 (by omega)
          · rw [he, List.cons_append] at hc ⊢
            rw [foldedFrom_backslash hc, foldedFrom_spells hs]
            exact hnext 0 (by omega)

/-! ## the form that is chosen -/

/-- between single quotes: no controls, no single quotes and no line ends -/
theorem choose_literal {text : List Char} (h : StringForm.choose text = .literal) :
    (∀ c ∈ text, needsEscape c = false) ∧ longestRun '\'' text = 0 ∧ '\n' ∉ text := by
  simp only [StringForm.choose] at h
  split at h
  · cases h
  · split at h
    · cases h
    · split at h
      · rename_i hc
        simp only [Bool.and_eq_true, Bool.not_eq_true', beq_iff_eq, List.any_eq_false,
          Bool.not_eq_true, List.contains_eq_mem, decide_eq_false_iff_not] at hc
        exact ⟨hc.1.1, hc.1.2, hc.2⟩
      · repeat' split at h
        all_goals cases h

/-- between three single quotes: no controls, and no three quotes in a row -/
theorem choose_literalLines {text : List Char} (h : StringForm.choose text = .literalLines) :
    (∀ c ∈ text, needsEscape c = false) ∧ longestRun '\'' text ≤ 2 := by
  simp only [StringForm.choose] at h
  split at h
  · cases h
  · split at h
    · cases h
    · split at h
      · cases h
      · split at h
        · cases h
        · split at h
          · rename_i hc
            simp only [Bool.and_eq_true, Bool.not_eq_true', decide_eq_true_eq, List.any_eq_false,
              Bool.not_eq_true] at hc
            exact hc
          · split at h <;> cases h

theorem isLiteralChar_of_choose {text : List Char} (h : StringForm.choose text = .literal) :
    ∀ c ∈ text, isLiteralChar c = true := by
  obtain ⟨hplain, hrun, hlines⟩ := choose_literal h
  intro c hm
  have hn := hplain c hm
  have hquote : c ≠ '\'' := by
    rintro rfl
    exact not_mem_of_longestRun_eq_zero hrun hm
  have hline : c ≠ '\n' := by
    rintro rfl
    exact hlines hm
  rw [needsEscape, bne_iff_ne.mpr hline, Bool.and_true, Bool.not_eq_false'] at hn
  rw [isLiteralChar, hn, Bool.true_and, bne_iff_ne]
  exact hquote

/-! ## any form -/

/-- a line end is dropped exactly where one was put in front -/
theorem dropNewline_opening {text chars : List Char}
    (h : text.contains '\n' = false → newline? chars = none) :
    dropNewline (opening text ++ chars) = chars := by
  unfold opening
  split
  · rfl
  · rename_i hn
    rw [Bool.not_eq_true] at hn
    rw [List.nil_append, dropNewline, h hn]
    rfl

theorem newline?_eq_none {text : List Char} (hn : text.head? ≠ some '\n')
    (hr : text.head? ≠ some '\r') : newline? text = none := by
  unfold newline?
  split
  · exact absurd rfl hn
  · exact absurd rfl hr
  · rfl

theorem newline?_escapedLines {text : List Char} (h : text.contains '\n' = false)
    (rest : List Char) : newline? (escapedLines 0 text ++ '"' :: rest) = none := by
  cases text with
  | nil => rfl
  | cons c text =>
    rw [escapedLines]
    by_cases hq : c = '"'
    · rw [if_pos hq, if_neg (by decide)]
      rfl
    · have hn : c ≠ '\n' := by
        rintro rfl
        simp at h
      rw [if_neg hq, if_neg hn]
      rcases escaped_cases hq with ⟨he, hb⟩ | ⟨chars, he, -⟩
      · have hreturn : c ≠ '\r' := by
          rintro rfl
          cases hb
        rw [he]
        exact newline?_eq_none (by simpa using hn) (by simpa using hreturn)
      · rw [he]
        rfl

theorem newline?_literalLines {text : List Char} (h : text.contains '\n' = false)
    (hplain : ∀ c ∈ text, needsEscape c = false) (rest : List Char) :
    newline? (text ++ '\'' :: rest) = none := by
  cases text with
  | nil => rfl
  | cons c text =>
    have hn : c ≠ '\n' := by
      rintro rfl
      simp at h
    have hreturn : c ≠ '\r' := by
      rintro rfl
      cases hplain '\r' List.mem_cons_self
    exact newline?_eq_none (by simpa using hn) (by simpa using hreturn)

/-- what may stand behind a string without being taken for a part of it -/
structure AfterString (rest : List Char) : Prop where
  double : rest.head? ≠ some '"'
  single : rest.head? ≠ some '\''

/-- two quotes of a string on one line open none over several lines -/
theorem string?_of_line {quote : Char} (hq : quote = '"' ∨ quote = '\'') {chars rest : List Char}
    (hc : chars.head? ≠ some quote) (hr : rest.head? ≠ some quote) :
    string? (quote :: chars ++ quote :: rest) = lineString? (quote :: chars ++ quote :: rest) := by
  have hstop : ∀ tail, quote :: chars ++ quote :: rest ≠ quote :: quote :: quote :: tail := by
    intro tail heq
    cases chars with
    | nil =>
      rw [List.singleton_append, List.cons.injEq, List.cons.injEq] at heq
      exact hr (by rw [heq.2.2]; rfl)
    | cons c chars =>
      rw [List.cons_append, List.cons.injEq, List.cons_append, List.cons.injEq] at heq
      exact hc (by rw [heq.2.1]; rfl)
  unfold string?
  split
  · rename_i tail heq
    rcases hq with rfl | rfl
    · exact absurd heq (hstop tail)
    · cases heq
  · rename_i tail heq
    rcases hq with rfl | rfl
    · cases heq
    · exact absurd heq (hstop tail)
  · rfl

theorem head?_escapedLine (text : List Char) : (escapedLine text).head? ≠ some '"' := by
  cases text with
  | nil => exact fun h => nomatch h
  | cons c text =>
    rw [escapedLine, List.flatMap_cons]
    by_cases hq : c = '"'
    · rw [if_pos hq]
      simp
    · rw [if_neg hq]
      rcases escaped_cases hq with ⟨he, -⟩ | ⟨chars, he, -⟩
      · rw [he]
        simpa using hq
      · rw [he]
        simp

/-- **A written string is read as its text, whatever form was chosen.** -/
theorem string?_stringChars (text : List Char) {rest : List Char} (hr : AfterString rest) :
    string? (stringChars text ++ rest) = some (String.ofList text, rest) := by
  unfold stringChars
  cases hform : StringForm.choose text with
  | basic =>
    have hread := basicFrom_escapedLine text [] rest
    have hline := string?_of_line (.inl rfl) (head?_escapedLine text) hr.double
    show string? ('"' :: escapedLine text ++ ['"'] ++ rest) = _
    rw [List.append_assoc, List.singleton_append, hline, List.cons_append, lineString?, hread]
    rfl
  | literal =>
    have hliteral := isLiteralChar_of_choose hform
    have hhead : text.head? ≠ some '\'' := by
      intro hhead
      have := hliteral '\'' (List.mem_of_head? hhead)
      cases this
    have hline := string?_of_line (.inr rfl) hhead hr.single
    show string? ('\'' :: text ++ ['\''] ++ rest) = _
    rw [List.append_assoc, List.singleton_append, hline, List.cons_append, lineString?,
      literal?_append hliteral]
    rfl
  | basicLines =>
    have hread := foldedFrom_escapedLines text (Nat.zero_le 2) hr.double []
    have hdrop := dropNewline_opening fun h : text.contains '\n' = false =>
      newline?_escapedLines h ('"' :: '"' :: rest)
    show string? (['"', '"', '"'] ++ opening text ++ escapedLines 0 text ++ ['"', '"', '"'] ++
      rest) = _
    simp only [List.append_assoc, List.cons_append, List.nil_append, string?]
    rw [hdrop, hread]
    rfl
  | literalLines =>
    obtain ⟨hplain, hrun⟩ := choose_literalLines hform
    have hread := verbatimFrom_append hplain hrun hr.single []
    have hdrop := dropNewline_opening fun h : text.contains '\n' = false =>
      newline?_literalLines h hplain ('\'' :: '\'' :: rest)
    show string? (['\'', '\'', '\''] ++ opening text ++ text ++ ['\'', '\'', '\''] ++ rest) = _
    simp only [List.append_assoc, List.cons_append, List.nil_append, string?]
    rw [hdrop, hread]
    rfl

end Jargon.Toml

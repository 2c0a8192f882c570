import Mathlib.Data.List.TakeDrop
import Jargon.Toml.Strings
import Jargon.Toml.Writer

/-!
# Written escapes read back

Behind a backslash a reader waits for what is still missing of one character, on one line and over
several lines alike.  So an escape is read step by step, whichever scanner reads it.

* `Spells`                  characters behind a backslash that stand for one character;
* `escaped_cases`           a character stands for itself or is spelt;
* `basicFrom_escapedLine`   a whole text between double quotes;
* `literal?_append`         a whole text between single quotes.
-/

namespace Jargon.Toml

/-! ## escapes -/

/-- the characters that an escape still waits for, if it stands for `d` -/
inductive Spells (d : Char) : Escape → List Char → Prop
  | done {e : Escape} {c : Char} (h : e.step? c = some (.done d)) : Spells d e [c]
  | wait {e e' : Escape} {c : Char} {chars : List Char} (h : e.step? c = some (.wait e'))
      (hs : Spells d e' chars) : Spells d e (c :: chars)

theorem basicFrom_spells {d : Char} {e : Escape} {chars : List Char} (h : Spells d e chars)
    (read rest : List Char) :
    basicFrom (some e) read (chars ++ rest) = basicFrom none (d :: read) rest := by
  induction h with
  | done h =>
    rw [List.singleton_append, basicFrom]
    simp only [h]
  | wait h _ ih =>
    rw [List.cons_append, basicFrom]
    simp only [h]
    exact ih

/-- no white space belongs to an escape -/
theorem step?_eq_none_of_isLineSpace {c : Char} (h : isLineSpace c = true) (e : Escape) :
    e.step? c = none := by
  simp only [isLineSpace, isBlankChar, Bool.or_eq_true, beq_iff_eq] at h
  rcases h with ((rfl | rfl) | rfl) | rfl <;> cases e <;> rfl

theorem strayReturn_cons {c : Char} (h : c ≠ '\r') (rest : List Char) :
    strayReturn (c :: rest) = false := by
  unfold strayReturn
  split
  · rfl
  · rename_i heq
    cases heq
    exact absurd rfl h
  · rfl

theorem foldedFrom_escape {e : Escape} {c : Char} {s : Escape.Step} (h : e.step? c = some s)
    (read rest : List Char) :
    foldedFrom (.escape e) read (c :: rest) =
      match s with
      | .wait e' => foldedFrom (.escape e') read rest
      | .done d => foldedFrom .plain (d :: read) rest := by
  have hspace : isLineSpace c = false := by
    rw [Bool.eq_false_iff]
    intro hs
    rw [step?_eq_none_of_isLineSpace hs] at h
    cases h
  simp only [isLineSpace, Bool.or_eq_false_iff, beq_eq_false_iff_ne, ne_eq] at hspace
  obtain ⟨⟨hblank, hline⟩, hreturn⟩ := hspace
  rw [foldedFrom]
  simp only [strayReturn_cons hreturn rest, hblank, hline, hreturn, h, reduceCtorEq, and_false,
    or_self, ↓reduceIte, Bool.false_eq_true, false_and]
  cases s <;> rfl

theorem foldedFrom_spells {d : Char} {e : Escape} {chars : List Char} (h : Spells d e chars)
    (read rest : List Char) :
    foldedFrom (.escape e) read (chars ++ rest) = foldedFrom .plain (d :: read) rest := by
  induction h with
  | done h => exact foldedFrom_escape h read rest
  | wait h _ ih =>
    rw [List.cons_append, foldedFrom_escape h]
    exact ih

theorem hexDigit?_digitChar :
    ∀ d, d < 16 → hexDigit? (Nat.digitChar d).toUpper = some d := by decide

theorem charOfNat?_toNat (c : Char) : charOfNat? c.toNat = some c := by
  have hv : c.toNat.isValidChar := c.valid
  rw [charOfNat?, if_pos hv, Char.ofNat_toNat]

theorem spells_controlCode {c : Char} (h : c.toNat < 256) :
    Spells c .letter ('u' :: '0' :: '0' :: controlCode c.toNat) := by
  have hhigh := hexDigit?_digitChar (c.toNat / 16) (by omega)
  have hlow := hexDigit?_digitChar (c.toNat % 16) (by omega)
  have hcode : 16 * (16 * 0 + c.toNat / 16) + c.toNat % 16 = c.toNat := by omega
  have hlast : Escape.step? (Nat.digitChar (c.toNat % 16)).toUpper
      (.digits 1 (16 * 0 + c.toNat / 16)) = some (.done c) := by
    simp only [Escape.step?, hlow, Option.bind_eq_bind, Option.bind_some, hcode,
      charOfNat?_toNat, Nat.le_refl, ↓reduceIte]
    rfl
  have hfirst : Escape.step? (Nat.digitChar (c.toNat / 16)).toUpper (.digits 2 0) =
      some (.wait (.digits 1 (16 * 0 + c.toNat / 16))) := by
    simp only [Escape.step?, hhigh, Option.bind_eq_bind, Option.bind_some]
    rfl
  have hfour : Escape.step? 'u' .letter = some (.wait (.digits 4 0)) := rfl
  have hthree : Escape.step? '0' (.digits 4 0) = some (.wait (.digits 3 0)) := rfl
  have htwo : Escape.step? '0' (.digits 3 0) = some (.wait (.digits 2 0)) := rfl
  exact .wait hfour (.wait hthree (.wait htwo (.wait hfirst (.done hlast))))

/-- a character stands for itself or is spelt behind a backslash -/
theorem escaped_cases {c : Char} (h : c ≠ '"') :
    (escaped c = [c] ∧ isBasicChar c = true) ∨
      ∃ chars, escaped c = '\\' :: chars ∧ Spells c .letter chars := by
  unfold escaped
  split
  · exact .inr ⟨['b'], rfl, .done rfl⟩
  · exact .inr ⟨['t'], rfl, .done rfl⟩
  · exact .inr ⟨['n'], rfl, .done rfl⟩
  · exact .inr ⟨['f'], rfl, .done rfl⟩
  · exact .inr ⟨['r'], rfl, .done rfl⟩
  · exact .inr ⟨['\\'], rfl, .done rfl⟩
  · rename_i hbackslash
    by_cases hp : isPlainChar c = true
    · rw [if_pos hp]
      refine .inl ⟨rfl, ?_⟩
      rw [isBasicChar, hp, Bool.true_and, Bool.and_eq_true, bne_iff_ne, bne_iff_ne]
      exact ⟨h, hbackslash⟩
    · rw [if_neg hp]
      refine .inr ⟨_, rfl, spells_controlCode ?_⟩
      simp only [isPlainChar, Bool.or_eq_true, Bool.and_eq_true, decide_eq_true_eq, bne_iff_ne,
        not_or, not_and] at hp
      omega

/-! ## on one line -/

theorem basicFrom_escapedLine (text read rest : List Char) :
    basicFrom none read (escapedLine text ++ '"' :: rest) = some (read.reverse ++ text, rest) := by
  induction text generalizing read with
  | nil =>
    rw [List.append_nil]
    rfl
  | cons c text ih =>
    have hsplit : escapedLine (c :: text) ++ '"' :: rest =
        (if c = '"' then ['\\', '"'] else escaped c) ++ (escapedLine text ++ '"' :: rest) := by
      rw [escapedLine, List.flatMap_cons, List.append_assoc]
      rfl
    have hnext : basicFrom none (c :: read) (escapedLine text ++ '"' :: rest) =
        some (read.reverse ++ c :: text, rest) := by
      rw [ih, List.reverse_cons, List.append_assoc]
      rfl
    have hspelt : ∀ chars, Spells c .letter chars →
        basicFrom none read ('\\' :: chars ++ (escapedLine text ++ '"' :: rest)) =
          some (read.reverse ++ c :: text, rest) := by
      intro chars hs
      rw [List.cons_append, basicFrom, ← hnext, ← basicFrom_spells hs]
      rfl
    rw [hsplit]
    by_cases hq : c = '"'
    · rw [if_pos hq]
      apply hspelt ['"']
      rw [hq]
      exact .done rfl
    · rw [if_neg hq]
      rcases escaped_cases hq with ⟨he, hb⟩ | ⟨chars, he, hs⟩
      · have hbackslash : c ≠ '\\' := by
          rintro rfl
          cases hb
        rw [he, List.singleton_append, basicFrom, ← hnext]
        simp only [hq, hbackslash, hb, ↓reduceIte]
      · rw [he]
        exact hspelt chars hs

/-- a span goes as far as its class does -/
theorem span_append {p : Char → Bool} {front rest : List Char} (h : ∀ c ∈ front, p c = true)
    (hr : ∀ c ∈ rest.head?, p c = false) : (front ++ rest).span p = (front, rest) := by
  rw [List.span_eq_takeWhile_dropWhile, List.takeWhile_append_of_pos h,
    List.dropWhile_append_of_pos h]
  cases rest with
  | nil => rw [List.takeWhile_nil, List.dropWhile_nil, List.append_nil]
  | cons c rest =>
    have hc : ¬ p c = true := Bool.eq_false_iff.mp (hr c rfl)
    rw [List.takeWhile_cons_of_neg hc, List.dropWhile_cons_of_neg hc, List.append_nil]

theorem literal?_append {text : List Char} (h : ∀ c ∈ text, isLiteralChar c = true)
    (rest : List Char) : literal? (text ++ '\'' :: rest) = some (text, rest) := by
  have hspan : (text ++ '\'' :: rest).span isLiteralChar = (text, '\'' :: rest) := by
    refine span_append h ?_
    intro c hc
    cases hc
    rfl
  rw [literal?, hspan]
  rfl

end Jargon.Toml

import Jargon.Proofs.Toml.Numbers

/-!
# Written values read back

Whatever is written behind the equals sign of a line is read as the value it was written for, and
reading stops at the line end.  An array of several strings has each of them on a line of its own.

* `ReadsAs`            what that means;
* `readsAs_strings`    arrays, by induction on the items with those read so far.
-/

namespace Jargon.Toml

/-- a text that is read as a value from behind an equals sign up to the line end -/
def ReadsAs (text : String) (v : Value) : Prop :=
  ∀ rest, value? depthLimit (skipBlank (' ' :: (text.toList ++ '\n' :: rest))) =
    some (v, '\n' :: rest)

/-! ## numbers -/

theorem ne_of_isBareKeyChar {c d : Char} (hc : isBareKeyChar c = true)
    (hd : isBareKeyChar d = false) : c ≠ d := by
  rintro rfl
  rw [hc] at hd
  cases hd

/-- a text that begins like a key begins like nothing else -/
theorem cons_ne_of_isBareKeyChar {c d : Char} (hc : isBareKeyChar c = true)
    (hd : isBareKeyChar d = false) (rest tail : List Char) : c :: rest ≠ d :: tail :=
  fun heq => ne_of_isBareKeyChar hc hd (List.cons.inj heq).1

theorem value?_of_bareKeyChar {c : Char} (h : isBareKeyChar c = true) (room : Nat)
    (rest : List Char) : value? room (c :: rest) = bareValue? (c :: rest) := by
  have hsimple : simple? (c :: rest) = bareValue? (c :: rest) := by
    rw [simple?]
    · exact cons_ne_of_isBareKeyChar h rfl rest
    · exact cons_ne_of_isBareKeyChar h rfl rest
  rw [← hsimple]
  cases room with
  | zero =>
    rw [value?]
    · exact cons_ne_of_isBareKeyChar h rfl rest
    · exact cons_ne_of_isBareKeyChar h rfl rest
  | succ room =>
    rw [value?]
    · exact cons_ne_of_isBareKeyChar h rfl rest
    · exact cons_ne_of_isBareKeyChar h rfl rest

theorem skipBlank_of_bareKeyChar {c : Char} (h : isBareKeyChar c = true) (rest : List Char) :
    skipBlank (c :: rest) = c :: rest := by
  have hblank : isBlankChar c = false := by
    rw [isBlankChar, Bool.or_eq_false_iff, beq_eq_false_iff_ne, beq_eq_false_iff_ne]
    exact ⟨ne_of_isBareKeyChar h rfl, ne_of_isBareKeyChar h rfl⟩
  rw [skipBlank, List.dropWhile_cons_of_neg (Bool.eq_false_iff.mp hblank)]

@[simp]
theorem skipBlank_blank (rest : List Char) : skipBlank (' ' :: rest) = skipBlank rest := rfl

theorem readsAs_of_bareValue? {text : String} {v : Value}
    (hhead : ∃ c ∈ text.toList.head?, isBareKeyChar c = true)
    (h : ∀ rest, bareValue? (text.toList ++ '\n' :: rest) = some (v, '\n' :: rest)) :
    ReadsAs text v := by
  obtain ⟨c, hc, hbare⟩ := hhead
  intro rest
  have hr := h rest
  cases htext : text.toList with
  | nil =>
    rw [htext] at hc
    cases hc
  | cons d chars =>
    rw [htext] at hc hr
    cases hc
    rw [List.cons_append] at hr ⊢
    rw [skipBlank_blank, skipBlank_of_bareKeyChar hbare, value?_of_bareKeyChar hbare, hr]

theorem isBareKeyChar_of_isDigit {c : Char} (h : c.isDigit = true) : isBareKeyChar c = true := by
  rw [isBareKeyChar, Char.isAlphanum, h, Bool.or_true]
  rfl

theorem readsAs_natural {n : Nat} (hn : n < Nat.pow 2 128) : ReadsAs (toString n) (.integer n) := by
  have htext : (toString n).toList = Nat.toDigits 10 n := Nat.toList_repr
  apply readsAs_of_bareValue?
  · obtain ⟨c, chars, hc⟩ := List.exists_cons_of_ne_nil (Nat.toDigits_ne_nil (b := 10) (n := n))
    have hd : c.isDigit = true := by
      apply Decimal.isDigit_of_mem_toDigits (n := n)
      rw [hc]
      exact List.mem_cons_self
    rw [htext, hc]
    exact ⟨c, rfl, isBareKeyChar_of_isDigit hd⟩
  · intro rest
    rw [htext]
    exact bareValue?_natural hn rest

theorem readsAs_unsigned64 (n : UInt64) : ReadsAs (toString n) (.integer n.toNat) := by
  have hlt := n.toNat_lt
  exact readsAs_natural (Nat.lt_of_lt_of_le hlt (by decide))

theorem readsAs_unsigned32 (n : UInt32) : ReadsAs (toString n) (.integer n.toNat) := by
  have hlt := n.toNat_lt
  exact readsAs_natural (Nat.lt_of_lt_of_le hlt (by decide))

theorem readsAs_float (x : Binary64) : ReadsAs (writeFloat x) (.float x) := by
  refine readsAs_of_bareValue? ?_ (bareValue?_float x)
  cases x with
  | nan => exact ⟨'n', rfl, rfl⟩
  | infinity negative =>
    cases negative with
    | false => exact ⟨'i', rfl, rfl⟩
    | true => exact ⟨'-', rfl, rfl⟩
  | finite negative rank =>
    show ∃ c ∈ (String.ofList _).toList.head?, _
    rw [String.toList_ofList]
    cases negative with
    | true => exact ⟨'-', rfl, rfl⟩
    | false =>
      obtain ⟨whole, fraction, htext, hpointed, -⟩ := Decimal.magnitude_withPoint rank
      obtain ⟨c, chars, hc⟩ := List.exists_cons_of_ne_nil hpointed.whole_ne_nil
      have hd := hpointed.whole_digits c (by rw [hc]; exact List.mem_cons_self)
      rw [htext, hc]
      exact ⟨c, rfl, isBareKeyChar_of_isDigit hd⟩

/-! ## strings -/

theorem exists_stringChars (text : List Char) :
    ∃ quote chars, stringChars text = quote :: chars ∧ (quote = '"' ∨ quote = '\'') := by
  unfold stringChars
  cases StringForm.choose text with
  | basic => exact ⟨'"', _, rfl, .inl rfl⟩
  | literal => exact ⟨'\'', _, rfl, .inr rfl⟩
  | basicLines => exact ⟨'"', _, rfl, .inl rfl⟩
  | literalLines => exact ⟨'\'', _, rfl, .inr rfl⟩

theorem value?_stringChars (room : Nat) (text : List Char) {rest : List Char}
    (hr : AfterString rest) :
    value? room (stringChars text ++ rest) = some (.string (String.ofList text), rest) := by
  have hstring := string?_stringChars text hr
  obtain ⟨quote, chars, hc, hq⟩ := exists_stringChars text
  rw [hc, List.cons_append] at hstring ⊢
  have hvalue : value? room (quote :: (chars ++ rest)) =
      (string? (quote :: (chars ++ rest))).map fun p => (.string p.1, p.2) := by
    rcases hq with rfl | rfl
    · cases room <;> rfl
    · cases room <;> rfl
  rw [hvalue, hstring]
  rfl

theorem afterString_cons {c : Char} (hd : c ≠ '"') (hs : c ≠ '\'') (rest : List Char) :
    AfterString (c :: rest) :=
  ⟨fun h => hd (Option.some.inj h), fun h => hs (Option.some.inj h)⟩

theorem readsAs_string (text : String) : ReadsAs (writeString text) (.string text) := by
  intro rest
  have hvalue := value?_stringChars depthLimit text.toList
    (afterString_cons (c := '\n') (by decide) (by decide) rest)
  obtain ⟨quote, chars, hc, hq⟩ := exists_stringChars text.toList
  have hskip : skipBlank (' ' :: (quote :: chars ++ '\n' :: rest)) =
      quote :: chars ++ '\n' :: rest := by
    rcases hq with rfl | rfl <;> rfl
  rw [writeString, String.toList_ofList, hc, hskip, ← hc, hvalue, String.ofList_toList]

/-! ## arrays -/

section
variable {item : Reader Value} {bound : Nat} {read : List Value} {text after : List Char} {c : Char}
  {v : Value}

theorem items?_end (h : skipTrivia? false text = some (']' :: after)) :
    items? item (bound + 1) read text = some (read.reverse, after) := by
  rw [items?, h]
  rfl

theorem items?_item (h : skipTrivia? false text = some (c :: after)) (hc : c ≠ ']')
    {behind : List Char} (hv : item (c :: after) = some (v, behind)) :
    items? item (bound + 1) read text =
      (skipTrivia? false behind).bind fun
        | ',' :: text => items? item bound (v :: read) text
        | ']' :: text => some ((v :: read).reverse, text)
        | _ => none := by
  rw [items?, h]
  simp only [Option.bind_eq_bind, Option.bind_some]
  split
  · rename_i heq
    exact absurd (List.cons.inj heq).1 hc
  · rw [hv]
    rfl

end

/-- an item of an array of several, as it stands on its line -/
def itemLine (text : String) : List Char :=
  ' ' :: ' ' :: ' ' :: ' ' :: (stringChars text.toList ++ [',', '\n'])

theorem skipTrivia?_quote {quote : Char} (hq : quote = '"' ∨ quote = '\'') (rest : List Char) :
    skipTrivia? false (quote :: rest) = some (quote :: rest) ∧ quote ≠ ']' := by
  rcases hq with rfl | rfl
  · exact ⟨rfl, by decide⟩
  · exact ⟨rfl, by decide⟩

theorem items?_lines (room : Nat) (texts : List String) (rest : List Char) {bound : Nat}
    (hb : texts.length < bound) (read : List Value) :
    items? (value? room) bound read ('\n' :: (texts.flatMap itemLine ++ ']' :: rest)) =
      some (read.reverse ++ texts.map .string, rest) := by
  induction texts generalizing bound read with
  | nil =>
    obtain ⟨b, rfl⟩ := Nat.exists_eq_add_one_of_ne_zero (Nat.ne_of_gt hb)
    rw [List.map_nil, List.append_nil]
    exact items?_end rfl
  | cons text texts ih =>
    obtain ⟨b, rfl⟩ := Nat.exists_eq_add_one_of_ne_zero (Nat.ne_of_gt (Nat.zero_lt_of_lt hb))
    have hsplit : '\n' :: ((text :: texts).flatMap itemLine ++ ']' :: rest) =
        '\n' :: ' ' :: ' ' :: ' ' :: ' ' :: (stringChars text.toList ++
          ',' :: '\n' :: (texts.flatMap itemLine ++ ']' :: rest)) := by
      rw [List.flatMap_cons]
      simp [itemLine]
    have hvalue := value?_stringChars room text.toList (afterString_cons (c := ',') (by decide)
      (by decide) ('\n' :: (texts.flatMap itemLine ++ ']' :: rest)))
    obtain ⟨quote, chars, hc, hq⟩ := exists_stringChars text.toList
    rw [hsplit]
    rw [hc, List.cons_append] at hvalue ⊢
    obtain ⟨hskip, hne⟩ := skipTrivia?_quote hq
      (chars ++ ',' :: '\n' :: (texts.flatMap itemLine ++ ']' :: rest))
    refine (items?_item hskip hne hvalue).trans ?_
    rw [String.ofList_toList]
    show items? (value? room) b (.string text :: read) _ = _
    rw [ih (Nat.lt_of_succ_lt_succ hb), List.reverse_cons, List.append_assoc]
    rfl

theorem length_le_flatMap_itemLine (texts : List String) :
    texts.length ≤ (texts.flatMap itemLine).length := by
  induction texts with
  | nil => exact Nat.le_refl 0
  | cons text texts ih =>
    rw [List.flatMap_cons, List.length_append, List.length_cons]
    have hpos : 0 < (itemLine text).length := Nat.succ_pos _
    omega

/-- what stands behind the opening bracket of an array -/
theorem value?_array (room : Nat) {text rest : List Char} {items : List Value}
    (h : items? (value? room) (text.length + 1) [] text = some (items, rest)) :
    value? (room + 1) ('[' :: text) = some (.array items, rest) := by
  rw [value?, h]
  rfl

/-- **An array of strings is read as these strings in their order.** -/
theorem readsAs_strings (texts : List String) :
    ReadsAs (writeStrings texts) (.array (texts.map .string)) := by
  intro rest
  match texts with
  | [] => exact value?_array 79 (items?_end rfl)
  | [text] =>
    have hvalue := value?_stringChars 79 text.toList
      (afterString_cons (c := ']') (by decide) (by decide) ('\n' :: rest))
    have hsplit : (writeStrings [text]).toList ++ '\n' :: rest =
        '[' :: (stringChars text.toList ++ ']' :: '\n' :: rest) := by
      simp [writeStrings, writeString]
    rw [hsplit]
    apply value?_array 79
    obtain ⟨quote, chars, hc, hq⟩ := exists_stringChars text.toList
    rw [hc, List.cons_append] at hvalue ⊢
    obtain ⟨hskip, hne⟩ := skipTrivia?_quote hq (chars ++ ']' :: '\n' :: rest)
    rw [items?_item hskip hne hvalue, String.ofList_toList]
    rfl
  | first :: second :: texts =>
    have hlines : ∀ texts : List String,
        (String.join (texts.map fun text => "    " ++ writeString text ++ ",\n")).toList =
          texts.flatMap itemLine := by
      intro texts
      rw [String.toList_join, List.flatMap_map]
      congr 1
      funext text
      simp [writeString, itemLine]
    have hsplit : (writeStrings (first :: second :: texts)).toList ++ '\n' :: rest =
        '[' :: '\n' :: ((first :: second :: texts).flatMap itemLine ++ ']' :: '\n' :: rest) := by
      show ("[\n" ++ String.join _ ++ "]").toList ++ '\n' :: rest = _
      rw [String.toList_append, String.toList_append, hlines]
      simp
    rw [hsplit]
    apply value?_array 79
    apply items?_lines
    have hlen := length_le_flatMap_itemLine (first :: second :: texts)
    rw [List.length_cons (a := '\n'), List.length_append]
    omega

end Jargon.Toml

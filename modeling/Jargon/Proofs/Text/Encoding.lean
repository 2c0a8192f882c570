import Jargon.Text.Occurrences

/-!
# Counting bytes is counting characters

The bytes of a text show where its characters start: the first byte of a character is never one of
the later bytes of another.  So the bytes of a needle are found only where its characters are, and
a scan that goes on byte by byte after a mismatch passes over the rest of a character in vain.

* `encode`                    the bytes of a text, character by character;
* `encode_prefix_iff`         a text starts with a needle if its bytes do;
* `countBytesFrom_skip`       bytes of the last match are passed over;
* `countBytesFrom_inside`     so are bytes inside a character, since no needle starts there;
* `countBytesFrom_encode`     both scans side by side;
* `countOccurrences_eq_countByBytes`   so they count the same.
-/

namespace Jargon.Text

/-! ## bytes of a text -/

def encode (text : List Char) : List UInt8 := text.flatMap String.utf8EncodeChar

@[simp]
theorem encode_nil : encode [] = [] := rfl

@[simp]
theorem encode_cons (c : Char) (text : List Char) :
    encode (c :: text) = String.utf8EncodeChar c ++ encode text := List.flatMap_cons

@[simp]
theorem encode_append (a b : List Char) : encode (a ++ b) = encode a ++ encode b :=
  List.flatMap_append

theorem toUTF8_eq_encode (text : String) : text.toUTF8.data.toList = encode text.toList := by
  have hbytes : text.toList.utf8Encode.data.toList = encode text.toList := by
    rw [List.utf8Encode, List.data_toByteArray]
    rfl
  rw [String.utf8Encode_toList] at hbytes
  exact hbytes

/-- one byte that starts a character, then bytes that start none -/
theorem exists_utf8EncodeChar (c : Char) :
    ∃ b inside, String.utf8EncodeChar c = b :: inside ∧ b.IsUTF8FirstByte ∧
      ∀ x ∈ inside, ¬ x.IsUTF8FirstByte := by
  obtain ⟨b, inside, hc⟩ := List.exists_cons_of_ne_nil (String.utf8EncodeChar_ne_nil (c := c))
  refine ⟨b, inside, hc, ?_, ?_⟩
  · have hfirst := UInt8.isUTF8FirstByte_getElem_zero_utf8EncodeChar (c := c)
    simpa only [hc, List.getElem_cons_zero] using hfirst
  · intro x hx
    obtain ⟨i, hi, rfl⟩ := List.mem_iff_getElem.mp hx
    have hlen : i + 1 < (String.utf8EncodeChar c).length := by
      rw [hc, List.length_cons]
      omega
    have hlater : (String.utf8EncodeChar c)[i + 1].IsUTF8FirstByte ↔ i + 1 = 0 :=
      UInt8.isUTF8FirstByte_getElem_utf8EncodeChar
    simp only [hc, List.getElem_cons_succ] at hlater
    rw [hlater]
    exact Nat.succ_ne_zero i

/-- **A needle stands where its bytes stand.** -/
theorem encode_prefix_iff (needle text : List Char) :
    encode needle <+: encode text ↔ needle <+: text := by
  constructor
  · rintro ⟨rest, h⟩
    apply List.isPrefix_of_utf8Encode_append_eq_utf8Encode rest.toByteArray
    show (encode needle).toByteArray ++ rest.toByteArray = (encode text).toByteArray
    rw [← List.toByteArray_append, h]
  · rintro ⟨rest, rfl⟩
    rw [encode_append]
    exact List.prefix_append _ _

/-! ## the scan over bytes -/

@[simp]
theorem countBytesFrom_nil (needle : List UInt8) (found covered : Nat) :
    countBytesFrom needle found covered [] = found := by
  cases covered <;> rfl

theorem countBytesFrom_skip (needle : List UInt8) (found covered : Nat) (piece rest : List UInt8) :
    countBytesFrom needle found (piece.length + covered) (piece ++ rest) =
      countBytesFrom needle found covered rest := by
  induction piece with
  | nil => rw [List.length_nil, Nat.zero_add, List.nil_append]
  | cons b piece ih =>
    rw [List.length_cons, Nat.succ_add, List.cons_append, countBytesFrom]
    exact ih

/-- no needle starts inside a character -/
theorem countBytesFrom_inside {b : UInt8} (hb : b.IsUTF8FirstByte) (needle : List UInt8)
    (found : Nat) {inside : List UInt8} (h : ∀ x ∈ inside, ¬ x.IsUTF8FirstByte)
    (rest : List UInt8) :
    countBytesFrom (b :: needle) found 0 (inside ++ rest) =
      countBytesFrom (b :: needle) found 0 rest := by
  induction inside with
  | nil => rfl
  | cons x inside ih =>
    have hx : ¬ (b :: needle).isPrefixOf (x :: (inside ++ rest)) = true := by
      intro hp
      obtain ⟨rfl, -⟩ := List.cons_prefix_cons.mp (List.isPrefixOf_iff_prefix.mp hp)
      exact h b List.mem_cons_self hb
    rw [List.cons_append, countBytesFrom, if_neg hx]
    exact ih fun y hy => h y (List.mem_cons_of_mem _ hy)

/-! ## both scans -/

/-- **The scan over bytes finds what the scan over characters finds.**  The induction is on the
text.  Where the last match covers characters, their bytes are still to be passed over. -/
theorem countBytesFrom_encode {needle : List Char} (hne : needle ≠ []) (text : List Char)
    (found covered : Nat) :
    countBytesFrom (encode needle) found (encode (text.take covered)).length (encode text) =
      countFrom needle found covered text := by
  obtain ⟨d, needle, rfl⟩ := List.exists_cons_of_ne_nil hne
  obtain ⟨first, insideFirst, hd, hfirst, -⟩ := exists_utf8EncodeChar d
  have hneedle : encode (d :: needle) = first :: (insideFirst ++ encode needle) := by
    rw [encode_cons, hd, List.cons_append]
  induction text generalizing found covered with
  | nil =>
    rw [encode_nil, countBytesFrom_nil]
    cases covered <;> rfl
  | cons c rest ih =>
    cases covered with
    | succ covered =>
      rw [List.take_succ_cons, encode_cons c, encode_cons c, List.length_append,
        countBytesFrom_skip, ih]
      rfl
    | zero =>
      obtain ⟨b, inside, hc, -, hinside⟩ := exists_utf8EncodeChar c
      have htext : encode (c :: rest) = b :: (inside ++ encode rest) := by
        rw [encode_cons, hc, List.cons_append]
      rw [List.take_zero, encode_nil, List.length_nil, htext, countBytesFrom, countFrom, ← htext]
      by_cases hp : d :: needle <+: c :: rest
      -- the bytes of a match are those inside its first character and those of the others
      · have hbytes := (encode_prefix_iff _ _).mpr hp
        obtain ⟨rfl, hrest⟩ := List.cons_prefix_cons.mp hp
        obtain rfl : insideFirst = inside := List.tail_eq_of_cons_eq (hd.symm.trans hc)
        have hcovered : (encode (d :: needle)).length - 1 =
            insideFirst.length + (encode (rest.take needle.length)).length := by
          rw [← List.prefix_iff_eq_take.mp hrest, hneedle, List.length_cons, List.length_append,
            Nat.add_sub_cancel]
        rw [if_pos (List.isPrefixOf_iff_prefix.mpr hbytes),
          if_pos (List.isPrefixOf_iff_prefix.mpr hp), hcovered, countBytesFrom_skip, ih]
        rfl
      -- after a mismatch the rest of the character is passed over byte by byte
      · have hbytes := fun h => hp ((encode_prefix_iff _ _).mp (List.isPrefixOf_iff_prefix.mp h))
        rw [if_neg hbytes, if_neg fun h => hp (List.isPrefixOf_iff_prefix.mp h), hneedle,
          countBytesFrom_inside hfirst _ _ hinside, ← hneedle]
        exact ih found 0

/-- **Counting characters and counting bytes agree,** for every text and every needle; the empty
needle is found by neither. -/
theorem countOccurrences_eq_countByBytes (text needle : String) :
    countOccurrences text needle = countByBytes text needle ∧
      countOccurrences text "" = 0 ∧ countByBytes text "" = 0 := by
  refine ⟨?_, rfl, rfl⟩
  unfold countOccurrences countByBytes
  rw [toUTF8_eq_encode, toUTF8_eq_encode]
  by_cases h : needle = ""
  · rw [h]
    rfl
  · have hne : needle.toList ≠ [] := by simpa using h
    have hbytes : encode needle.toList ≠ [] := by
      obtain ⟨c, chars, hc⟩ := List.exists_cons_of_ne_nil hne
      rw [hc, encode_cons]
      exact List.append_ne_nil_of_left_ne_nil String.utf8EncodeChar_ne_nil _
    have hscan := countBytesFrom_encode hne text.toList 0 0
    rw [if_neg (by simpa using h), if_neg (by simpa using hbytes)]
    exact hscan.symm

end Jargon.Text

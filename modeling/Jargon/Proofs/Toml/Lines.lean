import Jargon.Proofs.Toml.Values

/-!
# Written lines read back

A document is read line by line, and what one line leaves behind is all that the next one sees.  So
a section is read by induction on its lines: each puts one more value into the table that the
header has opened.

* `Runs`            what reading the rest of a document comes to;
* `runs_section`    a header and the lines below it.
-/

namespace Jargon.Toml

/-! ## tables -/

namespace Entries

@[simp]
theorem find?_put_of_ne {key key' : String} (h : key ≠ key') (node : Node) (entries : Entries) :
    find? key' (put key node entries) = find? key' entries := by
  induction entries with
  | nil => exact if_neg h
  | cons e entries ih =>
    obtain ⟨k, n⟩ := e
    rw [put]
    split
    · rename_i hk
      rw [find?, find?, if_neg h, hk, if_neg h]
    · split
      · rw [find?, if_neg h]
      · rw [find?, find?, ih]

theorem put_put (key : String) (node node' : Node) (entries : Entries) :
    put key node' (put key node entries) = put key node' entries := by
  induction entries with
  | nil => exact if_pos rfl
  | cons e entries ih =>
    obtain ⟨k, n⟩ := e
    by_cases hk : k = key
    · rw [put, put, if_pos hk, if_pos hk, put, if_pos rfl]
    · by_cases hlt : key < k
      · rw [put, put, if_neg hk, if_pos hlt, if_neg hk, if_pos hlt, put, if_pos rfl]
      · rw [put, put, if_neg hk, if_neg hlt, if_neg hk, if_neg hlt, put, if_neg hk, if_neg hlt, ih]

theorem mem_put {key : String} {node : Node} {entries : Entries} {e : String × Node}
    (h : e ∈ put key node entries) : e = (key, node) ∨ e ∈ entries := by
  induction entries with
  | nil => exact .inl (List.mem_singleton.mp h)
  | cons e' entries ih =>
    obtain ⟨k, n⟩ := e'
    rw [put] at h
    split at h
    · exact (List.mem_cons.mp h).imp_right (List.mem_cons_of_mem _)
    · split at h
      · exact List.mem_cons.mp h
      · rcases List.mem_cons.mp h with rfl | h
        · exact .inr List.mem_cons_self
        · exact (ih h).imp_right (List.mem_cons_of_mem _)

theorem mem_put_self (key : String) (node : Node) (entries : Entries) :
    (key, node) ∈ put key node entries := by
  induction entries with
  | nil => exact List.mem_singleton_self _
  | cons e entries ih =>
    rw [put]
    split
    · exact List.mem_cons_self
    · split
      · exact List.mem_cons_self
      · exact List.mem_cons_of_mem _ ih

theorem mem_put_of_ne {key : String} {entries : Entries} {e : String × Node} (h : e ∈ entries)
    (hne : e.1 ≠ key) (node : Node) : e ∈ put key node entries := by
  induction entries with
  | nil => cases h
  | cons e' entries ih =>
    obtain ⟨k, n⟩ := e'
    rw [put]
    rcases List.mem_cons.mp h with rfl | h
    · rw [if_neg hne]
      split
      · exact List.mem_cons_of_mem _ List.mem_cons_self
      · exact List.mem_cons_self
    · split
      · exact List.mem_cons_of_mem _ h
      · split
        · exact List.mem_cons_of_mem _ (List.mem_cons_of_mem _ h)
        · exact List.mem_cons_of_mem _ (ih h)

theorem toTable_eq_map (entries : Entries) :
    entries.toTable = entries.map fun e => (e.1, e.2.toValue) := by
  induction entries with
  | nil => rfl
  | cons e entries ih =>
    obtain ⟨k, n⟩ := e
    rw [List.map_cons, ← ih]
    rfl

end Entries

/-! ## keys -/

/-- a key that stands without quotes -/
def IsBareKey (key : String) : Prop := key.toList ≠ [] ∧ key.toList.all isBareKeyChar = true

instance (key : String) : Decidable (IsBareKey key) := inferInstanceAs (Decidable (_ ∧ _))

theorem IsBareKey.bare {key : String} (h : IsBareKey key) :
    ∀ c ∈ key.toList, isBareKeyChar c = true := List.all_eq_true.mp h.2

theorem IsBareKey.exists_cons {key : String} (h : IsBareKey key) :
    ∃ c chars, key.toList = c :: chars ∧ isBareKeyChar c = true := by
  obtain ⟨c, chars, hc⟩ := List.exists_cons_of_ne_nil h.1
  exact ⟨c, chars, hc, h.bare c (hc ▸ List.mem_cons_self)⟩

theorem keyPart?_of_bareKeyChar {c : Char} (h : isBareKeyChar c = true) (rest : List Char) :
    keyPart? (c :: rest) =
      let (name, rest) := (c :: rest).span isBareKeyChar
      if name.isEmpty then none else some (String.ofList name, rest) := by
  rw [keyPart?]
  · exact cons_ne_of_isBareKeyChar h rfl rest
  · exact cons_ne_of_isBareKeyChar h rfl rest

/-- a bare key is read up to the first character that cannot stand in it -/
theorem key?_bare {key : String} (hkey : IsBareKey key) {rest : List Char}
    (hr : ∀ c ∈ rest.head?, isBareKeyChar c = false) (hdot : (skipBlank rest).head? ≠ some '.') :
    key? depthLimit (key.toList ++ rest) = some ([key], skipBlank rest) := by
  obtain ⟨c, chars, hc, hbare⟩ := hkey.exists_cons
  have hspan := span_append hkey.bare hr
  have hpart : keyPart? (key.toList ++ rest) = some (key, rest) := by
    rw [hc, List.cons_append] at hspan ⊢
    rw [keyPart?_of_bareKeyChar hbare, hspan]
    show some (String.ofList (c :: chars), rest) = _
    rw [← hc, String.ofList_toList]
  show key? (79 + 1) _ = _
  rw [key?, hpart]
  simp only [Option.bind_eq_bind, Option.bind_some]
  split
  · rename_i heq
    rw [heq] at hdot
    exact absurd rfl hdot
  · rfl

/-! ## a single line -/

theorem line?_of_bareKeyChar {c : Char} (h : isBareKeyChar c = true) (p : Progress)
    (rest : List Char) :
    line? p (c :: rest) = (do
      let ((key, value), text) ← assignment? (value? depthLimit) (c :: rest)
      return ({ p with root := ← within (assign key value) p.header p.root }, text)) := by
  have hne : ∀ {d : Char}, isBareKeyChar d = false → ∀ tail, c :: rest ≠ d :: tail :=
    fun hd => cons_ne_of_isBareKeyChar h hd rest
  rw [line?]
  · exact fun tail => hne (d := '[') rfl ('[' :: tail)
  · exact hne rfl
  · exact List.cons_ne_nil c rest
  · exact hne rfl
  · exact hne rfl
  · exact hne rfl

theorem assignment?_bare {key text : String} {v : Value} (hkey : IsBareKey key)
    (hv : ReadsAs text v) (rest : List Char) :
    assignment? (value? depthLimit)
        (key.toList ++ ' ' :: '=' :: ' ' :: (text.toList ++ '\n' :: rest)) =
      some (([key], v), '\n' :: rest) := by
  have hread : key? depthLimit (key.toList ++ ' ' :: '=' :: ' ' :: (text.toList ++ '\n' :: rest)) =
      some ([key], '=' :: ' ' :: (text.toList ++ '\n' :: rest)) := by
    refine key?_bare hkey ?_ ?_
    · intro c hc
      cases hc
      rfl
    · exact fun h => nomatch h
  rw [assignment?, hread]
  simp only [Option.bind_eq_bind, Option.bind_some, hv rest]
  rfl

theorem line?_valueLine {key text : String} {v : Value} (hkey : IsBareKey key)
    (hv : ReadsAs text v) {p : Progress} {root : Entries}
    (hroot : within (assign [key] v) p.header p.root = some root) (rest : List Char) :
    line? p (skipBlank ((valueLine key text).toList ++ rest)) =
      some ({ p with root }, '\n' :: rest) := by
  have hsplit : (valueLine key text).toList ++ rest =
      key.toList ++ ' ' :: '=' :: ' ' :: (text.toList ++ '\n' :: rest) := by
    simp [valueLine]
  have hread := assignment?_bare hkey hv rest
  obtain ⟨c, chars, hc, hbare⟩ := hkey.exists_cons
  rw [hsplit]
  rw [hc, List.cons_append] at hread ⊢
  rw [skipBlank_of_bareKeyChar hbare, line?_of_bareKeyChar hbare, hread]
  simp only [Option.bind_eq_bind, Option.bind_some, hroot]
  rfl

theorem line?_headerLine {key : String} (hkey : IsBareKey key) {p : Progress} {root : Entries}
    (hroot : openTable [key] p.root = some root) (rest : List Char) :
    line? p (skipBlank ((headerLine key).toList ++ rest)) = some (⟨root, [key]⟩, '\n' :: rest) := by
  have hsplit : (headerLine key).toList ++ rest = '[' :: (key.toList ++ ']' :: '\n' :: rest) := by
    simp [headerLine]
  have hread : key? depthLimit (key.toList ++ ']' :: '\n' :: rest) =
      some ([key], ']' :: '\n' :: rest) := by
    refine key?_bare hkey ?_ ?_
    · intro c hc
      cases hc
      rfl
    · exact fun h => nomatch h
  obtain ⟨c, chars, hc, hbare⟩ := hkey.exists_cons
  have hbracket : c ≠ '[' := ne_of_isBareKeyChar hbare rfl
  rw [hsplit]
  rw [hc, List.cons_append] at hread ⊢
  show line? p ('[' :: c :: (chars ++ ']' :: '\n' :: rest)) = _
  rw [line?, skipBlank_of_bareKeyChar hbare, hread]
  · simp only [Option.bind_eq_bind, Option.bind_some, hroot]
    rfl
  · exact fun tail heq => hbracket (List.cons.inj heq).1

/-! ## all lines -/

/-- reading the rest of a document comes to this, however the lines are counted -/
def Runs (p : Progress) (text : List Char) (q : Progress) : Prop :=
  ∀ bound, text.length < bound → lines? bound p text = some q

theorem runs_nil (p : Progress) : Runs p [] p := by
  intro bound hb
  obtain ⟨b, rfl⟩ := Nat.exists_eq_add_one_of_ne_zero (Nat.ne_of_gt hb)
  rfl

/-- one line, and then the others -/
theorem runs_line {p p' q : Progress} {text rest : List Char}
    (hline : line? p (skipBlank text) = some (p', '\n' :: rest)) (hlen : rest.length < text.length)
    (h : Runs p' rest q) : Runs p text q := by
  intro bound hb
  obtain ⟨b, rfl⟩ := Nat.exists_eq_add_one_of_ne_zero (Nat.ne_of_gt (Nat.zero_lt_of_lt hb))
  have hrest := h b (by omega)
  cases text with
  | nil => cases hlen
  | cons c text =>
    rw [lines?, hline]
    · exact hrest
    · exact List.cons_ne_nil c text

theorem runs_emptyLine {p q : Progress} {rest : List Char} (h : Runs p rest q) :
    Runs p ('\n' :: rest) q :=
  runs_line rfl (Nat.lt_succ_self _) h

/-! ## sections -/

/-- a key and what is written behind it, with the value that this stands for -/
structure Line where
  key : String
  text : String
  value : Value

namespace Line

def chars (l : Line) : List Char := (valueLine l.key l.text).toList

/-- a line that is read as it is meant -/
structure Reads (l : Line) : Prop where
  key : IsBareKey l.key
  text : ReadsAs l.text l.value

/-- the entries that lines add to a table -/
def putAll (entries : Entries) (lines : List Line) : Entries :=
  lines.foldl (fun entries l => entries.put l.key (.value l.value)) entries

theorem mem_of_mem_putAll {lines : List Line} {entries : Entries} {e : String × Node}
    (h : e ∈ putAll entries lines) :
    e ∈ entries ∨ ∃ l ∈ lines, e = (l.key, .value l.value) := by
  induction lines generalizing entries with
  | nil => exact .inl h
  | cons l lines ih =>
    rcases ih h with h | ⟨l', hl, he⟩
    · rcases Entries.mem_put h with he | h
      · exact .inr ⟨l, List.mem_cons_self, he⟩
      · exact .inl h
    · exact .inr ⟨l', List.mem_cons_of_mem l hl, he⟩

/-- an entry stays where no line has its key -/
theorem mem_putAll_of_ne {lines : List Line} {entries : Entries} {e : String × Node}
    (h : e ∈ entries) (hne : ∀ l ∈ lines, e.1 ≠ l.key) : e ∈ putAll entries lines := by
  induction lines generalizing entries with
  | nil => exact h
  | cons l lines ih =>
    exact ih (Entries.mem_put_of_ne h (hne l List.mem_cons_self) _) fun l' hl' =>
      hne l' (List.mem_cons_of_mem l hl')

theorem mem_putAll {lines : List Line} (hd : lines.Pairwise (·.key ≠ ·.key)) {l : Line}
    (hl : l ∈ lines) (entries : Entries) : (l.key, .value l.value) ∈ putAll entries lines := by
  induction lines generalizing entries with
  | nil => cases hl
  | cons l' lines ih =>
    obtain ⟨hfirst, hothers⟩ := List.pairwise_cons.mp hd
    rcases List.mem_cons.mp hl with rfl | hl
    · show _ ∈ putAll (entries.put l.key (.value l.value)) lines
      exact mem_putAll_of_ne (Entries.mem_put_self _ _ _) hfirst
    · exact ih hothers hl _

/-- **The table of lines with different keys has what the lines say**, in whatever order. -/
theorem mem_toTable_putAll {lines : List Line} (hd : lines.Pairwise (·.key ≠ ·.key))
    {e : String × Value} :
    e ∈ Entries.toTable (putAll [] lines) ↔ ∃ l ∈ lines, e = (l.key, l.value) := by
  rw [Entries.toTable_eq_map, List.mem_map]
  constructor
  · rintro ⟨e', he', rfl⟩
    rcases mem_of_mem_putAll he' with he' | ⟨l, hl, rfl⟩
    · cases he'
    · exact ⟨l, hl, rfl⟩
  · rintro ⟨l, hl, rfl⟩
    exact ⟨_, mem_putAll hd hl [], rfl⟩

theorem assign_of_find? {entries : Entries} {key : String} (h : entries.find? key = none)
    (v : Value) : assign [key] v entries = some (entries.put key (.value v)) := by
  rw [assign, assignIn, h]
  rfl

theorem within_opened {name : String} {change : Entries → Option Entries}
    {entries entries' root : Entries} (h : change entries = some entries') :
    within change [name] (root.put name (.table .opened entries)) =
      some (root.put name (.table .opened entries')) := by
  rw [within, Entries.find?_put]
  simp only [within, h, Option.bind_eq_bind, Option.bind_some, Entries.put_put]
  rfl

end Line

/-- lines with different keys that the open table does not have yet -/
theorem runs_lines {name : String} {root : Entries} {lines : List Line} {rest : List Char}
    {q : Progress} (hl : ∀ l ∈ lines, l.Reads) (hd : lines.Pairwise (·.key ≠ ·.key))
    {entries : Entries} (hnew : ∀ l ∈ lines, entries.find? l.key = none)
    (h : Runs ⟨root.put name (.table .opened (Line.putAll entries lines)), [name]⟩ rest q) :
    Runs ⟨root.put name (.table .opened entries), [name]⟩
      (lines.flatMap Line.chars ++ rest) q := by
  induction lines generalizing entries with
  | nil => exact h
  | cons l lines ih =>
    have hreads := hl l List.mem_cons_self
    have hassign := Line.assign_of_find? (hnew l List.mem_cons_self) l.value
    obtain ⟨hfirst, hothers⟩ := List.pairwise_cons.mp hd
    rw [List.flatMap_cons, List.append_assoc]
    apply runs_line (line?_valueLine hreads.key hreads.text (Line.within_opened hassign) _)
    · have hpos : 0 < (valueLine l.key l.text).toList.length := by
        simp only [valueLine, String.toList_append, List.length_append]
        exact Nat.succ_pos _
      simp only [List.length_append]
      omega
    · apply ih (fun l' hl' => hl l' (List.mem_cons_of_mem l hl')) hothers
      · intro l' hl'
        rw [Entries.find?_put_of_ne (hfirst l' hl')]
        exact hnew l' (List.mem_cons_of_mem l hl')
      · exact h

/-- **A section leaves behind the table of its lines**, if there was none of its name. -/
theorem runs_section {key : String} (hkey : IsBareKey key) {lines : List Line}
    (hl : ∀ l ∈ lines, l.Reads) (hd : lines.Pairwise (·.key ≠ ·.key)) {root : Entries}
    (hnew : root.find? key = none) {header : List String} {rest : List Char} {q : Progress}
    (h : Runs ⟨root.put key (.table .opened (Line.putAll [] lines)), [key]⟩ rest q) :
    Runs ⟨root, header⟩ ((headerLine key).toList ++ (lines.flatMap Line.chars ++ rest)) q := by
  have hopen : openTable [key] root = some (root.put key (.table .opened [])) := by
    show openKey key root = _
    rw [openKey, hnew]
  apply runs_line (line?_headerLine hkey hopen _)
  · have hpos : 0 < (headerLine key).toList.length := by
      simp only [headerLine, String.toList_append, List.length_append]
      exact Nat.succ_pos _
    simp only [List.length_append]
    omega
  · exact runs_lines hl hd (fun _ _ => rfl) h

end Jargon.Toml

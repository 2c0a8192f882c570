import Jargon.Config.Load
import Jargon.Proofs.Config.Settings

/-!
# A rendered configuration reads back

The text of a configuration is read as a document in which each line says what the configuration has
in a setting, and only what is standard has no line.  So the document decodes to the configuration
again, valid or not.

* `runs_render`         what is read line by line;
* `presents_document`   what its lines say;
* `parse_render`        both, and the verdict on the result.
-/

namespace Jargon.Config

open Toml (Line Table Value Entries Progress Runs ReadsAs IsBareKey)

/-! ## lines of a section -/

/-- the line of a list that is set -/
def listLine (list : WordList) (entries : List String) : Line :=
  ⟨list.name, Toml.writeStrings entries, .array (entries.map .string)⟩

def seedLine (seed : UInt64) : Line := ⟨Key.seed, toString seed, .integer seed.toNat⟩

def Section.lines (c : Config) : Section → List Line
  | .engine =>
    (c.seed.map seedLine).toList
      ++ [⟨Key.insertionMode, Toml.writeString c.insertionMode, .string c.insertionMode⟩]
  | .compliance => [
      ⟨Key.minScore, Toml.writeFloat c.compliance.minScore, .float c.compliance.minScore⟩,
      ⟨Key.maxScore, Toml.writeFloat c.compliance.maxScore, .float c.compliance.maxScore⟩,
      ⟨Key.minWordCount, toString c.compliance.minWordCount,
        .integer c.compliance.minWordCount.toNat⟩,
      ⟨Key.maxCoherencePercent, toString c.compliance.maxCoherencePercent,
        .integer c.compliance.maxCoherencePercent.toNat⟩]
  | .lexicon =>
    (c.lexicon.vocabulary.map (listLine .vocabulary)).toList
      ++ (c.lexicon.actionVerbs.map (listLine .actionVerbs)).toList
      ++ (c.lexicon.conceptNouns.map (listLine .conceptNouns)).toList
  | .logging => [⟨Key.level, Toml.writeString c.logLevel, .string c.logLevel⟩]

/-- header and lines of a section -/
def Section.chars (c : Config) (s : Section) : List Char :=
  (Toml.headerLine s.key).toList ++ (s.lines c).flatMap Line.chars

theorem toList_valueLine? {α : Type} (key : String) (write : α → String) (v : α → Value)
    (o : Option α) :
    (Toml.valueLine? key write o).toList =
      (o.map fun a => Line.mk key (write a) (v a)).toList.flatMap Line.chars := by
  cases o with
  | none => rfl
  | some a =>
    rw [Option.map_some, Option.toList_some, List.flatMap_singleton]
    rfl

theorem toList_renderEngine (c : Config) : c.renderEngine.toList = Section.engine.chars c := by
  rw [renderEngine, String.toList_append, String.toList_append,
    toList_valueLine? Key.seed toString fun n => .integer n.toNat]
  simp only [Section.chars, Section.lines, List.flatMap_append, List.flatMap_singleton,
    List.append_assoc]
  rfl

theorem toList_renderCompliance (c : Config) :
    c.renderCompliance.toList = Section.compliance.chars c := by
  simp only [renderCompliance, String.toList_append, Section.chars, Section.lines,
    List.flatMap_cons, List.flatMap_nil, List.append_nil, List.append_assoc]
  rfl

theorem toList_renderLexicon (c : Config) : c.renderLexicon.toList = Section.lexicon.chars c := by
  have hlist : ∀ list : WordList, ∀ o : Option (List String),
      (Toml.valueLine? list.name Toml.writeStrings o).toList =
        (o.map (listLine list)).toList.flatMap Line.chars :=
    fun list => toList_valueLine? list.name Toml.writeStrings fun es => .array (es.map .string)
  rw [renderLexicon, String.toList_append, String.toList_append, String.toList_append, hlist, hlist,
    hlist]
  simp only [Section.chars, Section.lines, List.flatMap_append, List.append_assoc]

theorem toList_renderLogging (c : Config) : c.renderLogging.toList = Section.logging.chars c := by
  simp only [renderLogging, String.toList_append, Section.chars, Section.lines,
    List.flatMap_singleton]
  rfl

/-! ## each line is read -/

theorem isBareKey_section (s : Section) : IsBareKey s.key := by
  cases s <;> decide

theorem isBareKey_list (list : WordList) : IsBareKey list.name := by
  cases list <;> decide

theorem isBareKey_field : ∀ key ∈ [Key.seed, Key.insertionMode, Key.minScore, Key.maxScore,
    Key.minWordCount, Key.maxCoherencePercent, Key.level], IsBareKey key := by decide

theorem reads_listLine (list : WordList) (o : Option (List String)) :
    ∀ l ∈ (o.map (listLine list)).toList, l.Reads := by
  intro l hl
  cases o with
  | none => cases hl
  | some entries =>
    cases List.mem_singleton.mp hl
    exact ⟨isBareKey_list list, Toml.readsAs_strings entries⟩

theorem reads_lines (c : Config) (s : Section) : ∀ l ∈ s.lines c, l.Reads := by
  intro l hl
  cases s with
  | engine =>
    rcases List.mem_append.mp hl with hl | hl
    · obtain ⟨n, -, rfl⟩ : ∃ n, c.seed = some n ∧ seedLine n = l := by
        simpa using hl
      exact ⟨isBareKey_field Key.seed (by simp), Toml.readsAs_unsigned64 n⟩
    · cases List.mem_singleton.mp hl
      exact ⟨isBareKey_field Key.insertionMode (by simp), Toml.readsAs_string _⟩
  | compliance =>
    simp only [Section.lines, List.mem_cons, List.not_mem_nil, or_false] at hl
    rcases hl with rfl | rfl | rfl | rfl
    · exact ⟨isBareKey_field Key.minScore (by simp), Toml.readsAs_float _⟩
    · exact ⟨isBareKey_field Key.maxScore (by simp), Toml.readsAs_float _⟩
    · exact ⟨isBareKey_field Key.minWordCount (by simp), Toml.readsAs_unsigned64 _⟩
    · exact ⟨isBareKey_field Key.maxCoherencePercent (by simp), Toml.readsAs_unsigned32 _⟩
  | lexicon =>
    rcases List.mem_append.mp hl with hl | hl
    · rcases List.mem_append.mp hl with hl | hl
      · exact reads_listLine _ _ l hl
      · exact reads_listLine _ _ l hl
    · exact reads_listLine _ _ l hl
  | logging =>
    cases List.mem_singleton.mp hl
    exact ⟨isBareKey_field Key.level (by simp), Toml.readsAs_string _⟩

/-- no section has two lines with one key -/
theorem pairwise_lines (c : Config) (s : Section) : (s.lines c).Pairwise (·.key ≠ ·.key) := by
  obtain ⟨seed, mode, t, ⟨v, a, n⟩, level⟩ := c
  cases s with
  | engine => cases seed <;> simp [Section.lines, seedLine, Key.seed, Key.insertionMode]
  | compliance =>
    simp [Section.lines, Key.minScore, Key.maxScore, Key.minWordCount, Key.maxCoherencePercent]
  | lexicon =>
    cases v <;> cases a <;> cases n <;> simp [Section.lines, listLine, WordList.name]
  | logging => exact List.pairwise_singleton _ _

/-! ## the document -/

/-- what the lines of a section leave in its table -/
def Section.entries (c : Config) (s : Section) : Entries := Line.putAll [] (s.lines c)

def Section.table (c : Config) (s : Section) : Table := (s.entries c).toTable

/-- all sections, each in its place -/
def Section.openAll (c : Config) (sections : List Section) (root : Entries) : Entries :=
  sections.foldl (fun root s => root.put s.key (.table .opened (s.entries c))) root

theorem toList_render (c : Config) :
    c.render.toList = Section.engine.chars c ++ '\n' :: (Section.compliance.chars c ++
      '\n' :: (Section.lexicon.chars c ++ '\n' :: Section.logging.chars c)) := by
  simp only [render, String.toList_append, toList_renderEngine, toList_renderCompliance,
    toList_renderLexicon, toList_renderLogging, List.append_assoc]
  rfl

theorem runs_chars (c : Config) (s : Section) {root : Entries} (hnew : root.find? s.key = none)
    {header : List String} {rest : List Char} {q : Progress}
    (h : Runs ⟨root.put s.key (.table .opened (s.entries c)), [s.key]⟩ rest q) :
    Runs ⟨root, header⟩ (s.chars c ++ rest) q := by
  rw [Section.chars, List.append_assoc]
  exact Toml.runs_section (isBareKey_section s) (reads_lines c s) (pairwise_lines c s) hnew h

/-- line by line, with whatever empty lines may follow -/
theorem runs_render (c : Config) {rest : List Char} {q : Progress}
    (h : Runs ⟨Section.openAll c sections [], [Section.logging.key]⟩ rest q) :
    Runs ⟨[], []⟩ (c.render.toList ++ rest) q := by
  simp only [toList_render, List.append_assoc, List.cons_append]
  apply runs_chars c .engine rfl
  apply Toml.runs_emptyLine
  apply runs_chars c .compliance rfl
  apply Toml.runs_emptyLine
  apply runs_chars c .lexicon rfl
  apply Toml.runs_emptyLine
  exact runs_chars c .logging rfl h

/-- the tables of the sections in the order of their keys -/
def document (c : Config) : Table :=
  [Section.compliance, .engine, .lexicon, .logging].map fun s => (s.key, .table (s.table c))

theorem read?_of_runs {text : String} {c : Config} {header : List String}
    (hmark : Toml.dropMark text.toList = text.toList)
    (h : Runs ⟨[], []⟩ text.toList ⟨Section.openAll c sections [], header⟩) :
    Toml.read? text = some c.document := by
  rw [Toml.read?, hmark, h _ (Nat.lt_succ_self _)]
  rfl

/-- **A rendered configuration is a document**, and an empty line behind it is none of it. -/
theorem read?_render (c : Config) :
    Toml.read? c.render = some c.document ∧ Toml.read? (c.render ++ "\n") = some c.document := by
  have hrest : ∀ rest : String, (∀ p, Runs p rest.toList p) →
      Toml.read? (c.render ++ rest) = some c.document := by
    intro rest hr
    apply read?_of_runs
    · rw [String.toList_append, toList_render]
      rfl
    · rw [String.toList_append]
      exact runs_render c (hr _)
  constructor
  · have h := hrest "" fun p => Toml.runs_nil p
    rwa [String.append_empty] at h
  · exact hrest "\n" fun p => Toml.runs_emptyLine (Toml.runs_nil p)

/-! ## what it says -/

/-- a line says what the configuration has in a setting of its section -/
theorem exists_carries_of_mem_lines {c : Config} {h : Section} {l : Line} (hl : l ∈ h.lines c) :
    ∃ s : Setting, s.header = h ∧ s.key = l.key ∧ Carries c s l.value := by
  cases h with
  | engine =>
    rcases List.mem_append.mp hl with hl | hl
    · obtain ⟨n, hn, rfl⟩ : ∃ n, c.seed = some n ∧ seedLine n = l := by
        simpa using hl
      exact ⟨.seed, rfl, rfl, .seed hn⟩
    · cases List.mem_singleton.mp hl
      exact ⟨.insertionMode, rfl, rfl, .insertionMode⟩
  | compliance =>
    simp only [Section.lines, List.mem_cons, List.not_mem_nil, or_false] at hl
    rcases hl with rfl | rfl | rfl | rfl
    · exact ⟨.minScore, rfl, rfl, .minScore .float⟩
    · exact ⟨.maxScore, rfl, rfl, .maxScore .float⟩
    · exact ⟨.minWordCount, rfl, rfl, .minWordCount⟩
    · exact ⟨.maxCoherencePercent, rfl, rfl, .maxCoherencePercent⟩
  | lexicon =>
    have hlist : ∀ list, l ∈ ((c.lexicon.list? list).map (listLine list)).toList →
        ∃ s : Setting, s.header = .lexicon ∧ s.key = l.key ∧ Carries c s l.value := by
      intro list hl
      obtain ⟨texts, ht, rfl⟩ : ∃ texts, c.lexicon.list? list = some texts ∧
          listLine list texts = l := by
        simpa using hl
      exact ⟨.list list, rfl, rfl, .list ht⟩
    rcases List.mem_append.mp hl with hl | hl
    · rcases List.mem_append.mp hl with hl | hl
      · exact hlist .vocabulary hl
      · exact hlist .actionVerbs hl
    · exact hlist .conceptNouns hl
  | logging =>
    cases List.mem_singleton.mp hl
    exact ⟨.level, rfl, rfl, .level⟩

/-- only what is standard has no line -/
theorem exists_line_or_same (c : Config) (s : Setting) :
    (∃ l ∈ s.header.lines c, l.key = s.key) ∨ Same c .standard s := by
  cases s with
  | seed =>
    cases hs : c.seed with
    | none => exact .inr hs
    | some n => exact .inl ⟨seedLine n, by simp [Setting.header, Section.lines, hs], rfl⟩
  | list list =>
    cases hs : c.lexicon.list? list with
    | none => exact .inr (by cases list <;> exact hs)
    | some texts =>
      refine .inl ⟨listLine list texts, ?_, rfl⟩
      cases list <;> simp only [Lexicon.Overrides.list?] at hs <;>
        simp [Setting.header, Section.lines, hs]
  | level => exact .inl ⟨_, List.mem_singleton_self _, rfl⟩
  | insertionMode => exact .inl ⟨_, List.mem_append_right _ (List.mem_singleton_self _), rfl⟩
  | minScore => exact .inl ⟨_, .head _, rfl⟩
  | maxScore => exact .inl ⟨_, .tail _ (.head _), rfl⟩
  | minWordCount => exact .inl ⟨_, .tail _ (.tail _ (.head _)), rfl⟩
  | maxCoherencePercent => exact .inl ⟨_, .tail _ (.tail _ (.tail _ (.head _))), rfl⟩

/-- what is rendered is a document of the configuration -/
theorem presents_document (c : Config) : Presents c c.document := by
  constructor
  · intro e he
    obtain ⟨h, -, rfl⟩ := List.mem_map.mp he
    apply DocumentEntry.header
    intro e he
    obtain ⟨l, hl, rfl⟩ := (Line.mem_toTable_putAll (pairwise_lines c h)).mp he
    obtain ⟨s, hs, hk, hv⟩ := exists_carries_of_mem_lines hl
    rw [← hk]
    exact .setting hs hv
  · intro s hs
    rcases exists_line_or_same c s with ⟨l, hl, hk⟩ | hsame
    · have hheader : s.header ∈ [Section.compliance, .engine, .lexicon, .logging] := by
        cases s.header <;> decide
      have hentry := (Line.mem_toTable_putAll (pairwise_lines c s.header)).mpr ⟨l, hl, rfl⟩
      rw [hk] at hentry
      exact absurd ⟨_, List.mem_map.mpr ⟨s.header, hheader, rfl⟩, _, hentry⟩ hs
    · exact hsame

theorem decode_document (c : Config) : decode c.document = .ok c :=
  decode_of_presents (presents_document c)

/-! ## the whole way -/

/-- **What a configuration is rendered as is read as this configuration.**  Its text is a document,
the document decodes to the configuration with what was not set left open, and only the verdict on
the configuration itself decides what `parse` answers; an empty line behind the text changes
nothing. -/
theorem parse_render (c : Config) :
    (∃ document, Toml.read? c.render = some document ∧ decode document = .ok c) ∧
      (parse c.render = match c.validate with
        | .ok () => .ok c
        | .error complaint => .error (.invalid complaint)) ∧
      parse (c.render ++ "\n") = parse c.render := by
  obtain ⟨hread, hline⟩ := read?_render c
  have hdecode := decode_document c
  refine ⟨⟨c.document, hread, hdecode⟩, parse_of_decode hread hdecode, ?_⟩
  rw [parse_of_decode hread hdecode, parse_of_decode hline hdecode]

end Jargon.Config

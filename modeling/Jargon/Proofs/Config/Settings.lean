import Jargon.Proofs.Config.Agreement
import Jargon.Proofs.Toml.Lines

/-!
# Known keys decide

A document says what it says about a configuration by ten keys in four sections.  Whatever else is
in it makes no difference as long as it can be read, and a key or a section that is left out stands
for its default.

* `Value.Readable`        no number in a value has overflowed;
* `Setting`, `Carries`    the ten keys, and the values that stand for what a configuration has;
* `Presents`              a document with these values, defaults left out or not;
* `decodeTable_settles`   entries settle what they mention and unsettle nothing;
* `parse_of_presents`     such a document is read as its configuration.
-/

namespace Jargon

/-! ## values that can be read -/

namespace Toml

/-- a value in another one, at any depth -/
inductive Part : Value → Value → Prop
  | whole (v : Value) : Part v v
  | item {v w : Value} {items : List Value} (h : v ∈ items) (hp : Part w v) :
      Part w (.array items)
  | entry {k : String} {v w : Value} {entries : Table} (h : (k, v) ∈ entries) (hp : Part w v) :
      Part w (.table entries)

/-- no number in it has overflowed -/
def Value.Readable (v : Value) : Prop := ∀ kind, ¬ Part (.overflow kind) v

theorem Value.Readable.string (text : String) : (Value.string text).Readable := by
  intro kind h
  cases h

theorem Value.Readable.table {entries : Table} (h : ∀ e ∈ entries, e.2.Readable) :
    (Value.table entries).Readable := by
  intro kind hp
  cases hp with
  | entry he hp => exact h _ he kind hp

mutual

theorem part_of_firstOverflow? {kind : Overflow} :
    ∀ {v : Value}, v.firstOverflow? = some kind → Part (.overflow kind) v
  | .overflow _, h => by
    cases h
    exact .whole _
  | .array items, h => by
    have hitems : itemsOverflow? items = some kind := h
    obtain ⟨v, hv, hp⟩ := exists_part_of_itemsOverflow? hitems
    exact .item hv hp
  | .table entries, h => by
    have hentries : entriesOverflow? entries = some kind := h
    obtain ⟨k, v, hv, hp⟩ := exists_part_of_entriesOverflow? hentries
    exact .entry hv hp
  | .string _, h | .integer _, h | .float _, h | .boolean _, h | .dateTime _, h => by cases h

theorem exists_part_of_itemsOverflow? {kind : Overflow} :
    ∀ {items : List Value}, itemsOverflow? items = some kind →
      ∃ v ∈ items, Part (.overflow kind) v
  | [], h => by cases h
  | v :: rest, h => by
    rw [itemsOverflow?, Option.orElse_eq_some] at h
    rcases h with h | ⟨-, h⟩
    · exact ⟨v, List.mem_cons_self, part_of_firstOverflow? h⟩
    · obtain ⟨w, hw, hp⟩ := exists_part_of_itemsOverflow? h
      exact ⟨w, List.mem_cons_of_mem v hw, hp⟩

theorem exists_part_of_entriesOverflow? {kind : Overflow} :
    ∀ {entries : Table}, entriesOverflow? entries = some kind →
      ∃ k v, (k, v) ∈ entries ∧ Part (.overflow kind) v
  | [], h => by cases h
  | (k, v) :: rest, h => by
    rw [entriesOverflow?, Option.orElse_eq_some] at h
    rcases h with h | ⟨-, h⟩
    · exact ⟨k, v, List.mem_cons_self, part_of_firstOverflow? h⟩
    · obtain ⟨k', w, hw, hp⟩ := exists_part_of_entriesOverflow? h
      exact ⟨k', w, List.mem_cons_of_mem _ hw, hp⟩

end

theorem Value.Readable.firstOverflow? {v : Value} (h : v.Readable) : v.firstOverflow? = none := by
  cases ho : v.firstOverflow? with
  | none => rfl
  | some kind => exact absurd (part_of_firstOverflow? ho) (h kind)

end Toml

/-! ## lists that are replaced -/

namespace Lexicon.Overrides

def put (o : Overrides) (list : WordList) (set : Option (List String)) : Overrides :=
  match list with
  | .vocabulary => { o with vocabulary := set }
  | .actionVerbs => { o with actionVerbs := set }
  | .conceptNouns => { o with conceptNouns := set }

@[simp]
theorem list?_put (o : Overrides) (list : WordList) (set : Option (List String)) :
    (o.put list set).list? list = set := by
  cases list <;> rfl

@[simp]
theorem list?_put_of_ne (o : Overrides) {list list' : WordList} (h : list' ≠ list)
    (set : Option (List String)) : (o.put list set).list? list' = o.list? list' := by
  cases list <;> cases list' <;> first | rfl | exact absurd rfl h

theorem ext_list? {o o' : Overrides} (h : ∀ list, o.list? list = o'.list? list) : o = o' := by
  obtain ⟨v, a, n⟩ := o
  obtain ⟨v', a', n'⟩ := o'
  cases (h .vocabulary : v = v')
  cases (h .actionVerbs : a = a')
  cases (h .conceptNouns : n = n')
  rfl

end Lexicon.Overrides

namespace Config

open Toml (Value Table)

/-! ## the ten settings -/

inductive Setting where
  | seed
  | insertionMode
  | minScore
  | maxScore
  | minWordCount
  | maxCoherencePercent
  | list (list : WordList)
  | level
  deriving DecidableEq, Repr

namespace Setting

/-- the section that a setting is in -/
def header : Setting → Section
  | .seed | .insertionMode => .engine
  | .minScore | .maxScore | .minWordCount | .maxCoherencePercent => .compliance
  | .list _ => .lexicon
  | .level => .logging

def key : Setting → String
  | .seed => Key.seed
  | .insertionMode => Key.insertionMode
  | .minScore => Key.minScore
  | .maxScore => Key.maxScore
  | .minWordCount => Key.minWordCount
  | .maxCoherencePercent => Key.maxCoherencePercent
  | .list l => l.name
  | .level => Key.level

/-- in the order of the fields -/
def all : List Setting := [.seed, .insertionMode, .minScore, .maxScore, .minWordCount,
  .maxCoherencePercent, .list .vocabulary, .list .actionVerbs, .list .conceptNouns, .level]

theorem mem_all (s : Setting) : s ∈ all := by
  cases s with
  | list l => cases l <;> decide
  | _ => decide

/-- a setting is known by its section and its key -/
theorem eq_of_key {s s' : Setting} (hh : s.header = s'.header) (hk : s.key = s'.key) : s = s' := by
  have hall : ∀ s ∈ all, ∀ s' ∈ all, s.header = s'.header → s.key = s'.key → s = s' := by decide
  exact hall s (mem_all s) s' (mem_all s') hh hk

end Setting

theorem Section.eq_of_key {h h' : Section} (hk : h.key = h'.key) : h = h' := by
  cases h <;> cases h' <;> first | rfl | exact absurd hk (by decide)

/-- two configurations have the same in a setting -/
def Same (c d : Config) : Setting → Prop
  | .seed => c.seed = d.seed
  | .insertionMode => c.insertionMode = d.insertionMode
  | .minScore => c.compliance.minScore = d.compliance.minScore
  | .maxScore => c.compliance.maxScore = d.compliance.maxScore
  | .minWordCount => c.compliance.minWordCount = d.compliance.minWordCount
  | .maxCoherencePercent => c.compliance.maxCoherencePercent = d.compliance.maxCoherencePercent
  | .list l => c.lexicon.list? l = d.lexicon.list? l
  | .level => c.logLevel = d.logLevel

/-- the settings are all there is to a configuration -/
theorem ext_same {c d : Config} (h : ∀ s, Same c d s) : c = d := by
  have hlexicon : c.lexicon = d.lexicon := Lexicon.Overrides.ext_list? fun l => h (.list l)
  obtain ⟨seed, mode, ⟨x, y, n, m⟩, lists, level⟩ := c
  obtain ⟨seed', mode', ⟨x', y', n', m'⟩, lists', level'⟩ := d
  cases (h .seed : seed = seed')
  cases (h .insertionMode : mode = mode')
  cases (h .minScore : x = x')
  cases (h .maxScore : y = y')
  cases (h .minWordCount : n = n')
  cases (h .maxCoherencePercent : m = m')
  cases (hlexicon : lists = lists')
  cases (h .level : level = level')
  rfl

/-- `d`, with what `c` has in a setting -/
def copy (c d : Config) : Setting → Config
  | .seed => { d with seed := c.seed }
  | .insertionMode => { d with insertionMode := c.insertionMode }
  | .minScore => { d with compliance.minScore := c.compliance.minScore }
  | .maxScore => { d with compliance.maxScore := c.compliance.maxScore }
  | .minWordCount => { d with compliance.minWordCount := c.compliance.minWordCount }
  | .maxCoherencePercent =>
    { d with compliance.maxCoherencePercent := c.compliance.maxCoherencePercent }
  | .list l => { d with lexicon := d.lexicon.put l (c.lexicon.list? l) }
  | .level => { d with logLevel := c.logLevel }

theorem same_copy (c d : Config) (s : Setting) : Same c (copy c d s) s := by
  cases s with
  | list l => exact (Lexicon.Overrides.list?_put _ l _).symm
  | _ => rfl

/-- a copy leaves the other settings as they are -/
theorem Same.copy {c d : Config} {s : Setting} (h : Same c d s) (s' : Setting) :
    Same c (copy c d s') s := by
  by_cases hs : s = s'
  · rw [hs]
    exact same_copy c d s'
  · cases s' with
    | list l' =>
      cases s with
      | list l =>
        have hl : l ≠ l' := fun he => hs (congrArg Setting.list he)
        exact Eq.trans h (Lexicon.Overrides.list?_put_of_ne _ hl _).symm
      | _ => exact h
    | _ => cases s <;> first | exact h | exact absurd rfl hs

/-! ## documents of a configuration -/

/-- a value is read as this score; an integer of 64 bits may stand for the nearest number -/
inductive StandsFor (x : Binary64) : Value → Prop
  | float : StandsFor x (.float x)
  | integer {n : Int} (hn : isWord n = true) (hx : Binary64.ratio (n < 0) n.natAbs 1 = x) :
      StandsFor x (.integer n)

/-- a value says what `c` has in a setting -/
inductive Carries (c : Config) : Setting → Value → Prop
  | seed {n : UInt64} (hn : c.seed = some n) : Carries c .seed (.integer n.toNat)
  | insertionMode : Carries c .insertionMode (.string c.insertionMode)
  | minScore {v : Value} (hv : StandsFor c.compliance.minScore v) : Carries c .minScore v
  | maxScore {v : Value} (hv : StandsFor c.compliance.maxScore v) : Carries c .maxScore v
  | minWordCount : Carries c .minWordCount (.integer c.compliance.minWordCount.toNat)
  | maxCoherencePercent :
      Carries c .maxCoherencePercent (.integer c.compliance.maxCoherencePercent.toNat)
  | list {l : WordList} {texts : List String} (hl : c.lexicon.list? l = some texts) :
      Carries c (.list l) (.array (texts.map .string))
  | level : Carries c .level (.string c.logLevel)

/-- an entry of a section: a key of a setting with what `c` has there, or any other key -/
inductive EntryOf (c : Config) (h : Section) : String × Value → Prop
  | setting {s : Setting} {v : Value} (hs : s.header = h) (hv : Carries c s v) :
      EntryOf c h (s.key, v)
  | other {key : String} {v : Value} (hk : ∀ s : Setting, s.header = h → s.key ≠ key)
      (hv : v.Readable) : EntryOf c h (key, v)

/-- an entry of a document: a section, or any other key -/
inductive DocumentEntry (c : Config) : String × Value → Prop
  | header {h : Section} {entries : Table} (he : ∀ e ∈ entries, EntryOf c h e) :
      DocumentEntry c (h.key, .table entries)
  | other {key : String} {v : Value} (hk : ∀ h : Section, h.key ≠ key) (hv : v.Readable) :
      DocumentEntry c (key, v)

/-- a document has the key of a setting in its section -/
def Mentions (document : Table) (s : Setting) : Prop :=
  ∃ entries, (s.header.key, .table entries) ∈ document ∧ ∃ v, (s.key, v) ∈ entries

/-- what a document says is what `c` has, and on what it leaves open `c` is standard -/
structure Presents (c : Config) (document : Table) : Prop where
  entries : ∀ e ∈ document, DocumentEntry c e
  absent : ∀ s, ¬ Mentions document s → Same c .standard s

/-! ## one entry -/

theorem keys_fields (h : Section) :
    h.fields.map Field.key = (Setting.all.filter (·.header = h)).map Setting.key := by
  cases h <;> rfl

theorem natural_ok {bound n : Nat} (hb : bound ≤ UInt64.size) (hn : n < bound) (e : Expected) :
    natural bound e (.integer n) = .ok n := by
  have hword : isWord n = true := by
    rw [isWord, Bool.and_eq_true, decide_eq_true_eq, decide_eq_true_eq]
    omega
  rw [natural, if_pos hword, if_pos ⟨by omega, by omega⟩, Int.toNat_natCast]

@[simp]
theorem unsigned64_toNat (n : UInt64) : unsigned64 (.integer n.toNat) = .ok n := by
  rw [unsigned64, natural_ok (Nat.le_refl _) n.toNat_lt]
  exact congrArg Except.ok UInt64.ofNat_toNat

@[simp]
theorem size_toNat (n : UInt64) : size (.integer n.toNat) = .ok n := by
  rw [size, natural_ok (Nat.le_refl _) n.toNat_lt]
  exact congrArg Except.ok UInt64.ofNat_toNat

@[simp]
theorem unsigned32_toNat (n : UInt32) : unsigned32 (.integer n.toNat) = .ok n := by
  rw [unsigned32, natural_ok (by decide) n.toNat_lt]
  exact congrArg Except.ok UInt32.ofNat_toNat

@[simp]
theorem strings_map (texts : List String) : strings (.array (texts.map .string)) = .ok texts := by
  show (texts.map Value.string).mapM string = _
  induction texts with
  | nil => rfl
  | cons text texts ih =>
    rw [List.map_cons, List.mapM_cons, ih]
    rfl

theorem StandsFor.float_eq {x : Binary64} {v : Value} (h : StandsFor x v) :
    Config.float v = .ok x := by
  cases h with
  | float => rfl
  | integer hn hx => rw [Config.float, if_pos hn, hx]

/-- an entry of a setting copies it -/
theorem setEntry_setting {c : Config} {s : Setting} {v : Value} (h : Carries c s v) (d : Config) :
    s.header.fields.setEntry d (s.key, v) = .ok (copy c d s) := by
  cases h with
  | @seed n hn =>
    show (unsigned64 (.integer n.toNat) >>= fun _ => _) = _
    rw [unsigned64_toNat, copy, hn]
    rfl
  | insertionMode => rfl
  | minScore hv =>
    show (Config.float v >>= fun _ => _) = _
    rw [hv.float_eq]
    rfl
  | maxScore hv =>
    show (Config.float v >>= fun _ => _) = _
    rw [hv.float_eq]
    rfl
  | minWordCount =>
    show (size (.integer c.compliance.minWordCount.toNat) >>= fun _ => _) = _
    rw [size_toNat]
    rfl
  | maxCoherencePercent =>
    show (unsigned32 (.integer c.compliance.maxCoherencePercent.toNat) >>= fun _ => _) = _
    rw [unsigned32_toNat]
    rfl
  | @list l texts hl =>
    rw [copy, hl]
    cases l <;>
      · show (strings (.array (texts.map .string)) >>= fun _ => _) = _
        rw [strings_map]
        rfl
  | level => rfl

/-- an entry without a field changes nothing -/
theorem setEntry_other {fields : Fields} {key : String} (hk : key ∉ fields.map Field.key)
    {v : Value} (hv : v.Readable) (d : Config) : fields.setEntry d (key, v) = .ok d := by
  have hnone : fields.find? (·.key == key) = none := by
    rw [List.find?_eq_none]
    intro field hf he
    exact hk (List.mem_map.mpr ⟨field, hf, eq_of_beq he⟩)
  rw [Fields.setEntry]
  dsimp only
  rw [hnone]
  dsimp only
  rw [hv.firstOverflow?]

/-! ## all entries -/

theorem decodeTable_step {fields : Fields} {e : String × Value} {c c' : Config}
    (h : fields.setEntry c e = .ok c') (entries : Table) :
    fields.decodeTable (e :: entries) c = fields.decodeTable entries c' := by
  rw [Fields.decodeTable_cons, h]
  rfl

/-- **Entries settle what they mention and unsettle nothing.**  If each entry of a table takes its
settings from `c` and leaves alone what is already as in `c`, so does the table. -/
theorem decodeTable_settles {fields : Fields} {c : Config}
    {mentions : String × Value → Setting → Prop} {entries : Table}
    (h : ∀ e ∈ entries, ∀ d, ∃ d', fields.setEntry d e = .ok d' ∧
      ∀ s, Same c d s ∨ mentions e s → Same c d' s) (d : Config) :
    ∃ d', fields.decodeTable entries d = .ok d' ∧
      ∀ s, (Same c d s ∨ ∃ e ∈ entries, mentions e s) → Same c d' s := by
  induction entries generalizing d with
  | nil =>
    refine ⟨d, rfl, fun s hs => ?_⟩
    rcases hs with hs | ⟨e, he, -⟩
    · exact hs
    · cases he
  | cons e entries ih =>
    obtain ⟨d₁, hfirst, hsame⟩ := h e List.mem_cons_self d
    obtain ⟨d₂, hrest, hsame'⟩ := ih (fun e' he' => h e' (List.mem_cons_of_mem e he')) d₁
    refine ⟨d₂, (decodeTable_step hfirst entries).trans hrest, fun s hs => hsame' s ?_⟩
    rcases hs with hs | ⟨e', he', hm⟩
    · exact .inl (hsame s (.inl hs))
    · rcases List.mem_cons.mp he' with rfl | he'
      · exact .inl (hsame s (.inr hm))
      · exact .inr ⟨e', he', hm⟩

theorem setEntry_settles {c : Config} {h : Section} {e : String × Value} (he : EntryOf c h e)
    (d : Config) :
    ∃ d', h.fields.setEntry d e = .ok d' ∧
      ∀ s, Same c d s ∨ (s.header = h ∧ s.key = e.1) → Same c d' s := by
  cases he with
  | @setting s₀ v hs hv =>
    subst hs
    refine ⟨copy c d s₀, setEntry_setting hv d, fun s hm => ?_⟩
    rcases hm with hm | ⟨hh, hk⟩
    · exact hm.copy s₀
    · rw [Setting.eq_of_key hh hk]
      exact same_copy c d s₀
  | other hk hv =>
    refine ⟨d, setEntry_other ?_ hv d, fun s hm => ?_⟩
    · rw [keys_fields]
      intro hmem
      obtain ⟨s, hs, he⟩ := List.mem_map.mp hmem
      exact hk s (of_decide_eq_true (List.mem_filter.mp hs).2) he
    · rcases hm with hm | ⟨hh, he⟩
      · exact hm
      · exact absurd he (hk s hh)

/-- a section is decoded by its own fields -/
theorem setEntry_section (s : Section) (table : Table) (c : Config) :
    documentFields.setEntry c (s.key, .table table) = s.fields.decodeTable table c := by
  cases s <;> rfl

/-- a section settles the settings whose keys are in it -/
theorem documentEntry_settles {c : Config} {e : String × Value} (he : DocumentEntry c e)
    (d : Config) :
    ∃ d', documentFields.setEntry d e = .ok d' ∧
      ∀ s, (Same c d s ∨ ∃ entries, (s.header.key, .table entries) = e ∧
        ∃ v, (s.key, v) ∈ entries) → Same c d' s := by
  cases he with
  | @header h entries he =>
    obtain ⟨d', hd, hsame⟩ := decodeTable_settles (fun e hm d => setEntry_settles (he e hm) d) d
    refine ⟨d', (setEntry_section h entries d).trans hd, fun s hm => hsame s ?_⟩
    rcases hm with hm | ⟨entries', heq, v, hv⟩
    · exact .inl hm
    · cases (Prod.mk.inj heq).2
      exact .inr ⟨_, hv, Section.eq_of_key (Prod.mk.inj heq).1, rfl⟩
  | @other key v hk hv =>
    refine ⟨d, setEntry_other ?_ hv d, fun s hm => ?_⟩
    · intro hmem
      rw [documentFields, List.map_map] at hmem
      obtain ⟨h, -, he⟩ := List.mem_map.mp hmem
      exact hk h he
    · rcases hm with hm | ⟨entries, heq, -⟩
      · exact hm
      · exact absurd (Prod.mk.inj heq).1 (hk s.header)

theorem decode_of_presents {c : Config} {document : Table} (h : Presents c document) :
    decode document = .ok c := by
  obtain ⟨d, hd, hsame⟩ := decodeTable_settles
    (fun e he d => documentEntry_settles (h.entries e he) d) .standard
  have hall : ∀ s, Same c d s := by
    intro s
    by_cases hm : Mentions document s
    · obtain ⟨entries, he, hv⟩ := hm
      exact hsame s (.inr ⟨_, he, entries, rfl, hv⟩)
    · exact hsame s (.inl (h.absent s hm))
  rw [ext_same hall]
  exact hd

theorem parse_of_decode {text : String} {document : Table} {c : Config}
    (h : Toml.read? text = some document) (hd : decode document = .ok c) :
    parse text = match c.validate with
      | .ok () => .ok c
      | .error complaint => .error (.invalid complaint) := by
  unfold parse
  rw [h]
  dsimp only
  rw [hd]
  dsimp only
  cases c.validate with
  | ok u => rfl
  | error complaint => rfl

/-- **Known keys decide, and defaults fill the rest.**  Let each of the ten keys either carry what
`c` has in its setting or be left out where `c` is standard, be it that the section is left out as
well or stands there without it; let whatever else is in the document be readable.  Then the
document decodes to `c`, and a text of this document is read as `c` or refused for what validation
says of `c`. -/
theorem parse_of_presents {c : Config} {document : Table} (h : Presents c document) :
    decode document = .ok c ∧
      ∀ text, Toml.read? text = some document →
        parse text = match c.validate with
          | .ok () => .ok c
          | .error complaint => .error (.invalid complaint) := by
  have hdecode := decode_of_presents h
  exact ⟨hdecode, fun text hread => parse_of_decode hread hdecode⟩

/-- sections out of order and one of them empty, keys and a section of other names, and an integer
that stands for a score -/
theorem parse_of_presents_strangers :
    let text := "[logging]\nlevel = \"debug\"\ncolour = \"blue\"\n[site]\nnote = \"kept\"\n" ++
      "[engine]\n[compliance]\nmax_score = 1\n"
    let c : Config := { standard with compliance.maxScore := .ofNat 1, logLevel := "debug" }
    parse text = .ok c := by
  intro text c
  let logging : List Toml.Line := [⟨"level", Toml.writeString "debug", .string "debug"⟩,
    ⟨"colour", Toml.writeString "blue", .string "blue"⟩]
  let site : List Toml.Line := [⟨"note", Toml.writeString "kept", .string "kept"⟩]
  let compliance : List Toml.Line := [⟨"max_score", toString 1, .integer 1⟩]
  let document : Table := [("compliance", .table [("max_score", .integer 1)]),
    ("engine", .table []),
    ("logging", .table [("colour", .string "blue"), ("level", .string "debug")]),
    ("site", .table [("note", .string "kept")])]
  have hread : Toml.read? text = some document := by
    have hchars : text.toList = (Toml.headerLine "logging").toList
        ++ (logging.flatMap Toml.Line.chars ++ ((Toml.headerLine "site").toList
        ++ (site.flatMap Toml.Line.chars ++ ((Toml.headerLine "engine").toList
        ++ ([].flatMap Toml.Line.chars ++ ((Toml.headerLine "compliance").toList
        ++ (compliance.flatMap Toml.Line.chars ++ []))))))) := by
      decide +kernel
    have hmark : Toml.dropMark text.toList = text.toList := by decide +kernel
    have hlogging : ∀ l ∈ logging, l.Reads := by
      simp only [logging, List.forall_mem_cons, List.not_mem_nil, false_implies, implies_true,
        and_true]
      exact ⟨⟨by decide, Toml.readsAs_string _⟩, ⟨by decide, Toml.readsAs_string _⟩⟩
    have hsite : ∀ l ∈ site, l.Reads :=
      List.forall_mem_singleton.mpr ⟨by decide, Toml.readsAs_string _⟩
    have hcompliance : ∀ l ∈ compliance, l.Reads :=
      List.forall_mem_singleton.mpr ⟨by decide, Toml.readsAs_natural (n := 1) (by decide)⟩
    let put (root : Toml.Entries) (key : String) (lines : List Toml.Line) : Toml.Entries :=
      root.put key (.table .opened (Toml.Line.putAll [] lines))
    let root := put (put (put (put [] "logging" logging) "site" site) "engine" []) "compliance"
      compliance
    have hruns : Toml.Runs ⟨[], []⟩ text.toList ⟨root, ["compliance"]⟩ := by
      rw [hchars]
      apply Toml.runs_section (by decide) hlogging (by decide) rfl
      apply Toml.runs_section (by decide) hsite (by decide) rfl
      apply Toml.runs_section (by decide) (List.forall_mem_nil _) .nil rfl
      apply Toml.runs_section (by decide) hcompliance (by decide) rfl
      exact Toml.runs_nil _
    rw [Toml.read?, hmark, hruns _ (Nat.lt_succ_self _)]
    rfl
  have hpresents : Presents c document := by
    have hsite : ∀ h : Section, h.key ≠ "site" := by
      intro h
      cases h <;> decide
    have hcolour : ∀ s ∈ Setting.all, s.header = .logging → s.key ≠ "colour" := by decide
    constructor
    · simp only [document, List.forall_mem_cons, List.not_mem_nil, false_implies, implies_true,
        and_true]
      refine ⟨.header (h := .compliance) ?_, .header (h := .engine) (List.forall_mem_nil _),
        .header (h := .logging) ?_,
        .other hsite (.table (List.forall_mem_singleton.mpr (.string _)))⟩
      · exact List.forall_mem_singleton.mpr
          (.setting (s := .maxScore) rfl (.maxScore (.integer (by decide) (by decide +kernel))))
      · simp only [List.forall_mem_cons, List.not_mem_nil, false_implies, implies_true, and_true]
        exact ⟨.other (fun s => hcolour s s.mem_all) (.string _),
          .setting (s := .level) rfl .level⟩
    · intro s hs
      cases s with
      | maxScore => exact absurd ⟨_, .head _, _, .head _⟩ hs
      | level => exact absurd ⟨_, .tail _ (.tail _ (.head _)), _, .tail _ (.head _)⟩ hs
      | minScore => simp only [Same, c]
      | _ => rfl
  have hvalid : c.validate = .ok () := by
    decide +kernel
  have hparse := (parse_of_presents hpresents).2 text hread
  rw [hvalid] at hparse
  exact hparse

end Config

end Jargon

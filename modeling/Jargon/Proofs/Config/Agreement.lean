import Mathlib.Data.Option.Basic
import Jargon.Config.Load
import Jargon.Engine.Basic
import Jargon.Proofs.Decimal.ReadBack

/-!
# Validation and the engine agree

A configuration is looked at twice, by its own validation and when an engine is made of it.  Both
look at the word lists in one order and find the same first fault; they differ in what they look at
before.  Lists that are not set are the built-in ones for an engine, and these have no fault.

* `firstFault`               what is wrong with the lists that are set;
* `ofConfig_eq_lexicon_iff`  when an engine is refused for its lists;
* `validate_of_scalarsPass`  what validation says if nothing comes before the lists;
* `ofConfig_agrees`          both together.
-/

namespace Jargon

/-! ## the lists that are set -/

namespace Lexicon.Overrides

def list? (o : Overrides) : WordList → Option (List String)
  | .vocabulary => o.vocabulary
  | .actionVerbs => o.actionVerbs
  | .conceptNouns => o.conceptNouns

/-- the first fault of the lists that are set, in their order -/
def firstFault (o : Overrides) : Option LexiconError :=
  o.vocabulary.bind WordList.vocabulary.check
    <|> o.actionVerbs.bind WordList.actionVerbs.check
    <|> o.conceptNouns.bind WordList.conceptNouns.check

/-- all lists that are set have entries, and no blank ones -/
def Sound (o : Overrides) : Prop :=
  ∀ list entries, o.list? list = some entries →
    entries ≠ [] ∧ ∀ e ∈ entries, Text.isBlankText e = false

theorem bind_check_eq_none_iff (list : WordList) (set : Option (List String)) :
    set.bind list.check = none ↔
      ∀ entries, set = some entries → entries ≠ [] ∧ ∀ e ∈ entries, Text.isBlankText e = false := by
  cases set with
  | none => exact ⟨fun _ _ => nofun, fun _ => rfl⟩
  | some entries =>
    rw [Option.bind_some, WordList.check_eq_none_iff]
    constructor
    · intro h entries' he
      cases he
      exact h
    · intro h
      exact h entries rfl

theorem firstFault_eq_none_iff (o : Overrides) : o.firstFault = none ↔ o.Sound := by
  rw [firstFault, Option.orElse_eq_none, Option.orElse_eq_none, bind_check_eq_none_iff,
    bind_check_eq_none_iff, bind_check_eq_none_iff]
  constructor
  · rintro ⟨hv, ha, hn⟩ list
    cases list with
    | vocabulary => exact hv
    | actionVerbs => exact ha
    | conceptNouns => exact hn
  · intro h
    exact ⟨h .vocabulary, h .actionVerbs, h .conceptNouns⟩

end Lexicon.Overrides

/-! ## the engine's look -/

namespace Lexicon

theorem check_getD {list : WordList} {builtin : List String} (h : list.check builtin = none)
    (set : Option (List String)) : list.check (set.getD builtin) = set.bind list.check := by
  cases set with
  | none => exact h
  | some entries => rfl

/-- the built-in lists have no fault, so only those that are set decide -/
theorem ofOverrides_eq (o : Overrides) :
    ofOverrides o = match o.firstFault with
      | some e => .error e
      | none => .ok ⟨o.vocabulary.getD builtinVocabulary, o.actionVerbs.getD builtinActionVerbs,
          o.conceptNouns.getD builtinConceptNouns⟩ := by
  have hv : WordList.vocabulary.check builtinVocabulary = none := by decide +kernel
  have ha : WordList.actionVerbs.check builtinActionVerbs = none := by decide +kernel
  have hn : WordList.conceptNouns.check builtinConceptNouns = none := by decide +kernel
  simp only [ofOverrides, ofLists, check, check_getD hv, check_getD ha, check_getD hn]
  rfl

end Lexicon

theorem InsertionMode.exists_ofName?_iff (name : String) :
    (∃ mode, ofName? name = some mode) ↔ name ∈ Config.insertionModes := by
  constructor
  · rintro ⟨mode, h⟩
    rw [ofName?_eq_some_iff.mp h]
    cases mode <;> decide
  · intro h
    simp only [Config.insertionModes, List.mem_cons, List.not_mem_nil, or_false] at h
    rcases h with rfl | rfl
    · exact ⟨.firstSpace, ofName?_eq_some_iff.mpr rfl⟩
    · exact ⟨.scatter, ofName?_eq_some_iff.mpr rfl⟩

namespace Engine

/-- an engine is refused for its lists exactly when one of them has a fault, whatever the mode is -/
theorem ofConfig_eq_lexicon_iff {c : Config} {clock : UInt64} {e : LexiconError} :
    ofConfig c clock = .error (.lexicon e) ↔ c.lexicon.firstFault = some e := by
  rw [ofConfig, Lexicon.ofOverrides_eq]
  cases c.lexicon.firstFault with
  | some fault =>
    dsimp only
    rw [Except.error.injEq, EngineError.lexicon.injEq, Option.some.injEq]
  | none =>
    dsimp only
    rw [modeNamed]
    cases InsertionMode.ofName? c.insertionMode with
    | none => exact ⟨nofun, nofun⟩
    | some mode => exact ⟨nofun, nofun⟩

theorem exists_ofConfig_iff {c : Config} {clock : UInt64} :
    (∃ e, ofConfig c clock = .ok e) ↔
      c.insertionMode ∈ Config.insertionModes ∧ c.lexicon.Sound := by
  rw [← InsertionMode.exists_ofName?_iff, ← Lexicon.Overrides.firstFault_eq_none_iff, ofConfig,
    Lexicon.ofOverrides_eq]
  cases c.lexicon.firstFault with
  | some fault =>
    constructor
    · rintro ⟨e, h⟩
      cases h
    · rintro ⟨-, h⟩
      cases h
  | none =>
    dsimp only
    rw [modeNamed]
    cases InsertionMode.ofName? c.insertionMode with
    | none =>
      constructor
      · rintro ⟨e, h⟩
        cases h
      · rintro ⟨⟨mode, h⟩, -⟩
        cases h
    | some mode => exact ⟨fun _ => ⟨⟨mode, rfl⟩, rfl⟩, fun _ => ⟨_, rfl⟩⟩

end Engine

/-! ## the look of validation -/

namespace Config

/-- a fault of the lists, as validation complains about it -/
def Complaint.ofFault : LexiconError → Complaint
  | .emptyList list => .emptyList list
  | .blankEntry list index => .blankEntry list index

theorem Complaint.ofFault_injective {e e' : LexiconError} (h : ofFault e = ofFault e') :
    e = e' := by
  cases e <;> cases e' <;> cases h <;> rfl

theorem checkList_eq (list : WordList) (set : Option (List String)) :
    checkList list set = (set.bind list.check).map Complaint.ofFault := by
  cases set with
  | none => rfl
  | some entries =>
    rw [checkList, Option.bind_some, WordList.check]
    split
    · rfl
    · rw [Option.map_map]
      rfl

/-- what comes before the lists: the mode, the scores and the percentage -/
structure ScalarsPass (c : Config) : Prop where
  mode : checkMode c = none
  finite : checkFinite c.compliance = none
  sign : checkSign c.compliance = none
  order : checkOrder c.compliance = none
  percent : checkPercent c.compliance = none

theorem validate_of_scalarsPass {c : Config} (h : ScalarsPass c) :
    c.validate = match c.lexicon.firstFault.map Complaint.ofFault <|> checkLevel c with
      | some complaint => .error complaint
      | none => .ok () := by
  have hfirst : firstComplaint c.complaints =
      (c.lexicon.firstFault.map Complaint.ofFault <|> checkLevel c) := by
    simp only [firstComplaint, complaints, h.mode, h.finite, h.sign, h.order, h.percent,
      checkList_eq, Lexicon.Overrides.firstFault, List.findSome?_cons, id]
    cases c.lexicon.vocabulary.bind WordList.vocabulary.check with
    | some fault => rfl
    | none =>
      cases c.lexicon.actionVerbs.bind WordList.actionVerbs.check with
      | some fault => rfl
      | none =>
        cases c.lexicon.conceptNouns.bind WordList.conceptNouns.check with
        | some fault => rfl
        | none => cases checkLevel c <;> rfl
  unfold validate
  generalize firstComplaint c.complaints = first at hfirst
  subst hfirst
  cases c.lexicon.firstFault.map Complaint.ofFault <|> checkLevel c <;> rfl

theorem checkLevel_cases (c : Config) :
    checkLevel c = none ∨ checkLevel c = some (.logLevel c.logLevel) := by
  unfold checkLevel
  split
  · exact .inl rfl
  · exact .inr rfl

/-- validation complains of the lists exactly as they are faulty, if it comes to them -/
theorem validate_eq_ofFault_iff {c : Config} (h : ScalarsPass c) {fault : LexiconError} :
    c.validate = .error (.ofFault fault) ↔ c.lexicon.firstFault = some fault := by
  rw [validate_of_scalarsPass h]
  cases c.lexicon.firstFault with
  | some fault' =>
    show Except.error (Complaint.ofFault fault') = _ ↔ _
    rw [Except.error.injEq, Option.some.injEq]
    exact ⟨Complaint.ofFault_injective, fun h => by rw [h]⟩
  | none =>
    refine ⟨fun he => ?_, nofun⟩
    rcases checkLevel_cases c with hl | hl
    · rw [hl] at he
      cases he
    · rw [hl] at he
      cases fault <;> cases he

/-! ## messages about the lists -/

theorem lexiconText_inj {list list' : WordList} {text text' : String}
    (h : "lexicon." ++ list.name ++ text = "lexicon." ++ list'.name ++ text') :
    list = list' ∧ text = text' := by
  have hchars := congrArg String.toList h
  cases list <;> cases list' <;> simp [WordList.name] at hchars <;>
    exact ⟨rfl, String.toList_inj.mp hchars⟩

/-- what stands behind the name of a list in a message about it -/
def faultText : LexiconError → String
  | .emptyList _ => " must not be empty when set"
  | .blankEntry _ index => "[" ++ (toString index ++ "] must not be blank")

def faultList : LexiconError → WordList
  | .emptyList list | .blankEntry list _ => list

theorem message_ofFault (fault : LexiconError) :
    (Complaint.ofFault fault).message =
      "lexicon." ++ (faultList fault).name ++ faultText fault := by
  cases fault with
  | emptyList list => rfl
  | blankEntry list index =>
    show "lexicon." ++ list.name ++ "[" ++ toString index ++ "] must not be blank" = _
    rw [String.append_assoc, String.append_assoc]
    rfl

theorem toString_inj {i j : Nat} (h : toString i = toString j) : i = j := by
  have hdigits : Nat.toDigits 10 i = Nat.toDigits 10 j := by
    rw [← Nat.toList_repr, ← Nat.toList_repr]
    exact congrArg String.toList h
  rw [← Decimal.digitsValue_toDigits i, hdigits, Decimal.digitsValue_toDigits]

theorem fault_of_text {fault fault' : LexiconError} (hl : faultList fault = faultList fault')
    (ht : faultText fault = faultText fault') : fault = fault' := by
  have hfirst : ∀ text : String, " must not be empty when set" ≠ "[" ++ text := by
    intro text h
    have hchars := congrArg (fun s => s.toList.head?) h
    rw [String.toList_append] at hchars
    cases hchars
  cases fault with
  | emptyList list =>
    cases fault' with
    | emptyList list' => exact congrArg LexiconError.emptyList hl
    | blankEntry list' index' => exact absurd ht (hfirst _)
  | blankEntry list index =>
    cases fault' with
    | emptyList list' => exact absurd ht.symm (hfirst _)
    | blankEntry list' index' =>
      have hindex : toString index = toString index' :=
        (String.append_left_inj _).mp ((String.append_right_inj _).mp ht)
      rw [show list = list' from hl, toString_inj hindex]

theorem take_append {text rest : String} {chars : List Char} (hlen : chars.length = 2)
    (h : text.toList.take 2 = chars) : (text ++ rest).toList.take 2 = chars := by
  have hle : 2 ≤ text.toList.length := by
    have hlen' := congrArg List.length h
    rw [List.length_take, hlen] at hlen'
    omega
  rw [String.toList_append, List.take_append_of_le_length hle, h]

/-- a complaint about something else says so in its first two letters -/
theorem take_message {said : Complaint} (h : ∀ fault, said ≠ .ofFault fault) :
    ∃ chars, said.message.toList.take 2 = chars ∧ chars ∈ [['e', 'n'], ['c', 'o'], ['l', 'o']] := by
  cases said with
  | insertionMode found =>
    refine ⟨['e', 'n'], take_append rfl (take_append rfl (take_append rfl (take_append rfl ?_))),
      by decide⟩
    decide
  | scoresNotFinite => exact ⟨['c', 'o'], by decide, by decide⟩
  | negativeScore x => exact ⟨['c', 'o'], take_append rfl (by decide), by decide⟩
  | scoresOutOfOrder x y =>
    refine ⟨['c', 'o'], take_append rfl (take_append rfl (take_append rfl ?_)), by decide⟩
    exact take_append rfl (by decide)
  | percentTooLarge n => exact ⟨['c', 'o'], take_append rfl (by decide), by decide⟩
  | emptyList list => exact absurd rfl (h (.emptyList list))
  | blankEntry list index => exact absurd rfl (h (.blankEntry list index))
  | logLevel found =>
    refine ⟨['l', 'o'], take_append rfl (take_append rfl (take_append rfl (take_append rfl ?_))),
      by decide⟩
    decide

/-- **A message about a list stands for nothing else than this list and its fault.** -/
theorem eq_ofFault_of_message {said : Complaint} {fault : LexiconError}
    (h : said.message = (Complaint.ofFault fault).message) : said = .ofFault fault := by
  rw [message_ofFault] at h
  by_cases hsaid : ∃ fault', said = .ofFault fault'
  · obtain ⟨fault', rfl⟩ := hsaid
    rw [message_ofFault] at h
    obtain ⟨hl, ht⟩ := lexiconText_inj h
    rw [fault_of_text hl ht]
  · obtain ⟨chars, htake, hmem⟩ := take_message (not_exists.mp hsaid)
    have hle : said.message.toList.take 2 = ['l', 'e'] := by
      rw [h]
      exact take_append rfl (take_append rfl (by decide))
    rw [← htake, hle] at hmem
    exact absurd hmem (by decide)

theorem validate_message_iff {c : Config} (h : ScalarsPass c) (fault : LexiconError) :
    (∃ said, c.validate = .error said ∧ said.message = (Complaint.ofFault fault).message) ↔
      c.lexicon.firstFault = some fault := by
  rw [← validate_eq_ofFault_iff h]
  constructor
  · rintro ⟨said, hsaid, hmessage⟩
    rw [hsaid, eq_ofFault_of_message hmessage]
  · intro hv
    exact ⟨_, hv, rfl⟩

/-! ## both looks -/

theorem sound_of_validate {c : Config} (h : c.validate = .ok ()) :
    c.insertionMode ∈ insertionModes ∧ c.lexicon.Sound := by
  have hall := (validate_eq_ok_iff c).mp h
  constructor
  · have hmode : checkMode c = none := hall _ (by simp [complaints])
    unfold checkMode at hmode
    split at hmode
    · rename_i hc
      exact List.contains_iff_mem.mp hc
    · cases hmode
  · have hlist : ∀ list set, checkList list set ∈ c.complaints → set.bind list.check = none := by
      intro list set hm
      have hnone := hall _ hm
      rw [checkList_eq, Option.map_eq_none_iff] at hnone
      exact hnone
    rw [← Lexicon.Overrides.firstFault_eq_none_iff, Lexicon.Overrides.firstFault,
      hlist .vocabulary _ (by simp [complaints]), hlist .actionVerbs _ (by simp [complaints]),
      hlist .conceptNouns _ (by simp [complaints])]
    rfl

/-- **Validation and the engine agree on every configuration.**  An engine is made exactly of a
known mode and sound lists, so of whatever is valid or has been read.  If the mode, the scores and
the percentage pass, validation says of a list what the engine is refused for, and of an entry
likewise.  A faulty list is what the engine is refused for even if the mode is unknown. -/
theorem ofConfig_agrees (c : Config) (clock : UInt64) :
    ((∃ e, Engine.ofConfig c clock = .ok e) ↔
        c.insertionMode ∈ insertionModes ∧
          ∀ list entries, c.lexicon.list? list = some entries →
            entries ≠ [] ∧ ∀ entry ∈ entries, Text.isBlankText entry = false) ∧
      (c.validate = .ok () → ∃ e, Engine.ofConfig c clock = .ok e) ∧
      (∀ text, parse text = .ok c → ∃ e, Engine.ofConfig c clock = .ok e) ∧
      (ScalarsPass c → ∀ list : WordList,
        ((∃ said, c.validate = .error said ∧
            said.message = "lexicon." ++ list.name ++ " must not be empty when set") ↔
          Engine.ofConfig c clock = .error (.lexicon (.emptyList list))) ∧
        ∀ index, (∃ said, c.validate = .error said ∧
            said.message =
              "lexicon." ++ list.name ++ "[" ++ toString index ++ "] must not be blank") ↔
          Engine.ofConfig c clock = .error (.lexicon (.blankEntry list index))) ∧
      ((∃ list entries, c.lexicon.list? list = some entries ∧
          (entries = [] ∨ ∃ entry ∈ entries, Text.isBlankText entry = true)) →
        ∃ e, Engine.ofConfig c clock = .error (.lexicon e)) := by
  have hvalid : c.validate = .ok () → ∃ e, Engine.ofConfig c clock = .ok e :=
    fun h => Engine.exists_ofConfig_iff.mpr (sound_of_validate h)
  refine ⟨Engine.exists_ofConfig_iff, hvalid, ?_, ?_, ?_⟩
  · intro text h
    obtain ⟨document, -, -, hv⟩ := parse_eq_ok_iff.mp h
    exact hvalid hv
  · intro hpass list
    refine ⟨?_, fun index => ?_⟩
    · exact (validate_message_iff hpass (.emptyList list)).trans Engine.ofConfig_eq_lexicon_iff.symm
    · exact (validate_message_iff hpass (.blankEntry list index)).trans
        Engine.ofConfig_eq_lexicon_iff.symm
  · rintro ⟨list, entries, hset, hbad⟩
    cases hf : c.lexicon.firstFault with
    | some fault => exact ⟨fault, Engine.ofConfig_eq_lexicon_iff.mpr hf⟩
    | none =>
      obtain ⟨hne, hblank⟩ := Lexicon.Overrides.firstFault_eq_none_iff _ |>.mp hf list entries hset
      rcases hbad with hnil | ⟨entry, hmem, hb⟩
      · exact absurd hnil hne
      · rw [hblank entry hmem] at hb
        cases hb

/-- a second noun of nothing but a no-break space, and all else as usual -/
def blankNoun : Config :=
  { standard with lexicon.conceptNouns := some ["runway", "\u00a0"] }

theorem ofConfig_agrees_blankNoun :
    ScalarsPass blankNoun ∧
      (∃ said, blankNoun.validate = .error said ∧
        said.message = "lexicon." ++ WordList.conceptNouns.name ++ "[" ++ toString 1 ++
          "] must not be blank") ∧
      Engine.ofConfig blankNoun 0 = .error (.lexicon (.blankEntry .conceptNouns 1)) := by
  have hpass : ScalarsPass blankNoun :=
    ⟨by decide, by decide +kernel, by decide +kernel, by decide +kernel, by decide +kernel⟩
  have hengine : Engine.ofConfig blankNoun 0 = .error (.lexicon (.blankEntry .conceptNouns 1)) :=
    Engine.ofConfig_eq_lexicon_iff.mpr (by decide +kernel)
  obtain ⟨-, -, -, hlists, -⟩ := ofConfig_agrees blankNoun 0
  exact ⟨hpass, ((hlists hpass .conceptNouns).2 1).mpr hengine, hengine⟩

end Config

end Jargon

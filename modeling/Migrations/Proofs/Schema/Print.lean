import Migrations.Proofs.Field.Basic
import Migrations.Proofs.Schema.Chunk
import Migrations.Proofs.Schema.Draft
import Migrations.Schema.Printer

namespace Migrations.Schema

open Text (IsPlain IsWord Parts Place Sealed Shields)

/-- A text that may stand as the value of a call. -/
def Enclosed (value : Text) : Prop := Sealed ('(' :: value ++ [')'])

/-- A field whose parts are read back as they are printed. -/
structure Writable (f : Field) : Prop where
  flawless : f.flaw? = none
  type : ColumnType.ofToken f.type.token = f.type
  arguments : splitList (printList f.arguments) = f.arguments
  enclosed : Enclosed (printList f.arguments)
  literals : ∀ m value, f.settings.get? m = some (.literal value) →
    Text.trim value ≠ [] ∧ Enclosed value

def printType (f : Field) : Text :=
  f.type.token ++ if f.arguments = [] then [] else '(' :: printList f.arguments ++ [')']

def printInline (f : Field) : Option Text :=
  if f.arguments = [] then none else some (printList f.arguments)

theorem printType_eq (f : Field) : printType f = callText f.type.token (printInline f) := by
  by_cases h : f.arguments = [] <;> simp [printType, printInline, callText, h]

theorem printSetting_eq (m : Modifier) (value : Setting) :
    printSetting (m, value) = callText m.keyword value.literal? := by
  cases value <;> rfl

def printSettings (f : Field) : List Text := f.settings.toList.map printSetting

def printLead (f : Field) : Text :=
  Text.join [':'] (f.name :: printType f :: (printSettings f).take 1)

def printSegments (f : Field) : List Text :=
  f.name :: printType f :: if printSettings f = [] then [] else [printList (printSettings f)]

def printGroups (f : Field) : List (List Text) :=
  if printSettings f = [] then [] else [printSettings f]

theorem printSegments_eq (f : Field) : printSegments f =
    f.name :: callText f.type.token (printInline f) ::
      (printGroups f).map (Text.join [',']) := by
  rw [printSegments, ← printType_eq]
  by_cases h : printSettings f = [] <;> simp [printGroups, printList, h]

theorem join_printSegments (f : Field) : Text.join [':'] (printSegments f) = printField f := by
  by_cases h : printSettings f = []
  · have hs : f.settings.toList = [] := by simpa [printSettings] using h
    simp [printSegments, printField, printType, h, hs, Text.join]
  · have hs : f.settings.toList ≠ [] := by simpa [printSettings] using h
    simp [printSegments, printField, printType, hs, Text.join, printSettings]

theorem join_printLead (f : Field) :
    Text.join [','] (printLead f :: (printSettings f).tail) = printField f := by
  rw [← join_printSegments, printSegments, printLead]
  cases h : printSettings f with
  | nil => simp [Text.join]
  | cons first others =>
    cases others with
    | nil => simp [Text.join, printList]
    | cons second rest => simp [Text.join, printList]

theorem exists_of_mem_printSettings {f : Field} {item : Text} (hi : item ∈ printSettings f) :
    ∃ m value, f.settings.get? m = some value ∧ item = printSetting (m, value) := by
  obtain ⟨⟨m, value⟩, hm, rfl⟩ := List.mem_map.mp hi
  exact ⟨m, value, Settings.mem_toList.mp hm, rfl⟩

namespace Writable

variable {f : Field} (h : Writable f)

include h

theorem name_isWord : IsWord f.name :=
  Text.isWord_of_isIdentifier (Field.flaw?_eq_none_iff.mp h.flawless).1

theorem name_ne_nil : f.name ≠ [] :=
  Text.ne_nil_of_isIdentifier (Field.flaw?_eq_none_iff.mp h.flawless).1

theorem typeFlaw : f.typeFlaw? = none := (Field.flaw?_eq_none_iff.mp h.flawless).2.1

theorem settingFlaw : f.settingFlaw? = none := (Field.flaw?_eq_none_iff.mp h.flawless).2.2.1

theorem token_isWord : IsWord f.type.token := by
  by_cases hc : f.type = .custom f.type.token
  · have ht := h.typeFlaw
    rw [Field.typeFlaw?, hc] at ht
    simp only [ite_eq_left_iff] at ht
    exact Text.isWord_of_isIdentifier (by simpa using ht)
  · exact isWord_of_ofToken fun he => hc (h.type.symm.trans he)

theorem token_ne_nil : f.type.token ≠ [] := by
  intro hn
  have ht := h.type
  have hc : ColumnType.ofToken [] = .custom [] := by decide
  rw [hn, hc] at ht
  have hf := h.typeFlaw
  rw [Field.typeFlaw?, ← ht] at hf
  simp [Text.isIdentifier] at hf

theorem sealed_inline : ∀ text ∈ printInline f, Sealed ('(' :: text ++ [')']) := by
  unfold printInline
  split
  · simp
  · rintro text ⟨⟩
    exact h.enclosed

theorem splitCall?_printType :
    splitCall? (printType f) = some (f.type.token, printInline f) := by
  rw [printType_eq, splitCall?_callText h.token_isWord]

/-- A printed setting is one item that names its modifier. -/
theorem printSetting_spec {m : Modifier} {value : Setting} (hm : f.settings.get? m = some value) :
    Sealed (printSetting (m, value)) ∧ printSetting (m, value) ≠ [] ∧
      Text.trim (printSetting (m, value)) = printSetting (m, value) ∧
      splitCall? (printSetting (m, value)) = some (m.keyword, value.literal?) := by
  have hw := isWord_of_ofKeyword? (Modifier.ofKeyword?_keyword m)
  have hk : m.keyword ≠ [] := by cases m <;> decide
  rw [printSetting_eq]
  refine ⟨sealed_callText hw ?_, callText_ne_nil hk _, trim_callText hw hk,
    splitCall?_callText hw⟩
  cases value with
  | flag => simp [Setting.literal?]
  | literal text =>
    rintro other ⟨⟩
    exact (h.literals m text hm).2

theorem isItem_of_mem {item : Text} (hi : item ∈ printSettings f) : IsItem item := by
  obtain ⟨m, value, hm, rfl⟩ := exists_of_mem_printSettings hi
  obtain ⟨hs, hn, ht, hc⟩ := h.printSetting_spec hm
  refine ⟨hs, ht, hn, ?_⟩
  rw [namesModifier, keywordOf_of_splitCall? hc, Modifier.ofKeyword?_keyword]
  rfl

theorem isEntry_name : IsEntry f.name := isEntry_of_isWord h.name_isWord h.name_ne_nil

theorem isEntry_printType : IsEntry (printType f) := by
  rw [printType_eq]
  exact isEntry_callText h.token_isWord h.token_ne_nil h.sealed_inline

theorem forall_mem_groups : ∀ g ∈ printGroups f, g ≠ [] ∧ ∀ item ∈ g, IsItem item :=
  forall_mem_itemGroups fun _ => h.isItem_of_mem

theorem splitTop_printField : Text.splitTop ':' (printField f) = printSegments f := by
  have hs : ∀ segment ∈ printSegments f, IsSegment segment := by
    rw [printSegments_eq, ← printType_eq]
    simp only [List.forall_mem_cons]
    exact ⟨h.isEntry_name.isSegment, h.isEntry_printType.isSegment,
      isSegment_of_groups h.forall_mem_groups⟩
  rw [← join_printSegments]
  exact splitTop_join_segments (by simp [printSegments]) hs

theorem readDraft_printField :
    readDraft (printField f) = .ok ⟨f.name, f.type, f.arguments, printSettings f⟩ := by
  have hinline : ((printInline f).map splitList).getD [] = f.arguments := by
    unfold printInline
    split
    · rename_i he
      exact he.symm
    · exact h.arguments
  have hitems : (printGroups f).flatten = printSettings f := flatten_itemGroups _
  rw [← join_printSegments, printSegments_eq, readDraft_written h.name_isWord h.name_ne_nil
    h.token_isWord h.token_ne_nil h.sealed_inline h.forall_mem_groups, hinline, hitems, h.type]

/-- A printed setting is applied as it was set. -/
theorem applyItem_printSetting (policy : ModifierPolicy) (s : Settings) {m : Modifier}
    {value : Setting} (hm : f.settings.get? m = some value) :
    applyItem policy s (printSetting (m, value)) = .ok (s.set m value) := by
  obtain ⟨hflag, hliteral⟩ := Field.settingFlaw?_eq_none_iff.mp h.settingFlaw m value hm
  rw [applyItem, (h.printSetting_spec hm).2.2.2]
  simp only [Modifier.ofKeyword?_keyword]
  cases value with
  | flag =>
    have hr : m.valueRule ≠ .literal := fun hr => by simpa using hliteral hr
    cases hv : m.valueRule <;> simp_all [applyModifier, Setting.literal?, Except.mapError]
  | literal text =>
    have hr : m.valueRule ≠ .flag := fun hr => by simpa using hflag hr
    have ht := (h.literals m text hm).1
    cases hv : m.valueRule <;> simp_all [applyModifier, Setting.literal?, Except.mapError]

theorem applyItems_printSettings (policy : ModifierPolicy) :
    applyItems policy .empty (printSettings f) = .ok f.settings := by
  have hall (entries : List (Modifier × Setting)) (s : Settings)
      (he : ∀ entry ∈ entries, f.settings.get? entry.1 = some entry.2) :
      applyItems policy s (entries.map printSetting) =
        .ok (entries.foldl (fun s entry => s.set entry.1 entry.2) s) := by
    induction entries generalizing s with
    | nil => rfl
    | cons entry rest ih =>
      have hm := he entry (by simp)
      simp only [List.map_cons, applyItems, h.applyItem_printSetting policy s hm, List.foldl_cons]
      exact ih _ fun e hr => he e (by simp [hr])
  rw [printSettings, hall f.settings.toList .empty fun entry he => Settings.mem_toList.mp he]
  exact congrArg Except.ok (Settings.ofList_toList f.settings)

theorem readField_printField (policy : ModifierPolicy) :
    readField policy (printField f) = .ok f := by
  simp only [readField, h.readDraft_printField, h.applyItems_printSettings policy, h.flawless]

theorem isEntry_of_mem_lead :
    ∀ part ∈ f.name :: printType f :: (printSettings f).take 1, IsEntry part := by
  simp only [List.forall_mem_cons]
  exact ⟨h.isEntry_name, h.isEntry_printType, fun item hi =>
    (h.isItem_of_mem (List.mem_of_mem_take hi)).isEntry⟩

theorem splitTop_printLead : Text.splitTop ':' (printLead f) =
    f.name :: printType f :: (printSettings f).take 1 :=
  splitTop_join_segments (by simp) fun part hp => (h.isEntry_of_mem_lead part hp).isSegment

/-- The printed field up to its first free comma is one piece. -/
theorem isPiece_printLead : IsPiece (printLead f) := isPiece_join (by simp) h.isEntry_of_mem_lead

end Writable

theorem continues_item {chunk item : Text} (hc : 2 < (Text.splitTop ':' chunk).length)
    (hi : IsItem item) : continues chunk item = true := by
  have hs : Text.splitTop ':' item = [item] :=
    Text.splitTop_of_shields (hi.sealed.shields_one (by simp))
  simp [continues, hs, hi.trim, hi.names, show ¬(Text.splitTop ':' chunk).length ≤ 2 by omega]

theorem grows_items {items : List Text} (hi : ∀ item ∈ items, IsItem item) {chunk : Text}
    (hc : 2 < (Text.splitTop ':' chunk).length) :
    Grows chunk items (Text.join [','] (chunk :: items)) := by
  induction items generalizing chunk with
  | nil => exact .done chunk
  | cons item rest ih =>
    have hl := Text.length_splitTop_append ':' chunk (',' :: item)
    have hn : 2 < (Text.splitTop ':' (chunk ++ ',' :: item)).length := by omega
    have hg := ih (fun i hm => hi i (by simp [hm])) hn
    have hw := Grows.piece (continues_item hc (hi item (by simp))) hg
    rwa [hg.join.symm.trans hw.join] at hw

/-- The first modifier of a field is followed by the others, whatever stands in front of it. -/
theorem grows_modifiers {segments items : List Text} (hs : ∀ t ∈ segments, IsSegment t)
    (hl : 2 ≤ segments.length) (hi : ∀ item ∈ items, IsItem item) :
    Grows (Text.join [':'] (segments ++ items.take 1)) items.tail
      (Text.join [':'] (segments ++ (itemGroups items).map (Text.join [',']))) := by
  cases items with
  | nil => exact .done _
  | cons first others =>
    obtain ⟨hf, ho⟩ := List.forall_mem_cons.mp hi
    have hn : segments ≠ [] := List.ne_nil_of_length_pos (by omega)
    have hall : ∀ t ∈ segments ++ [first], IsSegment t :=
      List.forall_mem_append.mpr ⟨hs, by simpa using hf.isEntry.isSegment⟩
    have hlead : 2 < (Text.splitTop ':' (Text.join [':'] (segments ++ [first]))).length := by
      rw [splitTop_join_segments (by simp) hall, List.length_append, List.length_singleton]
      omega
    have hg := grows_items ho hlead
    have hw : Text.join [','] (Text.join [':'] (segments ++ [first]) :: others) =
        Text.join [':'] (segments ++ [Text.join [','] (first :: others)]) := by
      rw [Text.join_append hn (by simp), Text.join_append hn (by simp), Text.join_prepend]
      rfl
    rw [hw] at hg
    simpa [itemGroups] using hg

/-- The field begins like the continuation of a chunk: with a literal as its name, or with a
modifier as its type. -/
def LooksContinuing (f : Field) : Prop :=
  Text.isLiteral f.name = true ∨
    (namesModifier f.type.token = true ∧ f.type = .custom f.type.token)

def Apart (f g : Field) : Prop := f.settings = .empty ∨ ¬LooksContinuing g

namespace Writable

variable {f : Field} (h : Writable f)

include h

theorem grows_printLead : Grows (printLead f) (printSettings f).tail (printField f) := by
  have hs : ∀ t ∈ [f.name, printType f], IsSegment t := by
    simpa using ⟨h.isEntry_name.isSegment, h.isEntry_printType.isSegment⟩
  have hg := grows_modifiers hs (by simp) fun _ => h.isItem_of_mem
  rw [← join_printSegments, printSegments_eq, ← printType_eq]
  exact hg

theorem continues_printLead {g : Field} (hg : Writable g) (ha : Apart f g) :
    continues (printField f) (printLead g) = false := by
  rw [continues, h.splitTop_printField, hg.splitTop_printLead]
  rcases ha with ha | ha
  · have hn : printSettings f = [] := by simp [printSettings, ha]; rfl
    simp [printSegments, hn]
  · have hk : keywordOf (printType g) = g.type.token :=
      keywordOf_of_splitCall? hg.splitCall?_printType
    have hm : namesModifier (printType g) = namesModifier g.type.token := by
      rw [namesModifier, namesModifier, hk, keywordOf_word hg.token_isWord.not_mem_parenthesis,
        hg.token_isWord.trim]
    simp only [LooksContinuing, not_or, not_and, Bool.not_eq_true] at ha
    simp only [hg.name_isWord.trim, ha.1, hm, hk, hg.type, Bool.false_or, ite_eq_left_iff,
      Bool.and_eq_false_iff, decide_eq_false_iff_not]
    intro _
    by_cases hn : namesModifier g.type.token = true
    · exact .inr (ha.2 hn)
    · exact .inl (by simpa using hn)

end Writable

/-- The printed pieces of fields that stay apart are gathered into the printed fields. -/
theorem gather_print {f : Field} {rest : List Field} (h : ∀ g ∈ f :: rest, Writable g)
    (hc : (f :: rest).IsChain Apart) :
    gather (printLead f)
        ((printSettings f).tail ++ rest.flatMap fun g => printLead g :: (printSettings g).tail) =
      (f :: rest).map printField := by
  have hf := h f (by simp)
  induction rest generalizing f with
  | nil =>
    rw [hf.grows_printLead.gather]
    rfl
  | cons g others ih =>
    obtain ⟨ha, hc⟩ := List.isChain_cons_cons.mp hc
    have hg := h g (by simp)
    rw [hf.grows_printLead.gather, List.flatMap_cons, List.cons_append,
      gather_cons_of_not (hf.continues_printLead hg ha),
      ih (fun k hk => h k (by simp [List.mem_cons.mp hk])) hc hg]
    rfl

theorem splitList_print {fields : List Field} (h : ∀ f ∈ fields, Writable f) :
    splitList (print fields) = fields.flatMap fun f => printLead f :: (printSettings f).tail := by
  have hp : ∀ piece ∈ fields.flatMap (fun f => printLead f :: (printSettings f).tail),
      IsPiece piece := by
    intro piece hp
    obtain ⟨f, hf, hm⟩ := List.mem_flatMap.mp hp
    have hw := h f hf
    rcases List.mem_cons.mp hm with rfl | hm
    · exact hw.isPiece_printLead
    · exact (hw.isItem_of_mem (List.mem_of_mem_tail hm)).isEntry.isPiece
  have hj : print fields = Text.join [',']
      (fields.flatMap fun f => printLead f :: (printSettings f).tail) := by
    rw [List.flatMap, ← Text.join_map_join _ (by simp), List.map_map, print, printList]
    congr 2
    funext f
    exact (join_printLead f).symm
  rw [hj]
  exact splitList_join_pieces hp

theorem chunks_print {fields : List Field} (h : ∀ f ∈ fields, Writable f)
    (hc : fields.IsChain Apart) : chunks (print fields) = fields.map printField := by
  rw [chunks, splitList_print h]
  cases fields with
  | nil => rfl
  | cons f rest => exact gather_print h hc

/-- Fields that can be written and stay apart are read back, whatever the policy. -/
theorem parse_print_of_writable {fields : List Field} (h : ∀ f ∈ fields, Writable f)
    (hc : fields.IsChain Apart) (policy : ModifierPolicy) :
    parse policy (print fields) = .ok fields := by
  rw [parse, chunks_print h hc, readFields_ok_iff, List.forall₂_map_left_iff, List.forall₂_same]
  exact fun f hf => (h f hf).readField_printField policy

end Migrations.Schema

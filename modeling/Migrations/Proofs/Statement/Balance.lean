import Migrations.Proofs.Schema.Balance
import Migrations.Statement

namespace Migrations

open Text (IsWord Place Sealed Shields)
open Schema (Enclosed Writable callText enclosed_iff)

namespace Text

theorem IsWord.isBalanced_quotation {t : Text} (h : IsWord t) :
    isBalanced ('\'' :: t ++ ['\'']) = true := by
  refine (sealed_quotation (.inl rfl) fun c hc => ⟨?_, ?_⟩).isBalanced
  · exact (isPlain_of_word (h c hc)).1.1
  · rintro rfl
    exact absurd (h '\\' hc) (by decide)

theorem sealed_flatMap {α : Type} {items : List α} {f : α → Text} (h : ∀ a ∈ items, Sealed (f a)) :
    Sealed (items.flatMap f) := by
  induction items with
  | nil => exact sealed_plain (by simp)
  | cons a rest ih =>
    rw [List.flatMap_cons]
    exact (h a (by simp)).append (ih fun b hb => h b (by simp [hb]))

end Text

namespace Schema

theorem enclosed_of_isBalanced {t : Text} (h : Text.isBalanced t = true) : Enclosed t :=
  Text.sealed_parenthesized h

theorem Enclosed.append {t u : Text} (ht : Enclosed t) (hu : Enclosed u) : Enclosed (t ++ u) := by
  obtain ⟨hts, htc⟩ := enclosed_iff.mp ht
  obtain ⟨hus, huc⟩ := enclosed_iff.mp hu
  refine enclosed_iff.mpr ⟨Text.shields_append.mpr ⟨hts, ?_⟩, ?_⟩
  · rw [htc]
    exact hus
  · rw [Place.after_append, htc, huc]

theorem Enclosed.join {sep : Text} (hs : Enclosed sep) {parts : List Text}
    (h : ∀ part ∈ parts, Enclosed part) : Enclosed (Text.join sep parts) := by
  induction parts with
  | nil => exact enclosed_of_isBalanced rfl
  | cons part rest ih =>
    obtain ⟨hp, hr⟩ := List.forall_mem_cons.mp h
    by_cases he : rest = []
    · rw [he]
      exact hp
    · rw [Text.join_cons he]
      exact (hp.append hs).append (ih hr)

theorem method_eq_token {type : ColumnType} (h : type ≠ .foreignKey) :
    type.method = type.token := by
  cases type with
  | foreignKey => contradiction
  | _ => rfl

theorem Writable.isWord_method {f : Field} (h : Writable f) : IsWord f.type.method := by
  have hkey : ColumnType.foreignKey.method.all Char.isAlphanum = true := by decide
  by_cases hf : f.type = .foreignKey
  · rw [hf]
    exact fun c hc => .inl (List.all_eq_true.mp hkey c hc)
  · rw [method_eq_token hf]
    exact h.token_isWord

end Schema

namespace Statement

/-- A modifier is chained as a call, of nothing if it has no literal. -/
theorem chainText_eq (f : Field) (m : Modifier) :
    chainText f m = match f.settings.get? m with
      | none => []
      | some value => "->" ++ callText m.keyword (some (value.literal?.getD [])) := by
  unfold chainText
  cases f.settings.get? m with
  | none => rfl
  | some value => cases value <;> simp [callText, Setting.literal?]

theorem columnText_eq (f : Field) :
    columnText f = ("$table->" ++ f.type.method) ++
      (('(' :: ('\'' :: f.name ++ ['\''] ++ argumentsText f) ++ [')']) ++
        (Modifier.chained.flatMap (chainText f) ++ ";")) := by
  unfold columnText
  simp only [List.append_assoc, List.cons_append, List.nil_append]
  rfl

variable {f : Field} (h : Writable f)

include h

theorem sealed_chainText (m : Modifier) : Sealed (chainText f m) := by
  rw [chainText_eq]
  cases hm : f.settings.get? m with
  | none => exact Text.sealed_plain (by simp)
  | some value =>
    have hw := Schema.isWord_of_ofKeyword? (Modifier.ofKeyword?_keyword m)
    refine (Text.sealed_plain (by simp [Text.IsPlain])).append (Schema.sealed_callText hw ?_)
    rintro text ⟨⟩
    cases value with
    | flag => exact Schema.enclosed_of_isBalanced rfl
    | literal text => exact (h.literals m text hm).2

theorem enclosed_argumentsText (ht : f.type ≠ .enum) : Enclosed (argumentsText f) := by
  have hcomma : Enclosed (", " : String).toList := Schema.enclosed_of_isBalanced rfl
  have harguments : ∀ t ∈ f.columnArguments, Enclosed t := by
    intro t hm
    unfold Field.columnArguments at hm
    split at hm
    · cases hm
    · exact h.enclosed_of_keeping (.inl hm)
  unfold argumentsText
  split
  · exact Schema.enclosed_of_isBalanced rfl
  · exact hcomma.append (hcomma.join harguments)

theorem sealed_columnText (ht : f.type ≠ .enum) : Sealed (columnText f) := by
  have hname := Schema.enclosed_of_isBalanced h.name_isWord.isBalanced_quotation
  rw [columnText_eq]
  refine ((Text.sealed_plain (by simp [Text.IsPlain])).append h.isWord_method.sealed).append ?_
  refine Sealed.append (hname.append (enclosed_argumentsText h ht)) ?_
  refine (Text.sealed_flatMap fun m _ => sealed_chainText h m).append ?_
  exact Text.sealed_plain (by simp [Text.IsPlain])

omit h

/-- The declaration of a column that a schema describes is balanced, unless it is an enumeration. -/
theorem isBalanced_columnText {policy : ModifierPolicy} {schema : Text} {fields : List Field}
    (h : Schema.parse policy schema = .ok fields) (hf : f ∈ fields) (ht : f.type ≠ .enum) :
    Text.isBalanced (columnText f) = true :=
  (sealed_columnText (Schema.writable_of_mem h f hf) ht).isBalanced

/-- A type that is called twice, and a comment with quotes and parentheses of its own. -/
theorem isBalanced_columnText_point :
    let f : Field := ⟨"at", .custom "point", ["1", "'(')(9"],
      Settings.empty.set .comment (.literal "\"it's :(\"")⟩
    (Schema.parse .ignore "at:point(1,'(')(9):odd:comment(\"it's :(\")" = .ok [f] ∧
        f ∈ [f] ∧ f.type ≠ .enum) ∧
      columnText f = "$table->point('at', 1, '(')(9)->comment(\"it's :(\");" ∧
      Text.isBalanced (columnText f) = true := by
  intro f
  have h : Schema.parse .ignore "at:point(1,'(')(9):odd:comment(\"it's :(\")" = .ok [f] := by
    decide +kernel
  have hf : f ∈ [f] := by simp
  have ht : f.type ≠ .enum := by decide
  exact ⟨⟨h, hf, ht⟩, rfl, isBalanced_columnText h hf ht⟩

end Statement

end Migrations

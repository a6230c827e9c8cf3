import Migrations.Proofs.Name.Inflection
import Migrations.Proofs.Schema.Balance
import Migrations.Proofs.Text.SingleQuoted
import Migrations.Statement

namespace Migrations

open Text (IsInert IsVerbatim)

theorem Name.isVerbatim_foreignTable (column : Text) : IsVerbatim (foreignTable column) := by
  refine Text.isVerbatim_of_forall_ne fun c hc => ?_
  rcases isLetter_of_mem_pluralize hc with rfl | hl
  · decide
  · constructor <;> rintro rfl <;> revert hl <;> decide

namespace Field

theorem targetColumn?_eq_none {f : Field} (h : f.target? = none) :
    f.targetColumn? = none := by
  unfold target? at h
  unfold targetColumn?
  split at h
  · cases h
  · rename_i hf
    by_cases hk : f.type = .foreignKey
    · rw [if_pos hk, List.head?_eq_none_iff] at h
      simp [h]
    · simp [hk]

/-- Without a target the names of a reference come from the name of the column, or are fixed. -/
theorem isVerbatim_reference {f : Field} (h : f.target? = none) :
    IsVerbatim f.reference.column ∧ IsVerbatim f.reference.table := by
  unfold reference
  simp only [h, targetColumn?_eq_none h, Option.map_none, Option.getD_none, Reference.toTable]
  exact ⟨(by decide : IsVerbatim Reference.defaultColumn), Name.isVerbatim_foreignTable f.name⟩

theorem eq_reference {f : Field} {r : Reference} (h : f.foreignKey? = some r) :
    r = f.reference := by
  unfold foreignKey? at h
  split at h
  · exact (Option.some.inj h).symm
  · cases h

theorem isVerbatim_onDelete {f : Field} {r : Reference} (h : f.foreignKey? = some r) :
    ∀ t ∈ r.onDelete, IsVerbatim t := by
  rw [eq_reference h, reference]
  intro t ht
  by_cases hc : f.settings.has .cascade = true
  · simp only [hc, if_true, Option.mem_some_iff] at ht
    exact ht ▸ (by decide : IsVerbatim "cascade")
  · simp [hc] at ht

end Field

namespace Statement

def readAfter? (lead t : Text) : Option (Text × Text) :=
  (Text.dropLead? t lead).bind Text.readLiteral?

def readAction? (t : Text) : Option (Option Text) :=
  if t = ");" then some none
  else (readAfter? ")->onDelete(" t).bind fun (action, rest) =>
    if rest = ");" then some (some action) else none

/-- The column that a constraint is on, and its reference. -/
def readForeign? (t : Text) : Option (Text × Reference) := do
  let (name, rest) ← readAfter? "$table->foreign(" t
  let (key, rest) ← readAfter? ")->references(" rest
  let (table, rest) ← readAfter? ")->on(" rest
  let action ← readAction? rest
  return (name, ⟨table, key, action⟩)

theorem readAfter?_append (lead t : Text) : readAfter? lead (lead ++ t) = Text.readLiteral? t := by
  rw [readAfter?, Text.dropLead?_append, Option.bind_some]

theorem readAfter?_pasted_iff {lead t more rest : Text} :
    readAfter? lead (lead ++ '\'' :: (t ++ '\'' :: more)) = some (t, rest) ↔
      IsVerbatim t ∧ rest = more := by
  rw [readAfter?_append]
  exact Text.readLiteral?_pasted_iff

theorem readAfter?_verbatim (lead : Text) {t : Text} (h : IsVerbatim t) (more : Text) :
    readAfter? lead (lead ++ '\'' :: (t ++ '\'' :: more)) = some (t, more) :=
  readAfter?_pasted_iff.mpr ⟨h, rfl⟩

theorem readAction?_onDelete {action : Option Text} (h : ∀ t ∈ action, IsVerbatim t) :
    readAction? (")" ++ onDeleteText action ++ ";") = some action := by
  cases action with
  | none => rfl
  | some t =>
    have ht : (")" : String).toList ++ onDeleteText (some t) ++ (";" : String).toList =
        (")->onDelete(" : String).toList ++ '\'' :: (t ++ '\'' :: (");" : String).toList) := by
      unfold onDeleteText
      simp only [List.append_assoc]
      rfl
    rw [ht, readAction?, readAfter?_verbatim _ (h t rfl), if_neg (by simp)]
    rfl

theorem foreignText_eq (name : Text) (r : Reference) :
    foreignText name r = "$table->foreign(" ++ '\'' :: (name ++ '\'' ::
      (")->references(" ++ '\'' :: (r.column ++ '\'' :: (")->on(" ++ '\'' :: (r.table ++ '\'' ::
        (")" ++ onDeleteText r.onDelete ++ ";")))))) := by
  have hname : ("$table->foreign('" : Text) = "$table->foreign(" ++ ['\''] := rfl
  have hcolumn : ("')->references('" : Text) = '\'' :: (")->references(" ++ ['\'']) := rfl
  have htable : ("')->on('" : Text) = '\'' :: (")->on(" ++ ['\'']) := rfl
  have hend : ("')" : Text) = '\'' :: ")" := rfl
  unfold foreignText
  rw [hname, hcolumn, htable, hend]
  simp only [List.append_assoc, List.cons_append, List.nil_append]

/-- A constraint is read back exactly if the names of its reference stand for themselves between
quotes. -/
theorem readForeign?_foreignText_iff {name : Text} {r : Reference} (hn : IsVerbatim name)
    (ha : ∀ t ∈ r.onDelete, IsVerbatim t) :
    readForeign? (foreignText name r) = some (name, r) ↔
      IsVerbatim r.column ∧ IsVerbatim r.table := by
  obtain ⟨table, key, action⟩ := r
  rw [foreignText_eq, readForeign?, readAfter?_verbatim _ hn]
  constructor
  · intro h
    simp only [bind, pure, Option.bind_some, Option.bind_eq_some_iff, Option.some.injEq,
      Prod.mk.injEq, Reference.mk.injEq, true_and] at h
    -- Both literals were read as the names that were pasted, and so up to their own ends.
    obtain ⟨⟨key, rest⟩, hkey, ⟨table, rest'⟩, htable, _, -, rfl, rfl, rfl⟩ := h
    obtain ⟨hc, rfl⟩ := readAfter?_pasted_iff.mp hkey
    exact ⟨hc, (readAfter?_pasted_iff.mp htable).1⟩
  · rintro ⟨hc, ht⟩
    simp only [bind, Option.bind_some, readAfter?_verbatim _ hc, readAfter?_verbatim _ ht,
      readAction?_onDelete ha]
    rfl

/-- The constraint of a column that a schema describes is read back exactly if the names of its
reference stand for themselves between quotes. Without a target they always do. -/
theorem constraint_reads_back {policy : ModifierPolicy} {schema : Text} {fields : List Field}
    (h : Schema.parse policy schema = .ok fields) {f : Field} (hf : f ∈ fields) {r : Reference}
    (hr : f.foreignKey? = some r) :
    (readForeign? (foreignText f.name r) = some (f.name, r) ↔
        IsVerbatim r.column ∧ IsVerbatim r.table) ∧
      (f.target? = none → readForeign? (foreignText f.name r) = some (f.name, r)) := by
  have hname : IsVerbatim f.name := (Schema.writable_of_mem h f hf).name_isWord.isVerbatim
  have hread := readForeign?_foreignText_iff hname (Field.isVerbatim_onDelete hr)
  refine ⟨hread, fun ht => hread.mpr ?_⟩
  rw [Field.eq_reference hr]
  exact Field.isVerbatim_reference ht

/-- A target of both names, with an action. -/
theorem constraint_reads_back_account :
    let f : Field := ⟨"user_id", .foreignKey, ["accounts.account_no"],
      Settings.empty.set .cascade .flag⟩
    let r : Reference := ⟨"accounts", "account_no", some "cascade"⟩
    (Schema.parse .reject "user_id:foreign(accounts.account_no):cascade" = .ok [f] ∧ f ∈ [f] ∧
        f.foreignKey? = some r) ∧
      foreignText f.name r = "$table->foreign('user_id')->references('account_no')" ++
        "->on('accounts')->onDelete('cascade');" ∧
      readForeign? (foreignText f.name r) = some (f.name, r) := by
  intro f r
  have h : Schema.parse .reject "user_id:foreign(accounts.account_no):cascade" = .ok [f] := by
    decide +kernel
  have hr : f.foreignKey? = some r := by decide
  refine ⟨⟨h, by simp, hr⟩, by decide, ?_⟩
  exact (constraint_reads_back h (by simp) hr).1.mpr (by decide)

/-- The quote in a target ends the literal of the table, and the rest is read as an action. -/
theorem target_ends_its_literal :
    let schema : Text := "owner_id:integer:foreign(users')->onDelete('cascade)"
    let f : Field := ⟨"owner_id", .integer, [],
      Settings.empty.set .foreign (.literal "users')->onDelete('cascade")⟩
    let r : Reference := ⟨"users')->onDelete('cascade", "id", none⟩
    Schema.parse .reject schema = .ok [f] ∧ f.foreignKey? = some r ∧
      readForeign? (foreignText f.name r) = some (f.name, ⟨"users", "id", some "cascade"⟩) := by
  intro schema f r
  refine ⟨?_, ?_, ?_⟩
  · decide +kernel
  · decide
  · decide

def enumLead (f : Field) (before : List Text) : Text :=
  "$table->enum('" ++ f.name ++ "', [" ++
    before.flatMap fun value => (enumValue value ++ ", " : Text)

def enumRest (f : Field) (after : List Text) : Text :=
  (after.flatMap fun value => (", " ++ enumValue value : Text)) ++ "])" ++
    Modifier.chained.flatMap (chainText f) ++ ";"

theorem argumentsText_enum {f : Field} (ht : f.type = .enum) {before after : List Text} {v : Text}
    (ha : f.arguments = before ++ v :: after) :
    argumentsText f = ", [" ++ (before.flatMap fun value => (enumValue value ++ ", " : Text)) ++
      (enumValue v ++ after.flatMap fun value => (", " ++ enumValue value : Text)) ++ "]" := by
  have hk : f.type ≠ .foreignKey := by simp [ht]
  have hc : f.columnArguments = before ++ v :: after := by rw [Field.columnArguments, if_neg hk, ha]
  unfold argumentsText
  rw [hc, if_neg (by simp), if_pos ht, List.map_append, List.map_cons, Text.join_around,
    List.flatMap_map, List.flatMap_map]
  simp only [List.append_assoc]

theorem columnText_enum {f : Field} (ht : f.type = .enum) {before after : List Text} {v : Text}
    (ha : f.arguments = before ++ v :: after) :
    columnText f = enumLead f before ++ (enumValue v ++ enumRest f after) := by
  have hopen : ("$table->enum('" : Text) = "$table->" ++ (f.type.method ++ "('") := by
    rw [ht]
    rfl
  have harray : ("', [" : Text) = "'" ++ ", [" := rfl
  have hclose : ("])" : Text) = "]" ++ ")" := rfl
  unfold columnText enumLead enumRest
  rw [argumentsText_enum ht ha, hopen, harray, hclose]
  simp only [List.append_assoc]

/-- A value that has no quotes around it is written as one literal that stands for it exactly if it
is inert. -/
theorem enum_value_reads_back {f : Field} (ht : f.type = .enum) {before after : List Text}
    {v : Text} (ha : f.arguments = before ++ v :: after) (hq : Text.isQuoted v = false) :
    columnText f = enumLead f before ++ (enumValue v ++ enumRest f after) ∧
      (Text.readLiteral? (enumValue v ++ enumRest f after) = some (v, enumRest f after) ↔
        IsInert v) ∧
      (Text.unquoteSingle? (enumValue v) = some v ↔ IsInert v) := by
  have hv : enumValue v = Text.quoteSingle v := by simp [enumValue, hq]
  refine ⟨columnText_enum ht ha, ?_, ?_⟩
  · rw [hv, Text.readLiteral?_quoteSingle_iff, and_iff_left rfl]
  · rw [hv, Text.unquoteSingle?_quoteSingle_iff]

/-- Quotes inside of a value, and a backslash in front of a letter. -/
theorem enum_value_reads_back_quotes :
    let f : Field := ⟨"kind", .enum, ["\\d", "x'y'z"], Settings.empty.set .nullable .flag⟩
    (Schema.parse .reject "kind:enum(\\d,x'y'z):nullable" = .ok [f] ∧ f.type = .enum ∧
        f.arguments = ["\\d"] ++ "x'y'z" :: [] ∧ Text.isQuoted "x'y'z" = false) ∧
      columnText f = "$table->enum('kind', ['\\d', 'x\\'y\\'z'])->nullable();" ∧
      Text.unquoteSingle? (enumValue "x'y'z") = some "x'y'z" := by
  intro f
  have h : Schema.parse .reject "kind:enum(\\d,x'y'z):nullable" = .ok [f] := by decide +kernel
  have hq : Text.isQuoted "x'y'z" = false := by decide
  have ha : f.arguments = ["\\d"] ++ "x'y'z" :: [] := rfl
  refine ⟨⟨h, rfl, ha, hq⟩, by decide, ?_⟩
  exact (enum_value_reads_back rfl ha hq).2.2.mpr (by decide)

/-- The backslash at the end of the first value escapes the closing quote. -/
theorem backslash_escapes_closing_quote :
    let f : Field := ⟨"kind", .enum, ["app\\", "lib"], .empty⟩
    Schema.parse .reject "kind:enum:app\\,lib" = .ok [f] ∧ Text.isQuoted "app\\" = false ∧
      columnText f = "$table->enum('kind', ['app\\', 'lib']);" ∧
      Text.unquoteSingle? (enumValue "app\\") = none ∧
      Text.readLiteral? (enumValue "app\\" ++ enumRest f ["lib"]) =
        some (("app', " : Text), ("lib']);" : Text)) := by
  intro f
  refine ⟨?_, ?_, ?_, ?_, ?_⟩
  · decide +kernel
  · decide
  · decide
  · decide
  · decide

end Statement

end Migrations

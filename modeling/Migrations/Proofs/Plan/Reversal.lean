import Migrations.Proofs.Field.Basic
import Migrations.Proofs.Plan.Layout

namespace Migrations

open Change

def Reference.clause (r : Reference) : Text :=
  ")->references('" ++ r.column ++ "')->on('" ++ r.table ++ "')" ++
    Statement.onDeleteText r.onDelete ++ ";"

def Field.declaration (f : Field) : Declaration :=
  ⟨f.type.method, Statement.argumentsText f ++ ")" ++
    Modifier.chained.flatMap (Statement.chainText f) ++ ";"⟩

/-- A field that a statement can name, with a type that has a method of its own. -/
structure Field.Declarable (f : Field) : Prop where
  isIdentifier : Text.isIdentifier f.name = true
  known : f.type ∈ ColumnType.known

namespace Change

/-- No known type is declared by a method that means something else. -/
theorem method_of_known {type : ColumnType} (h : type ∈ ColumnType.known) :
    '(' ∉ type.method ∧ type.method ≠ "foreign" ∧ type.method ≠ "dropForeign" ∧
      type.method ≠ "dropColumn" := by
  revert h; revert type
  decide +kernel

theorem ofLine?_column {f : Field} (h : f.Declarable) :
    ofLine? (Step.statementIndent ++ (Statement.column f).text) =
      some (.addColumn f.name f.declaration) := by
  obtain ⟨hp, hf, hdf, hdc⟩ := method_of_known h.known
  have hn := (Text.isWord_of_isIdentifier h.isIdentifier).not_mem_quote
  have ht : (Statement.column f).text = "$table->" ++ f.type.method ++
      '(' :: '\'' :: (f.name ++ '\'' :: f.declaration.rest) := by
    change Statement.columnText f = _
    unfold Statement.columnText Field.declaration
    simp only [List.append_assoc]
    rfl
  rw [ht, ofLine?_call hp, ofCall?_named hdf hdc hn, if_neg hf]
  rfl

theorem ofLine?_foreign {name : Text} (h : '\'' ∉ name) (r : Reference) :
    ofLine? (Step.statementIndent ++ (Statement.foreign name r).text) =
      some (.addConstraint name r.clause) := by
  have ht : (Statement.foreign name r).text = "$table->" ++ ("foreign" : String).toList ++
      '(' :: '\'' :: (name ++ '\'' :: r.clause) := by
    change Statement.foreignText name r = _
    unfold Statement.foreignText Reference.clause
    simp only [List.append_assoc]
    rfl
  rw [ht, ofLine?_call (by decide), ofCall?_named (by decide) (by decide) h, if_pos rfl]

end Change

namespace Layout

def put (l : Layout) (f : Field) : Layout where
  columns := l.columns.insert f.name f.declaration
  constraints := match f.foreignKey? with
    | none => l.constraints
    | some r => l.constraints.insert f.name r.clause
  constrained k hk := by
    rw [Finmap.mem_insert]
    cases hr : f.foreignKey? with
    | none => exact .inr (l.constrained k (by simpa [hr] using hk))
    | some r =>
      rcases (by simpa [hr] using hk : k = f.name ∨ k ∈ l.constraints) with he | hl
      · exact .inl he
      · exact .inr (l.constrained k hl)

theorem mem_put {l : Layout} {f : Field} {name : Text} :
    name ∈ (l.put f).columns ↔ name = f.name ∨ name ∈ l.columns := Finmap.mem_insert

theorem mem_constraints_put {l : Layout} {f : Field} {name : Text} :
    name ∈ (l.put f).constraints ↔ (name = f.name ∧ f.IsForeign) ∨ name ∈ l.constraints := by
  by_cases hf : f.IsForeign
  · simp [put, Field.foreignKey?, hf]
  · simp [put, Field.foreignKey?, hf]

theorem put_comm (l : Layout) {f g : Field} (h : f.name ≠ g.name) :
    (l.put f).put g = (l.put g).put f := by
  ext1
  · exact Finmap.insert_insert_of_ne _ h
  · cases hf : f.foreignKey? <;> cases hg : g.foreignKey? <;>
      simp [put, hf, hg, Finmap.insert_insert_of_ne _ h]

theorem perform_added {l : Layout} {f : Field} (h : f.Declarable) (hn : f.name ∉ l.columns) :
    l.perform f.added = some (l.put f) := by
  have hq := (Text.isWord_of_isIdentifier h.isIdentifier).not_mem_quote
  have hc : f.name ∉ l.constraints := fun hm => hn (l.constrained _ hm)
  cases hr : f.foreignKey? with
  | none => simp [perform, Field.added, hr, applyLine, ofLine?_column h, apply, hn, put]
  | some r =>
    simp [perform, Field.added, hr, applyLine, ofLine?_column h, ofLine?_foreign hq, apply, hn, hc,
      put]

/-- A constraint is dropped before its column, so that a column can always be dropped. -/
theorem perform_dropped {l : Layout} {f : Field} (hn : f.name ∉ l.columns) :
    (l.put f).perform f.dropped = some l := by
  have hc : f.name ∉ l.constraints := fun hm => hn (l.constrained _ hm)
  cases hr : f.foreignKey? with
  | none =>
    simp [perform, Field.dropped, hr, applyLine, ofLine?_dropColumn, apply, hc, put,
      erase_insert hn]
  | some r =>
    simp [perform, Field.dropped, hr, applyLine, ofLine?_dropForeign, ofLine?_dropColumn, apply, hc,
      put, erase_insert hn, erase_insert hc]

def putAll (l : Layout) (fields : List Field) : Layout := fields.foldl put l

theorem mem_putAll {l : Layout} {fields : List Field} {name : Text} :
    name ∈ (l.putAll fields).columns ↔ name ∈ fields.map Field.name ∨ name ∈ l.columns := by
  induction fields generalizing l with
  | nil => simp [putAll]
  | cons f fs ih =>
    rw [putAll, List.foldl_cons, ← putAll, ih, mem_put, List.map_cons, List.mem_cons]
    tauto

theorem mem_constraints_putAll {l : Layout} {fields : List Field} {name : Text} :
    name ∈ (l.putAll fields).constraints ↔
      (∃ f ∈ fields, f.name = name ∧ f.IsForeign) ∨ name ∈ l.constraints := by
  induction fields generalizing l with
  | nil => simp [putAll]
  | cons f fs ih =>
    rw [putAll, List.foldl_cons, ← putAll, ih, mem_constraints_put, List.exists_mem_cons_iff,
      eq_comm]
    exact or_left_comm.trans or_assoc.symm

/-- Columns of different names may be put in any order. -/
theorem putAll_perm (l : Layout) {fields others : List Field} (h : fields.Perm others)
    (hd : (fields.map Field.name).Nodup) : l.putAll fields = l.putAll others := by
  refine h.foldl_eq' ?_ l
  intro f hf g hg m
  by_cases he : f.name = g.name
  · rw [List.inj_on_of_nodup_map hd hf hg he]
  · exact put_comm m he

theorem perform_flatMap_added {fields : List Field} (h : ∀ f ∈ fields, f.Declarable)
    (hd : (fields.map Field.name).Nodup) {l : Layout} (hn : ∀ f ∈ fields, f.name ∉ l.columns) :
    l.perform (fields.flatMap Field.added) = some (l.putAll fields) := by
  induction fields generalizing l with
  | nil => rfl
  | cons f fs ih =>
    obtain ⟨hf, hd⟩ := List.nodup_cons.mp hd
    have hs : ∀ g ∈ fs, g.name ∉ (l.put f).columns := by
      intro g hg hm
      rcases mem_put.mp hm with he | hl
      · exact hf (he ▸ List.mem_map_of_mem hg)
      · exact hn g (List.mem_cons_of_mem f hg) hl
    rw [List.flatMap_cons, perform_append, perform_added (h f (by simp)) (hn f (by simp)),
      Option.bind_some, ih (fun g hg => h g (by simp [hg])) hd hs]
    rfl

theorem perform_flatMap_dropped {fields : List Field} (hd : (fields.map Field.name).Nodup)
    {l : Layout} (hn : ∀ f ∈ fields, f.name ∉ l.columns) :
    (l.putAll fields).perform (fields.flatMap Field.dropped) = some l := by
  induction fields with
  | nil => rfl
  | cons f fs ih =>
    have hl : l.putAll (f :: fs) = (l.putAll fs).put f := by
      rw [putAll_perm l (List.perm_append_singleton f fs).symm hd, putAll,
        List.foldl_concat, putAll]
    obtain ⟨hf, hd⟩ := List.nodup_cons.mp hd
    have hm : f.name ∉ (l.putAll fs).columns := by
      rw [mem_putAll]
      exact not_or.mpr ⟨hf, hn f (by simp)⟩
    rw [hl, List.flatMap_cons, perform_append, perform_dropped hm, Option.bind_some,
      ih hd fun g hg => hn g (by simp [hg])]

/-- Going up and down again leaves a table as it was, and a migration that removes columns does the
reverse of the one that adds them. -/
theorem run_plan_reverses {before : Layout} {adding removing : Intent} {fields : List Field}
    (ha : adding.action = .add) (hr : removing.action = .remove)
    (ht : removing.table = adding.table) (hv : ∀ f ∈ fields, f.flaw? = none)
    (hk : ∀ f ∈ fields, f.type ∈ ColumnType.known) (hd : (fields.map Field.name).Nodup)
    (hn : ∀ f ∈ fields, f.name ∉ before.columns) :
    ∃ after : Layout,
      (∀ name, name ∈ after.columns ↔ name ∈ fields.map Field.name ∨ name ∈ before.columns) ∧
      (∀ name, name ∈ after.constraints ↔
        (∃ f ∈ fields, f.name = name ∧ f.IsForeign) ∨ name ∈ before.constraints) ∧
      before.run adding.table (adding.plan fields).render.up = some after ∧
      after.run adding.table (adding.plan fields).render.down = some before ∧
      after.run adding.table (removing.plan fields).render.up = some before ∧
      before.run adding.table (removing.plan fields).render.down = some after := by
  have hf : ∀ f ∈ fields, f.Declarable := fun f hm =>
    ⟨(Field.flaw?_eq_none_iff.mp (hv f hm)).1, hk f hm⟩
  have hrev : before.putAll fields = before.putAll fields.reverse :=
    putAll_perm before (List.reverse_perm fields).symm hd
  refine ⟨before.putAll fields, fun _ => mem_putAll, fun _ => mem_constraints_putAll,
    ?_, ?_, ?_, ?_⟩
  · simp only [Intent.plan, ha, Plan.render, run_changeTable]
    exact perform_flatMap_added hf hd hn
  · simp only [Intent.plan, ha, Plan.render, run_changeTable, hrev]
    exact perform_flatMap_dropped (by simpa using hd) fun f hm => hn f (by simpa using hm)
  · simp only [Intent.plan, hr, ht, Plan.render, run_changeTable]
    exact perform_flatMap_dropped hd hn
  · simp only [Intent.plan, hr, ht, Plan.render, run_changeTable]
    exact perform_flatMap_added hf hd hn

/-- A column with a constraint and one without, added to a table that has one more. -/
theorem run_plan_reverses_posts :
    let fields := [(Field.plain "author_id" .foreignKey).withArgument "users",
      (Field.plain "title" .string).withSetting .nullable .flag]
    let before : Layout := ⟨Finmap.singleton "id" ⟨"bigIncrements", ");"⟩, ∅,
      fun _ h => absurd h Finmap.notMem_empty⟩
    let adding : Intent := ⟨"add_author_to_posts", .add, "posts", none⟩
    let removing : Intent := ⟨"remove_author_from_posts", .remove, "posts", none⟩
    (∀ f ∈ fields, f.flaw? = none) ∧ (∀ f ∈ fields, f.type ∈ ColumnType.known) ∧
      (fields.map Field.name).Nodup ∧ (∀ f ∈ fields, f.name ∉ before.columns) ∧
      ∃ after : Layout,
        (∀ name, name ∈ after.columns ↔ name ∈ fields.map Field.name ∨ name ∈ before.columns) ∧
        (∀ name, name ∈ after.constraints ↔
          (∃ f ∈ fields, f.name = name ∧ f.IsForeign) ∨ name ∈ before.constraints) ∧
        before.run adding.table (adding.plan fields).render.up = some after ∧
        after.run adding.table (adding.plan fields).render.down = some before ∧
        after.run adding.table (removing.plan fields).render.up = some before ∧
        before.run adding.table (removing.plan fields).render.down = some after := by
  intro fields before adding removing
  have hv : ∀ f ∈ fields, f.flaw? = none := by decide +kernel
  have hk : ∀ f ∈ fields, f.type ∈ ColumnType.known := by decide +kernel
  have hd : (fields.map Field.name).Nodup := by decide +kernel
  have hn : ∀ f ∈ fields, f.name ∉ before.columns := by
    intro f hm he
    have hid : f.name = "id" := Finmap.mem_singleton _ _ _ |>.mp he
    revert f
    decide +kernel
  exact ⟨hv, hk, hd, hn, run_plan_reverses rfl rfl rfl hv hk hd hn⟩

end Layout

end Migrations

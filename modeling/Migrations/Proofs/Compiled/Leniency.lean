import Mathlib.Data.List.Basic
import Migrations.Compiled

namespace Migrations

/-- The lenient result is the strict one, unless that is a failure which is passed over. -/
def Relaxes {ε α : Type} (passed : ε → Prop) (strict lenient : Except ε α) : Prop :=
  (∃ e, strict = .error e ∧ passed e) ∨ lenient = strict

namespace Relaxes

variable {ε δ α : Type} {passed : ε → Prop} {other : δ → Prop} {strict lenient : Except ε α}

theorem refl (passed : ε → Prop) (result : Except ε α) : Relaxes passed result result := .inr rfl

theorem mapError (h : Relaxes passed strict lenient) {f : ε → δ}
    (hf : ∀ e, passed e → other (f e)) :
    Relaxes other (strict.mapError f) (lenient.mapError f) := by
  rcases h with ⟨e, rfl, hp⟩ | rfl
  · exact .inl ⟨f e, rfl, hf e hp⟩
  · exact refl other _

theorem ok {a : α} (h : Relaxes passed strict lenient) (ha : strict = .ok a) : lenient = .ok a := by
  rcases h with ⟨e, he, _⟩ | rfl
  · rw [he] at ha
    cases ha
  · exact ha

end Relaxes

namespace Schema

def Refusal.IsUnsupported (refusal : Refusal) : Prop := ∃ keyword, refusal = .unsupported keyword

def IsUnsupportedModifier (e : Error) : Prop :=
  ∃ index keyword, e = .unsupportedModifier index keyword

theorem isUnsupportedModifier_toError {index : Nat} {chunk : Text} {refusal : Refusal} :
    IsUnsupportedModifier (refusal.toError index chunk) ↔ refusal.IsUnsupported := by
  cases refusal with
  | malformed fault => simp [IsUnsupportedModifier, Refusal.IsUnsupported, Refusal.toError]
  | unsupported keyword => simp [IsUnsupportedModifier, Refusal.IsUnsupported, Refusal.toError]

theorem relaxes_applyItem (s : Settings) (item : Text) :
    Relaxes Refusal.IsUnsupported (applyItem .reject s item) (applyItem .ignore s item) := by
  unfold applyItem
  split
  · exact .refl _ _
  · rename_i keyword value _
    split
    · exact .refl _ _
    · exact .inl ⟨.unsupported keyword, rfl, keyword, rfl⟩

theorem relaxes_applyItems (s : Settings) (items : List Text) :
    Relaxes Refusal.IsUnsupported (applyItems .reject s items) (applyItems .ignore s items) := by
  induction items generalizing s with
  | nil => exact .refl _ _
  | cons item rest ih =>
    simp only [applyItems]
    rcases relaxes_applyItem s item with ⟨refusal, hr, hu⟩ | he
    · left
      exact ⟨refusal, by rw [hr], hu⟩
    · rw [he]
      cases applyItem .reject s item with
      | error refusal => exact .refl _ _
      | ok t => exact ih t

theorem relaxes_readField (chunk : Text) :
    Relaxes Refusal.IsUnsupported (readField .reject chunk) (readField .ignore chunk) := by
  unfold readField
  split
  · exact .refl _ _
  · rename_i draft _
    rcases relaxes_applyItems .empty draft.items with ⟨refusal, hr, hu⟩ | he
    · left
      exact ⟨refusal, by rw [hr], hu⟩
    · rw [he]
      exact .refl _ _

/-- The policies agree up to the first unknown modifier, so that they number the fields alike. -/
theorem relaxes_readFields (index : Nat) (wholes : List Text) :
    Relaxes IsUnsupportedModifier (readFields .reject index wholes)
      (readFields .ignore index wholes) := by
  induction wholes generalizing index with
  | nil => exact .refl _ _
  | cons chunk rest ih =>
    simp only [readFields]
    rcases relaxes_readField chunk with ⟨refusal, hr, hu⟩ | he
    · left
      exact ⟨refusal.toError index chunk, by rw [hr], isUnsupportedModifier_toError.mpr hu⟩
    · rw [he]
      cases readField .reject chunk with
      | error refusal => exact .refl _ _
      | ok field =>
        rcases ih (index + 1) with ⟨e, hr, hu⟩ | hf
        · left
          exact ⟨e, by simp [hr, Except.map], hu⟩
        · right
          simp [hf]

theorem applyItem_ignore {s : Settings} {item : Text} {refusal : Refusal}
    (h : applyItem .ignore s item = .error refusal) : ¬ refusal.IsUnsupported := by
  rintro ⟨keyword, rfl⟩
  unfold applyItem at h
  split at h
  · cases h
  · rename_i word value _
    split at h
    · rename_i m _
      cases ha : applyModifier s m value <;> simp [ha, Except.mapError] at h
    · cases h

theorem applyItems_ignore {s : Settings} {items : List Text} {refusal : Refusal}
    (h : applyItems .ignore s items = .error refusal) : ¬ refusal.IsUnsupported := by
  induction items generalizing s with
  | nil => cases h
  | cons item rest ih =>
    simp only [applyItems] at h
    split at h
    · rename_i other hi
      cases h
      exact applyItem_ignore hi
    · exact ih h

theorem readField_ignore {chunk : Text} {refusal : Refusal}
    (h : readField .ignore chunk = .error refusal) : ¬ refusal.IsUnsupported := by
  unfold readField at h
  split at h
  · cases h
    simp [Refusal.IsUnsupported]
  · split at h
    · rename_i other hi
      cases h
      exact applyItems_ignore hi
    · dsimp only at h
      split at h
      · cases h
        simp [Refusal.IsUnsupported]
      · cases h

theorem readFields_ignore {index : Nat} {wholes : List Text} {e : Error}
    (h : readFields .ignore index wholes = .error e) : ¬ IsUnsupportedModifier e := by
  induction wholes generalizing index with
  | nil => cases h
  | cons chunk rest ih =>
    simp only [readFields] at h
    split at h
    · rename_i refusal hr
      cases h
      rw [isUnsupportedModifier_toError]
      exact readField_ignore hr
    · cases hf : readFields .ignore (index + 1) rest with
      | ok fields => simp [hf, Except.map] at h
      | error other =>
        simp only [hf, Except.map, Except.error.injEq] at h
        subst h
        exact ih hf

theorem relaxes_parse (schema : Text) :
    Relaxes IsUnsupportedModifier (parse .reject schema) (parse .ignore schema) :=
  relaxes_readFields 1 (chunks schema)

end Schema

namespace Intent

def IsUnknownVerb (e : Error) : Prop := ∃ name word, e = .invalidName name (.unknownVerb word)

theorem relaxes_read (name : Text) :
    Relaxes (fun fault => ∃ word, fault = NameFault.unknownVerb word) (read .reject name)
      (read .add name) := by
  unfold read readVerb
  cases wordsOf (Name.snake name) with
  | nil => exact .refl _ _
  | cons first rest =>
    dsimp only
    cases Action.ofVerb? first with
    | some action => exact .refl _ _
    | none => exact .inl ⟨.unknownVerb first, rfl, first, rfl⟩

theorem relaxes_parse (name : Text) :
    Relaxes IsUnknownVerb (parse .reject name) (parse .add name) := by
  unfold parse
  split
  · exact .refl _ _
  · apply (relaxes_read (Text.trim name)).mapError
    rintro fault ⟨word, rfl⟩
    exact ⟨Text.trim name, word, rfl⟩

end Intent

/-- In both respects the first configuration is the strict one, or the two are alike. -/
structure Config.IsStricter (strict lenient : Config) : Prop where
  modifiers : strict.modifierPolicy = .reject ∨ strict.modifierPolicy = lenient.modifierPolicy
  verbs : strict.verbFallback = .reject ∨ strict.verbFallback = lenient.verbFallback

namespace Config.IsStricter

variable {strict lenient : Config} (h : IsStricter strict lenient)

include h

theorem parse_name {name : Text} {intent : Intent}
    (hi : Intent.parse strict.verbFallback name = .ok intent) :
    Intent.parse lenient.verbFallback name = .ok intent := by
  rcases h.verbs with hv | hv
  · rw [hv] at hi
    cases lenient.verbFallback with
    | reject => exact hi
    | add => exact (Intent.relaxes_parse name).ok hi
  · exact hv ▸ hi

theorem parse_schema {schema : Text} {fields : List Field}
    (hf : Schema.parse strict.modifierPolicy schema = .ok fields) :
    Schema.parse lenient.modifierPolicy schema = .ok fields := by
  rcases h.modifiers with hm | hm
  · rw [hm] at hf
    cases lenient.modifierPolicy with
    | reject => exact hf
    | ignore => exact (Schema.relaxes_parse schema).ok hf
  · exact hm ▸ hf

theorem compile {name schema : Text} {c : Compiled}
    (hc : Compiled.compile strict name schema = .ok c) :
    Compiled.compile lenient name schema = .ok c := by
  unfold Compiled.compile at hc ⊢
  split at hc
  · cases hc
  · rename_i intent hi
    split at hc
    · cases hc
    · rename_i fields hf
      rw [h.parse_name hi, h.parse_schema hf]
      exact hc

end Config.IsStricter

namespace Compiled

/-- Leniency is conservative. Passing over unknown modifiers changes a result only if the strict one
is that a modifier is unknown, and no such error is left. Falling back on a verb changes a result
only if the strict one is that the verb is unknown. So whatever a stricter configuration compiles, a
more lenient one compiles alike. -/
theorem leniency_is_conservative :
    (∀ schema, (∀ index keyword,
        Schema.parse .reject schema ≠ .error (.unsupportedModifier index keyword)) →
      Schema.parse .ignore schema = Schema.parse .reject schema) ∧
    (∀ schema index keyword,
      Schema.parse .ignore schema ≠ .error (.unsupportedModifier index keyword)) ∧
    (∀ name, (∀ spelled word,
        Intent.parse .reject name ≠ .error (.invalidName spelled (.unknownVerb word))) →
      Intent.parse .add name = Intent.parse .reject name) ∧
    ∀ strict lenient : Config, strict.IsStricter lenient → ∀ name schema c,
      compile strict name schema = .ok c → compile lenient name schema = .ok c := by
  refine ⟨?_, ?_, ?_, ?_⟩
  · intro schema h
    rcases Schema.relaxes_parse schema with ⟨e, he, index, keyword, rfl⟩ | he
    · exact absurd he (h index keyword)
    · exact he
  · intro schema index keyword h
    exact Schema.readFields_ignore h ⟨index, keyword, rfl⟩
  · intro name h
    rcases Intent.relaxes_parse name with ⟨e, he, spelled, word, rfl⟩ | he
    · exact absurd he (h spelled word)
    · exact he
  · intro strict lenient hs name schema c hc
    exact hs.compile hc

/-- A schema whose second field is malformed, a name without a table, and a migration that is
compiled. -/
theorem leniency_is_conservative_posts :
    let schema : Text := "title:string:unique, body"
    let tableless : Text := "create_table"
    let name : Text := "add_slug_to_posts_table"
    let slug : Text := "slug:string:unique"
    let strict : Config := { modifierPolicy := .reject, verbFallback := .reject }
    let lenient : Config := { modifierPolicy := .ignore, verbFallback := .add }
    Schema.parse .ignore schema = .error (.malformedField 2 "body" .missingType) ∧
      Intent.parse .add tableless = .error (.invalidName tableless .noTable) ∧
      ∃ c, compile strict name slug = .ok c ∧ compile lenient name slug = .ok c := by
  intro schema tableless name slug strict lenient
  have hschema : Schema.parse .reject schema = .error (.malformedField 2 "body" .missingType) := by
    decide +kernel
  have hname : Intent.parse .reject tableless = .error (.invalidName tableless .noTable) := by
    decide +kernel
  have hcompile : (compile strict name slug).isOk = true := by decide +kernel
  obtain ⟨schemas, _, names, compiles⟩ := leniency_is_conservative
  refine ⟨?_, ?_, ?_⟩
  · rw [schemas schema, hschema]
    intro index keyword he
    cases hschema.symm.trans he
  · rw [names tableless, hname]
    intro spelled word he
    cases hname.symm.trans he
  · cases h : compile strict name slug with
    | error e =>
      rw [h] at hcompile
      cases hcompile
    | ok c => exact ⟨c, rfl, compiles strict lenient ⟨.inl rfl, .inl rfl⟩ name slug c h⟩

end Compiled

end Migrations

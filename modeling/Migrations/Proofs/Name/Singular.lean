import Migrations.Intent.Pivot
import Migrations.Proofs.Name.Plural
import Migrations.Proofs.Name.SnakeCase

namespace Migrations.Name

open Text (IsAscii IsLowerWord)

/-- The same letters behind a word and behind the endings make no difference. -/
theorem endsInOneOf_map_append (endings : List Text) (word back : Text) :
    endsInOneOf (endings.map (· ++ back)) (word ++ back) = endsInOneOf endings word := by
  rw [Bool.eq_iff_iff, endsInOneOf, endsInOneOf, List.any_map, List.any_eq_true, List.any_eq_true]
  simp only [Function.comp_apply, List.isSuffixOf_iff_suffix, List.suffix_append_self_iff]

/-- The ends of words from which the plural mark `es` is taken off as a whole. -/
def esStems : List Text := ["ss", "sh", "ch", "x", "z", "us"]

theorem endsInOneOf_esEndings (stem : Text) :
    endsInOneOf esEndings (stem ++ "es") = endsInOneOf esStems stem :=
  endsInOneOf_map_append esStems stem "es"

theorem endsInOneOf_singularEndings (stem : Text) :
    endsInOneOf singularEndings (stem ++ "s") = endsInOneOf ["s", "u", "i"] stem :=
  endsInOneOf_map_append ["s", "u", "i"] stem "s"

theorem endsInOneOf_letters (word : Text) : endsInOneOf ["s", "u", "i"] word = true ↔
    word.getLast? = some 's' ∨ word.getLast? = some 'u' ∨ word.getLast? = some 'i' := by
  simp [endsInOneOf, List.isSuffixOf_iff_suffix, List.IsSuffix, List.getLast?_eq_some_iff,
    @eq_comm _ word]

theorem singularWord_eq_self_iff {word : Text} : singularWord word = word ↔ ¬ LooksPlural word := by
  rw [← (hasSingular_singularWord word).ne_iff, not_not]

theorem not_looksPlural {word : Text} (hp : word ∉ irregulars.map (·.2))
    (h : word.getLast? ≠ some 's') : ¬ LooksPlural word := by
  rintro (hm | ⟨stem, _, rfl, _⟩)
  · exact hp hm
  · simp at h

/-- An irregular plural with an ending of its own. -/
def IsDoublePlural (word : Text) : Prop := ∃ pair ∈ irregulars, word = pair.2 ++ "s"

instance : DecidablePred IsDoublePlural := fun word =>
  inferInstanceAs (Decidable (∃ pair ∈ irregulars, word = pair.2 ++ "s"))

theorem HasSingular.not_looksPlural {word form : Text} (h : HasSingular word form)
    (hd : ¬ IsDoublePlural word) : ¬ LooksPlural form := by
  have hlast : ∀ plural ∈ irregulars.map (·.2), plural.getLast? ≠ some 'y' := by decide
  cases h with
  | irregular h =>
    have hs : ∀ pair ∈ irregulars, pair.1 ∉ irregulars.map (·.2) := by decide
    exact Name.not_looksPlural (hs _ h) (irregulars_apart _ h).2.1
  | ie h =>
    have hs : ∀ stem ∈ ieSingulars, stem ∉ irregulars.map (·.2) ∧ stem.getLast? ≠ some 's' := by
      decide
    exact Name.not_looksPlural (hs _ h).1 (hs _ h).2
  | ies hn => exact Name.not_looksPlural (fun hm => hlast _ hm (by simp)) (by simp)
  | es h =>
    rw [endsInOneOf_esEndings] at h
    rintro (hm | ⟨stem, _, rfl, he⟩)
    · have hs : ∀ plural ∈ irregulars.map (·.2), endsInOneOf esStems plural = false := by decide
      rw [hs _ hm] at h
      cases h
    · have hs : ∀ ending ∈ esStems, some 's' = ending.getLast? → ending ∈ singularEndings := by
        decide
      obtain ⟨ending, hm, ⟨front, hf⟩, hl⟩ := exists_ending (by decide) h
      rw [hf, endsInOneOf_of_mem (hs ending hm (by simpa using hl)) front] at he
      cases he
  | @s stem hn h =>
    rw [endsInOneOf_singularEndings] at h
    refine Name.not_looksPlural (fun hm => hd ?_) ?_
    · obtain ⟨pair, hp, rfl⟩ := List.mem_map.mp hm
      exact ⟨pair, hp, rfl⟩
    · intro hs
      obtain ⟨front, rfl⟩ := List.getLast?_eq_some_iff.mp hs
      have he : endsInOneOf ["s", "u", "i"] (front ++ ['s']) = true :=
        endsInOneOf_of_mem (by simp) front
      rw [he] at h
      cases h
  | self hp h => exact not_looksPlural_self hp h

theorem singularWord_singularWord {word : Text} (h : ¬ IsDoublePlural word) :
    singularWord (singularWord word) = singularWord word :=
  singularWord_eq_self_iff.mpr ((hasSingular_singularWord word).not_looksPlural h)

section Joined

variable {front : List Text} {last : Text}

theorem singularize_join (h : ∀ w ∈ front ++ [last], IsLowerWord w) :
    singularize (Text.join ['_'] (front ++ [last])) =
      Text.join ['_'] (front ++ [singularWord last]) := by
  rw [singularize, snake_join (by simp) h, mapLastWord_join (h last (by simp)).not_mem]

theorem singularize_snake {name : Text} (ha : IsAscii name) :
    singularize (snake name) = singularize name := by
  rw [singularize, singularize, snake_snake ha]

def EndsInDoublePlural (name : Text) : Prop :=
  ∃ word ∈ ((words name).map lowerWord).getLast?, IsDoublePlural word

instance : DecidablePred EndsInDoublePlural := fun name =>
  inferInstanceAs (Decidable (∃ word ∈ ((words name).map lowerWord).getLast?, IsDoublePlural word))

/-- A singular is its own singular. -/
theorem singularize_singularize {name : Text} (ha : IsAscii name)
    (hd : ¬ EndsInDoublePlural name) : singularize (singularize name) = singularize name := by
  rcases List.eq_nil_or_concat ((words name).map lowerWord) with hn | ⟨front, last, hw⟩
  · have hs : singularize name = [] := by
      rw [singularize, snake, hn]
      rfl
    rw [hs]
    rfl
  · rw [List.concat_eq_append] at hw
    have hl : ∀ w ∈ front ++ [last], IsLowerWord w := hw ▸ forall_isLowerWord_of_ascii ha
    have hi : Inflects last (singularWord last) := inflects_singularWord (hl last (by simp)).1
    have hlast : ¬ IsDoublePlural last := by
      intro h
      exact hd ⟨last, by simp [hw], h⟩
    rw [← singularize_snake ha, snake, hw, singularize_join hl,
      singularize_join (hi.forall_isLowerWord hl), singularWord_singularWord hlast]

end Joined

/-- The singular of a word in `s`, by what stands in front of it. -/
theorem singularWord_append_s {front : Text} (hn : front ≠ []) :
    singularWord (front ++ "s") =
      if front ∈ ieSingulars then front
      else match (Text.dropSuffix? front "ie").filter (· ≠ []) with
        | some stem => stem ++ "y"
        | none =>
          if endsInOneOf esEndings (front ++ "s") then front.dropLast
          else if endsInOneOf singularEndings (front ++ "s") then front ++ "s"
          else front := by
  have hlast : ∀ pair ∈ irregulars, pair.1.getLast? ≠ some 's' ∧ pair.2.getLast? ≠ some 's' := by
    decide
  have hplural : irregulars.find? (·.2 = front ++ "s") = none := by
    rw [List.find?_eq_none]
    intro pair hp he
    apply (hlast pair hp).2
    simp [of_decide_eq_true he]
  have hsingular : irregulars.any (·.1 = front ++ "s") = false := by
    rw [List.any_eq_false]
    intro pair hp he
    apply (hlast pair hp).1
    simp [of_decide_eq_true he]
  have hies : Text.dropSuffix? (front ++ "s") "ies" = Text.dropSuffix? front "ie" := by
    have hs : ("ies" : Text) = "ie" ++ "s" := rfl
    apply Option.ext
    intro stem
    rw [Text.dropSuffix?_eq_some_iff, Text.dropSuffix?_eq_some_iff, hs, ← List.append_assoc,
      List.append_left_inj]
  have htake : (front ++ "s").take ((front ++ "s").length - 2) = front.dropLast := by
    rw [List.dropLast_eq_take, List.take_append_of_le_length (by simp)]
    simp
  unfold singularWord
  simp only [hplural, hsingular, Bool.false_eq_true, if_false, ieSingular?, iesStem?, sStem?, hies,
    htake, Text.dropSuffix?_append, Option.filter_some, List.contains_iff_mem]
  by_cases hi : front ∈ ieSingulars
  · simp only [hi, if_true]
  · simp only [hi, if_false, hn, ne_eq, not_false_eq_true, decide_true, if_true, Option.getD_some]
    rfl

/-- The mark `es` is taken off as a whole behind some ends of words, and loses its `s` only behind
all others. -/
theorem singularWord_append_es {stem : Text} (h : stem.getLast? ≠ some 'i') :
    singularWord (stem ++ "es") = if endsInOneOf esStems stem then stem else stem ++ "e" := by
  have hie : stem ++ "e" ∉ ieSingulars := by
    have hl : ∀ word ∈ ieSingulars, word.dropLast.getLast? = some 'i' := by decide
    intro hm
    apply h
    simpa using hl _ hm
  have hies : Text.dropSuffix? (stem ++ "e") "ie" = none := by
    rw [Option.eq_none_iff_forall_ne_some]
    intro front hf
    have he := congrArg (List.getLast? ∘ List.dropLast) (Text.eq_append_of_dropSuffix? hf)
    apply h
    simpa using he
  have hs : endsInOneOf singularEndings (stem ++ "es") = false :=
    endsInOneOf_singularEndings_es stem
  have he : stem ++ ("es" : Text) = stem ++ "e" ++ "s" := by simp
  rw [he, singularWord_append_s (by simp), if_neg hie, hies, ← he, hs, endsInOneOf_esEndings]
  simp

theorem singularWord_append_ies (stem : Text) :
    singularWord (stem ++ "ies") =
      if stem ++ "ie" ∈ ieSingulars ∨ stem = [] then stem ++ "ie" else stem ++ "y" := by
  by_cases hn : stem = []
  · subst hn
    decide
  · have he : stem ++ ("ies" : Text) = stem ++ "ie" ++ "s" := by simp
    rw [he, singularWord_append_s (by simp), Text.dropSuffix?_append, Option.filter_some]
    simp [hn]

/-- Behind other letters than `e` the `s` is the mark, or no mark. -/
theorem singularWord_append_mark {stem : Text} (hn : stem ≠ []) (h : stem.getLast? ≠ some 'e') :
    singularWord (stem ++ "s") =
      if endsInOneOf ["s", "u", "i"] stem then stem ++ "s" else stem := by
  have hie : stem ∉ ieSingulars := by
    have hl : ∀ word ∈ ieSingulars, word.getLast? = some 'e' := by decide
    exact fun hm => h (hl _ hm)
  have hies : Text.dropSuffix? stem "ie" = none := by
    rw [Option.eq_none_iff_forall_ne_some]
    intro front hf
    apply h
    simp [Text.eq_append_of_dropSuffix? hf]
  have hes : endsInOneOf esEndings (stem ++ "s") = false := by
    have hm : endsInOneOf esEndings (stem ++ "s") =
        endsInOneOf ["sse", "she", "che", "xe", "ze", "use"] stem :=
      endsInOneOf_map_append ["sse", "she", "che", "xe", "ze", "use"] stem "s"
    rw [hm, Bool.eq_false_iff]
    intro he
    obtain ⟨ending, hm, -, hl⟩ := exists_ending (by decide) he
    have hends : ∀ ending ∈ (["sse", "she", "che", "xe", "ze", "use"] : List Text),
        ending.getLast? = some 'e' := by
      decide
    exact h (hl.trans (hends ending hm))
  rw [singularWord_append_s hn, if_neg hie, hies, hes, endsInOneOf_singularEndings]
  simp

/-- Words whose plural is read as that of another word. -/
inductive IsMisread : Text → Prop where
  /-- Of `analysises` one letter is taken off, not two. -/
  | hissing {word : Text} (h : endsInOneOf hissingEndings word = true)
      (hs : endsInOneOf esStems word = false) : IsMisread word
  /-- Of `caches` two letters are taken off, not one. -/
  | e {stem : Text} (h : endsInOneOf esStems stem = true) : IsMisread (stem ++ "e")
  /-- The `v` of `knives` stays. -/
  | fe {stem : Text} : IsMisread (stem ++ "fe")
  /-- The `y` of `pixy` is put back into `pixies`. -/
  | ie {stem : Text} (hn : stem ≠ []) (h : stem ++ "ie" ∉ ieSingulars) : IsMisread (stem ++ "ie")
  /-- `ties` is the plural of `tie` already. -/
  | y {stem : Text} (h : stem ++ "ie" ∈ ieSingulars) : IsMisread (stem ++ "y")
  /-- `menus` and `taxis` count as singulars. -/
  | vowel {word : Text} (h : word.getLast? = some 'u' ∨ word.getLast? = some 'i') : IsMisread word

theorem getLast?_mem_of_hissing {word : Text} (h : endsInOneOf hissingEndings word = true) :
    word.getLast? ∈ [some 's', some 'x', some 'z', some 'h'] := by
  have hl : ∀ ending ∈ hissingEndings,
      ending.getLast? ∈ [some 's', some 'x', some 'z', some 'h'] := by
    decide
  obtain ⟨ending, hm, -, he⟩ := exists_ending (by decide) h
  exact he ▸ hl ending hm

theorem isMisread_hissing_iff {word : Text} (h : endsInOneOf hissingEndings word = true) :
    IsMisread word ↔ endsInOneOf esStems word = false := by
  have hl := getLast?_mem_of_hissing h
  constructor
  · intro hm
    cases hm with
    | hissing _ hs => exact hs
    | vowel hv => rcases hv with hv | hv <;> simp [hv] at hl
    | _ => simp at hl
  · exact .hissing h

theorem isMisread_y_iff {stem : Text} :
    IsMisread (stem ++ "y") ↔ stem ++ "ie" ∈ ieSingulars := by
  constructor
  · generalize hw : stem ++ ("y" : Text) = word
    intro hm
    have hl : word.getLast? = some 'y' := by simp [← hw]
    cases hm with
    | hissing h _ =>
      have hh := getLast?_mem_of_hissing h
      simp [hl] at hh
    | vowel hv => simp [hl] at hv
    | y h => exact (List.append_left_inj ("y" : Text)).mp hw ▸ h
    | _ => simp at hl
  · exact .y

theorem endsInOneOf_esStems {c : Char} (hc : ∀ ending ∈ esStems, ending.getLast? ≠ some c)
    (stem : Text) : endsInOneOf esStems (stem ++ [c]) = false := by
  rw [Bool.eq_false_iff]
  intro h
  obtain ⟨ending, hm, -, he⟩ := exists_ending (by decide) h
  exact hc ending hm (he ▸ List.getLast?_concat)

theorem isMisread_ie_iff {stem : Text} :
    IsMisread (stem ++ "ie") ↔ ¬(stem ++ "ie" ∈ ieSingulars ∨ stem = []) := by
  constructor
  · generalize hw : stem ++ ("ie" : Text) = word
    intro hm
    have hl : word.getLast? = some 'e' := by simp [← hw]
    have hi : word.dropLast = stem ++ "i" := by simp [← hw]
    cases hm with
    | hissing h _ =>
      have hh := getLast?_mem_of_hissing h
      simp [hl] at hh
    | @e front h =>
      obtain rfl : front = stem ++ ['i'] := by simpa using hi
      rw [endsInOneOf_esStems (by decide)] at h
      cases h
    | fe =>
      have hf := congrArg List.getLast? hi
      simp at hf
    | ie hn h =>
      obtain rfl := (List.append_left_inj ("ie" : Text)).mp hw
      exact not_or.mpr ⟨h, hn⟩
    | y h => simp at hl
    | vowel hv => simp [hl] at hv
  · intro h
    exact .ie (fun hn => h (.inr hn)) (fun hm => h (.inl hm))

theorem isMisread_e_iff {stem : Text} (hi : stem.getLast? ≠ some 'i')
    (hf : stem.getLast? ≠ some 'f') :
    IsMisread (stem ++ "e") ↔ endsInOneOf esStems stem = true := by
  constructor
  · generalize hw : stem ++ ("e" : Text) = word
    intro hm
    have hl : word.getLast? = some 'e' := by simp [← hw]
    have hs : word.dropLast = stem := by simp [← hw]
    cases hm with
    | hissing h _ =>
      have hh := getLast?_mem_of_hissing h
      simp [hl] at hh
    | e h => exact (List.append_left_inj ("e" : Text)).mp hw ▸ h
    | fe => simp [← hs] at hf
    | ie hn h => simp [← hs] at hi
    | y h => simp at hl
    | vowel hv => simp [hl] at hv
  · exact .e

theorem isMisread_mark_iff {word : Text} (hh : endsInOneOf hissingEndings word = false)
    (he : word.getLast? ≠ some 'e') (hy : consonantYStem? word = none) :
    IsMisread word ↔ word.getLast? = some 'u' ∨ word.getLast? = some 'i' := by
  constructor
  · intro hm
    cases hm with
    | hissing h _ =>
      rw [hh] at h
      cases h
    | vowel hv => exact hv
    | @y stem h =>
      have hc : ∀ word ∈ ieSingulars,
          (word.take (word.length - 2)).getLast?.any fun c => c ∉ ("aeiou" : Text) := by
        decide
      have hs := hc _ h
      rw [consonantYStem?, Text.dropSuffix?_append, Option.filter_some] at hy
      simp_all
    | _ => simp at he
  · exact .vowel

/-- Words in `e` that only take an `s`. -/
theorem singularWord_append_es_iff {front : Text}
    (hfe : Text.dropSuffix? (front ++ "e") "fe" = none) :
    singularWord (front ++ "es") = front ++ "e" ↔ ¬ IsMisread (front ++ "e") := by
  by_cases hfront : front.getLast? = some 'i'
  · obtain ⟨stem, rfl⟩ := List.getLast?_eq_some_iff.mp hfront
    have hie : stem ++ ['i'] ++ ("e" : Text) = stem ++ "ie" := by simp
    have hies : stem ++ ['i'] ++ ("es" : Text) = stem ++ "ies" := by simp
    rw [hie, hies, isMisread_ie_iff, singularWord_append_ies]
    simp
  · have hf : front.getLast? ≠ some 'f' := by
      intro hf
      obtain ⟨stem, rfl⟩ := List.getLast?_eq_some_iff.mp hf
      have hs : stem ++ ['f'] ++ ("e" : Text) = stem ++ "fe" := by simp
      rw [hs, Text.dropSuffix?_append] at hfe
      cases hfe
    rw [isMisread_e_iff hfront hf, singularWord_append_es hfront]
    by_cases hs : endsInOneOf esStems front = true <;> simp [hs]

/-- The singular of its plural is the word itself, unless the plural is misread. The irregular
words are safe, `mouse` among them. -/
theorem singularWord_pluralWord_iff {word : Text} (hn : word ≠ []) :
    singularWord (pluralWord word) = word ↔
      word ∈ irregulars.map (·.1) ∨ ¬ IsMisread word := by
  by_cases hi : word ∈ irregulars.map (·.1)
  · have hs : ∀ singular ∈ irregulars.map (·.1), singularWord (pluralWord singular) = singular := by
      decide
    exact iff_of_true (hs word hi) (.inl hi)
  · rw [or_iff_right hi]
    have hr := hasPlural_pluralWord hn
    generalize pluralWord word = plural at hr
    cases hr with
    | irregular h => exact absurd (List.mem_map_of_mem h) hi
    | hissing h =>
      rw [isMisread_hissing_iff h, Bool.not_eq_false,
        singularWord_append_es (getLast?_of_hissing h).2]
      by_cases hs : endsInOneOf esStems word = true <;> simp [hs]
    | @y stem h =>
      have hne : stem ≠ [] := by
        rintro rfl
        simp at h
      rw [isMisread_y_iff, singularWord_append_ies]
      simp [hne]
    | @fe stem =>
      have hv : stem ++ ("ves" : Text) = stem ++ "v" ++ "es" := by simp
      have hs : endsInOneOf esStems (stem ++ "v") = false := endsInOneOf_esStems (by decide) stem
      rw [hv, singularWord_append_es (by simp), hs]
      exact iff_of_false (by simp) (not_not.mpr .fe)
    | s h hy hfe =>
      by_cases he : word.getLast? = some 'e'
      · obtain ⟨front, hw⟩ := List.getLast?_eq_some_iff.mp he
        obtain rfl : word = front ++ ("e" : Text) := hw
        have hes : front ++ ("e" : Text) ++ "s" = front ++ "es" := by simp
        rw [hes, singularWord_append_es_iff hfe]
      · have hs := getLast?_ne_of_not_hissing h
        have hmark := endsInOneOf_letters word
        rw [or_iff_right hs] at hmark
        rw [isMisread_mark_iff h he hy, singularWord_append_mark hn he, ← hmark]
        simp

/-- The singular of the plural of an entity is the entity itself exactly if the plural of its last
word is not misread. Then the model of its table, and the side of its table in a join table, are
named after it. -/
theorem singularize_pluralize_iff (e : Entity) (h : singularize e.name = e.name) :
    (singularize (pluralize e.name) = e.name ↔
        e.words.getLast e.words_ne_nil ∈ irregulars.map (·.1) ∨
          ¬ IsMisread (e.words.getLast e.words_ne_nil)) ∧
      (singularize (pluralize e.name) = e.name →
        modelName (pluralize e.name) = pascal e.name ∧
          ∀ other, Pivot.ofTables (pluralize e.name) other = Pivot.ofTables e.name other) := by
  refine ⟨?undone, fun hu => ⟨?model, fun other => ?side⟩⟩
  case undone =>
    have he : e.name = Text.join ['_'] (e.words.dropLast ++ [e.words.getLast e.words_ne_nil]) := by
      rw [List.dropLast_append_getLast, Entity.name]
    have hl : ∀ w ∈ e.words.dropLast ++ [e.words.getLast e.words_ne_nil], IsLowerWord w := by
      rw [List.dropLast_append_getLast]
      exact e.isLowerWord
    generalize e.words.dropLast = front at he hl
    generalize e.words.getLast e.words_ne_nil = last at he hl
    have hn : last ≠ [] := (hl last (by simp)).1
    have hs : singularWord last = last := by
      rw [he, singularize_join hl, Text.join_concat, Text.join_concat, List.append_right_inj] at h
      exact h
    have ha : asPlural last = pluralWord last := by simp [asPlural, isPlural, hs]
    have hp := (inflects_asPlural hn).forall_isLowerWord hl
    rw [he, pluralize_join hl, singularize_join hp, Text.join_concat, Text.join_concat,
      List.append_right_inj, ha, singularWord_pluralWord_iff hn]
  case model => rw [modelName, hu]
  case side => rw [Pivot.ofTables, Pivot.ofTables, hu, h]

/-- A word in front of the last one may be one that is misread. -/
theorem singularize_pluralize_iff_menu_category :
    let e : Entity := ⟨["menu", "category"], by simp, by simp⟩
    singularize e.name = e.name ∧ singularize (pluralize e.name) = e.name ∧
      (("category" : Text) ∈ irregulars.map (·.1) ∨ ¬ IsMisread "category") ∧
      modelName (pluralize e.name) = pascal e.name ∧
      ∀ other, Pivot.ofTables (pluralize e.name) other = Pivot.ofTables e.name other := by
  intro e
  have hs : singularize e.name = e.name := by decide +kernel
  have hu : singularize (pluralize e.name) = e.name := by decide +kernel
  obtain ⟨hiff, hthen⟩ := singularize_pluralize_iff e hs
  exact ⟨hs, hu, hiff.mp hu, hthen hu⟩

/-- The table of a knife is `knives`, and the singular of that is another word. -/
theorem knife_named_knive :
    let e : Entity := ⟨["knife"], by simp, by simp⟩
    singularize e.name = e.name ∧ pluralize e.name = "knives" ∧
      singularize (pluralize e.name) = "knive" ∧ singularize (pluralize e.name) ≠ e.name := by
  decide +kernel

end Migrations.Name

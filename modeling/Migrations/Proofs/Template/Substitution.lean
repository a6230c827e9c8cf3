import Migrations.Proofs.Template.Pattern

namespace Migrations.Template

def IsLast (values : List (Text × Text)) (key value : Text) : Prop :=
  ∃ front back, values = front ++ (key, value) :: back ∧ key ∉ back.map (·.1)

/-- Only the pairs of the key count, in their order. -/
theorem value?_eq_getLast? (values : List (Text × Text)) (key : Text) :
    value? values key = ((values.filter (·.1 = key)).getLast?).map (·.2) := by
  rw [value?, ← List.head?_filter, List.filter_reverse, List.head?_reverse]

theorem value?_eq_none_iff {values : List (Text × Text)} {key : Text} :
    value? values key = none ↔ key ∉ values.map (·.1) := by
  rw [value?, Option.map_eq_none_iff, List.find?_eq_none, List.mem_map]
  constructor
  · rintro h ⟨pair, hp, he⟩
    exact h pair (List.mem_reverse.mpr hp) (decide_eq_true he)
  · intro h pair hp he
    exact h ⟨pair, List.mem_reverse.mp hp, of_decide_eq_true he⟩

theorem value?_of_isLast {values : List (Text × Text)} {key value : Text}
    (h : IsLast values key value) : value? values key = some value := by
  obtain ⟨front, back, rfl, hb⟩ := h
  have hn : back.filter (·.1 = key) = [] := by
    rw [List.filter_eq_nil_iff]
    intro pair hp he
    exact hb (List.mem_map.mpr ⟨pair, hp, of_decide_eq_true he⟩)
  rw [value?_eq_getLast?, List.filter_append, List.filter_cons_of_pos (by simp), hn]
  simp

/-- A value is the last one of its key if there is no other one. -/
theorem isLast_of_nodup {values : List (Text × Text)} (h : (values.map (·.1)).Nodup)
    {key value : Text} (hm : (key, value) ∈ values) : IsLast values key value := by
  obtain ⟨front, back, rfl⟩ := List.append_of_mem hm
  rw [List.map_append, List.map_cons] at h
  exact ⟨front, back, rfl, (List.nodup_cons.mp (List.nodup_append.mp h).2.1).1⟩

namespace Pattern

/-- What comes out, or the first placeholder without a value. -/
def result (values : List (Text × Text)) : Pattern → Except TemplateFault Text
  | last t _ => .ok t
  | hole t ph _ rest =>
    match value? values ph.key with
    | none => .error (.missingValue ph.key)
    | some value => (rest.result values).map fun back => t ++ (value ++ back)

end Pattern

/-- The tokens do not begin with text, nor with a tag that removes the blanks before it. -/
inductive StartsLoose : List Token → Prop where
  | nil : StartsLoose []
  | tag (hole? : Option Hole) (tightAfter : Bool) (rest : List Token) :
    StartsLoose (.tag false hole? tightAfter :: rest)

theorem foldr_consText {t : Text} {tokens : List Token} (ht : t ≠ []) (h : StartsLoose tokens) :
    t.foldr consText tokens = .text t :: tokens := by
  induction t with
  | nil => contradiction
  | cons c cs ih =>
    cases cs with
    | nil => cases h <;> rfl
    | cons d ds =>
      rw [List.foldr_cons, ih (by simp)]
      rfl

section Fill

variable (values : List (Text × Text))

/-- A text in front of a tag that removes no blanks comes out unchanged. -/
theorem fill_foldr_consText (t : Text) {tokens : List Token} (h : StartsLoose tokens) :
    fill values (tidy false (t.foldr consText tokens)) =
      (fill values (tidy false tokens)).map (t ++ ·) := by
  by_cases ht : t = []
  · subst ht
    cases hf : fill values (tidy false tokens) <;> simp [hf, Except.map]
  · have hl : startsTight tokens = false := by cases h <;> rfl
    rw [foldr_consText ht h, tidy]
    simp only [hl, Bool.false_eq_true, if_false, fill]

theorem fill_tokens (p : Pattern) : fill values (tidy false p.tokens) = p.result values := by
  induction p with
  | last t h =>
    rw [Pattern.tokens, fill_foldr_consText values t .nil]
    simp [tidy, fill, Pattern.result, Except.map]
  | hole t ph h rest ih =>
    rw [Pattern.tokens, fill_foldr_consText values t (.tag _ _ _), tidy, fill, ih, Hole.fill,
      Pattern.result]
    cases value? values ph.key with
    | none => rfl
    | some value => cases rest.result values <;> rfl

end Fill

namespace Pattern

/-- No comment stands in front of a pattern. -/
theorem dropComments_tokens (p : Pattern) : dropComments p.tokens = p.tokens := by
  have hc : ∀ (t : Text) {tokens}, StartsLoose tokens → dropComments tokens = tokens →
      dropComments (t.foldr consText tokens) = t.foldr consText tokens := by
    intro t tokens hl hd
    by_cases ht : t = []
    · subst ht
      exact hd
    · rw [foldr_consText ht hl]
      rfl
  cases p with
  | last t h => exact hc t .nil rfl
  | hole t ph h rest => exact hc t (.tag _ _ _) rfl

theorem render_source (name : Text) (p : Pattern) (values : List (Text × Text)) :
    render ⟨name, p.source⟩ values = (p.result values).mapError (.templateFailed name) := by
  rw [render, pieces?, p.scan_source, Option.map_some, p.dropComments_tokens]
  simp only [fill_tokens]

variable {values : List (Text × Text)}

/-- Each placeholder gives way to the last value of its key. -/
theorem result_of_isLast {p : Pattern} {given : Text → Text}
    (h : ∀ key ∈ p.keys, IsLast values key (given key)) :
    p.result values = .ok (p.filled given) := by
  induction p with
  | last t _ => rfl
  | hole t ph _ rest ih =>
    obtain ⟨hkey, hrest⟩ := List.forall_mem_cons.mp h
    rw [result, value?_of_isLast hkey, ih hrest]
    rfl

/-- With one value for each key nothing is missing. -/
theorem render_given {t : Template} {p : Pattern} (ht : p.source = t.source) (h : p.keys.Nodup)
    (given : Text → Text) :
    t.render (p.keys.map fun key => (key, given key)) = .ok (p.filled given) := by
  obtain ⟨name, _⟩ := t
  subst ht
  have hkeys : (p.keys.map fun key => (key, given key)).map (·.1) = p.keys := by
    rw [List.map_map]
    exact List.map_id _
  have hl : ∀ key ∈ p.keys, IsLast (p.keys.map fun key => (key, given key)) key (given key) := by
    intro key hm
    exact isLast_of_nodup (by rwa [hkeys]) (List.mem_map_of_mem hm)
  rw [render_source, result_of_isLast hl]
  rfl

/-- The first placeholder without a value decides. -/
theorem result_of_missing {p : Pattern} {front back : List Text} {key : Text}
    (hp : p.keys = front ++ key :: back) (hf : ∀ k ∈ front, k ∈ values.map (·.1))
    (hk : key ∉ values.map (·.1)) : p.result values = .error (.missingValue key) := by
  induction p generalizing front with
  | last t _ => cases front <;> cases hp
  | hole t ph _ rest ih =>
    cases front with
    | nil =>
      obtain ⟨rfl, _⟩ := List.cons.inj hp
      rw [result, value?_eq_none_iff.mpr hk]
    | cons first others =>
      obtain ⟨rfl, hrest⟩ := List.cons.inj hp
      obtain ⟨hfirst, hothers⟩ := List.forall_mem_cons.mp hf
      obtain ⟨value, hv⟩ := Option.ne_none_iff_exists'.mp fun hn => value?_eq_none_iff.mp hn hfirst
      rw [result, hv, ih hrest hothers]
      rfl

/-- Only the pairs of the keys that are used count, and only the order of pairs of the same key. -/
theorem result_congr {p : Pattern} {other : List (Text × Text)}
    (h : ∀ key ∈ p.keys, values.filter (·.1 = key) = other.filter (·.1 = key)) :
    p.result values = p.result other := by
  induction p with
  | last t _ => rfl
  | hole t ph _ rest ih =>
    obtain ⟨hkey, hrest⟩ := List.forall_mem_cons.mp h
    have hv : value? values ph.key = value? other ph.key := by
      rw [value?_eq_getLast?, value?_eq_getLast?, hkey]
    rw [result, result, hv, ih hrest]

end Pattern

end Migrations.Template

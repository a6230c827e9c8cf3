import Migrations.Proofs.Text.Nesting

namespace Migrations.Text

/-- A text is cut behind everything that closes what it opens. -/
theorem splitTop_append_closed {mark : Char} (hm : IsPlain mark) {t : Text}
    (ht : Place.top.after t = .top) (u : Text) :
    splitTop mark (t ++ mark :: u) = splitTop mark t ++ splitTop mark u := by
  obtain ⟨front, last, hs⟩ := exists_splitTop mark t
  have hu : splitFrom mark (Place.top.after t) (mark :: u) = [] :: splitTop mark u := by
    simp [ht, splitFrom, splitTop]
  rw [splitTop_glue hm hs hu, hs, List.append_nil, List.append_assoc, List.singleton_append]

/-- A mark inside of parentheses or quotations stays with what is in front of it. -/
theorem closed_of_splitTop_append {mark : Char} (hm : IsPlain mark) {t u : Text}
    (h : splitTop mark (t ++ mark :: u) = splitTop mark t ++ splitTop mark u) :
    Place.top.after t = .top := by
  by_cases hc : Place.top.after t = .top
  · exact hc
  · obtain ⟨front, last, hs⟩ := exists_splitTop mark t
    obtain ⟨first, rest, hf⟩ :=
      List.exists_cons_of_ne_nil (splitFrom_ne_nil mark ((Place.top.after t).step mark) u)
    have hu : splitFrom mark (Place.top.after t) (mark :: u) = (mark :: first) :: rest := by
      simp [splitFrom, hc, hf, consHead]
    rw [splitTop_glue hm hs hu, hs, List.append_assoc] at h
    obtain ⟨hl, -⟩ := List.cons.inj (List.append_cancel_left h)
    simp at hl

theorem splitTop_append_iff {mark : Char} (hm : IsPlain mark) (t u : Text) :
    splitTop mark (t ++ mark :: u) = splitTop mark t ++ splitTop mark u ↔
      Place.top.after t = .top :=
  ⟨closed_of_splitTop_append hm, fun h => splitTop_append_closed hm h u⟩

theorem splitTop_of_mem {mark : Char} {t part : Text} (h : part ∈ splitTop mark t) :
    splitTop mark part = [part] :=
  splitTop_of_shields ((parts_splitTop mark t).shields part h)

theorem isBalanced_of_mem_splitTop {mark : Char} (hm : IsPlain mark) {t part : Text}
    (ht : isBalanced t = true) (h : part ∈ splitTop mark t) : isBalanced part = true := by
  obtain ⟨hs, hc⟩ := isBalanced_iff.mp ht
  exact isBalanced_iff.mpr ⟨hs.of_mem_splitTop hm part h, closed_of_mem_splitTop hm hc part h⟩

/-- A text is balanced exactly if its parts are. -/
theorem isBalanced_iff_forall_part {mark : Char} (hm : IsPlain mark) (t : Text) :
    isBalanced t = true ↔ ∀ part ∈ splitTop mark t, isBalanced part = true := by
  constructor
  · intro ht part hp
    exact isBalanced_of_mem_splitTop hm ht hp
  · intro h
    have hn : mark ∉ [')'] := by simpa using hm.2.2.2
    have hs := scan_join hm hn fun part hp => isBalanced_iff.mp (h part hp)
    rw [splitTop, join_splitFrom] at hs
    exact isBalanced_iff.mpr hs

/-- Nothing in front of a place in a balanced text is closed too early. -/
theorem isBalanced_front_iff {t u : Text} (h : isBalanced (t ++ u) = true) :
    isBalanced t = true ↔ Place.top.after t = .top := by
  obtain ⟨hs, -⟩ := shields_append.mp (isBalanced_iff.mp h).1
  rw [isBalanced_iff]
  exact and_iff_right hs

/-- What a character adds to the open parentheses, if one that closes nothing counts as well. -/
def Place.weight (p : Place) (c : Char) : Int :=
  if p.quoting = .off then if c = '(' then 1 else if c = ')' then -1 else 0 else 0

def surplus : Place → Text → Int
  | _, [] => 0
  | p, c :: cs => p.weight c + surplus (p.step c) cs

/-- No beginning of the text closes more parentheses than it opens. -/
def NeverOvercloses (t : Text) : Prop := ∀ u, u <+: t → 0 ≤ surplus .top u

/-- The depth follows the count, except at a parenthesis that closes nothing. -/
theorem Place.depth_step {p : Place} {c : Char} (h : ¬(p = .top ∧ c = ')')) :
    ((p.step c).depth : Int) = p.depth + p.weight c := by
  obtain ⟨depth, quoting⟩ := p
  cases quoting with
  | on mark =>
    simp only [step, weight]
    split
    · simp
    · split <;> simp
  | escaped mark => simp [step, weight]
  | off =>
    by_cases hc : c = ')'
    · subst hc
      have hd : depth ≠ 0 := fun hd => h ⟨by simp [top, hd], rfl⟩
      simp [step, weight]
      omega
    · by_cases ho : c = '('
      · subst ho
        simp [step, weight]
      · by_cases hq : c = '\'' ∨ c = '"' <;> simp [step, weight, hc, ho, hq]

/-- While nothing is closed too early, the depth is the count. -/
theorem Shields.depth_after {p : Place} {t : Text} (h : Shields [')'] p t) :
    ((p.after t).depth : Int) = p.depth + surplus p t := by
  induction t generalizing p with
  | nil => simp [surplus]
  | cons c cs ih =>
    have hc := Place.depth_step (p := p) (c := c) (by simpa using h.1)
    rw [Place.after_cons, ih h.2, surplus]
    omega

/-- Nothing is closed too early exactly if no beginning of the text takes the count below zero. -/
theorem shields_iff_surplus {p : Place} {t : Text} :
    Shields [')'] p t ↔ ∀ u, u <+: t → 0 ≤ p.depth + surplus p u := by
  induction t generalizing p with
  | nil =>
    refine iff_of_true trivial ?_
    intro u hu
    rw [List.prefix_nil.mp hu, surplus]
    omega
  | cons c cs ih =>
    rw [shields_cons, ih]
    constructor
    · rintro ⟨hc, hcs⟩ u hu
      rcases List.prefix_cons_iff.mp hu with rfl | ⟨v, rfl, hv⟩
      · rw [surplus]
        omega
      · have hd := Place.depth_step (p := p) (c := c) (by simpa using hc)
        have hn := hcs v hv
        rw [surplus]
        omega
    · intro h
      -- A parenthesis that closes nothing takes the beginning that it ends below zero.
      have hc : ¬(p = .top ∧ c = ')') := by
        rintro ⟨rfl, rfl⟩
        have hn := h [')'] (List.prefix_append [')'] cs)
        revert hn
        decide
      have hd := Place.depth_step hc
      refine ⟨by simpa using hc, ?_⟩
      intro v hv
      have hn := h (c :: v) (List.cons_prefix_cons.mpr ⟨rfl, hv⟩)
      rw [surplus] at hn
      omega

theorem neverOvercloses_iff {t : Text} : NeverOvercloses t ↔ Shields [')'] .top t := by
  rw [shields_iff_surplus]
  simp [NeverOvercloses, Place.top]

theorem isBalanced_iff_surplus {t : Text} :
    isBalanced t = true ↔
      NeverOvercloses t ∧ surplus .top t = 0 ∧ (Place.top.after t).quoting = .off := by
  rw [isBalanced_iff, neverOvercloses_iff]
  refine and_congr_right fun hs => ?_
  have hd := hs.depth_after
  constructor
  · intro hc
    rw [hc] at hd ⊢
    exact ⟨by simpa [Place.top] using hd.symm, rfl⟩
  · rintro ⟨hz, hq⟩
    rw [hz] at hd
    generalize Place.top.after t = p at hd hq
    obtain ⟨depth, quoting⟩ := p
    obtain rfl : depth = 0 := by simpa [Place.top] using hd
    obtain rfl : quoting = .off := hq
    rfl

/-- Splitting respects parentheses and quotations. It loses nothing, splits no part any further and
cuts behind every balanced text; a text is balanced exactly if its parts are, and in a balanced
text a mark is a cut exactly if the text in front of it is balanced. The depth, which stays at zero
where a parenthesis closes nothing, is the count of the parentheses as long as this does not go
below zero, and balance says that it never does and ends at zero, outside of quotations. -/
theorem splitTop_respects_nesting {mark : Char} (hm : IsPlain mark) :
    (∀ t, join [mark] (splitTop mark t) = t) ∧
      (∀ t, ∀ part ∈ splitTop mark t, splitTop mark part = [part]) ∧
      (∀ t u, isBalanced t = true →
        splitTop mark (t ++ mark :: u) = splitTop mark t ++ splitTop mark u) ∧
      (∀ t, isBalanced t = true ↔ ∀ part ∈ splitTop mark t, isBalanced part = true) ∧
      (∀ t u, isBalanced (t ++ mark :: u) = true →
        (splitTop mark (t ++ mark :: u) = splitTop mark t ++ splitTop mark u ↔
          isBalanced t = true)) ∧
      ∀ t, (NeverOvercloses t → ((Place.top.after t).depth : Int) = surplus .top t) ∧
        (isBalanced t = true ↔
          NeverOvercloses t ∧ surplus .top t = 0 ∧ (Place.top.after t).quoting = .off) := by
  refine ⟨join_splitFrom mark .top, fun t part => splitTop_of_mem, ?cut,
    isBalanced_iff_forall_part hm, ?place, fun t => ⟨?count, isBalanced_iff_surplus⟩⟩
  case cut =>
    intro t u ht
    exact splitTop_append_closed hm (isBalanced_iff.mp ht).2 u
  case place =>
    intro t u h
    rw [splitTop_append_iff hm, isBalanced_front_iff h]
  case count =>
    intro h
    simpa [Place.top] using (neverOvercloses_iff.mp h).depth_after

/-- A call with commas inside of parentheses and quotations, in front of a text that closes what it
has not opened and opens what it does not close. -/
theorem splitTop_respects_nesting_call :
    let front : Text := "f(a"
    let back : Text := "'),'),b"
    let whole : Text := front ++ ',' :: back
    let loose : Text := "x),'y,z"
    let first : Text := "x)"
    let call : Text := "f(a,'),')"
    IsPlain ',' ∧ join [','] (splitTop ',' loose) = loose ∧
      (first ∈ splitTop ',' loose ∧ splitTop ',' first = [first]) ∧
      (isBalanced whole = true ∧
        splitTop ',' (whole ++ ',' :: loose) = splitTop ',' whole ++ splitTop ',' loose) ∧
      (call ∈ splitTop ',' whole ∧ isBalanced call = true) ∧
      splitTop ',' whole ≠ splitTop ',' front ++ splitTop ',' back ∧
      NeverOvercloses front ∧ ((Place.top.after front).depth : Int) = surplus .top front := by
  intro front back whole loose first call
  have hm : IsPlain ',' := by simp [IsPlain]
  obtain ⟨hjoin, halone, hcut, hparts, hplace, hcount⟩ := splitTop_respects_nesting hm
  have hfirst : first ∈ splitTop ',' loose := by decide +kernel
  have hwhole : isBalanced whole = true := by decide +kernel
  have hcall : call ∈ splitTop ',' whole := by decide +kernel
  have hopen : isBalanced front = false := by decide +kernel
  have hnever : NeverOvercloses front := neverOvercloses_iff.mpr (by decide +kernel)
  refine ⟨hm, hjoin loose, ⟨hfirst, halone _ _ hfirst⟩, ⟨hwhole, hcut _ _ hwhole⟩,
    ⟨hcall, (hparts whole).mp hwhole _ hcall⟩, ?_, hnever, (hcount _).1 hnever⟩
  intro hc
  have hb := (hplace front back hwhole).mp hc
  rw [hopen] at hb
  cases hb

end Migrations.Text

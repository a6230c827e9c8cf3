import Migrations.Proofs.Schema.RoundTrip

namespace Migrations.Schema

open Text (Place Sealed Shields)

/-- A parenthesis that was opened in front of the text is closed inside of it. -/
def ClosesEarly (t : Text) : Prop :=
  ∃ front back, t = front ++ ')' :: back ∧ Text.isBalanced front = true

/-- The field keeps the text as it was written, as an argument or as a literal. -/
def Keeping (f : Field) (t : Text) : Prop :=
  t ∈ f.arguments ∨ ∃ m, f.settings.get? m = some (.literal t)

theorem not_closesEarly_of_shields {t : Text} (h : Shields [')'] .top t) : ¬ClosesEarly t := by
  rintro ⟨front, back, rfl, hf⟩
  rw [Text.shields_append, (Text.isBalanced_iff.mp hf).2] at h
  exact h.2.1 (by simp)

theorem shields_of_not_closesEarly {t : Text} (h : ¬ClosesEarly t) : Shields [')'] .top t := by
  rcases Text.shields_or_split ')' .top t with hs | ⟨front, back, ht, hs, hc⟩
  · exact hs
  · exact absurd ⟨front, back, ht, Text.isBalanced_iff.mpr ⟨hs, hc⟩⟩ h

theorem Enclosed.isBalanced_iff {t : Text} (h : Enclosed t) :
    Text.isBalanced t = true ↔ ¬ClosesEarly t := by
  constructor
  · intro hb
    exact not_closesEarly_of_shields (Text.isBalanced_iff.mp hb).1
  · intro hn
    have hs := shields_of_not_closesEarly hn
    have ha : (Place.top.after t).deepen 1 = Place.top.deepen 1 := by
      rw [← hs.after_deepen 1, (enclosed_iff.mp h).2]
    exact Text.isBalanced_iff.mpr ⟨hs, Place.deepen_injective 1 ha⟩

/-- A part that closes early leaves no parenthesis around the comma behind it. -/
theorem Enclosed.first {first rest : Text} (h : Enclosed (first ++ ',' :: rest))
    (hc : Place.top.after first = .top) : Text.isBalanced first = true ∧ Enclosed rest := by
  obtain ⟨hs, ha⟩ := enclosed_iff.mp h
  rw [Text.shields_append] at hs
  have hn : ¬ClosesEarly first := by
    rintro ⟨front, back, rfl, hf⟩
    obtain ⟨hfs, hfc⟩ := Text.isBalanced_iff.mp hf
    have hout : (Place.top.deepen 1).after (front ++ ')' :: back) = .top := by
      have htop : Place.top.after (front ++ ')' :: back) = Place.top.after back := by
        rw [Place.after_append, hfc]
        rfl
      rw [Place.after_append, hfs.after_deepen 1, hfc]
      exact htop.symm.trans hc
    exact hs.2.1 ⟨hout, by simp⟩
  have hfirst := shields_of_not_closesEarly hn
  have hin : (Place.top.deepen 1).after first = Place.top.deepen 1 := by
    rw [hfirst.after_deepen 1, hc]
  have hcomma : (Place.top.deepen 1).step ',' = Place.top.deepen 1 :=
    Place.step_plain rfl isPlain_comma
  rw [hin, Text.shields_cons, hcomma] at hs
  rw [Place.after_append, hin, Place.after_cons, hcomma] at ha
  exact ⟨Text.isBalanced_iff.mpr ⟨hfirst, hc⟩, enclosed_iff.mpr ⟨hs.2.2, ha⟩⟩

theorem Enclosed.of_mem_splitTop {t : Text} (h : Enclosed t) :
    ∀ part ∈ Text.splitTop ',' t, Enclosed part := by
  induction t using Text.splitTop_induction ',' with
  | one t hs => simpa [Text.splitTop_of_shields hs] using h
  | more first rest hs hc ih =>
    obtain ⟨hb, hr⟩ := h.first hc
    rw [Text.splitTop_append hs hc, List.forall_mem_cons]
    exact ⟨Text.sealed_parenthesized hb, ih hr⟩

theorem Writable.enclosed_of_keeping {f : Field} (h : Writable f) {t : Text}
    (ht : Keeping f t) : Enclosed t := by
  rcases ht with ha | ⟨m, hm⟩
  · have hp : Text.Parts ',' f.arguments := h.arguments ▸ parts_splitList (printList f.arguments)
    have hs : Text.splitTop ',' (printList f.arguments) = f.arguments :=
      Text.splitTop_join hp (List.ne_nil_of_mem ha)
    exact h.enclosed.of_mem_splitTop t (hs.symm ▸ ha)
  · exact (h.literals m t hm).2

theorem writable_of_mem {policy : ModifierPolicy} {schema : Text} {fields : List Field}
    (h : parse policy schema = .ok fields) : ∀ f ∈ fields, Writable f := by
  have hread := (List.forall₂_and_left _ _).mpr ⟨fun _ hc => hc, (readFields_ok_iff 1).mp h⟩
  have hw : List.Forall₂ (fun _ f => Writable f ∧ True) (chunks schema) fields :=
    hread.imp fun _ _ hf => ⟨writable_of_parse hf.1 hf.2, trivial⟩
  exact ((List.forall₂_and_left _ _).mp hw.flip).1

/-- Whatever a field keeps is balanced together with the parentheses around it. It is balanced
without them as well, unless the one in front of it is closed inside of it. -/
theorem balance_of_keeping {policy : ModifierPolicy} {schema : Text} {fields : List Field}
    (h : parse policy schema = .ok fields) {f : Field} (hf : f ∈ fields) {t : Text}
    (ht : Keeping f t) :
    Text.isBalanced ('(' :: t ++ [')']) = true ∧
      (Text.isBalanced t = true ↔ ¬ClosesEarly t) := by
  have he : Enclosed t := (writable_of_mem h f hf).enclosed_of_keeping ht
  exact ⟨Sealed.isBalanced he, he.isBalanced_iff⟩

/-- One call of two pairs of parentheses, and one whose value is in parentheses twice. -/
theorem balance_of_keeping_point :
    let f : Field := ⟨"at", .custom "point", ["8)(9"],
      Settings.empty.set .default (.literal "(a)(b)")⟩
    (parse .reject "at:point(8)(9):default((a)(b))" = .ok [f] ∧ f ∈ [f] ∧
        Keeping f "8)(9" ∧ Keeping f "(a)(b)") ∧
      (Text.isBalanced "(8)(9)" = true ∧ (Text.isBalanced "8)(9" = true ↔ ¬ClosesEarly "8)(9")) ∧
      Text.isBalanced "((a)(b))" = true ∧
        (Text.isBalanced "(a)(b)" = true ↔ ¬ClosesEarly "(a)(b)") := by
  intro f
  have h : parse .reject "at:point(8)(9):default((a)(b))" = .ok [f] := by decide +kernel
  have hargument : Keeping f "8)(9" := .inl (by simp [f])
  have hliteral : Keeping f "(a)(b)" := .inr ⟨.default, rfl⟩
  exact ⟨⟨h, by simp, hargument, hliteral⟩, balance_of_keeping h (by simp) hargument,
    balance_of_keeping h (by simp) hliteral⟩

/-- The value runs on from the first pair of parentheses into the second one. -/
theorem unbalanced_default :
    let f : Field := ⟨"x", .string, [], Settings.empty.set .default (.literal "a)(b")⟩
    parse .reject "x:string:default(a)(b)" = .ok [f] ∧ Keeping f "a)(b" ∧
      Text.isBalanced "a)(b" = false := by
  intro f
  refine ⟨?_, .inr ⟨.default, rfl⟩, ?_⟩
  · decide +kernel
  · decide

end Migrations.Schema

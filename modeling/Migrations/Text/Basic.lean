
namespace Migrations

/-- Text is the list of its characters, so that scanners recurse on it. -/
abbrev Text := List Char

instance : Coe String Text := ⟨String.toList⟩

namespace Text

def join (sep : Text) : List Text → Text
  | [] => []
  | [t] => t
  | t :: u :: rest => t ++ sep ++ join sep (u :: rest)

def consHead (c : Char) : List Text → List Text
  | [] => [[c]]
  | part :: rest => (c :: part) :: rest

/-- The parts between the characters that `cut` picks. There is always at least one part. -/
def splitWhere (cut : Char → Bool) : Text → List Text
  | [] => [[]]
  | c :: cs => if cut c then [] :: splitWhere cut cs else consHead c (splitWhere cut cs)

def dropSuffix? (t suffix : Text) : Option Text :=
  if suffix.isSuffixOf t then some (t.take (t.length - suffix.length)) else none

def dropLead? (t lead : Text) : Option Text :=
  if lead.isPrefixOf t then some (t.drop lead.length) else none

def splitFirst? (mark : Char) (t : Text) : Option (Text × Text) :=
  match t.dropWhile (· ≠ mark) with
  | [] => none
  | _ :: after => some (t.takeWhile (· ≠ mark), after)

def splitLast? (mark : Char) (t : Text) : Option (Text × Text) :=
  (splitFirst? mark t.reverse).map fun (after, before) => (before.reverse, after.reverse)

def least? : List Text → Option Text
  | [] => none
  | t :: rest =>
    match least? rest with
    | none => some t
    | some u => if u < t then some u else some t

def lowerAscii (t : Text) : Text := t.map Char.toLower

def isIdentifier : Text → Bool
  | [] => false
  | c :: cs => (c.isAlpha || c == '_') && cs.all fun d => d.isAlphanum || d == '_'

theorem consHead_ne_nil (c : Char) (parts : List Text) : consHead c parts ≠ [] := by
  cases parts <;> simp [consHead]

theorem splitWhere_ne_nil (cut : Char → Bool) (t : Text) : splitWhere cut t ≠ [] := by
  cases t with
  | nil => simp [splitWhere]
  | cons c cs =>
    by_cases h : cut c
    · simp [splitWhere, h]
    · simp [splitWhere, h, consHead_ne_nil]

theorem join_cons {parts : List Text} (h : parts ≠ []) (sep part : Text) :
    join sep (part :: parts) = part ++ sep ++ join sep parts := by
  obtain ⟨next, rest, rfl⟩ := List.exists_cons_of_ne_nil h
  rfl

theorem join_consHead {parts : List Text} (h : parts ≠ []) (sep : Text) (c : Char) :
    join sep (consHead c parts) = c :: join sep parts := by
  obtain ⟨part, rest, rfl⟩ := List.exists_cons_of_ne_nil h
  cases rest <;> rfl

/-- Splitting at a mark loses nothing but the marks. -/
theorem join_splitWhere (mark : Char) (t : Text) :
    join [mark] (splitWhere (· == mark) t) = t := by
  induction t with
  | nil => rfl
  | cons c cs ih =>
    have parts := splitWhere_ne_nil (· == mark) cs
    by_cases hc : c = mark
    · subst hc
      simp [splitWhere, join_cons parts, ih]
    · simp [splitWhere, hc, join_consHead parts, ih]

/-- The parts hold the characters that were not split at, and no others. -/
theorem mem_of_mem_splitWhere {cut : Char → Bool} {t part : Text}
    (h : part ∈ splitWhere cut t) : ∀ c ∈ part, c ∈ t ∧ cut c = false := by
  induction t generalizing part with
  | nil => simp_all [splitWhere]
  | cons c cs ih =>
    have later {q : Text} (hq : q ∈ splitWhere cut cs) : ∀ d ∈ q, d ∈ c :: cs ∧ cut d = false :=
      fun d hd => ⟨List.mem_cons_of_mem c (ih hq d hd).1, (ih hq d hd).2⟩
    by_cases hc : cut c
    · rcases (by simpa [splitWhere, hc] using h : part = [] ∨ part ∈ splitWhere cut cs) with rfl | h
      · simp
      · exact later h
    · obtain ⟨first, rest, hs⟩ := List.exists_cons_of_ne_nil (splitWhere_ne_nil cut cs)
      rcases (by simpa [splitWhere, hc, hs, consHead] using h : part = c :: first ∨ part ∈ rest)
        with rfl | h
      · intro d hd
        rcases List.mem_cons.mp hd with rfl | hd
        · exact ⟨List.mem_cons_self, by simpa using hc⟩
        · exact later (hs ▸ List.mem_cons_self) d hd
      · exact later (hs ▸ List.mem_cons_of_mem first h)

theorem cut_eq_false_of_mem_splitWhere {cut : Char → Bool} {t part : Text}
    (h : part ∈ splitWhere cut t) : ∀ c ∈ part, cut c = false :=
  fun c hc => (mem_of_mem_splitWhere h c hc).2

theorem dropSuffix?_append (t suffix : Text) : dropSuffix? (t ++ suffix) suffix = some t := by
  simp [dropSuffix?]

theorem eq_append_of_dropSuffix? {t suffix left : Text} (h : dropSuffix? t suffix = some left) :
    t = left ++ suffix := by
  unfold dropSuffix? at h
  split at h
  · rename_i hs
    obtain ⟨front, rfl⟩ := List.isSuffixOf_iff_suffix.mp hs
    simp at h
    simp [h]
  · cases h

end Text

end Migrations

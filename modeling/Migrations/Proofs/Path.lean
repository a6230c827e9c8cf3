import Mathlib.Data.List.Induction
import Migrations.Path
import Migrations.Proofs.Text.Basic

namespace Migrations

namespace Path

/-- A text that leads to an entry of a directory. -/
structure IsName (name : Text) : Prop where
  no_separator : separator ∉ name
  not_idle : isIdle name = false
  ne_above : name ≠ above

theorem IsName.parts {name : Text} (h : IsName name) : parts name = [name] := by
  apply Text.splitWhere_eq_singleton
  intro c hc
  rw [beq_eq_false_iff_ne]
  rintro rfl
  exact h.no_separator hc

theorem IsName.isAbsolute {name : Text} (h : IsName name) : isAbsolute name = false := by
  cases name with
  | nil => rfl
  | cons c cs =>
    rw [Path.isAbsolute, List.head?_cons, beq_eq_false_iff_ne]
    intro he
    exact h.no_separator (Option.some.inj he ▸ List.mem_cons_self)

theorem IsName.follow {name : Text} (h : IsName name) (place : Location) :
    follow place name = place ++ [name] := by
  rw [Path.follow, h.not_idle, if_neg Bool.false_ne_true, if_neg h.ne_above]

/-- A file name with an extension is a name, as long as it holds no separator. -/
theorem isName_of_isSuffixOf {name ending : Text} (hs : separator ∉ name) (he : ending <:+ name)
    (hl : 2 < ending.length) : IsName name := by
  have hn : 2 < name.length := Nat.lt_of_lt_of_le hl he.length_le
  refine ⟨hs, ?_, ?_⟩
  · rw [isIdle, Bool.or_eq_false_iff, beq_eq_false_iff_ne, beq_eq_false_iff_ne]
    constructor <;> rintro rfl <;> simp at hn
  · rintro rfl
    exact absurd hn (by decide)

theorem join_nil (tail : Text) : join [] tail = tail := by simp [join]

/-- A relative path goes after the separator that the path before it ends with, or gets one. -/
theorem join_relative {base tail : Text} (hb : base ≠ []) (ht : isAbsolute tail = false) :
    join base tail =
      (if base.getLast? = some separator then base else base ++ [separator]) ++ tail := by
  have he : base.isEmpty = false := by simpa using hb
  by_cases hl : base.getLast? = some separator <;> simp [join, ht, he, hl]

theorem join_absolute {tail : Text} (ht : isAbsolute tail = true) (base : Text) :
    join base tail = tail := by simp [join, ht]

theorem join_append {base tail : Text} (hb : base ≠ []) (ht : isAbsolute tail = false)
    (front : Text) : join (front ++ base) tail = front ++ join base tail := by
  have hn : front ++ base ≠ [] := by simp [hb]
  have hl : (front ++ base).getLast? = base.getLast? := by
    rw [List.getLast?_append, Option.or_of_isSome (by simpa using hb)]
  rw [join_relative hn ht, join_relative hb ht, hl]
  split <;> simp

theorem isAbsolute_append {front : Text} (h : front ≠ []) (rest : Text) :
    isAbsolute (front ++ rest) = isAbsolute front := by
  obtain ⟨c, cs, rfl⟩ := List.exists_cons_of_ne_nil h
  rfl

theorem isAbsolute_join {base tail : Text} (hb : base ≠ []) (ht : isAbsolute tail = false) :
    isAbsolute (join base tail) = isAbsolute base := by
  rw [join_relative hb ht]
  split
  · rw [isAbsolute_append hb]
  · rw [List.append_assoc, isAbsolute_append hb]

/-- A file in a directory below a base is a file in the directory as seen from the base. -/
theorem join_join {name : Text} (h : isAbsolute name = false) (base directory : Text) :
    join base (join directory name) = join (join base directory) name := by
  by_cases hb : base = []
  · rw [hb, join_nil, join_nil]
  · by_cases hd : directory = []
    · rw [hd, join_nil, join_relative hb h, join_relative hb (show isAbsolute [] = false from rfl),
        List.append_nil]
      split
      · rename_i hl
        rw [join_relative hb h, if_pos hl]
      · rw [join_append (by simp) h, join_relative (by simp) h]
        simp
    · cases ha : isAbsolute directory with
      | true =>
        rw [join_absolute ha, join_absolute (by rw [isAbsolute_join hd h, ha])]
      | false =>
        rw [join_relative hb (by rw [isAbsolute_join hd h, ha]), join_relative hb ha,
          join_append hd h]

theorem parts_append (front tail : Text) :
    parts (front ++ separator :: tail) = parts front ++ parts tail :=
  Text.splitWhere_append (by simp) front tail

theorem separator_not_mem_parts {path part : Text} (h : part ∈ parts path) : separator ∉ part := by
  intro hm
  have hc := Text.cut_eq_false_of_mem_splitWhere h separator hm
  simp at hc

/-- A path starts at the root exactly if its first part is empty and another one follows. -/
theorem isAbsolute_of_parts {path first : Text} {rest : List Text}
    (h : parts path = first :: rest) : isAbsolute path = decide (first = [] ∧ rest ≠ []) := by
  cases path with
  | nil =>
    cases h
    rfl
  | cons c cs =>
    obtain ⟨part, others, hp⟩ :=
      List.exists_cons_of_ne_nil (Text.splitWhere_ne_nil (· == separator) cs)
    rw [parts, Text.splitWhere, hp] at h
    by_cases hc : c = separator
    · subst hc
      rw [beq_self_eq_true, if_pos rfl] at h
      cases h
      simp [isAbsolute]
    · rw [if_neg (by simpa using hc)] at h
      cases h
      simp [isAbsolute, hc]

theorem parts_join {ps : List Text} (hn : ps ≠ []) (h : ∀ part ∈ ps, separator ∉ part) :
    parts (Text.join [separator] ps) = ps := by
  apply Text.splitWhere_join (by simp) hn
  intro part hp c hc
  rw [beq_eq_false_iff_ne]
  rintro rfl
  exact h part hp hc

theorem start_join {tail : Text} (ht : isAbsolute tail = false) (base : Text) :
    start (join base tail) = start base := by
  by_cases hb : base = []
  · rw [hb, join_nil, start, ht]
    rfl
  · rw [start, start, isAbsolute_join hb ht]

@[simp] theorem dropIdle_nil : dropIdle [] = [] := rfl

theorem dropIdle_append (ps : List Text) (last : Text) :
    dropIdle (ps ++ [last]) = if isIdle last then dropIdle ps else ps ++ [last] := by
  unfold dropIdle
  rw [List.reverse_concat]
  by_cases h : isIdle last = true <;> simp [h]

theorem exists_idle (ps : List Text) :
    ∃ idle, ps = dropIdle ps ++ idle ∧ ∀ part ∈ idle, isIdle part = true := by
  refine ⟨(ps.reverse.takeWhile isIdle).reverse, ?_, fun part hp => ?_⟩
  · rw [dropIdle, ← List.reverse_append, List.takeWhile_append_dropWhile, List.reverse_reverse]
  · exact List.mem_takeWhile_imp (List.mem_reverse.mp hp)

theorem dropIdle_dropIdle (ps : List Text) : dropIdle (dropIdle ps) = dropIdle ps := by
  induction ps using List.reverseRecOn with
  | nil => rfl
  | append_singleton ps last ih =>
    rw [dropIdle_append]
    split
    · exact ih
    · rename_i hi
      rw [dropIdle_append, if_neg hi]

theorem dropIdle_cons (first : Text) (rest : List Text) :
    dropIdle (first :: rest) =
      if dropIdle rest = [] then if isIdle first then [] else [first]
      else first :: dropIdle rest := by
  induction rest using List.reverseRecOn with
  | nil => exact dropIdle_append [] first
  | append_singleton rest last ih =>
    rw [← List.cons_append, dropIdle_append, dropIdle_append]
    split
    · exact ih
    · simp

/-- Idle parts at the end lead nowhere. -/
theorem foldl_follow_dropIdle (ps : List Text) (place : Location) :
    (dropIdle ps).foldl follow place = ps.foldl follow place := by
  induction ps using List.reverseRecOn with
  | nil => rfl
  | append_singleton ps last ih =>
    rw [dropIdle_append]
    split
    · rename_i hi
      rw [List.foldl_append, List.foldl_cons, List.foldl_nil, follow, if_pos hi, ih]
    · rfl

theorem foldl_follow_filter (ps : List Text) (place : Location) :
    (ps.filter (!isIdle ·)).foldl follow place = ps.foldl follow place := by
  induction ps generalizing place with
  | nil => rfl
  | cons part rest ih =>
    by_cases hi : isIdle part = true
    · rw [List.filter_cons_of_neg (by simp [hi]), ih, List.foldl_cons, follow, if_pos hi]
    · rw [List.filter_cons_of_pos (by simpa using hi), List.foldl_cons, List.foldl_cons, ih]

theorem location_eq_foldl_components (path : Text) :
    location path = (components path).2.foldl follow (components path).1 := by
  rw [location, components]
  split
  · rename_i hp
    rw [hp]
  · rename_i first rest hp
    rw [hp, List.foldl_cons, List.foldl_cons, foldl_follow_filter]

/-- Equal paths name the same place. -/
theorem location_eq_of_components_eq {path other : Text} (h : components path = components other) :
    location path = location other := by
  rw [location_eq_foldl_components, h, ← location_eq_foldl_components]

/-- The path stays below the directory that it is seen from. -/
def IsBelow (path : Text) : Prop := isAbsolute path = false ∧ above ∉ parts path

instance (path : Text) : Decidable (IsBelow path) := inferInstanceAs (Decidable (_ ∧ _))

/-- Two paths that differ at most in idle parts at their ends. -/
def IsSameWay (path other : Text) : Prop :=
  start path = start other ∧ dropIdle (parts path) = dropIdle (parts other)

theorem IsSameWay.symm {path other : Text} (h : IsSameWay path other) : IsSameWay other path :=
  ⟨h.1.symm, h.2.symm⟩

/-- What is in front of a relative path that goes on where another one leads. -/
theorem exists_parts_join {tail : Text} (ht : isAbsolute tail = false) (base : Text) :
    ∃ front, parts (join base tail) = front ++ parts tail ∧
      dropIdle front = dropIdle (parts base) := by
  by_cases hb : base = []
  · subst hb
    exact ⟨[], by rw [join_nil, List.nil_append], rfl⟩
  · rw [join_relative hb ht]
    split
    · rename_i hl
      obtain ⟨front, rfl⟩ := List.getLast?_eq_some_iff.mp hl
      refine ⟨parts front, by rw [List.append_assoc]; exact parts_append front tail, ?_⟩
      have hp : parts (front ++ [separator]) = parts front ++ [[]] := parts_append front []
      rw [hp, dropIdle_append]
      rfl
    · exact ⟨parts base, by rw [List.append_assoc]; exact parts_append base tail, rfl⟩

theorem join_ne_nil {name : Text} (h : IsName name) (base : Text) : join base name ≠ [] := by
  intro hj
  obtain ⟨front, hp, -⟩ := exists_parts_join h.isAbsolute base
  rw [hj, h.parts] at hp
  have hn := List.append_inj_right' (show [] ++ [([] : Text)] = front ++ [name] from hp) rfl
  have hi := h.not_idle
  rw [← List.singleton_inj.mp hn] at hi
  cases hi

/-- A path to a name can mean a file. -/
theorem namesDirectory_join {name : Text} (h : IsName name) (base : Text) :
    namesDirectory (join base name) = false := by
  obtain ⟨front, hp, -⟩ := exists_parts_join h.isAbsolute base
  have hn : ((isIdle name || name == above) : Bool) = false := by
    rw [h.not_idle, Bool.false_or, beq_eq_false_iff_ne]
    exact h.ne_above
  rw [namesDirectory, hp, h.parts, List.getLast?_concat, Option.all_some, hn]

/-- A path that can mean a file leads to a name in some directory. -/
theorem exists_join_of_namesDirectory {path : Text} (h : namesDirectory path = false) :
    ∃ base name, IsName name ∧ path = join base name := by
  obtain ⟨front, name, hp⟩ : ∃ front name, parts path = front ++ [name] :=
    List.eq_nil_or_concat' _ |>.resolve_left (Text.splitWhere_ne_nil _ path)
  rw [namesDirectory, hp, List.getLast?_concat, Option.all_some, Bool.or_eq_false_iff,
    beq_eq_false_iff_ne] at h
  have hname : IsName name := ⟨separator_not_mem_parts (by rw [hp]; simp), h.1, h.2⟩
  have hj := Text.join_splitWhere separator path
  change Text.join [separator] (parts path) = path at hj
  rw [hp, Text.join_concat] at hj
  refine ⟨front.flatMap (· ++ [separator]), name, hname, ?_⟩
  cases front using List.reverseRecOn with
  | nil => rw [List.flatMap_nil, join_nil, ← hj, List.flatMap_nil, List.nil_append]
  | append_singleton front last =>
    rw [join_relative (by simp) hname.isAbsolute, if_pos (by simp), hj]

/-- Behind the first part, the parent keeps what is in front of the name, less idle parts. -/
theorem parent?_of_parts {path first name : Text} {rest : List Text} (h : IsName name)
    (hp : parts path = first :: (rest ++ [name])) :
    parent? path = if first = [] ∧ dropIdle rest = [] then some [separator]
      else some (Text.join [separator] (first :: dropIdle rest)) := by
  have hdrop : dropIdle (rest ++ [name]) = rest ++ [name] := by
    rw [dropIdle_append, h.not_idle, if_neg Bool.false_ne_true]
  unfold parent?
  rw [hp]
  dsimp only
  split
  · simp_all
  · rw [hdrop, List.dropLast_concat]
    split <;> simp_all

theorem parts_join_dropIdle {path first : Text} {rest back : List Text}
    (hp : parts path = first :: (rest ++ back)) :
    parts (Text.join [separator] (first :: dropIdle rest)) = first :: dropIdle rest := by
  apply parts_join (List.cons_ne_nil _ _)
  intro part hm
  obtain ⟨idle, hi, -⟩ := exists_idle rest
  have hf : part ∈ parts path := by
    rw [hp]
    refine List.cons_subset_cons first (fun q hq => ?_) hm
    rw [hi]
    simp [hq]
  exact separator_not_mem_parts hf

/-- The parent of a path to a name leads to where the path before the name leads. -/
theorem exists_parent {name : Text} (h : IsName name) (base : Text) :
    ∃ path, parent? (join base name) = some path ∧ IsSameWay path base := by
  obtain ⟨front, hp, hd⟩ := exists_parts_join h.isAbsolute base
  rw [h.parts] at hp
  have hs := start_join h.isAbsolute base
  unfold IsSameWay
  rw [← hs, ← hd]
  generalize join base name = whole at hp hs ⊢
  cases front with
  | nil =>
    refine ⟨[], ?_, ?_, rfl⟩
    · have hn : name ≠ [] := by
        rintro rfl
        cases h.not_idle
      rw [parent?, hp]
      simp [hn]
    · rw [start, start, isAbsolute_of_parts hp]
      simp [isAbsolute]
  | cons first rest =>
    rw [List.cons_append] at hp
    have ha : isAbsolute whole = decide (first = []) := by
      rw [isAbsolute_of_parts hp]
      simp
    rw [start, ha, parent?_of_parts h hp]
    by_cases hroot : first = [] ∧ dropIdle rest = []
    · refine ⟨[separator], if_pos hroot, ?_, ?_⟩
      · rw [hroot.1]
        rfl
      · rw [dropIdle_cons, if_pos hroot.2, hroot.1]
        rfl
    · refine ⟨_, if_neg hroot, ?_⟩
      have hj := parts_join_dropIdle hp
      constructor
      · rw [start, isAbsolute_of_parts hj]
        congr 1
        simp only [decide_eq_true_eq, eq_iff_iff]
        exact ⟨fun hc => hc.1, fun hf => ⟨hf, fun hn => hroot ⟨hf, hn⟩⟩⟩
      · rw [hj, dropIdle_cons, dropIdle_cons first rest, dropIdle_dropIdle]

theorem IsSameWay.location_eq {path other : Text} (h : IsSameWay path other) :
    location path = location other := by
  rw [location, location, ← foldl_follow_dropIdle, ← foldl_follow_dropIdle (parts other), h.1, h.2]

theorem location_join {name : Text} (h : IsName name) (base : Text) :
    location (join base name) = location base ++ [name] := by
  obtain ⟨front, hp, hd⟩ := exists_parts_join h.isAbsolute base
  rw [location, location, hp, h.parts, start_join h.isAbsolute, List.foldl_append,
    List.foldl_cons, List.foldl_nil, h.follow, ← foldl_follow_dropIdle front, hd,
    foldl_follow_dropIdle]

end Path

end Migrations

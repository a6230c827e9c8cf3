import Migrations.Disk
import Migrations.Proofs.Path

namespace Migrations

namespace Path

theorem isAnchor_of_append {place : Location} {name : Text}
    (h : isAnchor (place ++ [name]) = true) : isAnchor place = true := by
  rw [isAnchor, Bool.or_eq_true, beq_iff_eq, List.all_append, Bool.and_eq_true] at h
  rcases h with he | ⟨hp, -⟩
  · have hn : place = [] := by simpa using congrArg List.length he
    rw [hn]
    rfl
  · rw [isAnchor, hp, Bool.or_true]

/-- What is below a place that stays below it, unless the way goes up from the place itself. -/
theorem isPrefix_follow {top place : Location} {part : Text} (h : top <+: place)
    (ha : isAnchor top = false) (hn : part = above → top ≠ place) : top <+: follow place part := by
  have happend : ∀ name : Text, top <+: place ++ [name] := fun _ =>
    h.trans (List.prefix_append ..)
  unfold follow
  split
  · exact h
  · split
    · rename_i hp
      split
      · rename_i hl
        rw [List.getLast?_eq_none_iff.mp hl, List.prefix_nil] at h
        rw [h] at ha
        cases ha
      · exact h
      · split
        · exact happend above
        · obtain ⟨rest, rfl⟩ := h
          have hr : rest ≠ [] := by
            rintro rfl
            exact hn hp (List.append_nil top).symm
          rw [List.dropLast_append_of_ne_nil hr]
          exact List.prefix_append ..
    · exact happend part

end Path

namespace Disk

variable {d d' : Disk}

theorem isDirectory_iff {place : Location} :
    d.isDirectory place = true ↔ d.get? place = some .directory := by
  rw [isDirectory, decide_eq_true_eq]

theorem isDirectory_eq_false_iff {place : Location} :
    d.isDirectory place = false ↔ d.get? place ≠ some .directory := by
  rw [isDirectory, decide_eq_false_iff_not]

theorem get?_of_isAnchor {place : Location} (h : Path.isAnchor place = true) :
    d.get? place = some .directory := by rw [get?, if_pos h]

theorem isAnchor_eq_false {place : Location} (h : d.get? place ≠ some .directory) :
    Path.isAnchor place = false := by
  by_contra ha
  rw [Bool.not_eq_false] at ha
  exact h (get?_of_isAnchor ha)

theorem isAnchor_of_missing {place : Location} (h : d.get? place = none) :
    Path.isAnchor place = false := by
  apply isAnchor_eq_false (d := d)
  rw [h]
  simp

theorem file?_eq_some_iff {place : Location} {content : Content} :
    d.file? place = some content ↔ d.get? place = some (.file content) := by
  unfold file?
  split <;> simp_all

theorem isFile_iff {place : Location} :
    d.isFile place = true ↔ ∃ content, d.get? place = some (.file content) := by
  simp only [isFile, Option.isSome_iff_exists, file?_eq_some_iff]

theorem isFile_eq_false_of_isDirectory {place : Location} (h : d.isDirectory place = true) :
    d.isFile place = false := by
  rw [isFile, file?, isDirectory_iff.mp h]
  rfl

theorem isAnchor_of_file? {place : Location} {content : Content}
    (h : d.file? place = some content) : Path.isAnchor place = false := by
  apply isAnchor_eq_false (d := d)
  rw [file?_eq_some_iff.mp h]
  simp

theorem file?_put (d : Disk) {place : Location} (h : Path.isAnchor place = false)
    (content : Content) (other : Location) :
    (d.put place (.file content)).file? other =
      if other = place then some content else d.file? other := by
  unfold file?
  rw [get?_put d h]
  by_cases he : other = place <;> simp [he]

theorem file?_erase (d : Disk) (place other : Location) :
    (d.erase place).file? other = if other = place then none else d.file? other := by
  by_cases he : other = place
  · subst he
    rw [if_pos rfl, file?]
    by_cases ha : Path.isAnchor other = true
    · rw [get?_of_isAnchor ha]
    · rw [get?_erase d (by simpa using ha), if_pos rfl]
  · rw [if_neg he, file?, file?, get?_erase_of_ne d he]

theorem isDirectory_erase {place other : Location} (hf : d.isFile place = true)
    (h : d.isDirectory other = true) : (d.erase place).isDirectory other = true := by
  have hne : other ≠ place := by
    rintro rfl
    rw [isFile_eq_false_of_isDirectory h] at hf
    cases hf
  rw [isDirectory_iff] at h ⊢
  rw [get?_erase_of_ne d hne, h]

def Keeps (d d' : Disk) : Prop :=
  ∀ place entry, d.get? place = some entry → d'.get? place = some entry

theorem Keeps.refl (d : Disk) : d.Keeps d := fun _ _ h => h

theorem Keeps.trans {d'' : Disk} (h : d.Keeps d') (h' : d'.Keeps d'') : d.Keeps d'' :=
  fun place entry hp => h' place entry (h place entry hp)

theorem Keeps.isDirectory (h : d.Keeps d') {place : Location} (hd : d.isDirectory place = true) :
    d'.isDirectory place = true :=
  isDirectory_iff.mpr (h place .directory (isDirectory_iff.mp hd))

theorem keeps_put {place : Location} (h : d.get? place = none) (entry : Entry) :
    d.Keeps (d.put place entry) := by
  intro other standing hs
  rw [get?_put d (isAnchor_of_missing h), if_neg, hs]
  rintro rfl
  rw [h] at hs
  cases hs

theorem keeps_makeDirectories {parts : List Text} {place : Location} {made : Bool}
    (h : d.makeDirectories parts place made = .ok d') : d.Keeps d' := by
  induction parts generalizing d place made with
  | nil =>
    cases h
    exact .refl _
  | cons part rest ih =>
    rw [makeDirectories] at h
    split at h
    · exact ih h
    · cases h
    · rename_i hn
      exact (keeps_put hn .directory).trans (ih h)

/-- Only directories that are missing on the way are made. -/
theorem get?_makeDirectories {parts : List Text} {place : Location} {made : Bool}
    (h : d.makeDirectories parts place made = .ok d') (other : Location) :
    d'.get? other = d.get? other ∨ d.get? other = none ∧ d'.get? other = some .directory ∧
      ∃ front rest, parts = front ++ rest ∧ other = front.foldl Path.follow place := by
  induction parts generalizing d place made with
  | nil =>
    cases h
    exact .inl rfl
  | cons part rest ih =>
    rw [makeDirectories] at h
    split at h
    · rcases ih h with he | ⟨hn, hm, front, left, rfl, rfl⟩
      · exact .inl he
      · exact .inr ⟨hn, hm, part :: front, left, rfl, rfl⟩
    · cases h
    · rename_i hn
      have hput := get?_put d (isAnchor_of_missing hn) .directory other
      by_cases ho : other = Path.follow place part
      · subst ho
        rw [if_pos rfl] at hput
        exact .inr ⟨hn, keeps_makeDirectories h _ _ hput, [part], rest, rfl, rfl⟩
      · rw [if_neg ho] at hput
        rcases ih h with he | ⟨hm, hd, front, left, rfl, rfl⟩
        · exact .inl (he.trans hput)
        · exact .inr ⟨hput ▸ hm, hd, part :: front, left, rfl, rfl⟩

/-- Making directories changes no file. -/
theorem file?_makeDirectories {parts : List Text} {place : Location} {made : Bool}
    (h : d.makeDirectories parts place made = .ok d') (other : Location) :
    d'.file? other = d.file? other := by
  unfold file?
  rcases get?_makeDirectories h other with he | ⟨hn, hd, -⟩
  · rw [he]
  · rw [hn, hd]

/-- The place and all others on the way are directories. -/
def IsPaved (d : Disk) (place : Location) : List Text → Prop
  | [] => d.isDirectory place = true
  | part :: rest => d.isDirectory place = true ∧ d.IsPaved (Path.follow place part) rest

theorem isPaved_makeDirectories {parts : List Text} {place : Location} {made : Bool}
    (hd : d.isDirectory place = true) (h : d.makeDirectories parts place made = .ok d') :
    d'.IsPaved place parts := by
  induction parts generalizing d place made with
  | nil =>
    cases h
    exact hd
  | cons part rest ih =>
    refine ⟨(keeps_makeDirectories h).isDirectory hd, ?_⟩
    rw [makeDirectories] at h
    split at h
    · rename_i hn
      exact ih (isDirectory_iff.mpr hn) h
    · cases h
    · rename_i hn
      refine ih (isDirectory_iff.mpr ?_) h
      rw [get?_put d (isAnchor_of_missing hn), if_pos rfl]

theorem IsPaved.mono {parts : List Text} {place : Location} (h : d.IsPaved place parts)
    (hd : ∀ other, d.isDirectory other = true → d'.isDirectory other = true) :
    d'.IsPaved place parts := by
  induction parts generalizing place with
  | nil => exact hd place h
  | cons part rest ih => exact ⟨hd place h.1, ih h.2⟩

theorem IsPaved.isDirectory {parts : List Text} {place : Location} (h : d.IsPaved place parts) :
    d.isDirectory (parts.foldl Path.follow place) = true := by
  induction parts generalizing place with
  | nil => exact h
  | cons part rest ih => exact ih h.2

theorem IsPaved.walk_eq {parts : List Text} {place : Location} (h : d.IsPaved place parts) :
    d.walk place parts = .ok (parts.foldl Path.follow place) := by
  induction parts generalizing place with
  | nil => rfl
  | cons part rest ih =>
    rw [Disk.walk, isDirectory_iff.mp h.1]
    exact ih h.2

/-- Where another disk that keeps everything is paved, a way can only lack directories that it goes
up from. -/
theorem IsPaved.walk {parts : List Text} {place : Location} (h : d'.IsPaved place parts)
    (hk : d.Keeps d') (hn : d.walk place parts ≠ .error .notFound) :
    d.walk place parts = .ok (parts.foldl Path.follow place) ∧
      d.isFile (parts.foldl Path.follow place) = false := by
  have hfile : ∀ {other : Location} {content : Content}, d'.isDirectory other = true →
      d.get? other ≠ some (.file content) := by
    intro other content hd hf
    rw [isDirectory_iff, hk _ _ hf] at hd
    cases hd
  induction parts generalizing place with
  | nil =>
    refine ⟨rfl, ?_⟩
    by_contra hc
    obtain ⟨content, hf⟩ := isFile_iff.mp (by simpa using hc)
    exact hfile h hf
  | cons part rest ih =>
    obtain ⟨hd, hr⟩ := h
    unfold Disk.walk at hn ⊢
    split at hn
    · exact ih hr hn
    · rename_i hf
      exact (hfile hd hf).elim
    · split at hn
      · exact (hn rfl).elim
      · rename_i ha
        rw [if_neg ha]
        exact ih hr hn

/-- A way that leads somewhere goes on from its first part, and up only from a directory. -/
theorem walk_cons_ok {part : Text} {rest : List Text} {place final : Location}
    (h : d.walk place (part :: rest) = .ok final) :
    d.walk (Path.follow place part) rest = .ok final ∧
      (part = Path.above → d.get? place = some .directory) := by
  rw [walk] at h
  split at h
  · rename_i hd
    exact ⟨h, fun _ => hd⟩
  · cases h
  · split at h
    · cases h
    · rename_i hn
      exact ⟨h, fun hp => (hn hp).elim⟩

theorem eq_of_walk {parts : List Text} {place final : Location}
    (h : d.walk place parts = .ok final) : final = parts.foldl Path.follow place := by
  induction parts generalizing place with
  | nil =>
    cases h
    rfl
  | cons part rest ih => exact ih (walk_cons_ok h).1

theorem walk_append (d : Disk) (place : Location) (front rest : List Text) :
    d.walk place (front ++ rest) = (d.walk place front).bind fun next => d.walk next rest := by
  induction front generalizing place with
  | nil => rfl
  | cons part front ih =>
    rw [List.cons_append, walk, walk]
    split
    · exact ih _
    · rfl
    · split
      · rfl
      · exact ih _

/-- A way that does not go up lacks nothing. -/
theorem walk_ne_notFound {parts : List Text} (h : Path.above ∉ parts) (place : Location) :
    d.walk place parts ≠ .error .notFound := by
  induction parts generalizing place with
  | nil => simp [walk]
  | cons part rest ih =>
    obtain ⟨hp, hr⟩ := not_or.mp (List.mem_cons.not.mp h)
    rw [walk]
    split
    · exact ih hr _
    · simp
    · rw [if_neg (Ne.symm hp)]
      exact ih hr _

theorem walk_append_eq_notFound_iff {rest : List Text} (h : Path.above ∉ rest) (place : Location)
    (front : List Text) :
    d.walk place (front ++ rest) = .error .notFound ↔ d.walk place front = .error .notFound := by
  rw [walk_append]
  cases d.walk place front with
  | error fault => rfl
  | ok next => simp [Except.bind, walk_ne_notFound h]

theorem walk_idle {idle : List Text} (h : ∀ part ∈ idle, Path.isIdle part = true)
    {place : Location} (hn : d.isFile place = false) : d.walk place idle = .ok place := by
  induction idle with
  | nil => rfl
  | cons part rest ih =>
    obtain ⟨hp, hr⟩ := List.forall_mem_cons.mp h
    have hne : part ≠ Path.above := by
      rintro rfl
      cases hp
    have hs : Path.follow place part = place := by rw [Path.follow, if_pos hp]
    rw [walk, hs]
    split
    · exact ih hr
    · rename_i hf
      rw [isFile, file?_eq_some_iff.mpr hf] at hn
      cases hn
    · rw [if_neg hne]
      exact ih hr

theorem above_not_mem_of_isIdle {idle : List Text} (h : ∀ part ∈ idle, Path.isIdle part = true) :
    Path.above ∉ idle := fun hm => absurd (h _ hm) (by decide)

/-- Idle parts at the end make no difference to a way that does not end at a file. -/
theorem walk_of_dropIdle_eq {parts others : List Text}
    (h : Path.dropIdle parts = Path.dropIdle others) {place final : Location}
    (hw : d.walk place parts = .ok final) (hn : d.isFile final = false) :
    d.walk place others = .ok final := by
  obtain ⟨one, hp, hone⟩ := Path.exists_idle parts
  obtain ⟨two, ho, htwo⟩ := Path.exists_idle others
  have hfinal := eq_of_walk hw
  rw [hp, walk_append] at hw
  rw [ho, walk_append, ← h]
  cases hf : d.walk place (Path.dropIdle parts) with
  | error fault =>
    rw [hf] at hw
    cases hw
  | ok next =>
    obtain rfl : final = next := by
      rw [hfinal, eq_of_walk hf, Path.foldl_follow_dropIdle]
    exact walk_idle htwo hn

theorem follow_eq_location {path : Text} {place : Location} (h : d.follow path = .ok place) :
    place = Path.location path := eq_of_walk h

theorem follow_of_isSameWay {path other : Text} (h : Path.IsSameWay path other)
    {place : Location} (hf : d.follow path = .ok place) (hn : d.isFile place = false) :
    d.follow other = .ok place := by
  rw [follow, ← h.1]
  exact walk_of_dropIdle_eq h.2 hf hn

/-- Nothing that the path goes up from is missing. -/
def IsGrounded (d : Disk) (path : Text) : Prop := d.follow path ≠ .error .notFound

theorem walk_dropIdle_eq_notFound_iff (d : Disk) (place : Location) (parts : List Text) :
    d.walk place (Path.dropIdle parts) = .error .notFound ↔
      d.walk place parts = .error .notFound := by
  obtain ⟨idle, hp, hi⟩ := Path.exists_idle parts
  have ha := walk_append_eq_notFound_iff (d := d) (above_not_mem_of_isIdle hi) place
    (Path.dropIdle parts)
  rw [← hp] at ha
  exact ha.symm

theorem IsGrounded.of_isSameWay {path other : Text} (hg : d.IsGrounded path)
    (h : Path.IsSameWay path other) : d.IsGrounded other := by
  unfold IsGrounded follow at hg ⊢
  rwa [ne_eq, ← walk_dropIdle_eq_notFound_iff, ← h.1, ← h.2, walk_dropIdle_eq_notFound_iff]

/-- A path below another one goes up from nothing more. -/
theorem isGrounded_join_iff {tail : Text} (h : Path.IsBelow tail) (base : Text) :
    d.IsGrounded (Path.join base tail) ↔ d.IsGrounded base := by
  obtain ⟨front, hp, hd⟩ := Path.exists_parts_join h.1 base
  unfold IsGrounded follow
  rw [Path.start_join h.1, hp, ne_eq, ne_eq, walk_append_eq_notFound_iff h.2,
    ← walk_dropIdle_eq_notFound_iff, hd, walk_dropIdle_eq_notFound_iff]

theorem walk_ne_notFound_mono (hk : d.Keeps d') {parts : List Text} {place : Location}
    (h : d.walk place parts ≠ .error .notFound) : d'.walk place parts ≠ .error .notFound := by
  induction parts generalizing place with
  | nil => simp [walk]
  | cons part rest ih =>
    unfold walk at h ⊢
    split at h
    · rename_i hd
      rw [hk _ _ hd]
      exact ih h
    · rename_i hf
      rw [hk _ _ hf]
      simp
    · split at h
      · exact (h rfl).elim
      · rename_i ha
        split
        · exact ih h
        · simp
        · rw [if_neg ha]
          exact ih h

theorem IsGrounded.mono {path : Text} (h : d.IsGrounded path) (hk : d.Keeps d') :
    d'.IsGrounded path := walk_ne_notFound_mono hk h

theorem isGrounded_of_above_not_mem {path : Text} (h : Path.above ∉ Path.parts path) :
    d.IsGrounded path := walk_ne_notFound h _

theorem locate_eq_location {path : Text} {place : Location} (h : d.locate path = .ok place) :
    place = Path.location path := by
  unfold locate at h
  split at h
  · cases h
  · exact follow_eq_location h

/-- A path to an entry of a directory leads there, whether or not the entry stands. -/
theorem locate_join {name : Text} (h : Path.IsName name) {base : Text} {place : Location}
    (hf : d.follow base = .ok place) (hn : d.isFile place = false) :
    d.locate (Path.join base name) = .ok (place ++ [name]) := by
  obtain ⟨front, hp, hd⟩ := Path.exists_parts_join h.isAbsolute base
  have hne : Path.join base name ≠ [] := Path.join_ne_nil h base
  have hfront : d.walk (Path.start base) front = .ok place := walk_of_dropIdle_eq hd.symm hf hn
  rw [locate, if_neg hne, follow, Path.start_join h.isAbsolute, hp, h.parts, walk_append, hfront]
  have hw : d.walk place [name] = .ok (place ++ [name]) := by
    rw [walk, h.follow]
    split
    · rfl
    · rename_i hc
      rw [isFile, file?_eq_some_iff.mpr hc] at hn
      cases hn
    · rw [if_neg h.ne_above]
      rfl
  exact hw

/-- All directories that the path leads through stand, and so does the last one. -/
def Paves (d : Disk) (path : Text) : Prop := d.IsPaved (Path.start path) (Path.parts path)

theorem isDirectory_start (d : Disk) (path : Text) : d.isDirectory (Path.start path) = true := by
  rw [isDirectory_iff]
  apply get?_of_isAnchor
  unfold Path.start
  split <;> rfl

theorem Paves.isDirectory {path : Text} (h : d.Paves path) :
    d.isDirectory (Path.location path) = true := IsPaved.isDirectory h

/-- Where the directories of a path stand on a disk that keeps everything, a path that is grounded
leads to its place. -/
theorem IsGrounded.follow {path : Text} (hg : d.IsGrounded path) (hk : d.Keeps d')
    (hp : d'.Paves path) :
    d.follow path = .ok (Path.location path) ∧ d.isFile (Path.location path) = false :=
  IsPaved.walk hp hk hg

theorem Paves.follow {path : Text} (h : d.Paves path) :
    d.follow path = .ok (Path.location path) := IsPaved.walk_eq h

theorem Paves.mono {path : Text} (h : d.Paves path)
    (hd : ∀ place, d.isDirectory place = true → d'.isDirectory place = true) : d'.Paves path :=
  IsPaved.mono h hd

/-- Where the parent of a path leads to no file, the path leads to its place. -/
theorem locate_of_follow {path parent : Text} (hn : Path.namesDirectory path = false)
    (hp : Path.parent? path = some parent) (hf : d.follow parent = .ok (Path.location parent))
    (hfile : d.isFile (Path.location parent) = false) :
    d.locate path = .ok (Path.location path) ∧
      (Path.location path).dropLast = Path.location parent := by
  obtain ⟨base, name, hname, rfl⟩ := Path.exists_join_of_namesDirectory hn
  obtain ⟨other, ho, hs⟩ := Path.exists_parent hname base
  obtain rfl : other = parent := Option.some.inj (ho.symm.trans hp)
  rw [locate_join hname (follow_of_isSameWay hs hf hfile) hfile, Path.location_join hname,
    ← hs.location_eq, List.dropLast_concat]
  exact ⟨rfl, rfl⟩

theorem locate_of_paves {path parent : Text} (hn : Path.namesDirectory path = false)
    (hp : Path.parent? path = some parent) (h : d.Paves parent) :
    d.locate path = .ok (Path.location path) ∧
      d.isDirectory (Path.location path).dropLast = true := by
  have hd := h.isDirectory
  obtain ⟨hl, he⟩ := locate_of_follow hn hp h.follow (isFile_eq_false_of_isDirectory hd)
  exact ⟨hl, he ▸ hd⟩

/-- What is missing on the way is not left again. -/
theorem isPrefix_of_walk {parts : List Text} {top place final : Location}
    (h : d.walk place parts = .ok final) (hp : top <+: place) (hn : d.get? top = none) :
    top <+: final := by
  have ha : Path.isAnchor top = false := isAnchor_of_missing hn
  induction parts generalizing place with
  | nil =>
    cases h
    exact hp
  | cons part rest ih =>
    obtain ⟨hw, hup⟩ := walk_cons_ok h
    refine ih hw (Path.isPrefix_follow hp ha fun hpart he => ?_)
    rw [he, hup hpart] at hn
    cases hn

/-- Only missing directories above the place that the way leads to are made. -/
theorem get?_makeDirectories_of_walk {parts : List Text} {place final : Location} {made : Bool}
    (h : d.makeDirectories parts place made = .ok d') (hw : d.walk place parts = .ok final)
    (other : Location) :
    d'.get? other = d.get? other ∨ d.get? other = none ∧ other <+: final := by
  rcases get?_makeDirectories h other with he | ⟨hn, -, front, rest, rfl, rfl⟩
  · exact .inl he
  · refine .inr ⟨hn, ?_⟩
    rw [walk_append] at hw
    cases hf : d.walk place front with
    | error fault =>
      rw [hf] at hw
      cases hw
    | ok next =>
      rw [hf] at hw
      rw [← eq_of_walk hf] at hn ⊢
      exact isPrefix_of_walk hw (List.prefix_refl next) hn

theorem replaceFile_ok {path : Text} {content : Content} (h : d.replaceFile path content = .ok d') :
    Path.namesDirectory path = false ∧ d.isDirectory (Path.location path) = false ∧
      d' = d.put (Path.location path) (.file content) := by
  unfold replaceFile at h
  split at h
  · cases h
  · rename_i hn
    split at h
    · cases h
    · rename_i place hl
      obtain rfl := locate_eq_location hl
      split at h
      · cases h
      · rename_i hd
        split at h
        · cases h
          exact ⟨by simpa using hn, by simpa using hd, rfl⟩
        · cases h

theorem moveFile_ok {source : Location} {path : Text} (h : d.moveFile source path = .ok d') :
    ∃ content, d.file? source = some content ∧ Path.namesDirectory path = false ∧
      (d.erase source).isDirectory (Path.location path) = false ∧ ∀ other, d'.get? other =
        if other = Path.location path then some (.file content)
        else if other = source then none else d.get? other := by
  unfold moveFile at h
  split at h
  · cases h
  · rename_i content hf
    obtain ⟨hn, hd, rfl⟩ := replaceFile_ok h
    refine ⟨content, hf, hn, hd, fun other => ?_⟩
    have ha := isAnchor_eq_false (isDirectory_eq_false_iff.mp hd)
    rw [get?_put _ ha, get?_erase _ (isAnchor_of_file? hf)]

theorem file?_moveFile {source : Location} {path : Text} (h : d.moveFile source path = .ok d') :
    ∃ content, d.file? source = some content ∧ ∀ other, d'.file? other =
      if other = Path.location path then some content
      else if other = source then none else d.file? other := by
  obtain ⟨content, hf, -, -, hd⟩ := moveFile_ok h
  refine ⟨content, hf, fun other => ?_⟩
  unfold file?
  rw [hd]
  by_cases ht : other = Path.location path
  · simp [ht]
  · rw [if_neg ht, if_neg ht]
    by_cases hs : other = source <;> simp [hs]

/-- No directory is moved or replaced. -/
theorem isDirectory_moveFile {source : Location} {path : Text}
    (h : d.moveFile source path = .ok d') {place : Location} (hp : d.isDirectory place = true) :
    d'.isDirectory place = true := by
  obtain ⟨content, hf, -, hd, hg⟩ := moveFile_ok h
  have he := isDirectory_erase (isFile_iff.mpr ⟨content, file?_eq_some_iff.mp hf⟩) hp
  rw [isDirectory_iff, hg, if_neg, ← get?_erase _ (isAnchor_of_file? hf), ← isDirectory_iff]
  · exact he
  · rintro rfl
    rw [he] at hd
    cases hd

/-- A file can be moved to every place where no directory stands. -/
theorem exists_moveFile {source : Location} {path parent : Text} {content : Content}
    (hf : d.file? source = some content) (hn : Path.namesDirectory path = false)
    (hp : Path.parent? path = some parent) (hpaved : d.Paves parent)
    (hd : d.isDirectory (Path.location path) = false) :
    ∃ d', d.moveFile source path = .ok d' := by
  have hfile : d.isFile source = true := isFile_iff.mpr ⟨content, file?_eq_some_iff.mp hf⟩
  obtain ⟨hl, hparent⟩ :=
    locate_of_paves hn hp (hpaved.mono fun _ => isDirectory_erase hfile)
  have he : (d.erase source).isDirectory (Path.location path) = false := by
    rw [isDirectory_eq_false_iff] at hd ⊢
    rw [get?_erase _ (isAnchor_of_file? hf)]
    split
    · simp
    · exact hd
  simp only [moveFile, hf, replaceFile, hn, hl, he, hparent, Bool.false_eq_true, if_false,
    if_true]
  exact ⟨_, rfl⟩

theorem removeFile_ok {path : Text} (h : d.removeFile path = .ok d') :
    d.isFile (Path.location path) = true ∧ d' = d.erase (Path.location path) := by
  unfold removeFile at h
  split at h
  · cases h
  · rename_i place hl
    obtain rfl := locate_eq_location hl
    split at h
    · rename_i content hg
      cases h
      exact ⟨isFile_iff.mpr ⟨content, hg⟩, rfl⟩
    · cases h
    · cases h

/-- What cannot be removed where a path leads is no file. -/
theorem file?_of_removeFile_error {path : Text} {fault : DiskFault}
    (hl : d.locate path = .ok (Path.location path)) (h : d.removeFile path = .error fault) :
    d.file? (Path.location path) = none := by
  unfold removeFile at h
  rw [hl] at h
  dsimp only at h
  unfold file?
  split at h
  · cases h
  · rename_i hd
    rw [hd]
  · rename_i hd
    rw [hd]

theorem reaches_iff {path : Text} :
    d.reaches path = true ↔
      ∃ place entry, d.locate path = .ok place ∧ d.get? place = some entry := by
  unfold reaches
  cases d.locate path with
  | error fault => simp [Except.toOption]
  | ok place => simp [Except.toOption, Option.isSome_iff_exists]

/-- Nothing stands where a path leads and does not reach. -/
theorem get?_of_not_reaches {path : Text} {place : Location} (h : d.reaches path = false)
    (hl : d.locate path = .ok place) : d.get? place = none := by
  by_contra hn
  obtain ⟨entry, he⟩ := Option.ne_none_iff_exists'.mp hn
  rw [reaches_iff.mpr ⟨place, entry, hl, he⟩] at h
  cases h

/-- Everything stands in a directory. -/
def IsTree (d : Disk) : Prop := ∀ e ∈ d.entries, d.isDirectory e.1.dropLast = true

instance (d : Disk) : Decidable d.IsTree := inferInstanceAs (Decidable (∀ e ∈ d.entries, _))

theorem IsTree.isDirectory (h : d.IsTree) {place : Location} {name : Text}
    (hn : d.get? (place ++ [name]) ≠ none) : d.isDirectory place = true := by
  unfold get? at hn
  split at hn
  · rename_i ha
    exact isDirectory_iff.mpr (get?_of_isAnchor (Path.isAnchor_of_append ha))
  · rw [ne_eq, Option.map_eq_none_iff] at hn
    obtain ⟨e, he⟩ := Option.ne_none_iff_exists'.mp hn
    have hp := List.find?_some he
    rw [decide_eq_true_eq] at hp
    have hd := h e (List.mem_of_find?_eq_some he)
    rwa [hp, List.dropLast_concat] at hd

/-- All places on the way to something are directories. -/
theorem IsTree.isDirectory_of_isPrefix (h : d.IsTree) {place above : Location}
    {name : Text} (hn : d.get? (place ++ [name]) ≠ none) (hp : above <+: place) :
    d.isDirectory above = true := by
  obtain ⟨rest, rfl⟩ := hp
  induction rest using List.reverseRecOn generalizing name with
  | nil =>
    rw [List.append_nil] at hn
    exact h.isDirectory hn
  | append_singleton rest last ih =>
    have hd := h.isDirectory hn
    rw [Disk.isDirectory, decide_eq_true_eq, ← List.append_assoc] at hd
    exact ih (hd ▸ Option.some_ne_none Entry.directory)

theorem mem_filesIn {directory : Location} {name : Text} :
    name ∈ d.filesIn directory ↔ d.isFile (directory ++ [name]) = true := by
  unfold filesIn
  rw [List.mem_filterMap]
  constructor
  · rintro ⟨place, _, h⟩
    split at h
    · rename_i last hl
      split at h
      · rename_i hp
        obtain ⟨front, rfl⟩ := List.getLast?_eq_some_iff.mp hl
        rw [List.dropLast_concat] at hp
        obtain rfl := Option.some.inj h
        rw [← hp.1]
        exact hp.2
      · cases h
    · cases h
  · intro h
    obtain ⟨content, hc⟩ := isFile_iff.mp h
    have ha : Path.isAnchor (directory ++ [name]) = false :=
      isAnchor_eq_false (by rw [hc]; simp)
    rw [get?, ha, if_neg Bool.false_ne_true, Option.map_eq_some_iff] at hc
    obtain ⟨e, he, _⟩ := hc
    have hp := List.find?_some he
    rw [decide_eq_true_eq] at hp
    refine ⟨directory ++ [name], List.mem_map.mpr ⟨e, List.mem_of_find?_eq_some he, hp⟩, ?_⟩
    simp [h]

def HasFile (d : Disk) (directory name : Text) : Prop :=
  ∃ place, d.locate directory = .ok place ∧ d.isFile (place ++ [name]) = true

theorem hasFile_iff {directory name : Text} {place : Location}
    (h : d.locate directory = .ok place) :
    d.HasFile directory name ↔ d.isFile (place ++ [name]) = true := by
  unfold HasFile
  rw [h]
  simp

theorem mem_filesAt {directory name : Text} :
    name ∈ d.filesAt directory ↔ d.HasFile directory name := by
  unfold filesAt
  split
  · rename_i place hl
    rw [mem_filesIn, hasFile_iff hl]
  · rename_i hl
    simp [HasFile, hl]

end Disk

end Migrations

import Migrations.Disk
import Migrations.Notice

namespace Migrations

/-- How the names of temporary files are chosen. Whatever the choice, the name is new to its
directory, and it has no extension. -/
structure TemporaryNames where
  choose : Disk → Location → Text
  form : ∀ d directory, ∃ rest : Text, choose d directory = ".tmp" ++ rest ∧
    ∀ c ∈ rest, c.isAlphanum = true
  isFree : ∀ (d : Disk) (directory : Location), d.get? (directory ++ [choose d directory]) = none

namespace TemporaryNames

def longest (d : Disk) : Nat := d.entries.foldr (fun e n => max e.1.flatten.length n) 0

theorem length_le_longest {d : Disk} {e : Location × Entry} (h : e ∈ d.entries) :
    e.1.flatten.length ≤ longest d := by
  unfold longest
  generalize d.entries = entries at h
  induction entries with
  | nil => cases h
  | cons first rest ih =>
    rcases List.mem_cons.mp h with rfl | h
    · exact Nat.le_max_left ..
    · exact Nat.le_trans (ih h) (Nat.le_max_right ..)

def longName (d : Disk) (_ : Location) : Text := ".tmp" ++ List.replicate (longest d) 'x'

theorem longName_form (d : Disk) (directory : Location) :
    ∃ rest : Text, longName d directory = ".tmp" ++ rest ∧ ∀ c ∈ rest, c.isAlphanum = true := by
  refine ⟨_, rfl, fun c hc => ?_⟩
  rw [List.eq_of_mem_replicate hc]
  decide

theorem longName_isFree (d : Disk) (directory : Location) :
    d.get? (directory ++ [longName d directory]) = none := by
  have hn : longName d directory =
      '.' :: 't' :: ('m' :: 'p' :: List.replicate (longest d) 'x') := rfl
  have hu : Path.above = ['.', '.'] := rfl
  have ha : Path.isAnchor (directory ++ [longName d directory]) = false :=
    Path.isAnchor_concat (by simp [hn]) (by simp [hn, hu])
  rw [Disk.get?, ha, if_neg Bool.false_ne_true, Option.map_eq_none_iff, List.find?_eq_none]
  intro e he hp
  have hl := length_le_longest he
  have ht : (".tmp" : Text).length = 4 := rfl
  rw [of_decide_eq_true hp] at hl
  simp only [longName, List.flatten_append, List.flatten_singleton, List.length_append, ht,
    List.length_replicate] at hl
  omega

def standard : TemporaryNames where
  choose := longName
  form := longName_form
  isFree := longName_isFree

end TemporaryNames

structure Staged where
  place : Location
  target : Text

namespace Project

def directoryOf (path : Text) : Text := (Path.parent? path).getD "."

/-- Writes a file beside its target, in a directory that is made if it is missing. -/
def stage (names : TemporaryNames) (d : Disk) (path content : Text) :
    Except Error (Disk × Staged) :=
  let directory := directoryOf path
  match d.makeDirectories (Path.parts directory) (Path.start directory) with
  | .error fault => .error (.directoryNotCreated directory fault)
  | .ok d =>
    -- All directories on the way stand now, so the path leads to the place that it names.
    let place := Path.location directory ++ [names.choose d (Path.location directory)]
    .ok (d.put place (.file (.text content)), ⟨place, path⟩)

/-- Stages files, in order, up to the first that cannot be staged. -/
def stageFiles (names : TemporaryNames) (d : Disk) :
    List (Text × Text) → Disk × List Staged × Option Error
  | [] => (d, [], none)
  | (path, content) :: rest =>
    match stage names d path content with
    | .error e => (d, [], some e)
    | .ok (d, file) =>
      let (d, files, e?) := stageFiles names d rest
      (d, file :: files, e?)

def discard (d : Disk) (files : List Staged) : Disk :=
  files.foldl (fun d file => d.erase file.place) d

end Project

end Migrations

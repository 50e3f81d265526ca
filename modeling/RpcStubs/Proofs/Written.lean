/-
# What a run leaves on the disk

A path is followed step by step while directories are made on the way, and the
file at its end is put where the steps lead.  Where that is depends on the path
alone: `DiskPath.place` gives the names from the top, and `Disk.file?_write` says
that writing changes the file at that place and no other.

Two paths can lead to one place without being the same text (`a//b` and `a/./b`).
So what a list of records leaves behind is stated by place: at each there is the
last record whose path leads to it, or what was there before.
-/
import Mathlib.Data.List.Basic
import RpcStubs.CommandLine.Run

namespace RpcStubs

namespace DiskPath

/-- Where steps lead from a directory. -/
def follow (start : List String) : List String → List String
  | [] => start
  | step :: steps =>
    if step = "." then follow start steps
    else if step = ".." then follow start.dropLast steps
    else follow (start ++ [step]) steps

/-- Where a path leads, as the names from the top. -/
def place (path : String) : List String := follow [] (steps path)

theorem follow_append (start first second : List String) :
    follow start (first ++ second) = follow (follow start first) second := by
  induction first generalizing start with
  | nil => rfl
  | cons s first ih =>
      simp only [List.cons_append, follow]
      split
      next => exact ih start
      next =>
        split
        next => exact ih start.dropLast
        next => exact ih (start ++ [s])

end DiskPath

namespace Disk

open DiskPath (follow place)

/-- Making directories leaves the files as they are, and ends where the steps lead. -/
theorem makeDirectories_eq_ok {d d' : Disk} {start steps names : List String}
    (h : d.makeDirectories start steps = .ok (d', names)) :
    d'.files = d.files ∧ names = follow start steps := by
  fun_induction makeDirectories d start steps with
  | case1 d start =>
      cases h
      exact ⟨rfl, rfl⟩
  | case2 d start steps ih => exact ih h
  | case3 d start steps hstay ih => exact ih h
  | case4 => cases h
  | case5 => cases h
  | case6 d start step steps hstay hup next hnul hlong hdirectory ih =>
      rw [follow, if_neg hstay, if_neg hup]
      exact ih h
  | case7 => cases h
  | case8 d start step steps hstay hup next hnul hlong hdirectory hfile ih =>
      rw [follow, if_neg hstay, if_neg hup]
      exact ih h

theorem lookup_putFile (names other : List String) (content : Content)
    (files : List (List String × Content)) :
    (putFile names content files).lookup other
      = if other = names then some content else files.lookup other := by
  induction files with
  | nil => by_cases h : other = names <;> simp [putFile, h]
  | cons f files ih => grind [putFile]

theorem write_eq_ok {d d' : Disk} {path content : String} (h : d.write path content = .ok d') :
    ∃ made directory name,
      d.makeDirectories [] (DiskPath.steps path).dropLast = .ok (made, directory) ∧
      (DiskPath.steps path).getLast? = some name ∧ name ≠ "." ∧ name ≠ ".." ∧
      d' = { made with files := putFile (directory ++ [name]) (.text content) made.files } := by
  cases hmake : d.makeDirectories [] (DiskPath.steps path).dropLast with
  | error e =>
      simp only [write, hmake, bind, Except.bind] at h
      cases h
  | ok p =>
      obtain ⟨made, directory⟩ := p
      simp only [write, hmake, bind, Except.bind] at h
      split at h
      next => cases h
      next =>
        split at h
        next => cases h
        next =>
          split at h
          next => cases h
          next => cases h
          next => cases h
          next name hstay hup hlast =>
            split at h
            next => cases h
            next =>
              split at h
              next => cases h
              next =>
                cases h
                exact ⟨made, directory, name, rfl, hlast, hstay, hup, rfl⟩

/-- Writing changes the file at the place that the path leads to, and no other. -/
theorem file?_write {d d' : Disk} {path content : String} (h : d.write path content = .ok d')
    (names : List String) :
    d'.file? names = if names = place path then some (.text content) else d.file? names := by
  obtain ⟨made, directory, name, hmake, hlast, hstay, hup, rfl⟩ := write_eq_ok h
  obtain ⟨hfiles, rfl⟩ := makeDirectories_eq_ok hmake
  have hsteps : DiskPath.steps path = (DiskPath.steps path).dropLast ++ [name] :=
    (List.dropLast_append_getLast? name hlast).symm
  have hplace : place path = follow [] (DiskPath.steps path).dropLast ++ [name] := by
    rw [place, hsteps, DiskPath.follow_append, ← hsteps]
    simp only [follow, if_neg hstay, if_neg hup]
  rw [hplace]
  show (putFile _ _ made.files).lookup names = _
  rw [lookup_putFile, hfiles]
  rfl

end Disk

namespace CommandLine

theorem perform_map_report_append (disk : Disk) (events : List Event) (actions : List Action) :
    perform disk (events.map .report ++ actions)
      = ((perform disk actions).1, events ++ (perform disk actions).2.1,
          (perform disk actions).2.2) := by
  induction events with
  | nil => rfl
  | cons e events ih =>
      rw [List.map_cons, List.cons_append, perform, ih]
      rfl

theorem perform_map_report (disk : Disk) (events : List Event) :
    perform disk (events.map .report) = (disk, events, none) := by
  have h := perform_map_report_append disk events []
  rwa [List.append_nil, perform, List.append_nil] at h

/-- The record that a list of records leaves at a place below a directory: the last that goes
there. -/
def recordAt? (directory : String) (records : List GeneratedFile) (names : List String) :
    Option GeneratedFile :=
  records.reverse.find? fun g => DiskPath.place (DiskPath.join directory g.name) = names

theorem recordAt?_cons (directory : String) (g : GeneratedFile) (records : List GeneratedFile)
    (names : List String) :
    recordAt? directory (g :: records) names = (recordAt? directory records names).or
      (if names = DiskPath.place (DiskPath.join directory g.name) then some g else none) := by
  rw [recordAt?, List.reverse_cons, List.find?_append, ← recordAt?]
  by_cases h : names = DiskPath.place (DiskPath.join directory g.name)
  · simp [h]
  · simp [h, Ne.symm h]

/-- Writing records leaves at each place the last one that goes there, or what was there before. -/
theorem file?_perform_writeActions {directory : String} {records : List GeneratedFile} {disk : Disk}
    (h : (perform disk (writeActions directory records)).2.2 = none) (names : List String) :
    (perform disk (writeActions directory records)).1.file? names
      = ((recordAt? directory records names).map fun g => .text g.content).or
          (disk.file? names) := by
  induction records generalizing disk with
  | nil => rfl
  | cons g records ih =>
      have hactions : writeActions directory (g :: records)
          = .write (DiskPath.join directory g.name) g.content ::
            ([.wrote (DiskPath.join directory g.name)].map .report
              ++ writeActions directory records) := rfl
      rw [hactions, perform] at h ⊢
      cases hwrite : disk.write (DiskPath.join directory g.name) g.content with
      | error e =>
          rw [hwrite] at h
          cases h
      | ok disk' =>
          rw [hwrite] at h
          simp only [perform_map_report_append] at h ⊢
          rw [ih h, Disk.file?_write hwrite, recordAt?_cons]
          cases recordAt? directory records names with
          | some g' => rfl
          | none => split <;> rfl

end CommandLine

end RpcStubs

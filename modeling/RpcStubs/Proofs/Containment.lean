/-
# Where records are written

A record is written at its name, seen from the output directory.  The name comes
from the name of a schema file, which nothing checks: it may begin at the top of
the disk, or climb out of the directory by `..`.  So a record need not end up
below the output directory (`climbing_name_written_outside`).

What is said here is when it does.  Steps that lead from one directory to another
come down to a `Way`: up by so many directories, then down by names.  A record is
written below an output directory exactly if the directory part of its schema
file's name does not leave it, or leaves it and comes back by the same names.
It is so for every output directory exactly if the name is relative and climbs
nowhere.
-/
import RpcStubs.Proofs.ImportPaths
import RpcStubs.Proofs.Records
import RpcStubs.Proofs.Written

namespace RpcStubs

namespace DiskPath

open Text

/-! ## Ways -/

/-- A way from one directory to another: how many directories it climbs, and the names that it
goes down from there. -/
structure Way where
  up : Nat := 0
  down : List String := []
deriving DecidableEq, Repr

namespace Way

/-- The way with one more step. -/
def go (w : Way) (step : String) : Way :=
  if step = "." then w
  else if step = ".." then
    if w.down = [] then { up := w.up + 1 } else { w with down := w.down.dropLast }
  else { w with down := w.down ++ [step] }

/-- The way that steps come down to. -/
def ofSteps (steps : List String) : Way := steps.foldl go {}

/-- Where a way leads to.  At the top there is nothing to climb. -/
def leadsTo (w : Way) (start : List String) : List String :=
  start.take (start.length - w.up) ++ w.down

theorem follow_step (w : Way) (start : List String) (step : String) :
    follow (w.leadsTo start) [step] = (w.go step).leadsTo start := by
  unfold go
  by_cases hstay : step = "."
  · rw [if_pos hstay, hstay]
    rfl
  rw [if_neg hstay]
  by_cases hup : step = ".."
  · have hdrop : follow (w.leadsTo start) [step] = (w.leadsTo start).dropLast := by
      rw [hup]
      rfl
    rw [if_pos hup, hdrop]
    unfold leadsTo
    by_cases hdown : w.down = []
    · have hlength : min (min (start.length - w.up) start.length - 1) (start.length - w.up)
          = start.length - (w.up + 1) := by omega
      rw [if_pos hdown, hdown, List.append_nil, List.append_nil, List.dropLast_eq_take,
        List.length_take, List.take_take, hlength]
    · rw [if_neg hdown, List.dropLast_append_of_ne_nil hdown]
  · rw [if_neg hup]
    simp only [follow, if_neg hstay, if_neg hup, leadsTo, List.append_assoc]

theorem follow_leadsTo (w : Way) (start steps : List String) :
    follow (w.leadsTo start) steps = (steps.foldl go w).leadsTo start := by
  induction steps generalizing w with
  | nil => rfl
  | cons step steps ih =>
      rw [← List.singleton_append, follow_append, follow_step, ih]
      rfl

theorem follow_eq (start steps : List String) :
    follow start steps = (ofSteps steps).leadsTo start := by
  have h := follow_leadsTo {} start steps
  rwa [leadsTo, Nat.sub_zero, List.take_length, List.append_nil] at h

/-- A way stays in the directory where it starts exactly if it comes back by the names that it
climbs. -/
theorem prefix_leadsTo_iff (w : Way) (start : List String) :
    start <+: w.leadsTo start ↔ start.drop (start.length - w.up) <+: w.down := by
  have hstart := List.take_append_drop (start.length - w.up) start
  unfold leadsTo
  nth_rewrite 1 [← hstart]
  exact List.prefix_append_right_inj _

end Way

/-! ## Paths -/

/-- Where a path leads to that is looked up from a working directory. -/
def placeFrom (here : List String) (path : String) : List String :=
  follow (if isAbsolute path then [] else here) (steps path)

/-- A place lies below a directory. -/
def Below (directory place : List String) : Prop :=
  ∃ rest, rest ≠ [] ∧ place = directory ++ rest

theorem below_concat_iff {directory place : List String} {name : String} :
    Below directory (place ++ [name]) ↔ directory <+: place := by
  constructor
  · rintro ⟨rest, hrest, h⟩
    obtain ⟨front, last, rfl⟩ := (List.eq_nil_or_concat rest).resolve_left hrest
    rw [List.concat_eq_append, ← List.append_assoc] at h
    exact ⟨front, (List.append_inj' h rfl).1.symm⟩
  · rintro ⟨rest, rfl⟩
    exact ⟨rest ++ [name], by simp, List.append_assoc ..⟩

/-- The steps of a path that are not left out. -/
def namedSteps (path : String) : List String :=
  ((pieces '/' path.toList).map String.ofList).filter (· ≠ "")

theorem follow_steps (start : List String) (path : String) :
    follow start (steps path) = follow start (namedSteps path) := by
  show follow start (if _ then namedSteps path ++ ["."] else namedSteps path) = _
  split
  next => rw [follow_append]; rfl
  next => rfl

theorem namedSteps_join {base path : String} (hpath : isAbsolute path = false) :
    namedSteps (join base path) = namedSteps base ++ namedSteps path := by
  unfold join
  rw [hpath, if_neg (by simp)]
  by_cases hempty : base = ""
  · rw [if_pos (.inl hempty), hempty, String.empty_append]
    rfl
  by_cases hslash : base.toList.getLast? = some '/'
  · obtain ⟨front, hfront⟩ := List.getLast?_eq_some_iff.mp hslash
    rw [if_pos (.inr hslash)]
    unfold namedSteps
    rw [String.toList_append, hfront, List.append_assoc, List.singleton_append, pieces_append_cons,
      pieces_append_cons, List.map_append, List.filter_append, List.map_append, List.filter_append]
    simp [pieces]
  · have hchars : (base ++ "/" ++ path).toList = base.toList ++ '/' :: path.toList := by simp
    rw [if_neg (by simp [hempty, hslash])]
    unfold namedSteps
    rw [hchars, pieces_append_cons, List.map_append, List.filter_append]

theorem isAbsolute_join {base path : String} (hpath : isAbsolute path = false) :
    isAbsolute (join base path) = isAbsolute base := by
  unfold join
  rw [hpath, if_neg (by simp)]
  by_cases hempty : base = ""
  · rw [if_pos (.inl hempty), hempty, String.empty_append, hpath]
    rfl
  · obtain ⟨c, cs, hbase⟩ := List.exists_cons_of_ne_nil (mt String.toList_eq_nil_iff.mp hempty)
    unfold isAbsolute
    split
    next => rw [String.toList_append, hbase]; rfl
    next => rw [String.toList_append, String.toList_append, hbase]; rfl

theorem placeFrom_join (here : List String) (directory path : String) :
    placeFrom here (join directory path)
      = follow (if isAbsolute path then [] else placeFrom here directory) (steps path) := by
  cases hpath : isAbsolute path with
  | true =>
      have hjoin : join directory path = path := if_pos hpath
      rw [hjoin, placeFrom, hpath]
      rfl
  | false =>
      unfold placeFrom
      rw [isAbsolute_join hpath, follow_steps, namedSteps_join hpath, follow_append, ← follow_steps,
        ← follow_steps]
      rfl

theorem follow_name {step : List Char} (h : IsName step) (start : List String) :
    follow start [String.ofList step] = start ++ [String.ofList step] := by
  have hne : ∀ other : String, step ≠ other.toList → String.ofList step ≠ other := by
    rintro other hother rfl
    exact hother String.toList_ofList.symm
  simp only [follow, if_neg (hne "." h.2.1), if_neg (hne ".." h.2.2)]

/-- The steps to the directory that a path is in. -/
def directorySteps (path : String) : List String :=
  ((pieces '/' path.toList).dropLast.map String.ofList).filter (· ≠ "")

theorem isAbsolute_eq (path : String) :
    isAbsolute path = ((pieces '/' path.toList).dropLast.head? == some []) := by
  unfold isAbsolute
  cases path.toList with
  | nil => rfl
  | cons c cs =>
      obtain ⟨p, ps, hpieces⟩ := List.exists_cons_of_ne_nil (l := pieces '/' cs) (by
        rw [pieces_eq_splitOn]
        exact List.splitOn_ne_nil '/' cs)
      by_cases hc : c = '/'
      · simp [pieces, hc, hpieces]
      · cases ps with
        | nil => simp [pieces, hc, hpieces]
        | cons q qs => simp [pieces, hc, hpieces]

/-- The way to the directory of a path does not lead out of an output directory, or leads back
into it. -/
def StaysIn (directory : List String) (path : String) : Prop :=
  if isAbsolute path then directory <+: (Way.ofSteps (directorySteps path)).down
  else directory.drop (directory.length - (Way.ofSteps (directorySteps path)).up)
    <+: (Way.ofSteps (directorySteps path)).down

instance (directory : List String) (path : String) : Decidable (StaysIn directory path) :=
  inferInstanceAs (Decidable (ite (isAbsolute path = true) (_ <+: _) (_ <+: _)))

theorem staysIn_of_relative {path : String} (hrelative : isAbsolute path = false)
    (hup : (Way.ofSteps (directorySteps path)).up = 0) (directory : List String) :
    StaysIn directory path := by
  unfold StaysIn
  rw [if_neg (by simp [hrelative]), hup, Nat.sub_zero, List.drop_length]
  exact List.nil_prefix

/-- A path that stays in two directories side by side climbs out of neither. -/
theorem relative_of_staysIn {path : String} (ha : StaysIn ["a"] path) (hb : StaysIn ["b"] path) :
    isAbsolute path = false ∧ (Way.ofSteps (directorySteps path)).up = 0 := by
  have hboth : ∀ down : List String, ["a"] <+: down → ¬ ["b"] <+: down := by
    rintro _ ⟨rest, rfl⟩ ⟨rest', hrest'⟩
    exact absurd (List.cons.inj hrest').1 (by decide)
  unfold StaysIn at ha hb
  cases habsolute : isAbsolute path with
  | true =>
      rw [if_pos habsolute] at ha hb
      exact absurd hb (hboth _ ha)
  | false =>
      rw [if_neg (by simp [habsolute])] at ha hb
      refine ⟨rfl, ?_⟩
      by_contra hup
      have hclimb : 1 - (Way.ofSteps (directorySteps path)).up = 0 := by omega
      rw [List.length_singleton, hclimb] at ha hb
      exact hboth _ ha hb

end DiskPath

/-! ## Records -/

namespace ModuleKind

open DiskPath Text

theorem pieces_recordName (kind : ModuleKind) (name : String) :
    ∃ last, pieces '/' (kind.recordName name).toList
        = (pieces '/' name.toList).dropLast ++ [last] ∧ IsName last := by
  obtain ⟨front, last, last', hname, hstem, -⟩ := SchemaPath.pieces_moduleStem name
  obtain ⟨front', last'', hlast, happend⟩ :=
    exists_last_piece '/' (SchemaPath.moduleStem name).toList
  obtain ⟨rfl, -⟩ := List.append_inj' (hstem.symm.trans hlast) rfl
  have hending : '/' ∉ kind.ending.toList ∧ 't' ∈ kind.ending.toList := by
    cases kind <;> decide
  refine ⟨last'' ++ kind.ending.toList, ?_, ?_⟩
  · rw [recordName, String.toList_append, happend _ hending.1, hname, List.dropLast_concat]
  · have hmem : 't' ∈ last'' ++ kind.ending.toList := List.mem_append_right _ hending.2
    refine ⟨?_, ?_, ?_⟩ <;> intro h <;> rw [h] at hmem <;> exact absurd hmem (by decide)

theorem isAbsolute_recordName (kind : ModuleKind) (name : String) :
    isAbsolute (kind.recordName name) = isAbsolute name := by
  obtain ⟨last, hpieces, -⟩ := kind.pieces_recordName name
  rw [isAbsolute_eq, isAbsolute_eq, hpieces, List.dropLast_concat]

/-- A record is found in the directory where its schema file would be. -/
theorem follow_recordName (kind : ModuleKind) (name : String) :
    ∃ last, ∀ start, follow start (steps (kind.recordName name))
      = follow start (directorySteps name) ++ [last] := by
  obtain ⟨last, hpieces, hlast⟩ := kind.pieces_recordName name
  have hnamed : namedSteps (kind.recordName name)
      = directorySteps name ++ [String.ofList last] := by
    unfold namedSteps directorySteps
    rw [hpieces, List.map_append, List.filter_append]
    simp [hlast.1]
  refine ⟨String.ofList last, fun start => ?_⟩
  rw [follow_steps, hnamed, follow_append, follow_name hlast]

theorem below_recordName_iff (kind : ModuleKind) (name : String) (here : List String)
    (directory : String) :
    Below (placeFrom here directory) (placeFrom here (join directory (kind.recordName name))) ↔
      StaysIn (placeFrom here directory) name := by
  obtain ⟨last, hlast⟩ := kind.follow_recordName name
  rw [placeFrom_join, isAbsolute_recordName, hlast, below_concat_iff, Way.follow_eq]
  unfold StaysIn
  split
  next => rw [Way.leadsTo, List.take_nil, List.nil_append]
  next => exact Way.prefix_leadsTo_iff _ _

end ModuleKind

namespace CommandLine

open DiskPath

theorem write_mem_writeActions {directory path content : String} {generated : List GeneratedFile} :
    .write path content ∈ writeActions directory generated ↔
      ∃ g ∈ generated, path = join directory g.name ∧ content = g.content := by
  simp [writeActions, List.mem_flatMap]

/-- A record is written below the output directory exactly if the name of its schema file stays
there.  All records are written below every output directory exactly if all names are relative and
climb nowhere. -/
theorem records_written_below_iff (names : List String) (files : List File) (settings : Settings)
    (generated : List GeneratedFile)
    (h : (Generation.generate names files settings).result = .ok generated) :
    (∀ (here : List String) (directory path content : String),
      .write path content ∈ writeActions directory generated →
      ∃ name ∈ names, ∃ kind ∈ settings.kinds, path = join directory (kind.recordName name) ∧
        (Below (placeFrom here directory) (placeFrom here path) ↔
          StaysIn (placeFrom here directory) name)) ∧
    ((∀ (here : List String) (directory path content : String),
        .write path content ∈ writeActions directory generated →
        Below (placeFrom here directory) (placeFrom here path)) ↔
      ∀ name ∈ names, isAbsolute name = false ∧ (Way.ofSteps (directorySteps name)).up = 0) := by
  have hrecords := Generation.records_of_generate h
  have hwritten : ∀ (here : List String) (directory path content : String),
      .write path content ∈ writeActions directory generated →
      ∃ name ∈ names, ∃ kind ∈ settings.kinds, path = join directory (kind.recordName name) ∧
        (Below (placeFrom here directory) (placeFrom here path) ↔
          StaysIn (placeFrom here directory) name) := by
    intro here directory path content hwrite
    obtain ⟨g, hg, rfl, -⟩ := write_mem_writeActions.mp hwrite
    obtain ⟨⟨name, kind⟩, hp, hrecord⟩ := exists_of_forall₂ hrecords.flip hg
    obtain ⟨hname, hkind⟩ := List.mem_product.mp hp
    rw [Generation.IsRecord.name_eq hrecord]
    exact ⟨name, hname, kind, hkind, rfl, kind.below_recordName_iff name here directory⟩
  refine ⟨hwritten, ?_, ?_⟩
  · intro hbelow name hname
    -- the service module of the file, written to two directories side by side
    obtain ⟨g, hg, hrecord⟩ := exists_of_forall₂ hrecords
      (List.mem_product.mpr ⟨hname, settings.services_mem_kinds⟩)
    have hstays : ∀ directory, StaysIn (placeFrom [] directory) name := by
      intro directory
      rw [← ModuleKind.services.below_recordName_iff name [] directory]
      have hpath := Generation.IsRecord.name_eq hrecord
      exact hbelow [] directory _ g.content (write_mem_writeActions.mpr ⟨g, hg, by rw [hpath], rfl⟩)
    exact relative_of_staysIn (hstays "/a") (hstays "/b")
  · intro hnames here directory path content hwrite
    obtain ⟨name, hname, kind, -, -, hiff⟩ := hwritten here directory path content hwrite
    obtain ⟨hrelative, hup⟩ := hnames name hname
    exact hiff.mpr (staysIn_of_relative hrelative hup _)

/-! A name that goes down and up again, and one that climbs out of its output directory and comes
back. -/

namespace Passage

def asked : List String := ["api/../till.proto", "../out/shop.proto"]

def schemaSet : List File := asked.map fun name => { name }

theorem succeeds_generate : (Generation.generate asked schemaSet {}).Succeeds := ⟨_, rfl⟩

end Passage

theorem records_written_below_iff_passage :
    ∃ generated, (Generation.generate Passage.asked Passage.schemaSet {}).result = .ok generated ∧
      (∀ path content, .write path content ∈ writeActions "/srv/out" generated →
        Below ["srv", "out"] (placeFrom [] path)) ∧
      ¬ ∀ (here : List String) (directory path content : String),
        .write path content ∈ writeActions directory generated →
        Below (placeFrom here directory) (placeFrom here path) := by
  obtain ⟨generated, h⟩ := Passage.succeeds_generate
  obtain ⟨hwritten, hevery⟩ := records_written_below_iff _ _ _ generated h
  have hstays : ∀ name ∈ Passage.asked, StaysIn ["srv", "out"] name := by decide
  refine ⟨generated, h, ?_, ?_⟩
  · intro path content hwrite
    obtain ⟨name, hname, -, -, -, hiff⟩ := hwritten [] "/srv/out" path content hwrite
    exact hiff.mpr (hstays name hname)
  · rw [hevery]
    decide

/-- The records of a schema file whose name climbs are written beside the output directory. -/
theorem climbing_name_written_outside :
    ∃ generated, (Generation.generate ["../escape.proto"] [{ name := "../escape.proto" }] {}).result
        = .ok generated ∧
      ∃ content, .write "/srv/out/../escape_pb.ts" content ∈ writeActions "/srv/out" generated ∧
        placeFrom [] "/srv/out" = ["srv", "out"] ∧
        placeFrom [] "/srv/out/../escape_pb.ts" = ["srv", "escape_pb.ts"] ∧
        ¬ Below ["srv", "out"] ["srv", "escape_pb.ts"] := by
  refine ⟨_, rfl, _, List.mem_cons_self, by decide, by decide, ?_⟩
  rintro ⟨rest, -, h⟩
  exact absurd (List.cons.inj (List.cons.inj h).2).1 (by decide)

end CommandLine

end RpcStubs

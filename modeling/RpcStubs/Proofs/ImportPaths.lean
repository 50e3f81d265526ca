/-
# Import paths lead to modules

A module is imported by a relative path: first up to the root of the output,
then down to the module.  How far up it is to the root is counted from the
slashes in the name of the importing schema file, and not from the name of the
module that the import is written into.  The module stands in the same
directory: its name differs from that of the file behind the last slash only.

So the way up cancels the directory of the module, step by step, and the way
down is left (`resolve_toRoot`).  That needs file names in normal form.  A name
with an empty step, `.` or `..` has more slashes than directories to climb.
-/
import Mathlib.Data.List.TakeWhile
import RpcStubs.Disk
import RpcStubs.Import
import RpcStubs.Proofs.Pieces

namespace RpcStubs

namespace DiskPath

open Text

theorem toList_directory (path : String) :
    (directory path).toList = ['/'].intercalate (pieces '/' path.toList).dropLast := by
  unfold directory
  rw [String.toList_ofList]
  by_cases hmem : '/' ∈ path.toList
  · obtain ⟨before, last, hpath, hlast⟩ := exists_last_cut hmem
    have hskip : ∀ c ∈ last.reverse, decide (c ≠ '/') = true := by
      intro c hc
      exact decide_eq_true fun h => hlast (h ▸ List.mem_reverse.mp hc)
    have hreverse : path.toList.reverse = last.reverse ++ '/' :: before.reverse := by
      rw [hpath]
      simp
    rw [hreverse, List.dropWhile_append_of_pos hskip, List.dropWhile_cons_of_neg (by simp),
      List.drop_one, List.tail_cons, List.reverse_reverse, hpath, pieces_append_cons,
      pieces_of_notMem hlast, List.dropLast_concat, intercalate_pieces]
  · have hskip : ∀ c ∈ path.toList.reverse, decide (c ≠ '/') = true := by
      intro c hc
      exact decide_eq_true fun h => hmem (h ▸ List.mem_reverse.mp hc)
    rw [List.dropWhile_eq_nil_iff.mpr hskip, pieces_of_notMem hmem]
    rfl

/-! ## Normal form -/

/-- Where a step leads to, with the steps before it, the last of them first. -/
def take (before : List (List Char)) : List Char → List (List Char)
  | [] | ['.'] => before
  | ['.', '.'] =>
    match before with
    | [] => [['.', '.']]
    | last :: earlier => if last = ['.', '.'] then ['.', '.'] :: before else earlier
  | name => name :: before

/-- A relative path in normal form. -/
def normalise (path : String) : String :=
  String.ofList (['/'].intercalate ((pieces '/' path.toList).foldl take []).reverse)

/-- The normal form of a path that is seen from a directory. -/
def resolve (directory path : String) : String :=
  normalise (join directory path)

/-- A step by a name. -/
def IsName (step : List Char) : Prop :=
  step ≠ [] ∧ step ≠ ['.'] ∧ step ≠ ['.', '.']

instance (step : List Char) : Decidable (IsName step) :=
  inferInstanceAs (Decidable (_ ∧ _ ∧ _))

/-- A relative path that goes by names only. -/
def IsNormal (path : String) : Prop :=
  ∀ step ∈ pieces '/' path.toList, IsName step

instance (path : String) : Decidable (IsNormal path) :=
  inferInstanceAs (Decidable (∀ step ∈ _, _))

theorem take_name {step : List Char} (h : IsName step) (before : List (List Char)) :
    take before step = step :: before := by
  obtain ⟨hempty, hdot, hdots⟩ := h
  unfold take
  split
  · exact absurd rfl hempty
  · exact absurd rfl hdot
  · exact absurd rfl hdots
  · rfl

theorem foldl_take_names {steps : List (List Char)} (h : ∀ step ∈ steps, IsName step)
    (before : List (List Char)) : steps.foldl take before = steps.reverse ++ before := by
  induction steps generalizing before with
  | nil => rfl
  | cons step steps ih =>
      rw [List.foldl_cons, take_name (h step List.mem_cons_self),
        ih (fun s hs => h s (List.mem_cons_of_mem step hs)), List.reverse_cons, List.append_assoc]
      rfl

/-- As many steps up as there are names lead back to the start. -/
theorem foldl_take_up {before : List (List Char)} (h : ∀ step ∈ before, IsName step) :
    (List.replicate before.length ['.', '.']).foldl take before = [] := by
  induction before with
  | nil => rfl
  | cons last earlier ih =>
      have hlast : take (last :: earlier) ['.', '.'] = earlier := by
        show (if last = ['.', '.'] then _ else earlier) = earlier
        rw [if_neg (h last List.mem_cons_self).2.2]
      rw [List.length_cons, List.replicate_succ, List.foldl_cons, hlast]
      exact ih fun s hs => h s (List.mem_cons_of_mem last hs)

/-- What leads back to the start can be left out before a path in normal form. -/
theorem normalise_of_pieces {path rest : String} (steps : List (List Char)) (hrest : IsNormal rest)
    (hpieces : pieces '/' path.toList = steps ++ pieces '/' rest.toList)
    (hsteps : steps.foldl take [] = []) : normalise path = rest := by
  unfold normalise
  rw [hpieces, List.foldl_append, hsteps, foldl_take_names hrest, List.append_nil,
    List.reverse_reverse, intercalate_pieces, String.ofList_toList]

theorem pieces_up (depth : Nat) (cs : List Char) :
    pieces '/' ((List.replicate depth "../".toList).flatten ++ cs)
      = List.replicate depth ['.', '.'] ++ pieces '/' cs := by
  induction depth with
  | zero => rfl
  | succ depth ih =>
      have hdots : '/' ∉ ['.', '.'] := by decide
      rw [List.replicate_succ, List.flatten_cons, List.append_assoc]
      show pieces '/' (['.', '.'] ++ '/' :: ((List.replicate depth "../".toList).flatten ++ cs)) = _
      rw [pieces_append_separator hdots, ih]
      rfl

theorem IsNormal.nil_notMem {path : String} (h : IsNormal path) : [] ∉ pieces '/' path.toList := by
  intro hmem
  exact (h [] hmem).1 rfl

theorem IsNormal.ne_empty {path : String} (h : IsNormal path) : path ≠ "" := by
  rintro rfl
  exact h.nil_notMem (List.mem_singleton.mpr rfl)

theorem IsNormal.getLast?_ne {path : String} (h : IsNormal path) :
    path.toList.getLast? ≠ some '/' := by
  intro hlast
  obtain ⟨before, hcut⟩ := List.getLast?_eq_some_iff.mp hlast
  apply h.nil_notMem
  rw [hcut, pieces_append_cons]
  exact List.mem_append_right _ (List.mem_singleton.mpr rfl)

theorem join_empty (path : String) : join "" path = path := by
  unfold join
  split
  · rfl
  · rw [if_pos (.inl rfl), String.empty_append]

theorem pieces_join {base path : String} (hbase : IsNormal base) (hpath : isAbsolute path = false) :
    pieces '/' (join base path).toList = pieces '/' base.toList ++ pieces '/' path.toList := by
  have hstart : ¬ (base = "" ∨ base.toList.getLast? = some '/') := by
    rintro (h | h)
    · exact hbase.ne_empty h
    · exact hbase.getLast?_ne h
  have hchars : (base ++ "/" ++ path).toList = base.toList ++ '/' :: path.toList := by
    simp
  rw [join, hpath, if_neg (by simp), if_neg hstart, hchars, pieces_append_cons]

end DiskPath

namespace SchemaPath

open DiskPath Text

/-- A module stands in the directory of its schema file: their paths differ in the last piece. -/
theorem pieces_moduleStem (path : String) :
    ∃ front last last', pieces '/' path.toList = front ++ [last] ∧
      pieces '/' (moduleStem path).toList = front ++ [last'] ∧ (IsName last → IsName last') := by
  unfold moduleStem
  cases hstem : beforeSuffix? ending path.toList with
  | none =>
      obtain ⟨front, last, hlast, -⟩ := exists_last_piece '/' path.toList
      exact ⟨front, last, last, hlast, hlast, id⟩
  | some stem =>
      obtain ⟨front, last, -, happend⟩ := exists_last_piece '/' stem
      refine ⟨front, last ++ ending, last ++ generatedEnding.toList, ?_, ?_, ?_⟩
      · rw [beforeSuffix?_eq_some.mp hstem]
        exact happend ending (by decide)
      · rw [String.toList_append, String.toList_ofList]
        exact happend _ (by decide)
      · intro _
        have hmem : 'p' ∈ last ++ generatedEnding.toList := by simp [generatedEnding]
        refine ⟨?_, ?_, ?_⟩ <;> intro h <;> rw [h] at hmem <;> exact absurd hmem (by decide)

theorem isNormal_moduleStem {path : String} (h : IsNormal path) : IsNormal (moduleStem path) := by
  obtain ⟨front, last, last', hpath, hstem, hname⟩ := pieces_moduleStem path
  intro step hstep
  rw [hstem, List.mem_append, List.mem_singleton] at hstep
  unfold IsNormal at h
  rw [hpath] at h
  rcases hstep with hstep | rfl
  · exact h step (List.mem_append_left _ hstep)
  · exact hname (h last (List.mem_append_right _ (List.mem_singleton.mpr rfl)))

theorem toRoot_eq {path : String} {front : List (List Char)} {last : List Char}
    (h : pieces '/' path.toList = front ++ [last]) :
    toRoot path = if front = [] then "./"
      else String.ofList (List.replicate front.length "../".toList).flatten := by
  have hcount : path.toList.count '/' = front.length := by
    have hlength := length_pieces '/' path.toList
    rw [h, List.length_append, List.length_singleton] at hlength
    omega
  unfold toRoot
  rw [hcount]
  cases front with
  | nil => rfl
  | cons step front => rfl

/-- From the directory of a module, the way to the root and down to another module leads there. -/
theorem resolve_toRoot {host target suffix : String} (hhost : IsNormal host)
    (htarget : IsNormal target) (hsuffix : '/' ∉ suffix.toList) :
    resolve (directory (moduleStem host ++ suffix)) (toRoot host ++ moduleStem target)
      = moduleStem target := by
  obtain ⟨front, last, last', hpath, hstem, -⟩ := pieces_moduleStem host
  have hdirectory : (directory (moduleStem host ++ suffix)).toList = ['/'].intercalate front := by
    obtain ⟨front', last'', hlast, happend⟩ := exists_last_piece '/' (moduleStem host).toList
    obtain ⟨rfl, -⟩ := List.append_inj' (hstem.symm.trans hlast) rfl
    rw [toList_directory, String.toList_append, happend _ hsuffix, List.dropLast_concat]
  have hnames : ∀ step ∈ front, IsName step := by
    intro step hstep
    exact hhost step (hpath ▸ List.mem_append_left _ hstep)
  unfold resolve
  rw [toRoot_eq hpath]
  by_cases hfront : front = []
  · have hroot : directory (moduleStem host ++ suffix) = "" := by
      rw [← String.toList_eq_nil_iff, hdirectory, hfront]
      rfl
    rw [if_pos hfront, hroot]
    -- the one step leads nowhere
    refine normalise_of_pieces [['.']] (isNormal_moduleStem htarget) ?_ rfl
    rw [join_empty, String.toList_append]
    exact @pieces_append_separator '/' ['.'] (by decide) _
  · have hpieces : pieces '/' (directory (moduleStem host ++ suffix)).toList = front := by
      rw [hdirectory]
      refine pieces_intercalate hfront ?_
      intro step hstep
      exact notMem_of_mem_pieces (hpath ▸ List.mem_append_left _ hstep)
    have hnormal : IsNormal (directory (moduleStem host ++ suffix)) := by
      unfold IsNormal
      rwa [hpieces]
    rw [if_neg hfront]
    -- down the directory, and as many steps up again
    refine normalise_of_pieces (front ++ List.replicate front.length ['.', '.'])
      (isNormal_moduleStem htarget) ?_ ?_
    · have hrelative : isAbsolute (String.ofList (List.replicate front.length "../".toList).flatten
          ++ moduleStem target) = false := by
        obtain ⟨step, rest, rfl⟩ := List.exists_cons_of_ne_nil hfront
        unfold isAbsolute
        rw [String.toList_append, String.toList_ofList]
        rfl
      rw [pieces_join hnormal hrelative, hpieces, String.toList_append, String.toList_ofList,
        pieces_up, List.append_assoc]
    · rw [List.foldl_append, foldl_take_names hnames, List.append_nil, ← List.length_reverse]
      exact foldl_take_up (by simpa using hnames)

example : resolve "shop/v1" "../../common/money_pb" = "common/money_pb" := by decide

end SchemaPath

end RpcStubs

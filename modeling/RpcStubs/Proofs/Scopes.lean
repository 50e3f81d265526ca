/-
# Scopes are left as they were entered

The points of a script tell what a run writes, and where it stops.  This module
adds what holds between them: the scopes are NESTED.  Between the two points of
a scope is what is inside of it, and nothing else is.  So a scope is left, and a
block has its closing line, exactly if it was entered and the failure is not
inside; and as both points have the same scopes around them, the opening and the
closing line of a block stand in one column.

The theorem is about both ways to carry out a script, as a whole by a writer
that has written before (`Writer.carryOut`), and stroke by stroke on a sheet
(`Pen.Sheet.apply`).  It has no hypotheses: the level and the depth at the start
may be negative, and a failure may stand anywhere.
-/
import RpcStubs.Proofs.Sessions
import RpcStubs.Proofs.Strokes

namespace RpcStubs

namespace Script

open Pen (Sheet Stroke)

/-! ## Nesting -/

/-- A scope in a list of points, from where it is entered to where it is left: what stands between
is inside of the scope, and of what stands before and behind nothing is inside of it or at its
place. -/
structure Spans (xs : List Point) (scopes : List Nat) (number : Nat) (bounds : Bounds)
    (before inner after : List Point) : Prop where
  points : xs = before ++ ⟨scopes, number, .enter bounds⟩ ::
    (inner ++ ⟨scopes, number, .leave bounds⟩ :: after)
  inside : ∀ x ∈ inner, scopes ++ [number] <+: x.scopes
  outside : ∀ x ∈ before ++ after, ¬ scopes ++ [number] <+: x.place

/-- The lines around the scope that is entered or left at a point. -/
def Part.bounds? : Part → Option Bounds
  | .enter bounds | .leave bounds => some bounds
  | _ => none

/-- Whatever point a scope is entered or left at, the scope spans part of the list. -/
def Nested (xs : List Point) : Prop :=
  ∀ x ∈ xs, ∀ bounds, x.part.bounds? = some bounds →
    ∃ before inner after, Spans xs x.scopes x.number bounds before inner after

/-- The number of the outermost step that leads to a point. -/
def Point.root (x : Point) : Nat := x.scopes.headD x.number

section Nesting

variable {n number : Nat} {scopes : List Nat} {bounds : Bounds}
  {before inner after xs ys : List Point} {x : Point}

theorem Point.root_eq_of_place (h : scopes ++ [number] <+: x.place) :
    x.root = scopes.headD number := by
  obtain ⟨rest, hrest⟩ := h
  have hhead : x.place.head? = some (scopes.headD number) := by
    rw [← hrest]
    cases scopes <;> rfl
  unfold place at hhead
  unfold root
  cases hscopes : x.scopes <;> simpa [hscopes] using hhead

theorem nested_singleton (h : x.part.bounds? = none) : Nested [x] := by
  intro y hy bounds hbounds
  rw [List.mem_singleton.mp hy, h] at hbounds
  cases hbounds

/-- Lists of points that belong to different steps are nested together. -/
theorem Nested.append (hx : Nested xs) (hy : Nested ys)
    (hroots : ∀ x ∈ xs, ∀ y ∈ ys, x.root ≠ y.root) :
    Nested (xs ++ ys) := by
  intro z hz bounds hbounds
  -- The scope keeps its span; the points of the other list have another number at the root.
  rcases List.mem_append.mp hz with hz | hz
  · obtain ⟨before, inner, after, hspan⟩ := hx z hz bounds hbounds
    refine ⟨before, inner, after ++ ys, by simp [hspan.points], hspan.inside, ?_⟩
    intro y hy
    rw [← List.append_assoc] at hy
    rcases List.mem_append.mp hy with hy | hy
    · exact hspan.outside y hy
    · exact fun hplace => hroots z hz y hy (Point.root_eq_of_place hplace).symm
  · obtain ⟨before, inner, after, hspan⟩ := hy z hz bounds hbounds
    refine ⟨xs ++ before, inner, after, by simp [hspan.points], hspan.inside, ?_⟩
    intro y hy
    rw [List.append_assoc] at hy
    rcases List.mem_append.mp hy with hy | hy
    · exact fun hplace => hroots y hy z hz (Point.root_eq_of_place hplace)
    · exact hspan.outside y hy

theorem Nested.enclose (h : Nested inner) : Nested (enclose n bounds inner) := by
  have hown : Spans (Script.enclose n bounds inner) [] n bounds [] (inner.map (·.inside n)) [] := by
    refine ⟨rfl, fun x hx => ?_, List.forall_mem_nil _⟩
    obtain ⟨y, -, rfl⟩ := List.mem_map.mp hx
    exact ⟨y.scopes, rfl⟩
  intro x hx b hb
  rcases List.mem_cons.mp hx with rfl | hx
  · cases hb
    exact ⟨_, _, _, hown⟩
  rcases List.mem_append.mp hx with hx | hx
  · obtain ⟨y, hy, rfl⟩ := List.mem_map.mp hx
    obtain ⟨before, between, after, hspan⟩ := h y hy b hb
    refine ⟨⟨[], n, .enter bounds⟩ :: before.map (·.inside n), between.map (·.inside n),
      after.map (·.inside n) ++ [⟨[], n, .leave bounds⟩], ?_, ?_, ?_⟩
    · rw [Script.enclose, hspan.points]
      simp [Point.inside]
    · intro z hz
      obtain ⟨w, hw, rfl⟩ := List.mem_map.mp hz
      exact List.cons_prefix_cons.mpr ⟨rfl, hspan.inside w hw⟩
    · intro z hz hinside
      have hcases : (∃ w ∈ before ++ after, w.inside n = z) ∨ z.place = [n] := by
        simp only [List.cons_append, List.mem_cons, List.mem_append, List.mem_map,
          List.not_mem_nil, or_false] at hz ⊢
        rcases hz with rfl | ⟨w, hw, rfl⟩ | ⟨w, hw, rfl⟩ | rfl
        · exact .inr rfl
        · exact .inl ⟨w, .inl hw, rfl⟩
        · exact .inl ⟨w, .inr hw, rfl⟩
        · exact .inr rfl
      rcases hcases with ⟨w, hw, rfl⟩ | hplace
      · exact hspan.outside w hw (List.cons_prefix_cons.mp hinside).2
      · rw [hplace] at hinside
        have hnil := (List.cons_prefix_cons.mp hinside).2
        simp at hnil
  · cases List.mem_singleton.mp hx
    cases hb
    exact ⟨_, _, _, hown⟩

theorem root_enclose (h : x ∈ Script.enclose n bounds inner) : x.root = n := by
  rcases List.mem_cons.mp h with rfl | h
  · rfl
  rcases List.mem_append.mp h with h | h
  · obtain ⟨y, -, rfl⟩ := List.mem_map.mp h
    rfl
  · rw [List.mem_singleton.mp h]
    rfl

theorem le_root (s : Script) (n : Nat) : ∀ x ∈ s.pointsFrom n, n ≤ x.root := by
  have hstep : ∀ {y : Point} {rest : Script} (n : Nat), y.root = n →
      (∀ x ∈ rest.pointsFrom (n + 1), n + 1 ≤ x.root) →
      ∀ x ∈ y :: rest.pointsFrom (n + 1), n ≤ x.root := by
    intro y rest n hy hrest
    exact List.forall_mem_cons.mpr
      ⟨Nat.le_of_eq hy.symm, fun x hx => Nat.le_of_succ_le (hrest x hx)⟩
  induction s using scope_induction generalizing n with
  | done => exact List.forall_mem_nil _
  | fail e => exact List.forall_mem_singleton.mpr (Nat.le_refl n)
  | report event rest ih => exact ih n
  | line text rest ih => exact hstep n rfl (ih (n + 1))
  | blank rest ih => exact hstep n rfl (ih (n + 1))
  | scope bounds body rest _ ihr =>
      rw [pointsFrom_scope]
      intro x hx
      rcases List.mem_append.mp hx with hx | hx
      · exact Nat.le_of_eq (root_enclose hx).symm
      · exact Nat.le_of_succ_le (ihr (n + 1) x hx)

theorem nested_pointsFrom (s : Script) (n : Nat) : Nested (s.pointsFrom n) := by
  have hstep : ∀ {xs : List Point} {rest : Script} (n : Nat), Nested xs → (∀ x ∈ xs, x.root = n) →
      Nested (rest.pointsFrom (n + 1)) → Nested (xs ++ rest.pointsFrom (n + 1)) := by
    intro xs rest n hxs hroots hrest
    refine hxs.append hrest fun x hx y hy hsame => ?_
    have hy := le_root rest (n + 1) y hy
    have hx := hroots x hx
    omega
  induction s using scope_induction generalizing n with
  | done => exact List.forall_mem_nil _
  | fail e => exact nested_singleton rfl
  | report event rest ih => exact ih n
  | line text rest ih =>
      exact hstep n (nested_singleton rfl) (List.forall_mem_singleton.mpr rfl) (ih (n + 1))
  | blank rest ih =>
      exact hstep n (nested_singleton rfl) (List.forall_mem_singleton.mpr rfl) (ih (n + 1))
  | scope bounds body rest ihb ihr =>
      rw [pointsFrom_scope]
      exact hstep n (ihb 0).enclose (fun x hx => root_enclose hx) (ihr (n + 1))

theorem mem_upToFailure_iff (h : x ∉ before) :
    x ∈ upToFailure (before ++ x :: after) ↔ before.any (·.fails) = false := by
  constructor
  · intro hmem
    refine Bool.eq_false_iff.mpr fun hany => h ?_
    rw [upToFailure_append_of_any hany] at hmem
    exact upToFailure_subset before hmem
  · intro hany
    rw [upToFailure_append hany, List.mem_append, upToFailure]
    refine .inr ?_
    split <;> exact List.mem_cons_self

theorem Spans.leave_mem_iff (h : Spans xs scopes number bounds before inner after) :
    ⟨scopes, number, .leave bounds⟩ ∈ upToFailure xs ↔
      ⟨scopes, number, .enter bounds⟩ ∈ upToFailure xs ∧
        ∀ x, xs.find? (·.fails) = some x → ¬ scopes ++ [number] <+: x.scopes := by
  have hbefore : ∀ part, (⟨scopes, number, part⟩ : Point) ∉ before := by
    intro part hmem
    exact h.outside _ (List.mem_append_left _ hmem) (List.prefix_refl _)
  have hinner : ∀ part, (⟨scopes, number, part⟩ : Point) ∉ inner := by
    intro part hmem
    have hlength := (h.inside _ hmem).length_le
    rw [List.length_append] at hlength
    exact Nat.not_succ_le_self _ hlength
  have hleave : (⟨scopes, number, .leave bounds⟩ : Point)
      ∉ before ++ ⟨scopes, number, .enter bounds⟩ :: inner := by
    simp [hbefore, hinner]
  have hpoints : xs = before ++ ⟨scopes, number, .enter bounds⟩ :: inner
      ++ ⟨scopes, number, .leave bounds⟩ :: after := by
    simp [h.points]
  have hentered :
      ⟨scopes, number, .enter bounds⟩ ∈ upToFailure xs ↔ before.any (·.fails) = false := by
    rw [h.points]
    exact mem_upToFailure_iff (hbefore _)
  rw [hentered, hpoints, mem_upToFailure_iff hleave, ← hpoints, List.any_append, List.any_cons,
    Bool.or_eq_false_iff]
  refine and_congr_right fun hnone => ?_
  show inner.any (·.fails) = false ↔ _
  constructor
  · intro hfine x hx hinside
    have hfails := List.find?_some hx
    have hmem := List.mem_of_find?_eq_some hx
    have hplace : scopes ++ [number] <+: x.place := hinside.trans (List.prefix_append _ _)
    rw [h.points, List.mem_append, List.mem_cons, List.mem_append, List.mem_cons] at hmem
    rcases hmem with hmem | rfl | hmem | rfl | hmem
    · exact h.outside x (List.mem_append_left _ hmem) hplace
    · cases hfails
    · exact List.any_eq_false.mp hfine x hmem hfails
    · cases hfails
    · exact h.outside x (List.mem_append_right _ hmem) hplace
  · intro hoff
    refine Bool.eq_false_iff.mpr fun hany => ?_
    have hsome : (inner.find? (·.fails)).isSome = true := by
      rw [List.find?_isSome]
      simpa using hany
    obtain ⟨x, hx⟩ := Option.isSome_iff_exists.mp hsome
    have hfirst : xs.find? (·.fails) = some x := by
      rw [h.points, List.find?_append, List.find?_eq_none.mpr (List.any_eq_false.mp hnone),
        Option.none_or, List.find?_cons_of_neg Bool.false_ne_true, List.find?_append, hx]
      rfl
    exact hoff x hfirst (h.inside x (List.mem_of_find?_eq_some hx))

/-- A scope is left exactly if it is entered and the failure, if there is one, is not inside. -/
theorem Nested.leave_mem_iff (h : Nested xs) :
    ⟨scopes, number, .leave bounds⟩ ∈ upToFailure xs ↔
      ⟨scopes, number, .enter bounds⟩ ∈ upToFailure xs ∧
        ∀ x, xs.find? (·.fails) = some x → ¬ scopes ++ [number] <+: x.scopes := by
  constructor
  · intro hmem
    obtain ⟨_, _, _, hspan⟩ := h _ (upToFailure_subset xs hmem) bounds rfl
    exact hspan.leave_mem_iff.mp hmem
  · intro hmem
    obtain ⟨_, _, _, hspan⟩ := h _ (upToFailure_subset xs hmem.1) bounds rfl
    exact hspan.leave_mem_iff.mpr hmem

end Nesting

/-! ## The theorem -/

/-- A script at any level and depth, with any failure in it, carried out as a whole and stroke by
stroke.  What was there is kept, and up to the first failure each point adds its text: a line behind
as many spaces as the level and the scopes around it give.  The failure comes out, and the pen is
where it was.  The depth is in step with the open scopes throughout, whatever the strokes are.  The
scopes are nested, and one is left, with its closing line if it has one, exactly if it is entered
and the failure is not inside. -/
theorem scopes_exact (s : Script) (pen : Pen) (written : List Line) :
    Writer.carryOut ⟨pen, written⟩ s
      = (⟨pen, written ++ s.visited.flatMap (·.lines pen)⟩, s.points.findSome? (·.part.failure?)) ∧
    Line.render (Writer.carryOut ⟨pen, written⟩ s).1.written
      = Line.render written ++ String.join (s.visited.map (·.text pen)) ∧
    (Sheet.mk pen []).applyAll (s.visited.map (·.part.stroke))
      = (⟨pen, []⟩, s.visited.map (·.seen pen.depth pen)) ∧
    (∀ x : Point, (x.seen pen.depth pen).2 = x.text pen) ∧
    (∀ strokes : List Stroke, Sheet.Stands pen ((Sheet.mk pen []).applyAll strokes).1) ∧
    Nested s.points ∧
    ∀ (scopes : List Nat) (number : Nat) (bounds : Bounds),
      ⟨scopes, number, .leave bounds⟩ ∈ s.visited ↔
        ⟨scopes, number, .enter bounds⟩ ∈ s.visited ∧
          ∀ x, s.points.find? (·.fails) = some x → ¬ scopes ++ [number] <+: x.scopes := by
  have hstart := Sheet.stands_start pen
  have hnested : Nested s.points := nested_pointsFrom s 0
  have hcarried : Writer.carryOut ⟨pen, written⟩ s
      = (⟨pen, written ++ s.visited.flatMap (·.lines pen)⟩,
          s.points.findSome? (·.part.failure?)) := by
    rw [Writer.carryOut_eq, lines_run s pen 0, failure_eq s 0]
    rfl
  refine ⟨hcarried, ?_, ?_, fun x => x.render_lines pen, hstart.applyAll, hnested,
    fun _ _ _ => hnested.leave_mem_iff⟩
  · rw [hcarried, Line.render_append, Line.render_flatMap]
    exact congrArg (Line.render written ++ String.join ·)
      (List.map_congr_left fun x _ => x.render_lines pen)
  · have hstrokes := applyAll_visited s hstart 0
    rw [ite_self] at hstrokes
    exact hstrokes

/-- Two blocks from one step outside of the margin on, with a failure in the inner one. -/
example (e : Failure) :
    Writer.carryOut ⟨⟨1, -1⟩, []⟩
        (.block "a" "b" (.line "x" (.block "c" "d" (.line "y" (.fail e)) .done)) (.line "z" .done))
      = (⟨⟨1, -1⟩, [.code 4 "a", .code 4 "x", .code 4 "c", .code 6 "y"]⟩, some e) := rfl

end Script

end RpcStubs

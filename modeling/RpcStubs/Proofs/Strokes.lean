/-
# Stroke by stroke

A pen can be moved one stroke at a time.  Nothing then says which strokes belong
together; the sheet keeps a list of the scopes that are open, and a failure
leaves them all at once.

Whatever the strokes are, the depth is in step with that list (`Sheet.Stands`),
so that the pen is where it started whenever no scope is open.  For the strokes
of a script there is more to say: the depth behind each of them and the text
that it adds are what stands at the points of the script (`applyAll_visited`).
That is an induction on the script, for any scopes that are open around it: the
body of a scope is a script in the middle of a sheet.
-/
import RpcStubs.Proofs.Points

namespace RpcStubs

/-! ## Any strokes -/

namespace Pen.Sheet

/-- Strokes one after the other.  Gives the sheet as it is left, and for each stroke the depth
behind it and the text that it adds. -/
def applyAll (sheet : Sheet) : List Stroke → Sheet × List (Int × String)
  | [] => (sheet, [])
  | stroke :: strokes =>
    let next := sheet.apply stroke
    let last := next.1.applyAll strokes
    (last.1, (next.1.pen.depth, next.2) :: last.2)

theorem applyAll_append (sheet : Sheet) (ss ts : List Stroke) :
    sheet.applyAll (ss ++ ts)
      = (((sheet.applyAll ss).1.applyAll ts).1,
          (sheet.applyAll ss).2 ++ ((sheet.applyAll ss).1.applyAll ts).2) := by
  induction ss generalizing sheet with
  | nil => rfl
  | cons stroke ss ih =>
      rw [List.cons_append, applyAll, ih]
      rfl

/-- The pen is as many steps deeper than at the start as there are open scopes. -/
def Stands (start : Pen) (sheet : Sheet) : Prop :=
  sheet.pen = { start with depth := start.depth + sheet.scopes.length }

variable {start pen : Pen} {scope : Scope} {scopes : List Scope} {sheet : Sheet}

theorem stands_start (start : Pen) : Stands start ⟨start, []⟩ := by
  simp [Stands]

theorem Stands.enter (h : Stands start ⟨pen, scopes⟩) :
    Stands start ⟨pen.deeper, scope :: scopes⟩ := by
  unfold Stands at h ⊢
  dsimp only at h ⊢
  rw [h, deeper, List.length_cons]
  simp [Int.add_assoc]

theorem Stands.leave (h : Stands start ⟨pen, scope :: scopes⟩) :
    Stands start ⟨pen.shallower, scopes⟩ := by
  unfold Stands at h ⊢
  dsimp only at h ⊢
  rw [h, shallower, List.length_cons]
  simp [Int.add_sub_assoc]

theorem Stands.foldl_shallower (h : Stands start ⟨pen, scopes⟩) :
    scopes.foldl (fun p _ => p.shallower) pen = start := by
  induction scopes generalizing pen with
  | nil =>
      unfold Stands at h
      simpa using h
  | cons scope scopes ih => exact ih h.leave

/-- A stroke, whichever it is, keeps the depth in step with the open scopes. -/
theorem Stands.apply (h : Stands start sheet) (stroke : Stroke) :
    Stands start (sheet.apply stroke).1 := by
  obtain ⟨pen, scopes⟩ := sheet
  cases stroke with
  | plain text => exact h
  | inner text => exact h
  | verbatim text => exact h
  | blank => exact h
  | lines texts => exact h
  | indent => exact h.enter
  | block opening closing => exact h.enter
  | leave =>
      cases scopes with
      | nil => exact h
      | cons scope scopes =>
          cases scope with
          | indented => exact h.leave
          | block closing => exact h.leave
  | fail =>
      show Stands start ⟨scopes.foldl _ pen, []⟩
      rw [h.foldl_shallower]
      exact stands_start start

theorem Stands.applyAll (h : Stands start sheet) (strokes : List Stroke) :
    Stands start (sheet.applyAll strokes).1 := by
  induction strokes generalizing sheet with
  | nil => exact h
  | cons stroke strokes ih => exact ih (h.apply stroke)

end Pen.Sheet

/-! ## The strokes of a script -/

namespace Script

open Pen (Sheet Stroke)

/-- The stroke that carries out what stands at a point. -/
def Part.stroke : Part → Stroke
  | .text t => .lines [t]
  | .blank => .blank
  | .enter none => .indent
  | .enter (some (opening, closing)) => .block opening closing
  | .leave _ => .leave
  | .failure _ => .fail

/-- The depth behind a point of a script that starts at a depth.  A failure leaves all scopes, also
those around the script; `outside` is the depth out of them. -/
def Point.depthBehind (outside start : Int) (x : Point) : Int :=
  match x.part with
  | .enter _ => start + x.scopes.length + 1
  | .failure _ => outside
  | _ => start + x.scopes.length

/-- What is seen of the stroke at a point: the depth behind it, and the text that it adds. -/
def Point.seen (outside : Int) (pen : Pen) (x : Point) : Int × String :=
  (x.depthBehind outside pen.depth, Line.render (x.lines pen))

section Seen

variable {outside : Int} {pen start : Pen} {n : Nat} {bounds : Bounds} {scopes : List Pen.Scope}

theorem Point.seen_inside (x : Point) :
    (x.inside n).seen outside pen = x.seen outside pen.deeper := by
  unfold seen
  rw [lines_inside]
  congr 1
  cases hpart : x.part <;>
    simp [depthBehind, inside, hpart, Pen.deeper, Int.add_comm, Int.add_left_comm]

theorem map_seen_inside (xs : List Point) :
    (xs.map (·.inside n)).map (·.seen outside pen) = xs.map (·.seen outside pen.deeper) := by
  rw [List.map_map]
  exact List.map_congr_left fun x _ => x.seen_inside

theorem map_stroke_inside (xs : List Point) :
    (xs.map (·.inside n)).map (·.part.stroke) = xs.map (·.part.stroke) := by
  rw [List.map_map]
  rfl

/-- How a scope stands in the list of the open ones. -/
def Bounds.opened : Bounds → Pen.Scope
  | none => .indented
  | some (_, closing) => .block closing

theorem apply_enter : (Sheet.mk pen scopes).apply (Part.enter bounds).stroke
    = (⟨pen.deeper, bounds.opened :: scopes⟩,
        Line.render ((⟨[], n, .enter bounds⟩ : Point).lines pen)) := by
  cases bounds with
  | none => rfl
  | some b => simp [Sheet.apply, Part.stroke, Bounds.opened, Point.lines, Point.code_column_top]

theorem apply_leave :
    (Sheet.mk pen.deeper (bounds.opened :: scopes)).apply (Part.leave bounds).stroke
    = (⟨pen, scopes⟩, Line.render ((⟨[], n, .leave bounds⟩ : Point).lines pen)) := by
  cases bounds with
  | none => simp [Sheet.apply, Part.stroke, Bounds.opened, Point.lines]
  | some b => simp [Sheet.apply, Part.stroke, Bounds.opened, Point.lines, Point.code_column_top]

theorem Point.seen_enter : (⟨[], n, .enter bounds⟩ : Point).seen outside pen
    = (pen.deeper.depth, Line.render ((⟨[], n, .enter bounds⟩ : Point).lines pen)) := by
  simp [seen, depthBehind, Pen.deeper]

theorem Point.seen_leave : (⟨[], n, .leave bounds⟩ : Point).seen outside pen
    = (pen.depth, Line.render ((⟨[], n, .leave bounds⟩ : Point).lines pen)) := by
  simp [seen, depthBehind]

theorem Point.seen_text (text : String) : (⟨[], n, .text text⟩ : Point).seen outside pen
    = (pen.depth, Line.render [pen.line text]) := by
  simp [seen, depthBehind, lines_text]

theorem Point.seen_blank : (⟨[], n, .blank⟩ : Point).seen outside pen
    = (pen.depth, Line.render [.blank]) := by
  simp [seen, depthBehind, lines]

theorem applyAll_cons {x : Point} {sheet next last : Sheet} {text : String} {strokes : List Stroke}
    {ys : List (Int × String)} (hx : sheet.apply x.part.stroke = (next, text))
    (hseen : x.seen outside pen = (next.pen.depth, text))
    (hrest : next.applyAll strokes = (last, ys)) :
    sheet.applyAll (x.part.stroke :: strokes) = (last, x.seen outside pen :: ys) := by
  rw [Sheet.applyAll, hx, hrest, hseen]

theorem applyAll_enclose {inner : List Point}
    (h : (Sheet.mk pen.deeper (bounds.opened :: scopes)).applyAll (inner.map (·.part.stroke))
      = (⟨pen.deeper, bounds.opened :: scopes⟩, inner.map (·.seen outside pen.deeper))) :
    (Sheet.mk pen scopes).applyAll ((enclose n bounds inner).map (·.part.stroke))
      = (⟨pen, scopes⟩, (enclose n bounds inner).map (·.seen outside pen)) := by
  have hleave :
      (Sheet.mk pen.deeper (bounds.opened :: scopes)).applyAll [(Part.leave bounds).stroke]
      = (⟨pen, scopes⟩, [(⟨[], n, .leave bounds⟩ : Point).seen outside pen]) :=
    applyAll_cons apply_leave Point.seen_leave rfl
  rw [enclose, List.map_cons, List.map_cons, List.map_append, List.map_append, map_stroke_inside,
    map_seen_inside]
  refine applyAll_cons apply_enter Point.seen_enter ?_
  show Sheet.applyAll _ (_ ++ [(Part.leave bounds).stroke]) = _
  rw [Sheet.applyAll_append, h, hleave]
  rfl

/-- Stroke by stroke, inside of any open scopes: a script that does not fail leaves the sheet as it
was, and one that fails leaves all scopes.  What is seen on the way is what stands at the points. -/
theorem applyAll_visited (s : Script) (h : Sheet.Stands start ⟨pen, scopes⟩) (n : Nat) :
    (Sheet.mk pen scopes).applyAll ((upToFailure (s.pointsFrom n)).map (·.part.stroke))
      = (if s.failure.isSome then ⟨start, []⟩ else ⟨pen, scopes⟩,
          (upToFailure (s.pointsFrom n)).map (·.seen start.depth pen)) := by
  induction s using scope_induction generalizing pen scopes n with
  | done => rfl
  | fail e =>
      have hout : (Sheet.mk pen scopes).apply .fail = (⟨start, []⟩, "") := by
        rw [Sheet.apply, h.foldl_shallower]
      show (Sheet.mk pen scopes).applyAll [.fail] = (⟨start, []⟩, [(start.depth, "")])
      rw [Sheet.applyAll, hout]
      rfl
  | report event rest ih => exact ih h n
  | line text rest ih => exact applyAll_cons rfl (Point.seen_text text) (ih h (n + 1))
  | blank rest ih => exact applyAll_cons rfl Point.seen_blank (ih h (n + 1))
  | scope bounds body rest ihb ihr =>
      -- The body runs on a sheet with one scope more; without a failure that scope is on top again
      -- when the body is done, and it is the one that the stroke behind it leaves.
      have hany := any_pointsFrom body 0
      have hinside : Sheet.Stands start ⟨pen.deeper, bounds.opened :: scopes⟩ := h.enter
      have hbody := ihb hinside 0
      rw [pointsFrom_scope, failure_scope]
      cases hfailure : body.failure with
      | some e =>
          rw [hfailure] at hany hbody
          rw [upToFailure_append_of_any (any_enclose.trans hany), upToFailure_enclose hany,
            List.map_cons, List.map_cons, map_stroke_inside, map_seen_inside]
          exact applyAll_cons apply_enter Point.seen_enter hbody
      | none =>
          rw [hfailure] at hany hbody
          rw [upToFailure_eq_self hany] at hbody
          rw [upToFailure_append (any_enclose.trans hany), List.map_append, List.map_append,
            Sheet.applyAll_append, applyAll_enclose hbody, ihr h (n + 1)]
          rfl

end Seen

end Script

end RpcStubs

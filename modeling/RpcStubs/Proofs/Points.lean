/-
# The points of a script

A script is a tree, and a run may stop anywhere in it.  What is written down is
a list: the POINTS of the script from its beginning to its end, as if nothing
failed.  A scope has two of them, where it is entered and where it is left, and
both have the same number among the steps around the scope.

All that is to say about a run is said of this list.  A run comes to the points
up to the first failure and to no other (`lines_run`).  What it writes at a
point depends on the pen at the start and on how many scopes there are around
the point, and on nothing that happened before.
-/
import RpcStubs.Proofs.Scripts

namespace RpcStubs

namespace Script

/-! ## Points -/

/-- The lines around a scope: none, or an opening and a closing line. -/
abbrev Bounds := Option (String × String)

/-- What stands at a point. -/
inductive Part where
  | text (t : String)
  | blank
  | enter (bounds : Bounds)
  | leave (bounds : Bounds)
  | failure (e : Failure)

/-- A point of a script: the numbers of the scopes around it, from the outermost on, and its own. -/
structure Point where
  scopes : List Nat
  number : Nat
  part : Part

/-- The failure that stands at a point. -/
def Part.failure? : Part → Option Failure
  | .failure e => some e
  | _ => none

namespace Point

/-- The numbers that lead to a point. -/
def place (x : Point) : List Nat := x.scopes ++ [x.number]

/-- A point as a point inside of a scope. -/
def inside (n : Nat) (x : Point) : Point := { x with scopes := n :: x.scopes }

/-- Whether a script fails at a point. -/
def fails (x : Point) : Bool := x.part.failure?.isSome

/-- The column of a line at a point: four to a level, and two to a step of depth. -/
def column (pen : Pen) (x : Point) : Nat :=
  4 * pen.level.toNat + 2 * (pen.depth + x.scopes.length).toNat

/-- What a pen writes at a point. -/
def lines (pen : Pen) (x : Point) : List Line :=
  match x.part with
  | .text t => [.code (x.column pen) t]
  | .blank => [.blank]
  | .enter (some (opening, _)) => [.code (x.column pen) opening]
  | .leave (some (_, closing)) => [.code (x.column pen) closing]
  | .enter none | .leave none | .failure _ => []

/-- The text of it: a line stands behind as many spaces as its column says. -/
def text (pen : Pen) (x : Point) : String :=
  match x.part with
  | .text t | .enter (some (t, _)) | .leave (some (_, t)) => Line.spaces (x.column pen) ++ t ++ "\n"
  | .blank => "\n"
  | .enter none | .leave none | .failure _ => ""

theorem render_lines (pen : Pen) (x : Point) : Line.render (x.lines pen) = x.text pen := by
  rcases x with ⟨scopes, number, t | _ | (_ | bounds) | (_ | bounds) | e⟩
  case text => exact Line.render_code _ t
  case enter.some => exact Line.render_code _ bounds.1
  case leave.some => exact Line.render_code _ bounds.2
  all_goals rfl

end Point

/-- The points of a scope. -/
def enclose (n : Nat) (bounds : Bounds) (inner : List Point) : List Point :=
  ⟨[], n, .enter bounds⟩ :: (inner.map (·.inside n) ++ [⟨[], n, .leave bounds⟩])

/-- The points of a script whose steps are numbered from `n` on. -/
def pointsFrom (n : Nat) : Script → List Point
  | .done => []
  | .fail e => [⟨[], n, .failure e⟩]
  | .report _ rest => rest.pointsFrom n
  | .line text rest => ⟨[], n, .text text⟩ :: rest.pointsFrom (n + 1)
  | .blank rest => ⟨[], n, .blank⟩ :: rest.pointsFrom (n + 1)
  | .indented body rest => enclose n none (body.pointsFrom 0) ++ rest.pointsFrom (n + 1)
  | .block opening closing body rest =>
    enclose n (some (opening, closing)) (body.pointsFrom 0) ++ rest.pointsFrom (n + 1)

/-- The points of a script, from its beginning to its end. -/
def points (s : Script) : List Point := s.pointsFrom 0

/-- Points up to the first failure, that one included. -/
def upToFailure : List Point → List Point
  | [] => []
  | x :: xs => if x.fails then [x] else x :: upToFailure xs

/-- The points that a run comes to. -/
def visited (s : Script) : List Point := upToFailure s.points

/-! ## Scopes as steps -/

/-- A step that is a scope. -/
def scope : Bounds → Script → Script → Script
  | none, body, rest => .indented body rest
  | some (opening, closing), body, rest => .block opening closing body rest

/-- Induction on a script, with one case for both kinds of scopes. -/
@[elab_as_elim]
theorem scope_induction {motive : Script → Prop} (done : motive .done)
    (fail : ∀ e, motive (.fail e))
    (report : ∀ event rest, motive rest → motive (.report event rest))
    (line : ∀ text rest, motive rest → motive (.line text rest))
    (blank : ∀ rest, motive rest → motive (.blank rest))
    (scope : ∀ bounds body rest, motive body → motive rest → motive (scope bounds body rest))
    (s : Script) : motive s := by
  induction s with
  | done => exact done
  | fail e => exact fail e
  | report event rest ih => exact report event rest ih
  | line text rest ih => exact line text rest ih
  | blank rest ih => exact blank rest ih
  | indented body rest ihb ihr => exact scope none body rest ihb ihr
  | block opening closing body rest ihb ihr =>
      exact scope (some (opening, closing)) body rest ihb ihr

theorem pointsFrom_scope (n : Nat) (bounds : Bounds) (body rest : Script) :
    (scope bounds body rest).pointsFrom n
      = enclose n bounds (body.pointsFrom 0) ++ rest.pointsFrom (n + 1) := by
  cases bounds <;> rfl

theorem failure_scope (bounds : Bounds) (body rest : Script) :
    (scope bounds body rest).failure = body.failure.or rest.failure := by
  cases bounds <;> rfl

/-! ## Failures -/

section Failures

variable {n : Nat} {bounds : Bounds} {inner xs ys : List Point}

theorem Point.fails_inside (x : Point) : (x.inside n).fails = x.fails := rfl

theorem findSome?_enclose :
    (enclose n bounds inner).findSome? (·.part.failure?) = inner.findSome? (·.part.failure?) := by
  show (inner.map (Point.inside n) ++ [(⟨[], n, .leave bounds⟩ : Point)]).findSome? _ = _
  rw [List.findSome?_append, List.findSome?_map]
  exact Option.or_none

theorem failure_eq (s : Script) (n : Nat) :
    s.failure = (s.pointsFrom n).findSome? (·.part.failure?) := by
  induction s using scope_induction generalizing n with
  | done => rfl
  | fail e => rfl
  | report event rest ih => exact ih n
  | line text rest ih => exact ih (n + 1)
  | blank rest ih => exact ih (n + 1)
  | scope bounds body rest ihb ihr =>
      rw [pointsFrom_scope, failure_scope, List.findSome?_append, findSome?_enclose, ← ihb, ← ihr]

theorem any_fails (xs : List Point) :
    xs.any (·.fails) = (xs.findSome? (·.part.failure?)).isSome :=
  List.isSome_findSome?.symm

theorem any_enclose : (enclose n bounds inner).any (·.fails) = inner.any (·.fails) := by
  rw [any_fails, findSome?_enclose, any_fails]

theorem any_pointsFrom (s : Script) (n : Nat) :
    (s.pointsFrom n).any (·.fails) = s.failure.isSome := by
  rw [any_fails, ← failure_eq]

theorem upToFailure_append (h : xs.any (·.fails) = false) (ys : List Point) :
    upToFailure (xs ++ ys) = xs ++ upToFailure ys := by
  induction xs with
  | nil => rfl
  | cons x xs ih =>
      rw [List.any_cons, Bool.or_eq_false_iff] at h
      rw [List.cons_append, upToFailure, h.1, ih h.2]
      rfl

theorem upToFailure_append_of_any (h : xs.any (·.fails) = true) (ys : List Point) :
    upToFailure (xs ++ ys) = upToFailure xs := by
  induction xs with
  | nil => cases h
  | cons x xs ih =>
      rw [List.cons_append, upToFailure, upToFailure]
      cases hx : x.fails with
      | true => rfl
      | false =>
          rw [List.any_cons, hx, Bool.false_or] at h
          rw [ih h]

theorem upToFailure_eq_self (h : xs.any (·.fails) = false) : upToFailure xs = xs := by
  have hall := upToFailure_append h []
  rwa [List.append_nil, upToFailure, List.append_nil] at hall

theorem upToFailure_subset (xs : List Point) : upToFailure xs ⊆ xs := by
  induction xs with
  | nil => exact List.Subset.refl []
  | cons x xs ih =>
      rw [upToFailure]
      split
      next => exact List.cons_subset_cons x (List.nil_subset xs)
      next => exact List.cons_subset_cons x ih

theorem upToFailure_map_inside (xs : List Point) :
    upToFailure (xs.map (·.inside n)) = (upToFailure xs).map (·.inside n) := by
  induction xs with
  | nil => rfl
  | cons x xs ih =>
      rw [List.map_cons, upToFailure, upToFailure, Point.fails_inside, ih]
      cases x.fails <;> rfl

theorem upToFailure_enclose (h : inner.any (·.fails) = true) :
    upToFailure (enclose n bounds inner)
      = ⟨[], n, .enter bounds⟩ :: (upToFailure inner).map (·.inside n) := by
  have hinner : (inner.map (·.inside n)).any (·.fails) = true := by
    rw [List.any_map]
    exact h
  show ⟨[], n, .enter bounds⟩ :: upToFailure (inner.map (·.inside n) ++ [_]) = _
  rw [upToFailure_append_of_any hinner, upToFailure_map_inside]

end Failures

/-! ## What is written -/

section Written

variable {pen : Pen} {n : Nat} {bounds : Bounds} {body : Script}

namespace Point

theorem code_column_top (part : Part) (text : String) :
    Line.code ((⟨[], n, part⟩ : Point).column pen) text = pen.line text := by
  simp [column, Pen.line, Pen.levelColumn, Pen.depthColumn]

theorem column_inside (x : Point) : (x.inside n).column pen = x.column pen.deeper := by
  unfold column inside Pen.deeper
  simp only [List.length_cons]
  push_cast
  rw [Int.add_assoc, Int.add_comm 1]

/-- One scope more around a point is the pen one step deeper at the start. -/
theorem lines_inside (x : Point) : (x.inside n).lines pen = x.lines pen.deeper := by
  unfold lines
  rw [column_inside]
  rfl

theorem lines_text (text : String) : (⟨[], n, .text text⟩ : Point).lines pen = [pen.line text] :=
  congrArg ([·]) (code_column_top _ text)

end Point

theorem flatMap_inside (xs : List Point) :
    (xs.map (·.inside n)).flatMap (·.lines pen) = xs.flatMap (·.lines pen.deeper) := by
  simp only [List.flatMap_map, Point.lines_inside]

theorem lines_run_scope_of_some {e : Failure} (h : body.failure = some e) (rest : Script)
    (n : Nat) :
    ((scope bounds body rest).run pen).lines
      = (⟨[], n, .enter bounds⟩ : Point).lines pen ++ (body.run pen.deeper).lines := by
  cases bounds with
  | none => simp [scope, run, run_failure, h, Point.lines]
  | some b => simp [scope, run, run_failure, h, Point.lines, Point.code_column_top]

theorem lines_run_scope_of_none (h : body.failure = none) (rest : Script) (n : Nat) :
    ((scope bounds body rest).run pen).lines
      = (⟨[], n, .enter bounds⟩ : Point).lines pen ++ (body.run pen.deeper).lines
        ++ (⟨[], n, .leave bounds⟩ : Point).lines pen ++ (rest.run pen).lines := by
  cases bounds with
  | none => simp [scope, run, run_failure, run_pen, h, Point.lines]
  | some b => simp [scope, run, run_failure, run_pen, h, Point.lines, Point.code_column_top]

/-- A run writes what is to be written up to the first failure, and nothing else. -/
theorem lines_run (s : Script) (pen : Pen) (n : Nat) :
    (s.run pen).lines = (upToFailure (s.pointsFrom n)).flatMap (·.lines pen) := by
  induction s using scope_induction generalizing pen n with
  | done => rfl
  | fail e => rfl
  | report event rest ih => exact ih pen n
  | line text rest ih =>
      show pen.line text :: (rest.run pen).lines
        = (⟨[], n, .text text⟩ : Point).lines pen ++ (upToFailure _).flatMap _
      rw [ih pen (n + 1), Point.lines_text]
      rfl
  | blank rest ih => exact congrArg (Line.blank :: ·) (ih pen (n + 1))
  | scope bounds body rest ihb ihr =>
      have hany := any_pointsFrom body 0
      rw [pointsFrom_scope]
      cases h : body.failure with
      | some e =>
          -- Neither the closing line nor what follows the scope is come to.
          rw [h] at hany
          rw [upToFailure_append_of_any (any_enclose.trans hany), upToFailure_enclose hany,
            lines_run_scope_of_some h rest n, ihb pen.deeper 0, List.flatMap_cons, flatMap_inside]
      | none =>
          rw [h] at hany
          rw [upToFailure_append (any_enclose.trans hany), lines_run_scope_of_none h rest n,
            ihb pen.deeper 0, upToFailure_eq_self hany, ihr pen (n + 1), enclose]
          simp only [List.flatMap_append, List.flatMap_cons, List.flatMap_nil, List.append_nil,
            flatMap_inside, List.append_assoc]

end Written

end Script

end RpcStubs

/-
# What a script writes, and where it fails

`Script.failure` is the failure that a script meets first.  It is read off the
script, without a pen; `run_failure` says that running agrees.

A script that does not fail writes the lines of its parts one after the other,
those of an inner part one step deeper.  As a run leaves the pen where it was
(`run_pen`), every part starts where the whole did, and the lines of a part do
not depend on what stands before it.  `Writes` is the two together.
-/
import RpcStubs.Layout.Script
import RpcStubs.Proofs.Success

namespace RpcStubs

@[simp]
theorem Pen.deeper_shallower (pen : Pen) : pen.deeper.shallower = pen := by
  simp [Pen.deeper, Pen.shallower]

namespace Script

/-! ## Failures -/

/-- The failure that a script meets first, if it meets one. -/
def failure : Script → Option Failure
  | .done => none
  | .fail failure => some failure
  | .report _ rest | .line _ rest | .blank rest => rest.failure
  | .indented body rest | .block _ _ body rest => body.failure.or rest.failure

/-- Running a script meets the failure that can be read off it. -/
theorem run_failure (s : Script) (pen : Pen) : (s.run pen).failure = s.failure := by
  induction s generalizing pen with
  | done => rfl
  | fail e => rfl
  | report event rest ih => exact ih pen
  | line text rest ih => exact ih pen
  | blank rest ih => exact ih pen
  | indented body rest ihb ihr =>
      simp only [run, failure]
      split
      next e h => simp [← ihb pen.deeper, h]
      next h => simp [← ihb pen.deeper, h, ihr]
  | block opening closing body rest ihb ihr =>
      simp only [run, failure]
      split
      next e h => simp [← ihb pen.deeper, h]
      next h => simp [← ihb pen.deeper, h, ihr]

@[simp]
theorem failure_append (s t : Script) : (s ++ t).failure = s.failure.or t.failure := by
  show (s.append t).failure = _
  induction s with
  | done => rfl
  | fail e => rfl
  | report event rest ih => exact ih
  | line text rest ih => exact ih
  | blank rest ih => exact ih
  | indented body rest _ ihr => simp [append, failure, ihr, Option.or_assoc]
  | block opening closing body rest _ ihr => simp [append, failure, ihr, Option.or_assoc]

@[simp]
theorem failure_join (scripts : List Script) :
    (join scripts).failure = scripts.findSome? failure := by
  induction scripts with
  | nil => rfl
  | cons s ss ih =>
      show (s ++ join ss).failure = _
      rw [failure_append, ih, List.findSome?_cons]
      cases s.failure <;> rfl

@[simp]
theorem failure_lines (texts : List String) : (lines texts).failure = none := by
  induction texts with
  | nil => rfl
  | cons t ts ih => exact ih

@[simp]
theorem failure_gap : gap.failure = none := rfl

@[simp]
theorem failure_within (opening closing : String) (body : Script) :
    (within opening closing body).failure = body.failure := Option.or_none

@[simp]
theorem failure_braced (opening : String) (body : Script) :
    (braced opening body).failure = body.failure := Option.or_none

@[simp]
theorem failure_indent (body : Script) : (indent body).failure = body.failure := Option.or_none

theorem failure_foldr_report (events : List Event) (s : Script) :
    (events.foldr report s).failure = s.failure := by
  induction events with
  | nil => rfl
  | cons e es ih => exact ih

theorem failure_given_eq_none {α : Type} {x : Traced α} {f : α → Script} :
    (given x f).failure = none ↔ ∃ a, x.result = .ok a ∧ (f a).failure = none := by
  unfold given
  rw [failure_foldr_report]
  cases x.result with
  | error e => exact ⟨fun h => (nomatch h), fun ⟨_, h, _⟩ => (nomatch h)⟩
  | ok a =>
      constructor
      · intro h
        exact ⟨a, rfl, h⟩
      · rintro ⟨_, ha, h⟩
        cases ha
        exact h

theorem text_run_eq_ok {s : Script} {pen : Pen} {text : String} :
    (s.run pen).text.result = .ok text ↔
      s.failure = none ∧ text = Line.render (s.run pen).lines := by
  rw [← run_failure s pen]
  unfold Outcome.text
  cases (s.run pen).failure with
  | none =>
      constructor
      · intro h
        cases h
        exact ⟨rfl, rfl⟩
      · rintro ⟨-, rfl⟩
        rfl
  | some e => exact ⟨fun h => (nomatch h), fun h => (nomatch h.1)⟩

theorem succeeds_text_run (s : Script) (pen : Pen) :
    (s.run pen).text.Succeeds ↔ s.failure = none :=
  ⟨fun ⟨_, h⟩ => (text_run_eq_ok.mp h).1, fun h => ⟨_, text_run_eq_ok.mpr ⟨h, rfl⟩⟩⟩

/-! ## Lines

Each law is for a script of which the first part does not fail. -/

variable {pen : Pen}

theorem lines_run_append {s : Script} (h : s.failure = none) (t : Script) :
    ((s ++ t).run pen).lines = (s.run pen).lines ++ (t.run pen).lines := by
  show ((s.append t).run pen).lines = _
  induction s with
  | done => rfl
  | fail e => cases h
  | report event rest ih => exact ih h
  | line text rest ih => exact congrArg (pen.line text :: ·) (ih h)
  | blank rest ih => exact congrArg (.blank :: ·) (ih h)
  | indented body rest _ ihr =>
      obtain ⟨hbody, hrest⟩ := Option.or_eq_none_iff.mp h
      simp only [append, run, run_pen, run_failure, hbody, Pen.deeper_shallower, ihr hrest,
        List.append_assoc]
  | block opening closing body rest _ ihr =>
      obtain ⟨hbody, hrest⟩ := Option.or_eq_none_iff.mp h
      simp only [append, run, run_pen, run_failure, hbody, Pen.deeper_shallower, ihr hrest,
        List.append_assoc, List.cons_append]

theorem lines_run_lines (texts : List String) :
    ((lines texts).run pen).lines = texts.map pen.line := by
  induction texts with
  | nil => rfl
  | cons t ts ih => exact congrArg (pen.line t :: ·) ih

theorem lines_run_within {opening closing : String} {body : Script} (h : body.failure = none) :
    ((within opening closing body).run pen).lines
      = pen.line opening :: ((body.run pen.deeper).lines ++ [pen.line closing]) := by
  simp only [within, run, run_failure, h, run_pen, Pen.deeper_shallower, List.cons_append]

theorem lines_run_indent {body : Script} (h : body.failure = none) :
    ((indent body).run pen).lines = (body.run pen.deeper).lines := by
  simp only [indent, run, run_failure, h, List.append_nil]

theorem lines_run_given {α : Type} {x : Traced α} {f : α → Script} {a : α}
    (h : x.result = .ok a) : ((given x f).run pen).lines = ((f a).run pen).lines := by
  have hreports : ∀ (events : List Event) (s : Script),
      ((events.foldr report s).run pen).lines = (s.run pen).lines := by
    intro events s
    induction events with
    | nil => rfl
    | cons e es ih => exact ih
  unfold given
  rw [hreports, h]

/-! ## What a script writes

That a script completes and what its lines are, in one.  The lines of a script are put together from
those of its parts, without a look at how it is run. -/

/-- A script completes, and these are its lines. -/
structure Writes (s : Script) (pen : Pen) (ls : List Line) : Prop where
  failure : s.failure = none
  lines : (s.run pen).lines = ls

namespace Writes

variable {s t : Script} {ls ms : List Line}

theorem append (hs : s.Writes pen ls) (ht : t.Writes pen ms) : (s ++ t).Writes pen (ls ++ ms) where
  failure := by rw [failure_append, hs.failure, ht.failure]; rfl
  lines := by rw [lines_run_append hs.failure, hs.lines, ht.lines]

theorem join {scripts : List Script} {parts : List (List Line)}
    (h : List.Forall₂ (fun s ls => s.Writes pen ls) scripts parts) :
    (join scripts).Writes pen parts.flatten := by
  induction h with
  | nil => exact ⟨rfl, rfl⟩
  | cons hs _ ih => exact hs.append ih

theorem within (opening closing : String) (h : s.Writes pen.deeper ls) :
    (within opening closing s).Writes pen (pen.line opening :: (ls ++ [pen.line closing])) where
  failure := (failure_within opening closing s).trans h.failure
  lines := by rw [lines_run_within h.failure, h.lines]

theorem braced (opening : String) (h : s.Writes pen.deeper ls) :
    (braced opening s).Writes pen (pen.line opening :: (ls ++ [pen.line "\x7d"])) :=
  h.within opening "\x7d"

theorem indent (h : s.Writes pen.deeper ls) : (indent s).Writes pen ls where
  failure := (failure_indent s).trans h.failure
  lines := (lines_run_indent h.failure).trans h.lines

theorem given {α : Type} {x : Traced α} {f : α → Script} {a : α} (hx : x.result = .ok a)
    (h : (f a).Writes pen ls) : (given x f).Writes pen ls where
  failure := failure_given_eq_none.mpr ⟨a, hx, h.failure⟩
  lines := (lines_run_given hx).trans h.lines

theorem of_eq (h : s.Writes pen ls) (heq : ls = ms) : s.Writes pen ms := heq ▸ h

theorem text (h : s.Writes pen ls) : (s.run pen).text.result = .ok (Line.render ls) :=
  text_run_eq_ok.mpr ⟨h.failure, by rw [h.lines]⟩

end Writes

theorem writes_lines (texts : List String) : (lines texts).Writes pen (texts.map pen.line) :=
  ⟨failure_lines texts, lines_run_lines texts⟩

theorem writes_gap : gap.Writes pen [.blank] := ⟨rfl, rfl⟩

end Script

end RpcStubs

/-
Scripts: what a pen is to write, with scopes that enclose parts of it.

A script may fail at any point, and may report events on the way.  Running one moves the pen
into each scope and back out of it; the depth at the end is where the pen was left, so that it
comes back to its start is a fact about running and not a convention.
-/
import RpcStubs.Layout.Pen
import RpcStubs.Traced

namespace RpcStubs

/-- What a pen is to write, step by step. -/
inductive Script where
  /-- Nothing more. -/
  | done
  /-- Fail here. -/
  | fail (failure : Failure)
  /-- Report an event. -/
  | report (event : Event) (rest : Script)
  /-- Write a line. -/
  | line (text : String) (rest : Script)
  /-- Write a blank line. -/
  | blank (rest : Script)
  /-- Write a part one step deeper. -/
  | indented (body rest : Script)
  /-- Write a part one step deeper, between two lines. -/
  | block (opening closing : String) (body rest : Script)

namespace Script

/-- What a run leaves behind. -/
structure Outcome where
  lines : List Line
  events : List Event
  pen : Pen
  failure : Option Failure

def run : Script → Pen → Outcome
  | .done, pen => ⟨[], [], pen, none⟩
  | .fail failure, pen => ⟨[], [], pen, some failure⟩
  | .report event rest, pen =>
    let after := rest.run pen
    { after with events := event :: after.events }
  | .line text rest, pen =>
    let after := rest.run pen
    { after with lines := pen.line text :: after.lines }
  | .blank rest, pen =>
    let after := rest.run pen
    { after with lines := .blank :: after.lines }
  | .indented body rest, pen =>
    let inner := body.run pen.deeper
    let pen := inner.pen.shallower
    match inner.failure with
    | some failure => { inner with pen, failure := some failure }
    | none =>
      let after := rest.run pen
      ⟨inner.lines ++ after.lines, inner.events ++ after.events, after.pen, after.failure⟩
  | .block opening closing body rest, pen =>
    let inner := body.run pen.deeper
    let lines := pen.line opening :: inner.lines
    let pen := inner.pen.shallower
    match inner.failure with
    | some failure => ⟨lines, inner.events, pen, some failure⟩
    | none =>
      let after := rest.run pen
      ⟨lines ++ pen.line closing :: after.lines, inner.events ++ after.events, after.pen,
        after.failure⟩

def append : Script → Script → Script
  | .done, t => t
  | .fail failure, _ => .fail failure
  | .report event rest, t => .report event (append rest t)
  | .line text rest, t => .line text (append rest t)
  | .blank rest, t => .blank (append rest t)
  | .indented body rest, t => .indented body (append rest t)
  | .block opening closing body rest, t => .block opening closing body (append rest t)

instance : Append Script := ⟨append⟩

def join (scripts : List Script) : Script :=
  scripts.foldr (· ++ ·) .done

def lines (texts : List String) : Script :=
  texts.foldr line .done

def gap : Script := .blank .done

/-- Write a part between an opening line and a closing line. -/
def within (opening closing : String) (body : Script) : Script :=
  .block opening closing body .done

/-- Write a part between an opening line and a closing brace. -/
def braced (opening : String) (body : Script) : Script :=
  within opening "\x7d" body

/-- Write a part one step deeper. -/
def indent (body : Script) : Script :=
  .indented body .done

/-- Write what depends on the value of a computation, and fail where it fails. -/
def given {α : Type} (x : Traced α) (f : α → Script) : Script :=
  x.events.foldr report (match x.result with
    | .ok a => f a
    | .error failure => .fail failure)

/-- Running a script leaves the pen where it was, also if the script fails. -/
theorem run_pen (s : Script) (pen : Pen) : (s.run pen).pen = pen := by
  induction s generalizing pen with
  | done => rfl
  | fail failure => rfl
  | report event rest ih => simp [run, ih]
  | line text rest ih => simp [run, ih]
  | blank rest ih => simp [run, ih]
  | indented body rest ihb ihr =>
    simp only [run]
    split <;> simp [ihb, ihr, Pen.deeper, Pen.shallower]
  | block opening closing body rest ihb ihr =>
    simp only [run]
    split <;> simp [ihb, ihr, Pen.deeper, Pen.shallower]

/-- What comes of a script as a whole: its text, unless it fails. -/
def Outcome.text (o : Outcome) : Traced String :=
  ⟨o.events, match o.failure with
    | some failure => .error failure
    | none => .ok (Line.render o.lines)⟩

end Script

end RpcStubs

/-
A pen writes lines at a column that depends on where it stands.

Its level is fixed and counts four columns; its depth counts two and changes as scopes are
entered and left.  Either may be negative, and counts for nothing then.  A scope is left in one
of two ways: normally, when a block also writes its closing line, or on a failure, when nothing
more is written.
-/
import RpcStubs.Layout.Line

namespace RpcStubs

/-- Where a pen stands. -/
structure Pen where
  level : Int := 0
  depth : Int := 0
deriving DecidableEq, Repr

namespace Pen

/-- The columns that a level takes. -/
def levelColumn (level : Int) : Nat := 4 * level.toNat

/-- The columns that a depth takes. -/
def depthColumn (depth : Int) : Nat := 2 * depth.toNat

/-- A line at the pen's level, whatever its depth. -/
def plain (p : Pen) (text : String) : Line :=
  .code (levelColumn p.level) text

/-- A line one level further in than the pen's. -/
def inner (p : Pen) (text : String) : Line :=
  .code (levelColumn p.level + 4) text

/-- A line at the pen's level and depth. -/
def line (p : Pen) (text : String) : Line :=
  .code (levelColumn p.level + depthColumn p.depth) text

def deeper (p : Pen) : Pen := { p with depth := p.depth + 1 }

def shallower (p : Pen) : Pen := { p with depth := p.depth - 1 }

/-- An open scope. -/
inductive Scope where
  /-- Lines are indented. -/
  | indented
  /-- Lines are indented, and a closing line follows them. -/
  | block (closing : String)
deriving DecidableEq, Repr

/-- What can be done with a pen. -/
inductive Stroke where
  /-- Write a line at the level. -/
  | plain (text : String)
  /-- Write a line one level further in. -/
  | inner (text : String)
  /-- Write text as it is. -/
  | verbatim (text : String)
  /-- Write a blank line. -/
  | blank
  /-- Write lines at the level and depth. -/
  | lines (texts : List String)
  /-- Indent what follows. -/
  | indent
  /-- Write an opening line and indent what follows. -/
  | block (opening closing : String)
  /-- Leave the innermost scope. -/
  | leave
  /-- Leave all scopes on a failure. -/
  | fail
deriving DecidableEq, Repr

/-- A pen at work: the scopes that are open around it, the innermost first. -/
structure Sheet where
  pen : Pen := {}
  scopes : List Scope := []
deriving DecidableEq, Repr

/-- The sheet after a stroke, and the text that the stroke adds. -/
def Sheet.apply (s : Sheet) : Stroke → Sheet × String
  | .plain text => (s, Line.render [s.pen.plain text])
  | .inner text => (s, Line.render [s.pen.inner text])
  | .verbatim text => (s, text)
  | .blank => (s, Line.render [.blank])
  | .lines texts => (s, Line.render (texts.map s.pen.line))
  | .indent => (⟨s.pen.deeper, .indented :: s.scopes⟩, "")
  | .block opening closing =>
    (⟨s.pen.deeper, .block closing :: s.scopes⟩, Line.render [s.pen.line opening])
  | .leave =>
    match s.scopes with
    | [] => (s, "")
    | .indented :: scopes => (⟨s.pen.shallower, scopes⟩, "")
    | .block closing :: scopes =>
      (⟨s.pen.shallower, scopes⟩, Line.render [s.pen.shallower.line closing])
  | .fail => (⟨s.scopes.foldl (fun p _ => p.shallower) s.pen, []⟩, "")

end Pen

end RpcStubs

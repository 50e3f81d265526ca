/-
A writer that lasts: a pen, and the lines that it has written so far.

Carrying out a script adds to what is there.  A scope moves the pen and moves it back, however
the scope is left; what was written before a failure stays.
-/
import RpcStubs.Layout.Script

namespace RpcStubs

/-- A pen with what it has written. -/
structure Writer where
  pen : Pen := {}
  written : List Line := []
deriving DecidableEq, Repr

namespace Writer

/-- A new sheet, and the pen back at the margin. -/
def reset (_ : Writer) : Writer := {}

def line (w : Writer) (text : String) : Writer :=
  { w with written := w.written ++ [w.pen.line text] }

def blank (w : Writer) : Writer :=
  { w with written := w.written ++ [.blank] }

def enter (w : Writer) : Writer :=
  { w with pen := w.pen.deeper }

def leave (w : Writer) : Writer :=
  { w with pen := w.pen.shallower }

/-- Carry out a script.  Gives the writer as it is left, and the failure that stopped it. -/
def carryOut (w : Writer) : Script → Writer × Option Failure
  | .done => (w, none)
  | .fail failure => (w, some failure)
  | .report _ rest => w.carryOut rest
  | .line text rest => (w.line text).carryOut rest
  | .blank rest => w.blank.carryOut rest
  | .indented body rest =>
    match w.enter.carryOut body with
    | (inner, some failure) => (inner.leave, some failure)
    | (inner, none) => inner.leave.carryOut rest
  | .block opening closing body rest =>
    match (w.line opening).enter.carryOut body with
    | (inner, some failure) => (inner.leave, some failure)
    | (inner, none) => (inner.leave.line closing).carryOut rest

/-- Write a script on a new sheet.  Gives the writer as it is left, and the text unless the script
fails. -/
def dump (w : Writer) (script : Script) : Writer × Except Failure String :=
  match w.reset.carryOut script with
  | (after, some failure) => (after, .error failure)
  | (after, none) => (after, .ok (Line.render after.written))

end Writer

end RpcStubs

/-
Lines of generated text.

A line is blank or stands at a column.  Text is laid out by building a list of lines; turning
the list into text is the last step.
-/

namespace RpcStubs

inductive Line where
  | blank
  | code (column : Nat) (text : String)
deriving DecidableEq, Repr

namespace Line

/-- The characters of a line, its end included. -/
def chars : Line → List Char
  | .blank => ['\n']
  | .code column text => List.replicate column ' ' ++ text.toList ++ ['\n']

/-- The text of a list of lines. -/
def render (lines : List Line) : String :=
  String.ofList (lines.flatMap chars)

theorem toList_render (lines : List Line) : (render lines).toList = lines.flatMap chars :=
  String.toList_ofList

@[simp]
theorem render_nil : render [] = "" := rfl

theorem render_append (ls ms : List Line) : render (ls ++ ms) = render ls ++ render ms := by
  simp [render, String.ofList_append]

theorem render_flatMap {α : Type} (layout : α → List Line) (xs : List α) :
    render (xs.flatMap layout) = String.join (xs.map fun x => render (layout x)) := by
  induction xs with
  | nil => rfl
  | cons x xs ih => rw [List.flatMap_cons, render_append, ih, List.map_cons, String.join_cons]

def spaces (n : Nat) : String := String.ofList (List.replicate n ' ')

theorem spaces_zero : spaces 0 = "" := rfl

theorem render_code (column : Nat) (text : String) :
    render [.code column text] = spaces column ++ text ++ "\n" := by
  apply String.toList_inj.mp
  simp [render, chars, spaces]

end Line

end RpcStubs

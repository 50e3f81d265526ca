/-
Declarations of generated code: enums, constants and classes.

A class holds its members, then the classes, enums and constants declared in it.  The lines of
a declaration depend on its level only through their columns.
-/
import RpcStubs.Layout.Pen
import RpcStubs.Member

namespace RpcStubs

/-- An enum with the numbers of its names. -/
structure EnumDecl where
  name : String
  values : List (String × Int)
deriving DecidableEq, Repr

structure ConstantDecl where
  name : String
  type : TypeExpr
deriving DecidableEq, Repr

/-- A class with all that is declared in it. -/
structure ClassDecl where
  name : String
  members : List Member
  classes : List ClassDecl
  enums : List EnumDecl
  constants : List ConstantDecl
deriving Repr

def atLevel (level : Int) : Pen := { level }

/-- The lines of an enum, a blank one first. -/
def EnumDecl.lines (e : EnumDecl) (level : Int) : List Line :=
  let pen := atLevel level
  .blank :: pen.plain ("export enum " ++ e.name ++ " \x7b")
    :: e.values.map (fun v => pen.inner (v.1 ++ " = " ++ toString v.2 ++ ","))
    ++ [pen.plain "\x7d"]

/-- The lines of a constant, a blank one first. -/
def ConstantDecl.lines (c : ConstantDecl) (level : Int) : List Line :=
  [.blank, (atLevel level).plain ("export const " ++ c.name ++ ": " ++ c.type.text ++ ";")]

mutual

def ClassDecl.lines (level : Int) : ClassDecl → List Line
  | ⟨name, members, classes, enums, constants⟩ =>
    let pen := atLevel level
    pen.plain ("export class " ++ name ++ " \x7b")
      :: members.map (fun m => pen.inner m.declaration)
      ++ ClassDecl.linesAll (level + 1) classes
      ++ enums.flatMap (·.lines (level + 1))
      ++ constants.flatMap (·.lines (level + 1))
      ++ [pen.plain "\x7d"]

def ClassDecl.linesAll (level : Int) : List ClassDecl → List Line
  | [] => []
  | c :: cs => c.lines level ++ ClassDecl.linesAll level cs

end

end RpcStubs

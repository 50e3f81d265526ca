/-
The module of a schema file's messages.

Each message becomes a class, each enum an enum, each oneof group an enum of its cases, and each
extension a constant.  Map entries have no class; what is nested in them has none either.  A
oneof group that only stands for the presence of one optional field has no cases.
-/
import RpcStubs.Declaration
import RpcStubs.Import

namespace RpcStubs

def Enum.declare (e : Enum) : EnumDecl :=
  ⟨e.name, e.values.map fun v => (v.name, v.number)⟩

/-- The cases of a oneof group: none of its fields, or one of them. -/
def oneofCases (name : String) (fields : List Field) : EnumDecl :=
  ⟨Name.oneofType name ++ "Case",
    (Text.upper name ++ "_NOT_SET", 0) :: fields.map fun f => (Text.upper f.name, f.number)⟩

def Field.declareExtension (ix : Index) (file : File) (f : Field) : Traced ConstantDecl := do
  let type ← ix.valueType file.name f.typeRef
  return ⟨Name.camel f.name, if f.label = .repeated then .array type else type⟩

/-- The fields of a message sorted into its oneof groups, as far as they have been gone through: the
fields of each group, and the indices of the groups that stand for the presence of an optional
field. -/
structure Grouping where
  members : List (List Field)
  synthetic : List Nat := []

/-- One more field is sorted in, unless its group is not there.  A field of no group is passed
over. -/
def Grouping.add (message : String) (g : Grouping) (f : Field) : Except GenerationError Grouping :=
  match f.oneofIndex with
  | none => .ok g
  | some index =>
    if 0 ≤ index ∧ index < g.members.length then
      .ok {
        members := g.members.modify index.toNat (· ++ [f])
        synthetic := if f.proto3Optional then index.toNat :: g.synthetic else g.synthetic }
    else .error (.undeclaredOneof message f.name index)

namespace Message

/-- The declared oneof groups with their fields, without those that stand for the presence of an
optional field. -/
def oneofGroups (m : Message) : Except GenerationError (List (String × List Field)) := do
  let g ← m.fields.foldlM (Grouping.add m.name) { members := m.oneofs.map fun _ => [] }
  return ((m.oneofs.zip g.members).zipIdx.filter fun p => p.2 ∉ g.synthetic).map (·.1)

mutual

/-- A message as a declaration, or nothing for a map entry. -/
def declare (ix : Index) (file : File) : Message → Traced (Option ClassDecl)
  | m@⟨name, fields, nested, enums, _, extensions, isMapEntry⟩ =>
    if isMapEntry then pure none
    else do
      let members ← fields.mapM (·.member ix file)
      let classes ← declareAll ix file nested
      let groups ← Traced.check m.oneofGroups
      let constants ← extensions.mapM (·.declareExtension ix file)
      return some ⟨name, members, classes,
        enums.map Enum.declare ++ groups.map fun g => oneofCases g.1 g.2, constants⟩

def declareAll (ix : Index) (file : File) : List Message → Traced (List ClassDecl)
  | [] => pure []
  | m :: ms => do
    let c ← m.declare ix file
    let cs ← declareAll ix file ms
    return c.toList ++ cs

end

/-- The text of a message at a level; nothing for a map entry. -/
def text (ix : Index) (file : File) (level : Int) (m : Message) : Traced String := do
  let c ← m.declare ix file
  return Line.render (ClassDecl.linesAll level c.toList)

end Message

/-- The module of a schema file's messages. -/
structure MessageModule where
  package : String
  file : String
  imports : List Import
  enums : List EnumDecl
  classes : List ClassDecl
  constants : List ConstantDecl

namespace MessageModule

def ofFile (ix : Index) (wellKnown : Table String) (file : File) : Traced MessageModule := do
  let classes ← Message.declareAll ix file file.messages
  let constants ← file.extensions.mapM (·.declareExtension ix file)
  Traced.report (.rendered file.messages.length file.name)
  return {
    package := file.package
    file := file.name
    imports := file.dependencies.map (Import.ofDependency file.name wellKnown)
    enums := file.enums.map Enum.declare
    classes
    constants }

def lines (m : MessageModule) : List Line :=
  let pen := atLevel 0
  [pen.plain ("// package: " ++ m.package), pen.plain ("// file: " ++ m.file), .blank]
    ++ m.imports.map (fun i => pen.plain i.line)
    ++ (if m.imports.isEmpty then [] else [.blank])
    ++ m.enums.flatMap (·.lines 0)
    ++ m.classes.flatMap (fun c => .blank :: c.lines 0)
    ++ m.constants.flatMap (·.lines 0)

def text (m : MessageModule) : String :=
  Line.render m.lines

end MessageModule

end RpcStubs

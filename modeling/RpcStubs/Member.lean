/-
Fields as members of a class.

The type of a member is settled in three steps: the representation of a number, if the field
sets one; else the type of one value; then the label.  A map is never a list and never absent.
-/
import RpcStubs.Name
import RpcStubs.Resolution

namespace RpcStubs

structure Member where
  name : String
  type : TypeExpr
  optional : Bool := false
deriving DecidableEq, Repr

def Member.declaration (m : Member) : String :=
  m.name ++ (if m.optional then "?" else "") ++ ": " ++ m.type.text ++ ";"

namespace Field

/-- The representation of a number that a field asks for.  It makes sense on 64-bit integers
only. -/
def override (f : Field) : Except GenerationError (Option Primitive) :=
  match f.jsType with
  | none | some .normal => .ok none
  | some (.unknown code) => .error (.unknownJsType code f.name)
  | some .string => if f.kind.isWide then .ok (some .string) else .error (.misplacedJsType f.name)
  | some .number => if f.kind.isWide then .ok (some .number) else .error (.misplacedJsType f.name)

/-- Whether a single value of the field can be absent. -/
def canBeAbsent (f : Field) (file : File) : Bool :=
  if f.proto3Optional then true
  else if f.kind.isMessage then !isProto2 file.dialect || f.label == .optional
  else isProto2 file.dialect

/-- The type of one value of the field. -/
def elementType (ix : Index) (file : File) (f : Field) : Traced TypeExpr := do
  match ← Traced.check f.override with
  | some p => return .primitive p
  | none => ix.valueType file.name f.typeRef

def member (ix : Index) (file : File) (f : Field) : Traced Member := do
  let name := Name.member f.name
  match ← f.elementType ix file with
  | .map key value => return ⟨name, .map key value, false⟩
  | element =>
    if f.label = .repeated then return ⟨name, .array element, false⟩
    else return ⟨name, element, f.canBeAbsent file⟩

end Field

end RpcStubs

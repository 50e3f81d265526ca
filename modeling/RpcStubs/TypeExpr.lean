/-
Type expressions of generated code, as trees.
-/

namespace RpcStubs

/-- The built-in types. -/
inductive Primitive where
  | number
  | boolean
  | string
  | bytes
deriving DecidableEq, Repr

/-- The text of a built-in type.  Bytes are given raw or encoded as text. -/
def Primitive.text : Primitive → String
  | .number => "number"
  | .boolean => "boolean"
  | .string => "string"
  | .bytes => "Uint8Array | string"

inductive TypeExpr where
  /-- A built-in type. -/
  | primitive (p : Primitive)
  /-- A type by its dotted path, behind the namespace token of another module if it is not of
  this one. -/
  | reference (token : Option String) (path : String)
  /-- A map. -/
  | map (key value : TypeExpr)
  /-- A list. -/
  | array (element : TypeExpr)
deriving DecidableEq, Repr

def TypeExpr.text : TypeExpr → String
  | .primitive p => p.text
  | .reference none path => path
  | .reference (some token) path => token ++ "." ++ path
  | .map key value => "Map<" ++ key.text ++ ", " ++ value.text ++ ">"
  | .array element => "Array<" ++ element.text ++ ">"

end RpcStubs

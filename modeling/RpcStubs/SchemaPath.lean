/-
Paths of schema files and what is derived from them: the namespace token that stands for the
file in generated code, the path of its generated module, and the way from one module to
another.
-/
import RpcStubs.Text.Pieces
import RpcStubs.Table

namespace RpcStubs

namespace SchemaPath

open Text

def ending : List Char := ".proto".toList

def generatedEnding : String := "_pb"

/-- Characters that separate the parts of a path or a name. -/
def isSeparator (c : Char) : Bool :=
  c == '/' || c == '.' || c == '-'

/-- The namespace token of a schema file, `api/v1/user-service.proto` as
`api_v1_user_service_pb`.  It is the alias under which the module is imported and what stands
before the names of its types elsewhere.  The first `.proto` goes, wherever it stands. -/
def token (path : String) : String :=
  String.ofList ((eraseFirst ending path.toList).map fun c => if isSeparator c then '_' else c)
    ++ generatedEnding

/-- The path of the generated module, without its ending.  A path that does not end in `.proto`
stays as it is. -/
def moduleStem (path : String) : String :=
  match beforeSuffix? ending path.toList with
  | some stem => String.ofList stem ++ generatedEnding
  | none => path

/-- The way from a generated module back to the root of the output. -/
def toRoot (path : String) : String :=
  match path.toList.count '/' with
  | 0 => "./"
  | depth => String.ofList ((List.replicate depth "../".toList).flatten)

/-- The path under which the module of `dependency` is imported into the module of `host`.
Files of the table come from a package of their own. -/
def importPath (dependency host : String) (wellKnown : Table String) : String :=
  match wellKnown.find? dependency with
  | some path => path
  | none => toRoot host ++ moduleStem dependency

end SchemaPath

namespace TypeName

/-- A type name without one leading dot. -/
def bare (name : String) : String :=
  match name.toList with
  | '.' :: cs => String.ofList cs
  | _ => name

/-- The part of a full type name behind its package. -/
def within (package full : String) : String :=
  if package = "" then full else String.ofList (full.toList.drop (package.length + 1))

/-- A name inside a scope.  The empty scope leaves no trace. -/
def qualify (scope name : String) : String :=
  if scope = "" then name else scope ++ "." ++ name

end TypeName

end RpcStubs

/-
Imports of one generated module into another.
-/
import RpcStubs.SchemaPath

namespace RpcStubs

/-- The import of a module under its namespace token. -/
structure Import where
  token : String
  path : String
deriving DecidableEq, Repr

namespace Import

def line (i : Import) : String :=
  "import * as " ++ i.token ++ " from \"" ++ i.path ++ "\";"

/-- The import of a dependency into the module of a host file. -/
def ofDependency (host : String) (wellKnown : Table String) (dependency : String) : Import :=
  ⟨SchemaPath.token dependency, SchemaPath.importPath dependency host wellKnown⟩

/-- The import of a file's own messages into the module of its services. -/
def ofHost (host : String) : Import :=
  ⟨SchemaPath.token host, SchemaPath.toRoot host ++ SchemaPath.moduleStem host⟩

end Import

end RpcStubs

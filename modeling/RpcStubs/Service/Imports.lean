/-
The imports of a service module: the file's own messages, then every dependency that some
method needs, in the order in which the file lists them.
-/
import RpcStubs.Import
import RpcStubs.Service.Call

namespace RpcStubs

/-- Whether the text of a type starts in a namespace. -/
def TypeExpr.startsIn (type : TypeExpr) (token : String) : Bool :=
  (token ++ ".").toList.isPrefixOf type.text.toList

namespace File

def methods (file : File) : List Method :=
  file.services.flatMap (·.methods)

/-- Whether one of the methods takes or returns a type of a namespace.  The methods behind the
first that does are not looked at. -/
def methodsUse (ix : Index) (token : String) : List Method → Traced Bool
  | [] => pure false
  | m :: ms => do
    let (request, response) ← m.types ix
    if request.startsIn token || response.startsIn token then return true
    else methodsUse ix token ms

/-- Whether some method of the file takes or returns a type of a namespace. -/
def uses (ix : Index) (file : File) (token : String) : Traced Bool :=
  methodsUse ix token file.methods

/-- The import of a dependency, if some method needs it. -/
def importIfUsed (ix : Index) (wellKnown : Table String) (file : File) (dependency : String) :
    Traced (Option Import) := do
  if ← file.uses ix (SchemaPath.token dependency) then
    return some (.ofDependency file.name wellKnown dependency)
  else
    Traced.report (.skippedImport dependency file.name)
    return none

/-- The imports of the file's service module. -/
def serviceImports (ix : Index) (wellKnown : Table String) (file : File) :
    Traced (List Import) := do
  let used ← file.dependencies.mapM (file.importIfUsed ix wellKnown)
  return .ofHost file.name :: used.filterMap id

end File

end RpcStubs

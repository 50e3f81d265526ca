/-
Methods with their types resolved.

A service module imports the messages of its own file like those of any other, so that every
type of a method has a namespace token before it.  It is resolved for use in a file without a
name, which is no other's name.
-/
import RpcStubs.Name
import RpcStubs.Resolution

namespace RpcStubs

/-- A method with the types of its request and its response. -/
structure Call where
  name : String
  service : String
  clientStreaming : Bool
  serverStreaming : Bool
  request : TypeExpr
  response : TypeExpr
deriving DecidableEq, Repr

namespace Call

def camelName (c : Call) : String := Name.lowerFirst c.name

def stub (c : Call) : String := Name.stub c.name

/-- Whether a method takes one request and gives one response. -/
def isUnary (c : Call) : Bool := !c.clientStreaming && !c.serverStreaming

end Call

namespace Method

/-- The types of a method's request and response, the request's first. -/
def types (ix : Index) (m : Method) : Traced (TypeExpr × TypeExpr) := do
  let request ← ix.valueType "" ⟨.message, TypeName.bare m.inputType⟩
  let response ← ix.valueType "" ⟨.message, TypeName.bare m.outputType⟩
  return (request, response)

/-- A method of a service with its types resolved. -/
def call (ix : Index) (service : String) (m : Method) : Traced Call := do
  let (request, response) ← m.types ix
  return ⟨m.name, service, m.clientStreaming, m.serverStreaming, request, response⟩

end Method

/-- The methods of a service with their types resolved. -/
def Service.calls (ix : Index) (s : Service) : Traced (List Call) :=
  s.methods.mapM (·.call ix s.name)

end RpcStubs

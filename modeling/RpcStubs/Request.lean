/-
Requests of a compiler that calls the generator, and the responses to them.

A response holds either all generated files or the message of an error and no file.
-/
import RpcStubs.Generation

namespace RpcStubs

/-- What is to be generated, from which schema set. -/
structure Request where
  names : List String := []
  parameter : String := ""
  files : List File := []

/-- The answer to a request. -/
structure Response where
  error : Option String := none
  /-- The features that the generator understands: presence of optional fields. -/
  features : Nat := 1
  files : List GeneratedFile := []
deriving DecidableEq, Repr

namespace Request

/-- What a request asks for, under the given settings or those of its parameter. -/
def generate (r : Request) (settings : Option Settings) : Traced (List GeneratedFile) := do
  let settings ← match settings with
    | some s => pure s
    | none => Traced.check (Settings.ofParameter r.parameter)
  Generation.generate r.names r.files settings

/-- The response to a request.  A stated cause becomes part of it. -/
def process (r : Request) (settings : Option Settings) : Traced Response :=
  let g := r.generate settings
  match g.result with
  | .ok files => ⟨g.events ++ [.generated files.length], .ok { files }⟩
  | .error (.invalid e) =>
    ⟨g.events ++ [.requestFailed e.message], .ok { error := some e.message }⟩
  | .error .cyclic => ⟨g.events, .error .cyclic⟩

end Request

end RpcStubs

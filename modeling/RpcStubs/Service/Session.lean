/-
A session with the service writer of one file.

The writer sees every change of its file at once, while the index stays as it was until it is
built anew.  What a session keeps is the file among the others of its set, the index, and the
writer as it was left last.
-/
import RpcStubs.Layout.Writer
import RpcStubs.Service.Module

namespace RpcStubs

/-- A change of a file. -/
inductive Edit where
  | addService (service : Service)
  | removeService (position : Nat)
  /-- Add a method to the service at a position. -/
  | addMethod (service : Nat) (method : Method)
  /-- Remove the method at a position from the service at a position. -/
  | removeMethod (service method : Nat)
  | addMessage (message : Message)
  | removeMessage (position : Nat)
  | addDependency (name : String)
  | removeDependency (position : Nat)
  /-- Set what is given, and keep the rest. -/
  | rename (name package dialect : Option String)

def File.edit (file : File) : Edit → File
  | .addService service => { file with services := file.services ++ [service] }
  | .removeService position => { file with services := file.services.eraseIdx position }
  | .addMethod service method =>
    { file with services := file.services.modify service fun s =>
        { s with methods := s.methods ++ [method] } }
  | .removeMethod service method =>
    { file with services := file.services.modify service fun s =>
        { s with methods := s.methods.eraseIdx method } }
  | .addMessage message => { file with messages := file.messages ++ [message] }
  | .removeMessage position => { file with messages := file.messages.eraseIdx position }
  | .addDependency name => { file with dependencies := file.dependencies ++ [name] }
  | .removeDependency position =>
    { file with dependencies := file.dependencies.eraseIdx position }
  | .rename name package dialect =>
    { file with
      name := name.getD file.name
      package := package.getD file.package
      dialect := dialect.getD file.dialect }

/-- A session: the writer's file between the others of its set, and what the writer holds. -/
structure Session where
  before : List File
  file : File
  after : List File
  index : Index
  wellKnown : Table String
  writer : Writer := {}

namespace Session

/-- What can be asked of a session. -/
inductive Step where
  /-- Lay out the module. -/
  | dump
  /-- List the imports. -/
  | imports
  /-- Name the file and its package. -/
  | header
  /-- List the services with their methods. -/
  | services
  /-- Tell whether a namespace is used. -/
  | uses (token : String)
  /-- Change the file. -/
  | edit (change : Edit)
  /-- Build the index anew. -/
  | rebuild

inductive Answer where
  | text (content : String)
  | imports (imports : List Import)
  | header (file package : String)
  | services (services : List (String × List Call))
  | used (answer : Bool)
  | done

def files (s : Session) : List File :=
  s.before ++ s.file :: s.after

/-- The session after a step, and the answer to it. -/
def step (s : Session) : Step → Session × Except Failure Answer
  | .dump =>
    let (writer, text) := s.writer.dump (ServiceModule.script s.index s.wellKnown s.file)
    ({ s with writer }, .text <$> text)
  | .imports => (s, .imports <$> (s.file.serviceImports s.index s.wellKnown).result)
  | .header => (s, .ok (.header s.file.name s.file.package))
  | .services =>
    (s, .services <$> (s.file.services.mapM fun service => do
      return (service.name, ← (service.calls s.index).result)))
  | .uses token => (s, .used <$> (s.file.uses s.index token).result)
  | .edit change => ({ s with file := s.file.edit change }, .ok .done)
  | .rebuild => ({ s with index := .ofFiles s.files, writer := {} }, .ok .done)

end Session

end RpcStubs

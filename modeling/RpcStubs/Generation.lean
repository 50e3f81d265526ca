/-
Generation of the modules that a request asks for.

Either every module is generated, in the order in which the files are asked for, or none is.
-/
import RpcStubs.MessageModule
import RpcStubs.Service.Module
import RpcStubs.Settings

namespace RpcStubs

/-- A generated file, its name relative to the root of the output. -/
structure GeneratedFile where
  name : String
  content : String
deriving DecidableEq, Repr

namespace Generation

def messageModuleName (stem : String) : String := stem ++ ".ts"

def serviceModuleName (stem : String) : String := stem ++ "_service.ts"

/-- The service module of a file, under a stem. -/
def serviceFile (ix : Index) (wellKnown : Table String) (stem : String) (file : File) :
    Traced GeneratedFile := do
  let content ← ServiceModule.text ix wellKnown file
  return ⟨serviceModuleName stem, content⟩

/-- The message module of a file, under a stem. -/
def messageFile (ix : Index) (wellKnown : Table String) (stem : String) (file : File) :
    Traced GeneratedFile := do
  let m ← MessageModule.ofFile ix wellKnown file
  return ⟨messageModuleName stem, m.text⟩

/-- The modules of a file. -/
def modules (ix : Index) (settings : Settings) (file : File) : Traced (List GeneratedFile) := do
  let stem := SchemaPath.moduleStem file.name
  if settings.emitMessages then
    let m ← messageFile ix settings.wellKnown stem file
    let s ← serviceFile ix settings.wellKnown stem file
    return [m, s]
  else
    let s ← serviceFile ix settings.wellKnown stem file
    return [s]

/-- The files of a schema set by name; of several with one name the last counts. -/
def filesByName (files : List File) : Table File :=
  .ofList (files.map fun f => (f.name, f))

/-- The modules of a file that is asked for by name. -/
def requested (files : Table File) (ix : Index) (settings : Settings) (name : String) :
    Traced (List GeneratedFile) :=
  match files.find? name with
  | some file => modules ix settings file
  | none => Traced.refuse (.fileNotFound name)

/-- The modules of the files that are asked for. -/
def generate (names : List String) (files : List File) (settings : Settings) :
    Traced (List GeneratedFile) := do
  let byName := filesByName files
  let ix := Index.ofFiles byName.values
  Traced.report (.indexed ix.messages.size ix.enums.size)
  let generated ← names.mapM (requested byName ix settings)
  return generated.flatten

end Generation

end RpcStubs

/-
A run of the command line.

What a run does to the disk, and what it reports meanwhile, is planned from the arguments and
the bytes of the schema set alone.  Carrying out a plan may fail half-way, where a file cannot be
written; what was written and reported before that stays.
-/
import RpcStubs.CommandLine.Usage
import RpcStubs.Disk
import RpcStubs.Generation
import RpcStubs.Wire.Decode

namespace RpcStubs.CommandLine

/-- Why a run breaks off without an exit code. -/
inductive Fault where
  /-- No schema set is named. -/
  | unnamed
  /-- A map entry refers to itself. -/
  | cyclic
  /-- The schema set is encoded wrongly. -/
  | undecodable
  /-- A file cannot be read or written. -/
  | disk (error : DiskError)
deriving DecidableEq, Repr

/-- A step of a run. -/
inductive Action where
  | report (event : Event)
  | write (path content : String)
deriving DecidableEq, Repr

/-- The steps of a run, and how it ends. -/
structure Plan where
  actions : List Action
  ending : Except Fault Nat

/-- Where the schema set is read from. -/
def Options.descriptorPath? (o : Options) (root : String) : Option String :=
  o.descriptorSet.map (DiskPath.join root)

/-- Where the generated files go. -/
def Options.outputPath (o : Options) (root : String) : String :=
  if o.outputDir = "" then root else DiskPath.join root o.outputDir

def Options.settings (o : Options) : Settings :=
  let s : Settings := { emitMessages := !o.noMessages }
  if o.wktPackage = "" then s else s.withPackage o.wktPackage

/-- The files to generate: those that are named, or all but the well-known ones. -/
def Options.names (o : Options) (files : List File) : List String :=
  if o.files = [] then
    (files.map (·.name)).filter fun name => !o.settings.wellKnown.has name
  else o.files

/-- The steps that write generated files below a directory. -/
def writeActions (directory : String) (generated : List GeneratedFile) : List Action :=
  generated.flatMap fun g =>
    let path := DiskPath.join directory g.name
    [.write path g.content, .report (.wrote path)]

/-- The plan of a run on a schema set that is read from a path. -/
def planFor (root : String) (o : Options) (path : String) (files : List File) : Plan :=
  let names := o.names files
  let g := Generation.generate names files o.settings
  let before := [.loaded files.length path, .generating names.length] ++ g.events
  match g.result with
  | .ok generated =>
    ⟨before.map .report ++ writeActions (o.outputPath root) generated, .ok 0⟩
  | .error (.invalid e) => ⟨(before ++ [.runFailed e.message]).map .report, .ok 1⟩
  | .error .cyclic => ⟨before.map .report, .error .cyclic⟩

/-- The plan of a run that finds bytes under each path, or an error. -/
def plan (root : String) (o : Options) (read : String → Except DiskError Wire.Bytes) : Plan :=
  match o.descriptorPath? root with
  | none => ⟨[], .error .unnamed⟩
  | some path =>
    match read path with
    | .error e => ⟨[], .error (.disk e)⟩
    | .ok bytes =>
      match Wire.readSchemaSet bytes with
      | none => ⟨[], .error .undecodable⟩
      | some files => planFor root o path files

/-- What a run leaves behind. -/
structure Outcome where
  ending : Except Fault Nat
  output : String := ""
  log : String := ""
  disk : Disk

/-- Carry out steps on a disk.  Gives the disk, the events, and the error that stopped it. -/
def perform (disk : Disk) : List Action → Disk × List Event × Option DiskError
  | [] => (disk, [], none)
  | .report event :: rest =>
    let (disk, events, stop) := perform disk rest
    (disk, event :: events, stop)
  | .write path content :: rest =>
    match disk.write path content with
    | .error e => (disk, [], some e)
    | .ok disk => perform disk rest

/-- The level from which events are logged. -/
def Options.level (o : Options) : Level :=
  if o.verbose then .debug else .info

/-- Run with options on a disk, from a directory. -/
def runOptions (disk : Disk) (root : String) (o : Options) : Outcome :=
  let p := plan root o disk.read
  let (after, events, stop) := perform disk p.actions
  { ending := match stop with
      | some e => .error (.disk e)
      | none => p.ending
    log := Event.log o.level (.workingFrom root :: events)
    disk := after }

/-- Run the command line on a disk, from a directory. -/
def run (disk : Disk) (root : String) (arguments : List String) : Outcome :=
  match parse arguments with
  | .error e => { ending := .ok 2, log := refusal e, disk }
  | .ok .help => { ending := .ok 0, output := help, disk }
  | .ok (.run o) => runOptions disk root o

end RpcStubs.CommandLine

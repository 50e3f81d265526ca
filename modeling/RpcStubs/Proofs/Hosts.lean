/-
# The two hosts agree

The generator is called in two ways.  A compiler sends a request with the names
of files and a parameter, and gets a response.  The command line is given
arguments, reads a schema set from the disk and writes there.  Each builds the
settings, chooses the files and reports failures in code of its own; only
generation itself is shared.

The hosts agree on whatever options a run has, and on arguments that ask for
them (`run_agreesWith_process`).  They do not agree on every way to name a
package: a parameter can name a package `--`, and as an argument of its own the
same name is refused (`dashed_package_refused`).
-/
import RpcStubs.Proofs.Arguments
import RpcStubs.Proofs.Parameters
import RpcStubs.Proofs.Responses
import RpcStubs.Proofs.Tables
import RpcStubs.Proofs.Written

namespace RpcStubs

/-! ## Settings and files -/

theorem Event.log_append (threshold : Level) (es fs : List Event) :
    log threshold (es ++ fs) = log threshold es ++ log threshold fs := by
  simp only [log, List.filter_append, List.map_append, String.join_append]

theorem Table.has_eq_decide {α : Type} (t : Table α) (key : String) :
    t.has key = decide (key ∈ t.keys) := by
  rw [Bool.eq_iff_iff, decide_eq_true_iff, mem_keys_iff_find?, has, Option.isSome_iff_exists]

theorem Request.generate_of_ofParameter {r : Request} {settings : Settings}
    (h : Settings.ofParameter r.parameter = .ok settings) :
    r.generate none = Generation.generate r.names r.files settings := by
  show (Traced.check (Settings.ofParameter r.parameter) >>= fun s =>
    Generation.generate r.names r.files s) = _
  rw [h]
  rfl

namespace CommandLine

/-- What the command line generates if it is told to, or all files of the set that are not
well-known. -/
def chosen (named : List String) (files : List File) (wellKnown : Table String) : List String :=
  if named = [] then (files.map (·.name)).filter (· ∉ wellKnown.keys) else named

/-- Options that stand for settings: messages are off exactly if they are not to be emitted, and a
package is named exactly if one is wanted. -/
structure Options.AsksFor (o : Options) (emitMessages : Bool) (package : Option String) : Prop where
  noMessages : o.noMessages = !emitMessages
  wktPackage : o.wktPackage = package.getD ""
  packageName : ∀ name ∈ package, Settings.PackageName name

namespace Options.AsksFor

variable {o : Options} {emitMessages : Bool} {package : Option String}

theorem settings_eq (h : o.AsksFor emitMessages package) :
    o.settings = .asked emitMessages package := by
  unfold Options.settings
  rw [h.noMessages, h.wktPackage, Bool.not_not]
  cases package with
  | none => rfl
  | some name =>
      have hname : name ≠ "" := (h.packageName name rfl).ne_empty
      rw [Option.getD_some, if_neg hname]
      rfl

theorem names_eq (h : o.AsksFor emitMessages package) (files : List File) :
    o.names files = chosen o.files files (Settings.asked emitMessages package).wellKnown := by
  unfold Options.names chosen
  rw [h.settings_eq]
  simp only [Table.has_eq_decide, decide_not]

end Options.AsksFor

/-! ## Runs -/

theorem runOptions_eq (disk : Disk) (root : String) (o : Options) {p : Plan}
    (h : plan root o disk.read = p) :
    runOptions disk root o =
      { ending := match (perform disk p.actions).2.2 with
          | some e => .error (.disk e)
          | none => p.ending
        log := Event.log o.level (.workingFrom root :: (perform disk p.actions).2.1)
        disk := (perform disk p.actions).1 } := by
  subst h
  rfl

theorem plan_eq_planFor {disk : Disk} {root set : String} {o : Options} {bytes : Wire.Bytes}
    {files : List File} (hset : o.descriptorSet = some set)
    (hread : disk.read (DiskPath.join root set) = .ok bytes)
    (hfiles : Wire.readSchemaSet bytes = some files) :
    plan root o disk.read = planFor root o (DiskPath.join root set) files := by
  simp only [plan, Options.descriptorPath?, hset, Option.map_some, hread, hfiles]

/-- A failure is logged at every level that can be set. -/
theorem log_runFailed (o : Options) (es : List Event) (message : String) :
    Event.log o.level (es ++ [.runFailed message])
      = Event.log o.level es ++ (Event.runFailed message).line := by
  have hlevel : o.level.rank ≤ Level.error.rank := by
    unfold Options.level
    split <;> decide
  have hlast : Event.log o.level [.runFailed message] = (Event.runFailed message).line := by
    simp [Event.log, Event.level, hlevel]
  rw [Event.log_append, hlast]

/-- The command line ends as the answer to a request does: with a failure and nothing written if
the answer holds an error, which both report; with the files of the answer written if it holds
none; and without an exit code if there is no answer. -/
structure Outcome.AgreesWith (outcome : Outcome) (before : Disk) (directory : String)
    (answer : Traced Response) : Prop where
  refused_iff : outcome.ending = .ok 1 ↔
    ∃ response message, answer.result = .ok response ∧ response.error = some message
  refused : ∀ response message, answer.result = .ok response → response.error = some message →
    outcome.disk = before ∧
    (∃ earlier, outcome.log = earlier ++ (Event.runFailed message).line) ∧
    ∃ earlier, answer.events = earlier ++ [.requestFailed message]
  generated : ∀ response, answer.result = .ok response → response.error = none →
    outcome.ending = .ok 0 ∧ ∀ names, outcome.disk.file? names
      = ((recordAt? directory response.files names).map fun g => .text g.content).or
          (before.file? names)
  unanswered_iff : outcome.ending = .error .cyclic ↔ answer.result = .error .cyclic

/-- A run that is planned on a schema set ends as generation does. -/
theorem agreesWith_of_planFor {disk : Disk} {root path : String} {o : Options} {files : List File}
    {request : Request} (hplan : plan root o disk.read = planFor root o path files)
    (hgenerate : request.generate none = Generation.generate (o.names files) files o.settings)
    (hdisk : ∀ e, (runOptions disk root o).ending ≠ .error (.disk e)) :
    (runOptions disk root o).AgreesWith disk (o.outputPath root) (request.process none) := by
  have houtcome := runOptions_eq disk root o hplan
  unfold planFor at houtcome
  unfold Request.process
  rw [hgenerate]
  dsimp only at houtcome ⊢
  generalize Generation.generate (o.names files) files o.settings = g at houtcome ⊢
  cases hresult : g.result with
  | ok generated =>
      simp only [hresult, perform_map_report_append] at houtcome
      cases hstop : (perform disk (writeActions (o.outputPath root) generated)).2.2 with
      | some e => exact absurd (by rw [houtcome, hstop]) (hdisk e)
      | none =>
          rw [hstop] at houtcome
          rw [houtcome]
          refine ⟨⟨nofun, ?_⟩, ?_, ?_, ⟨nofun, nofun⟩⟩
          · rintro ⟨response, message, hresponse, herror⟩
            cases hresponse
            cases herror
          · intro response message hresponse herror
            cases hresponse
            cases herror
          · intro response hresponse _
            cases hresponse
            exact ⟨rfl, file?_perform_writeActions hstop⟩
  | error failure =>
      cases failure with
      | invalid e =>
          simp only [hresult, perform_map_report] at houtcome
          rw [houtcome]
          refine ⟨⟨fun _ => ⟨_, e.message, rfl, rfl⟩, fun _ => rfl⟩, ?_, ?_, ⟨nofun, nofun⟩⟩
          · intro response message hresponse herror
            cases hresponse
            cases herror
            have hlog := log_runFailed o (.workingFrom root :: .loaded files.length path
              :: .generating (o.names files).length :: g.events) e.message
            exact ⟨rfl, ⟨_, hlog⟩, ⟨g.events, rfl⟩⟩
          · intro response hresponse herror
            cases hresponse
            cases herror
      | cyclic =>
          simp only [hresult, perform_map_report] at houtcome
          rw [houtcome]
          refine ⟨⟨nofun, ?_⟩, ?_, ?_, ⟨fun _ => rfl, fun _ => rfl⟩⟩
          · rintro ⟨response, message, hresponse, -⟩
            cases hresponse
          · intro response message hresponse
            cases hresponse
          · intro response hresponse
            cases hresponse

/-! ## Agreement -/

/-- A run ends as the answer to the request for the same files with the same settings, if the disk
can be read and written: a run with given options, and so a run with arguments that ask for them,
which are understood.  There are such arguments if no value is two dashes and no file is taken for
an option. -/
theorem run_agreesWith_process {disk : Disk} {root : String} {o : Options} {set : String}
    {bytes : Wire.Bytes} {request : Request} {emitMessages : Bool} {package : Option String}
    (hasks : o.AsksFor emitMessages package) (hset : o.descriptorSet = some set)
    (hread : disk.read (DiskPath.join root set) = .ok bytes)
    (hfiles : Wire.readSchemaSet bytes = some request.files)
    (hnames : request.names
      = chosen o.files request.files (Settings.asked emitMessages package).wellKnown)
    (hparameter : request.parameter = ",".intercalate (Settings.parts emitMessages package)
      ∨ request.parameter = ",".intercalate (Settings.parts emitMessages package).reverse)
    (hdisk : ∀ e, (runOptions disk root o).ending ≠ .error (.disk e)) :
    (runOptions disk root o).AgreesWith disk (o.outputPath root) (request.process none) ∧
    (∀ arguments, o.SaidBy arguments → parse arguments = .ok (.run o) ∧
      (run disk root arguments).AgreesWith disk (o.outputPath root) (request.process none)) ∧
    (o.Speakable → o.SaidBy o.arguments) := by
  have hsettings : Settings.ofParameter request.parameter = .ok o.settings := by
    rw [hasks.settings_eq]
    rcases hparameter with hparameter | hparameter
    · rw [hparameter]
      exact Settings.ofParameter_parts hasks.packageName (.inl rfl)
    · rw [hparameter]
      exact Settings.ofParameter_parts hasks.packageName (.inr rfl)
  have hgenerate : request.generate none
      = Generation.generate (o.names request.files) request.files o.settings := by
    rw [Request.generate_of_ofParameter hsettings, hnames, hasks.names_eq]
  have hagrees : (runOptions disk root o).AgreesWith disk (o.outputPath root)
      (request.process none) :=
    agreesWith_of_planFor (plan_eq_planFor hset hread hfiles) hgenerate hdisk
  refine ⟨hagrees, ?_, Options.saidBy_arguments⟩
  intro arguments harguments
  have hparse := Options.parse_of_saidBy hset harguments
  refine ⟨hparse, ?_⟩
  rw [run, hparse]
  exact hagrees

/-! A schema set with one file, which depends on a well-known one. -/

namespace Ping

def schema : File where
  name := "ping.proto"
  dependencies := ["google/protobuf/empty.proto"]

def bytes : Wire.Bytes :=
  [10, 41, 10, 10] ++ "ping.proto".toUTF8.toList ++ [26, 27]
    ++ "google/protobuf/empty.proto".toUTF8.toList

def disk : Disk where
  directories := [["work"]]
  files := [(["work", "set"], .bytes bytes)]

theorem read_disk : disk.read (DiskPath.join "/work" "set") = .ok bytes := rfl

theorem readSchemaSet_bytes : Wire.readSchemaSet bytes = some [schema] := by
  with_unfolding_all rfl

/-- The message module of the file, with the package that it imports from. -/
def messageModule (package : String) : GeneratedFile where
  name := "ping_pb.ts"
  content := "// package: \n// file: ping.proto\n\nimport * as google_protobuf_empty_pb from \""
    ++ package ++ "/google/protobuf/empty_pb\";\n\n"

def serviceModule : GeneratedFile where
  name := "ping_pb_service.ts"
  content := "// package: \n// file: ping.proto\n\n"

def request (parameter : String) : Request where
  names := ["ping.proto"]
  parameter
  files := [schema]

/-- A package that begins with a dash. -/
def options : Options where
  descriptorSet := some "set"
  outputDir := "out"
  wktPackage := "-acme"

theorem packageName : Settings.PackageName "-acme" := by
  refine ⟨by decide, by decide, ?_, ?_⟩
  · rintro c ⟨⟩
    rfl
  · rintro c ⟨⟩
    rfl

theorem packageName_dashes : Settings.PackageName "--" := by
  refine ⟨by decide, by decide, ?_, ?_⟩
  · rintro c ⟨⟩
    rfl
  · rintro c ⟨⟩
    rfl

theorem result_process : ((request "wkt_package=-acme").process none).result
    = .ok { files := [messageModule "-acme", serviceModule] } := by
  decide +kernel

theorem result_process_dashes : ((request "wkt_package=--").process none).result
    = .ok { files := [messageModule "--", serviceModule] } := by
  decide +kernel

theorem ending_runOptions : (runOptions disk "/work" options).ending = .ok 0 := by
  rw [runOptions_eq disk "/work" options (plan_eq_planFor rfl read_disk readSchemaSet_bytes)]
  rfl

end Ping

theorem run_agreesWith_process_ping :
    Ping.options.Speakable ∧
    Ping.options.arguments
      = ["--descriptor-set=set", "--output-dir=out", "--wkt-package=-acme"] ∧
    Ping.options.SaidBy ["-o", "elsewhere", "--wkt-package=-acme", "-o", "out", "-d", "set"] ∧
    (run Ping.disk "/work" Ping.options.arguments).ending = .ok 0 ∧
    (run Ping.disk "/work" Ping.options.arguments).disk.file? ["work", "out", "ping_pb.ts"]
      = some (.text (Ping.messageModule "-acme").content) := by
  have hspeakable : Ping.options.Speakable :=
    ⟨by decide, by decide, by decide, by decide⟩
  have hasks : Ping.options.AsksFor true (some "-acme") := by
    refine ⟨rfl, rfl, ?_⟩
    rintro name ⟨⟩
    exact Ping.packageName
  have hattached : Says ["--wkt-package=-acme"] (.wktPackage, ["-acme"]) :=
    @Says.attached .wktPackage "--wkt-package" "-acme" (by decide) (by decide) (by decide)
  have hsegments : List.Forall₂ Says
      [["-o", "elsewhere"], ["--wkt-package=-acme"], ["-o", "out"], ["-d", "set"]]
      [(.outputDir, ["elsewhere"]), (.wktPackage, ["-acme"]), (.outputDir, ["out"]),
        (.descriptorSet, ["set"])] :=
    .cons (.value rfl (by decide) (by decide)) (.cons hattached
      (.cons (.value rfl (by decide) (by decide))
        (.cons (.value rfl (by decide) (by decide)) .nil)))
  obtain ⟨-, hagrees, hsaid⟩ :=
    @run_agreesWith_process _ _ _ _ _ (Ping.request "wkt_package=-acme") _ _ hasks rfl
      Ping.read_disk Ping.readSchemaSet_bytes rfl (.inl rfl) (by rw [Ping.ending_runOptions]; nofun)
  obtain ⟨hending, hwritten⟩ :=
    (hagrees _ (hsaid hspeakable)).2.generated _ Ping.result_process rfl
  exact ⟨hspeakable, rfl, ⟨_, _, hsegments, rfl, rfl⟩, hending, (hwritten _).trans rfl⟩

-- The dashes as an argument of their own are no value, and the run ends before it reads the set.
-- They are not the only such name: `-acme` is refused as well.
theorem dashed_package_refused :
    Settings.PackageName "--" ∧
    (run Ping.disk "/work" ["-d", "set", "--wkt-package", "--"]).ending = .ok 2 ∧
    ((Ping.request "wkt_package=--").process none).result
      = .ok { files := [Ping.messageModule "--", Ping.serviceModule] } ∧
    ¬ (run Ping.disk "/work" ["-d", "set", "--wkt-package", "--"]).AgreesWith Ping.disk "/work"
        ((Ping.request "wkt_package=--").process none) ∧
    (run Ping.disk "/work" ["-d", "set", "--wkt-package", "-acme"]).ending = .ok 2 := by
  have hending : (run Ping.disk "/work" ["-d", "set", "--wkt-package", "--"]).ending = .ok 2 := rfl
  refine ⟨Ping.packageName_dashes, hending, Ping.result_process_dashes, ?_, rfl⟩
  intro hagrees
  rw [(hagrees.generated _ Ping.result_process_dashes rfl).1] at hending
  cases hending

end CommandLine

end RpcStubs

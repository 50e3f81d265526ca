/-
What the program reports while it works.
-/
import RpcStubs.TypeExpr

namespace RpcStubs

/-- How much a report matters. -/
inductive Level where
  | debug
  | info
  | warning
  | error
deriving DecidableEq, Repr

/-- The place of a level in their order. -/
def Level.rank : Level → Nat
  | .debug => 10
  | .info => 20
  | .warning => 30
  | .error => 40

def Level.name : Level → String
  | .debug => "DEBUG"
  | .info => "INFO"
  | .warning => "WARNING"
  | .error => "ERROR"

/-- Something reported. -/
inductive Event where
  /-- The directory that relative paths start from. -/
  | workingFrom (root : String)
  /-- A schema set was read. -/
  | loaded (files : Nat) (path : String)
  /-- Generation starts. -/
  | generating (files : Nat)
  /-- The index is built. -/
  | indexed (messages enums : Nat)
  /-- A map entry was resolved. -/
  | resolvedMap (name : String) (key value : TypeExpr)
  /-- A message module is complete. -/
  | rendered (messages : Nat) (file : String)
  /-- A dependency is not imported, since no method needs it. -/
  | skippedImport (dependency file : String)
  /-- A method gets no stub, since it streams. -/
  | skippedMethod (service method : String)
  /-- A file was written. -/
  | wrote (path : String)
  /-- A request was answered. -/
  | generated (files : Nat)
  /-- A request was refused. -/
  | requestFailed (message : String)
  /-- A run was refused. -/
  | runFailed (message : String)
deriving DecidableEq, Repr

namespace Event

def level : Event → Level
  | .indexed .. | .resolvedMap .. | .rendered .. | .skippedImport .. | .skippedMethod ..
  | .loaded .. => .debug
  | .workingFrom _ | .generating _ | .wrote _ | .generated _ => .info
  | .requestFailed _ | .runFailed _ => .error

/-- The part of the program that an event comes from. -/
def origin : Event → String
  | .workingFrom _ => "root"
  | .indexed .. => "ts_jsonrpc_generator.export_map"
  | .resolvedMap .. => "ts_jsonrpc_generator.field_types"
  | .rendered .. => "ts_jsonrpc_generator.message_writer"
  | .skippedImport .. => "ts_jsonrpc_generator.writer_dto"
  | .skippedMethod .. => "ts_jsonrpc_generator.service_writer"
  | .loaded .. | .generating _ | .wrote _ | .generated _ | .requestFailed _ =>
    "ts_jsonrpc_generator.run"
  | .runFailed _ => "ts_jsonrpc_generator.cli"

def text : Event → String
  | .workingFrom root => "Working from root directory: " ++ root
  | .loaded files path => "Loaded " ++ toString files ++ " file descriptor(s) from " ++ path ++ "."
  | .generating files => "Generating TypeScript for " ++ toString files ++ " file(s)."
  | .indexed messages enums =>
    "Indexed " ++ toString messages ++ " message(s) and " ++ toString enums ++ " enum(s)."
  | .resolvedMap name key value =>
    "Resolved " ++ name ++ " as map of " ++ key.text ++ " to " ++ value.text ++ "."
  | .rendered messages file => "Rendered " ++ toString messages ++ " message(s) of " ++ file ++ "."
  | .skippedImport dependency file =>
    "Skipping unused import " ++ dependency ++ " in " ++ file ++ "."
  | .skippedMethod service method =>
    "Skipping streaming method " ++ service ++ "." ++ method ++ ", JSON-RPC has no streaming."
  | .wrote path => "Wrote '" ++ path ++ "'."
  | .generated files => "Generated " ++ toString files ++ " file(s)."
  | .requestFailed message => "Generation failed: " ++ message
  | .runFailed message => "Generation failed, no files were written: " ++ message

/-- An event as a line of the log. -/
def line (e : Event) : String :=
  e.level.name ++ ":" ++ e.origin ++ ":" ++ e.text ++ "\n"

/-- The lines of the events that matter at least as much as a level. -/
def log (threshold : Level) (events : List Event) : String :=
  String.join ((events.filter fun e => threshold.rank ≤ e.level.rank).map line)

end Event

end RpcStubs

/-
Arguments of the command line.

Every argument is first told apart: an option, a value, or the two dashes behind which all is a
value.  Then the options take their values from left to right.  A long option may be shortened
as long as it stays the only one, and takes a value behind an equals sign; short options may be
joined, also behind an equals sign, and the last of them takes the rest as its value.

Readers of arguments differ by release in what is attached to an option.  This one is of the
releases before 3.11.10 and 3.12.3.  Later ones keep two dashes that are attached as a value, drop
an equals sign between joined options and the value of the last, and read no options behind an
equals sign.
-/
import RpcStubs.Text.Pieces
import RpcStubs.Text.Quoted
import RpcStubs.Text.Word

namespace RpcStubs.CommandLine

/-- The options that the command line knows. -/
inductive Switch where
  | help
  | descriptorSet
  | files
  | outputDir
  | noMessages
  | wktPackage
  | verbose
deriving DecidableEq, Repr

/-- How many values an option takes. -/
inductive Arity where
  | none
  | one
  | some
deriving DecidableEq, Repr

namespace Switch

def arity : Switch → Arity
  | .help | .noMessages | .verbose => .none
  | .descriptorSet | .outputDir | .wktPackage => .one
  | .files => .some

def spellings : Switch → List String
  | .help => ["-h", "--help"]
  | .descriptorSet => ["-d", "--descriptor-set"]
  | .files => ["-f", "--files"]
  | .outputDir => ["-o", "--output-dir"]
  | .noMessages => ["--no-messages"]
  | .wktPackage => ["--wkt-package"]
  | .verbose => ["-v", "--verbose"]

def all : List Switch :=
  [.help, .descriptorSet, .files, .outputDir, .noMessages, .wktPackage, .verbose]

def spelled : List (String × Switch) :=
  all.flatMap fun s => s.spellings.map fun spelling => (spelling, s)

def named? (spelling : String) : Option Switch :=
  spelled.lookup spelling

/-- How an option is called in messages. -/
def title (s : Switch) : String :=
  "/".intercalate s.spellings

end Switch

/-- Why the arguments are refused. -/
inductive UsageError where
  /-- Options that have to be given are not. -/
  | required (missing : List Switch)
  /-- Arguments are left over. -/
  | unrecognized (arguments : List String)
  /-- An option that takes one value has none. -/
  | expectedOne (switch : Switch)
  /-- An option that takes values has none. -/
  | expectedSome (switch : Switch)
  /-- An option that takes no value has one. -/
  | ignoredValue (switch : Switch) (value : List Char)
  /-- A shortened option stands for several. -/
  | ambiguous (argument : String) (matching : List String)
deriving DecidableEq, Repr

def UsageError.message : UsageError → String
  | .required missing =>
    "the following arguments are required: " ++ ", ".intercalate (missing.map Switch.title)
  | .unrecognized arguments => "unrecognized arguments: " ++ " ".intercalate arguments
  | .expectedOne switch => "argument " ++ switch.title ++ ": expected one argument"
  | .expectedSome switch => "argument " ++ switch.title ++ ": expected at least one argument"
  | .ignoredValue switch value =>
    "argument " ++ switch.title ++ ": ignored explicit argument " ++ Text.quoted value
  | .ambiguous argument matching =>
    "ambiguous option: " ++ argument ++ " could match " ++ ", ".intercalate matching

/-- An argument, told apart. -/
inductive Word where
  /-- A value. -/
  | value (text : String)
  /-- An option, whether it is spelled with two dashes, and the text attached to it. -/
  | option (switch : Switch) (long : Bool) (attached : Option (List Char))
  /-- Something that looks like an option and is none. -/
  | unknown (text : String)
  /-- Two dashes alone. -/
  | dashes
deriving DecidableEq, Repr

/-- Whether an argument looks like a negative number.  A line end behind it is overlooked. -/
def isNegativeNumber (cs : List Char) : Bool :=
  match cs with
  | '-' :: rest =>
    let body := if rest.getLast? = some '\n' then rest.dropLast else rest
    let fraction := (body.dropWhile Text.isDecimal).drop 1
    (!body.isEmpty && body.all Text.isDecimal)
      || ((body.dropWhile Text.isDecimal).head? == some '.' && !fraction.isEmpty
        && fraction.all Text.isDecimal)
  | _ => false

/-- The options that a long argument may be short for, with the text behind its equals sign. -/
def abbreviated (cs : List Char) : List (String × Switch) × Option (List Char) :=
  let (name, value) := Text.cut '=' cs
  (Switch.spelled.filter fun s => name.isPrefixOf s.1.toList,
    if cs.contains '=' then some value else none)

/-- An argument that starts with a dash and is no spelling of an option. -/
def classifyDashed (text : String) (cs : List Char) : Except UsageError Word :=
  let (name, value) := Text.cut '=' cs
  let exact := if cs.contains '=' then Switch.named? (String.ofList name) else none
  match exact with
  | some switch => .ok (.option switch (name.take 2 = ['-', '-']) (some value))
  | none =>
    let other : Word :=
      if isNegativeNumber cs || cs.contains ' ' then .value text else .unknown text
    if cs.take 2 = ['-', '-'] then
      match abbreviated cs with
      | ([], _) => .ok other
      | ([(_, switch)], attached) => .ok (.option switch true attached)
      | (several, _) => .error (.ambiguous text (several.map (·.1)))
    else
      match Switch.named? (String.ofList (cs.take 2)) with
      | some switch => .ok (.option switch false (some (cs.drop 2)))
      | none => .ok other

/-- Tell an argument apart. -/
def classify (text : String) : Except UsageError Word :=
  match Switch.named? text, text.toList with
  | some switch, cs => .ok (.option switch (cs.take 2 = ['-', '-']) none)
  | none, '-' :: c :: cs => classifyDashed text ('-' :: c :: cs)
  | none, _ => .ok (.value text)

def classifyAll : List String → Except UsageError (List Word)
  | [] => .ok []
  | text :: rest =>
    if text = "--" then .ok (.dashes :: rest.map .value)
    else do
      let w ← classify text
      let ws ← classifyAll rest
      return w :: ws

/-- The values at the head of a list of arguments. -/
def leadingValues : List Word → List String
  | .value text :: ws => text :: leadingValues ws
  | _ => []

/-- Options with their values as one argument sets them, and how many of the arguments behind it
are used. -/
structure Taken where
  settings : List (Switch × List String)
  used : Nat := 0
deriving DecidableEq, Repr

/-- What is taken, with an option without values set before it. -/
def Taken.after (switch : Switch) (t : Taken) : Taken :=
  { t with settings := (switch, []) :: t.settings }

/-- An option without text attached to it takes values that follow it. -/
def takeFollowing (switch : Switch) (following : List String) : Except UsageError Taken :=
  match switch.arity, following with
  | .none, _ => .ok { settings := [(switch, [])] }
  | .one, value :: _ => .ok { settings := [(switch, [value])], used := 1 }
  | .one, [] => .error (.expectedOne switch)
  | .some, [] => .error (.expectedSome switch)
  | .some, values => .ok { settings := [(switch, values)], used := values.length }

/-- The values that attached text stands for.  Two dashes end a list of values, so that they alone
are an empty list; in later releases they are a value. -/
def attachedValues (text : List Char) : List String :=
  if text = ['-', '-'] then [] else [String.ofList text]

/-- A short option with text joined to it.  If it takes no value, the next letter has to be an
option, to which the rest is joined; in later releases a letter that is none is left over. -/
def takeJoined (switch : Switch) (following : List String) : List Char → Except UsageError Taken
  | [] => takeFollowing switch following
  | c :: cs =>
    match switch.arity, Switch.named? (String.ofList ['-', c]) with
    | .none, some next => Taken.after switch <$> takeJoined next following cs
    | .none, none => .error (.ignoredValue switch (c :: cs))
    | _, _ => .ok { settings := [(switch, attachedValues (c :: cs))] }

def take (switch : Switch) (long : Bool) (attached : Option (List Char))
    (following : List String) : Except UsageError Taken :=
  match attached, switch.arity with
  | none, _ => takeFollowing switch following
  | some text, .none =>
    if long || text.isEmpty then .error (.ignoredValue switch text)
    else takeJoined switch following text
  | some text, _ => .ok { settings := [(switch, attachedValues text)] }

/-- What the command line asks for.  The schema set is missing if its option has an empty list
of values. -/
structure Options where
  descriptorSet : Option String := none
  files : List String := []
  outputDir : String := ""
  noMessages : Bool := false
  wktPackage : String := ""
  verbose : Bool := false
deriving DecidableEq, Repr

/-- The options after one of them is set; the last value counts. -/
def Options.set (o : Options) : Switch × List String → Options
  | (.descriptorSet, values) => { o with descriptorSet := values.head? }
  | (.files, values) => { o with files := values }
  | (.outputDir, values) => { o with outputDir := values.headD "" }
  | (.noMessages, _) => { o with noMessages := true }
  | (.wktPackage, values) => { o with wktPackage := values.headD "" }
  | (.verbose, _) => { o with verbose := true }
  | (.help, _) => o

/-- What the arguments amount to. -/
inductive Invocation where
  | run (options : Options)
  | help
deriving DecidableEq, Repr

/-- Arguments read so far. -/
structure Progress where
  options : Options := {}
  seen : List Switch := []
  stray : List String := []

/-- Set options one after the other; nothing if help is asked for on the way. -/
def Progress.setAll (p : Progress) : List (Switch × List String) → Option Progress
  | [] => some p
  | s :: rest =>
    if s.1 = .help then none
    else { p with options := p.options.set s, seen := s.1 :: p.seen }.setAll rest

/-- What the arguments amount to when all are read. -/
def Progress.finish (p : Progress) : Except UsageError Invocation :=
  if .descriptorSet ∉ p.seen then .error (.required [.descriptorSet])
  else if p.stray ≠ [] then .error (.unrecognized p.stray)
  else .ok (.run p.options)

/-- Read arguments, the first `skip` of which an option has used. -/
def consume (p : Progress) (skip : Nat) : List Word → Except UsageError Invocation
  | [] => p.finish
  | w :: ws =>
    match skip, w with
    | skip + 1, _ => consume p skip ws
    | 0, .value text | 0, .unknown text => consume { p with stray := p.stray ++ [text] } 0 ws
    | 0, .dashes => consume { p with stray := p.stray ++ ["--"] } 0 ws
    | 0, .option switch long attached => do
      let t ← take switch long attached (leadingValues ws)
      match p.setAll t.settings with
      | some p => consume p t.used ws
      | none => return .help

/-- What a command line asks for. -/
def parse (arguments : List String) : Except UsageError Invocation := do
  let words ← classifyAll arguments
  consume {} 0 words

end RpcStubs.CommandLine

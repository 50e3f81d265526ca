/-
Settings of a run, and how they are read from a parameter.

A parameter is a list of parts between commas.  A part sets one thing, or is blank and sets
nothing; a later part overrides an earlier one that sets the same.
-/
import RpcStubs.Error
import RpcStubs.Text.Blank
import RpcStubs.Text.Case
import RpcStubs.Text.Pieces
import RpcStubs.WellKnown

namespace RpcStubs

structure Settings where
  /-- Whether the message modules are generated, beside the service modules. -/
  emitMessages : Bool := true
  /-- Where the well-known files are imported from. -/
  wellKnown : Table String := WellKnown.default

namespace Settings

/-- The settings with the well-known files in another package. -/
def withPackage (s : Settings) (package : String) : Settings :=
  { s with wellKnown := WellKnown.table package }

/-- What a part of a parameter sets. -/
inductive Assignment where
  | messages (emit : Bool)
  | package (name : String)
deriving DecidableEq, Repr

def assign (s : Settings) : Assignment → Settings
  | .messages emit => { s with emitMessages := emit }
  | .package name => s.withPackage name

/-- Words that switch something on.  Nothing at all is one of them. -/
def trueWords : List String := ["", "1", "true", "yes"]

/-- Words that switch something off. -/
def falseWords : List String := ["0", "false", "no"]

/-- The switch that a value stands for, white space around it and capitals apart. -/
def readSwitch (key : String) (value : List Char) : Except GenerationError Bool :=
  let word := Text.lower (String.ofList (Text.trimChars value))
  if word ∈ trueWords then .ok true
  else if word ∈ falseWords then .ok false
  else .error (.invalidBoolean key value)

/-- What a part sets: the key before the first equals sign, and the value behind it. -/
def readPart (part : List Char) : Except GenerationError (Option Assignment) :=
  if (Text.trimChars part).isEmpty then .ok none
  else
    let (before, value) := Text.cut '=' part
    let key := String.ofList (Text.trimChars before)
    if key = "messages" then (fun emit => some (.messages emit)) <$> readSwitch key value
    else if key = "wkt_package" then
      match Text.trimChars value with
      | [] => .error .missingPackage
      | name => .ok (some (.package (String.ofList name)))
    else .error (.unknownParameter key)

def applyPart (s : Settings) (part : List Char) : Except GenerationError Settings := do
  match ← readPart part with
  | some a => return s.assign a
  | none => return s

/-- The settings that a parameter stands for. -/
def ofParameter (parameter : String) : Except GenerationError Settings :=
  (Text.pieces ',' parameter.toList).foldlM applyPart {}

end Settings

end RpcStubs

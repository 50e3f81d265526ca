/-
What can be wrong with a request.

Each cause is a constructor, and the wording is in one place.  A map entry that refers to
itself stands apart from the causes: it has no wording, and no host turns it into an answer.
-/
import RpcStubs.Text.Quoted

namespace RpcStubs

/-- Why nothing can be generated. -/
inductive GenerationError where
  /-- A message is referred to and not defined. -/
  | missingMessage (name : String)
  /-- An enum is referred to and not defined. -/
  | missingEnum (name : String)
  /-- A map entry lacks a key or a value. -/
  | malformedMapEntry (name : String)
  /-- A kind has no counterpart in generated code. -/
  | unsupportedKind (code : Int)
  /-- The representation of a number has an unknown code. -/
  | unknownJsType (code : Int) (field : String)
  /-- The representation of a number is set where there is no 64-bit integer. -/
  | misplacedJsType (field : String)
  /-- A field belongs to a oneof group that its message does not declare. -/
  | undeclaredOneof (message field : String) (index : Int)
  /-- A switch of the parameter has a value that is neither true nor false. -/
  | invalidBoolean (key : String) (value : List Char)
  /-- The parameter names no package for the well-known types. -/
  | missingPackage
  /-- The parameter has an unknown key. -/
  | unknownParameter (key : String)
  /-- A file is asked for and not in the schema set. -/
  | fileNotFound (name : String)
deriving DecidableEq, Repr

def GenerationError.message : GenerationError → String
  | .missingMessage name => "No message export for: " ++ name
  | .missingEnum name => "No enum export for: " ++ name
  | .malformedMapEntry name => "Map entry message " ++ name ++ " has no recorded key/value types"
  | .unsupportedKind code => "No TypeScript type for field type " ++ toString code
  | .unknownJsType code field => "Unknown jstype " ++ toString code ++ " on '" ++ field ++ "'"
  | .misplacedJsType field =>
    "jstype is only allowed on 64-bit integer fields, found it on '" ++ field ++ "'"
  | .undeclaredOneof message field index =>
    "Field '" ++ message ++ "." ++ field ++ "' refers to undeclared oneof index " ++ toString index
  | .invalidBoolean key value => "Invalid boolean value for '" ++ key ++ "': " ++ Text.quoted value
  | .missingPackage => "'wkt_package' needs a value"
  | .unknownParameter key => "Unknown parameter '" ++ key ++ "'"
  | .fileNotFound name => "File not found in request: " ++ name

/-- How generation can fail: for a stated cause, or because a map entry refers to itself, so
that its type has no end. -/
inductive Failure where
  | invalid (error : GenerationError)
  | cyclic
deriving DecidableEq, Repr

end RpcStubs

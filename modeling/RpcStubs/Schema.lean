/-
Schemas: the files, messages, fields, enums and services that code is generated for.

A record holds what generation reads and nothing else.  A field whose presence matters apart
from its value is an `Option`; all others have the value that an absent one stands for as their
default.  Codes that a schema may carry without meaning anything (kinds, labels and number
representations of a later revision) are kept as unknown codes.
-/

namespace RpcStubs

/-- The scalar kinds of a field. -/
inductive Scalar where
  | double
  | float
  | int64
  | uint64
  | int32
  | fixed64
  | fixed32
  | bool
  | string
  | bytes
  | uint32
  | sfixed32
  | sfixed64
  | sint32
  | sint64
deriving DecidableEq, Repr

inductive Kind where
  | scalar (s : Scalar)
  | group
  | message
  | enum
  | unknown (code : Int)
deriving DecidableEq, Repr

def Kind.ofCode : Int → Kind
  | 1 => .scalar .double
  | 2 => .scalar .float
  | 3 => .scalar .int64
  | 4 => .scalar .uint64
  | 5 => .scalar .int32
  | 6 => .scalar .fixed64
  | 7 => .scalar .fixed32
  | 8 => .scalar .bool
  | 9 => .scalar .string
  | 10 => .group
  | 11 => .message
  | 12 => .scalar .bytes
  | 13 => .scalar .uint32
  | 14 => .enum
  | 15 => .scalar .sfixed32
  | 16 => .scalar .sfixed64
  | 17 => .scalar .sint32
  | 18 => .scalar .sint64
  | code => .unknown code

def Scalar.code : Scalar → Int
  | .double => 1
  | .float => 2
  | .int64 => 3
  | .uint64 => 4
  | .int32 => 5
  | .fixed64 => 6
  | .fixed32 => 7
  | .bool => 8
  | .string => 9
  | .bytes => 12
  | .uint32 => 13
  | .sfixed32 => 15
  | .sfixed64 => 16
  | .sint32 => 17
  | .sint64 => 18

def Kind.code : Kind → Int
  | .scalar s => s.code
  | .group => 10
  | .message => 11
  | .enum => 14
  | .unknown code => code

/-- Whether a field of this kind holds a message.  Groups are messages with another encoding. -/
def Kind.isMessage : Kind → Bool
  | .message | .group => true
  | _ => false

/-- Whether a field of this kind holds a 64-bit integer. -/
def Kind.isWide : Kind → Bool
  | .scalar .int64 | .scalar .uint64 | .scalar .fixed64 | .scalar .sfixed64
  | .scalar .sint64 => true
  | _ => false

/-- How many values a field holds. -/
inductive Label where
  | optional
  | required
  | repeated
  | unknown (code : Int)
deriving DecidableEq, Repr

def Label.ofCode : Int → Label
  | 1 => .optional
  | 2 => .required
  | 3 => .repeated
  | code => .unknown code

def Label.code : Label → Int
  | .optional => 1
  | .required => 2
  | .repeated => 3
  | .unknown code => code

/-- How a 64-bit integer is represented in generated code. -/
inductive JsType where
  | normal
  | string
  | number
  | unknown (code : Int)
deriving DecidableEq, Repr

def JsType.ofCode : Int → JsType
  | 0 => .normal
  | 1 => .string
  | 2 => .number
  | code => .unknown code

def JsType.code : JsType → Int
  | .normal => 0
  | .string => 1
  | .number => 2
  | .unknown code => code

theorem Kind.code_ofCode (code : Int) : (Kind.ofCode code).code = code := by
  unfold Kind.ofCode
  split <;> rfl

/-- A field of a message, or an extension. -/
structure Field where
  name : String := ""
  number : Int := 0
  kind : Kind := .scalar .double
  typeName : String := ""
  label : Label := .optional
  oneofIndex : Option Int := none
  proto3Optional : Bool := false
  jsType : Option JsType := none
deriving DecidableEq, Repr

structure EnumValue where
  name : String := ""
  number : Int := 0
deriving DecidableEq, Repr

structure Enum where
  name : String := ""
  values : List EnumValue := []
deriving DecidableEq, Repr

/-- A message with all that is declared in it.  A map entry is a message that stands for the
key and the value of a map field. -/
structure Message where
  name : String := ""
  fields : List Field := []
  nested : List Message := []
  enums : List Enum := []
  oneofs : List String := []
  extensions : List Field := []
  isMapEntry : Bool := false
deriving Repr, Inhabited

structure Method where
  name : String := ""
  inputType : String := ""
  outputType : String := ""
  clientStreaming : Bool := false
  serverStreaming : Bool := false
deriving DecidableEq, Repr

structure Service where
  name : String := ""
  methods : List Method := []
deriving DecidableEq, Repr

structure File where
  name : String := ""
  package : String := ""
  dialect : String := ""
  dependencies : List String := []
  messages : List Message := []
  enums : List Enum := []
  services : List Service := []
  extensions : List Field := []
deriving Repr

/-- Whether a dialect is the older one, with required fields.  It is also the one meant when
none is named. -/
def isProto2 (dialect : String) : Bool :=
  dialect = "" || dialect = "proto2"

end RpcStubs

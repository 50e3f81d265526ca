/-
The parts of a schema that are read and not kept.

Data that is encoded wrongly is refused also inside a part that generation does not look at, so
that the reader has to know which fields of such a part are messages and which are packed lists
of numbers.
-/
import RpcStubs.Wire.Record

namespace RpcStubs.Wire

/-- The fields of a message that hold messages, and those that hold lists of numbers. -/
structure Shape where
  messages : List (Nat × Shape) := []
  packed : List Nat := []

/-- Whether data is a list of numbers. -/
def isPacked (bs : Bytes) : Bool :=
  if bs.isEmpty then true
  else match _ : readVarint bs with
    | none => false
    | some (_, rest) => isPacked rest
termination_by bs.length
decreasing_by exact length_lt_of_readVarint ‹_›

/-- Whether data is a message of a shape, in which messages may be nested so deep. -/
def Shape.accepts (shape : Shape) (limit : Nat) (bs : Bytes) : Bool :=
  match records limit bs with
  | none => false
  | some rs => rs.all fun r =>
    match r.token with
    | .bytes payload =>
      match shape.messages.lookup r.number with
      | some part =>
        match limit with
        | 0 => false
        | deeper + 1 => part.accepts deeper payload
      | none => !shape.packed.contains r.number || isPacked payload
    | _ => true

namespace Shape

/-- A message without messages in it. -/
def plain : Shape := {}

/-- An option that the compiler has not interpreted, with the parts of its name. -/
def uninterpreted : Shape := { messages := [(2, plain)] }

/-- Options whose language features have a field number. -/
def options (features : Nat) : Shape := { messages := [(features, plain), (999, uninterpreted)] }

def fileOptions : Shape := options 50

def messageOptions : Shape := options 12

def fieldOptions : Shape where
  messages := [(20, plain), (21, plain), (22, plain), (999, uninterpreted)]
  packed := [19]

def oneofOptions : Shape := options 1

def enumOptions : Shape := options 7

def enumValueOptions : Shape where
  messages := [(2, plain), (4, plain), (999, uninterpreted)]

def serviceOptions : Shape := options 34

def methodOptions : Shape := options 35

/-- A range of numbers kept for extensions. -/
def extensionRange : Shape where
  messages := [(3, { messages := [(2, plain), (50, plain), (999, uninterpreted)] })]

/-- Where each part of a file stands in its text. -/
def sourceInfo : Shape where
  messages := [(1, { packed := [1, 2] })]

end Shape

end RpcStubs.Wire

/-
The generator as a part of a compiler: a request comes in as bytes, a response goes out as bytes.
-/
import RpcStubs.Request
import RpcStubs.Wire.Decode
import RpcStubs.Wire.Encode

namespace RpcStubs.Plugin

/-- Why a request has no response. -/
inductive Fault where
  /-- A map entry refers to itself. -/
  | cyclic
  /-- The request is encoded wrongly. -/
  | undecodable
deriving DecidableEq, Repr

/-- The response to a request, and the log. -/
def respond (request : Request) : Except Fault (Response × String) :=
  let t := request.process none
  match t.result with
  | .ok response => .ok (response, Event.log .warning t.events)
  | .error _ => .error .cyclic

/-- The response to an encoded request, and the log. -/
def respondTo (input : Wire.Bytes) : Except Fault (Response × String) :=
  match Wire.readRequest input with
  | some request => respond request
  | none => .error .undecodable

end RpcStubs.Plugin

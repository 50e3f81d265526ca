/-
Writing responses and schemas.

A field that has its default is left out, unless its presence matters.
-/
import RpcStubs.Request
import RpcStubs.Wire.Varint

namespace RpcStubs.Wire

def writeNumber (number n : Nat) : Bytes :=
  writeVarint (8 * number) ++ writeVarint n

def writeBytes (number : Nat) (payload : Bytes) : Bytes :=
  writeVarint (8 * number + 2) ++ writeVarint payload.length ++ payload

def writeText (number : Nat) (text : String) : Bytes :=
  writeBytes number text.toUTF8.toList

/-- A field that holds text, left out if the text is empty. -/
def writeTextUnlessEmpty (number : Nat) (text : String) : Bytes :=
  if text = "" then [] else writeText number text

def writeInt (number : Nat) (n : Int) : Bytes :=
  writeNumber number (bits64 n)

/-- A field that holds a switch, left out if it is off. -/
def writeSwitch (number : Nat) (on : Bool) : Bytes :=
  if on then writeNumber number 1 else []

/-- The fields of a list, each a message. -/
def writeAll {α : Type} (number : Nat) (write : α → Bytes) (as : List α) : Bytes :=
  as.flatMap fun a => writeBytes number (write a)

def writeResponse (r : Response) : Bytes :=
  (match r.error with
    | some message => writeText 1 message
    | none => [])
  ++ writeNumber 2 r.features
  ++ writeAll 15 (fun f => writeText 1 f.name ++ writeText 15 f.content) r.files

def writeField (f : Field) : Bytes :=
  writeTextUnlessEmpty 1 f.name
  ++ writeInt 3 f.number
  ++ writeInt 4 f.label.code
  ++ writeInt 5 f.kind.code
  ++ writeTextUnlessEmpty 6 f.typeName
  ++ (match f.jsType with
    | some jsType => writeBytes 8 (writeInt 6 jsType.code)
    | none => [])
  ++ (match f.oneofIndex with
    | some index => writeInt 9 index
    | none => [])
  ++ writeSwitch 17 f.proto3Optional

def writeEnum (e : Enum) : Bytes :=
  writeTextUnlessEmpty 1 e.name
  ++ writeAll 2 (fun v => writeTextUnlessEmpty 1 v.name ++ writeInt 2 v.number) e.values

mutual

/-- A message, with those nested in it. -/
def writeMessage : Message → Bytes
  | ⟨name, fields, nested, enums, oneofs, extensions, isMapEntry⟩ =>
    writeTextUnlessEmpty 1 name
    ++ writeAll 2 writeField fields
    ++ writeMessages nested
    ++ writeAll 4 writeEnum enums
    ++ writeAll 6 writeField extensions
    ++ (if isMapEntry then writeBytes 7 (writeSwitch 7 isMapEntry) else [])
    ++ writeAll 8 (writeTextUnlessEmpty 1) oneofs

def writeMessages : List Message → Bytes
  | [] => []
  | m :: ms => writeBytes 3 (writeMessage m) ++ writeMessages ms

end

def writeMethod (m : Method) : Bytes :=
  writeTextUnlessEmpty 1 m.name
  ++ writeTextUnlessEmpty 2 m.inputType
  ++ writeTextUnlessEmpty 3 m.outputType
  ++ writeSwitch 5 m.clientStreaming
  ++ writeSwitch 6 m.serverStreaming

def writeService (s : Service) : Bytes :=
  writeTextUnlessEmpty 1 s.name ++ writeAll 2 writeMethod s.methods

def writeFile (f : File) : Bytes :=
  writeTextUnlessEmpty 1 f.name
  ++ writeTextUnlessEmpty 2 f.package
  ++ f.dependencies.flatMap (writeText 3)
  ++ writeAll 4 writeMessage f.messages
  ++ writeAll 5 writeEnum f.enums
  ++ writeAll 6 writeService f.services
  ++ writeAll 7 writeField f.extensions
  ++ writeTextUnlessEmpty 12 f.dialect

def writeSchemaSet (files : List File) : Bytes :=
  writeAll 1 writeFile files

end RpcStubs.Wire

/-
Reading schemas and requests.

The last value of a field wins, options that are given in several parts count together, and a
kind, label or number representation that is not known counts as not given.  A field that is not
known, or is encoded in another way than it should be, is skipped.  Messages can be nested so
deep and no deeper.
-/
import RpcStubs.Request
import RpcStubs.Wire.Shape

namespace RpcStubs.Wire

/-- How deep messages can be nested. -/
def nestingLimit : Nat := 100

/-- A value built from the values of an encoded message, one after the other. -/
def build {α : Type} (limit : Nat) (step : α → Record → Option α) (start : α) (bs : Bytes) :
    Option α :=
  (records limit bs).bind fun rs => rs.foldlM step start

def readText (bs : Bytes) : Option String :=
  String.fromUTF8? ⟨bs.toArray⟩

/-- Read a message that stands in another one. -/
def inner {α : Type} (limit : Nat) (read : Nat → Bytes → Option α) (bs : Bytes) : Option α :=
  match limit with
  | 0 => none
  | deeper + 1 => read deeper bs

/-- Check a message that stands in another one and is not kept. -/
def skipInner {α : Type} (limit : Nat) (shape : Shape) (bs : Bytes) (kept : α) : Option α :=
  inner limit (fun deeper bs => if shape.accepts deeper bs then some kept else none) bs

/-- A switch is on unless its number is zero. -/
def readSwitch (n : Nat) : Bool := n ≠ 0

/-- The known kind with a number. -/
def readKind? (n : Nat) : Option Kind :=
  match Kind.ofCode (int32 n) with
  | .unknown _ => none
  | kind => some kind

/-- The known label with a number. -/
def readLabel? (n : Nat) : Option Label :=
  match Label.ofCode (int32 n) with
  | .unknown _ => none
  | label => some label

/-- The known number representation with a number. -/
def readJsType? (n : Nat) : Option JsType :=
  match JsType.ofCode (int32 n) with
  | .unknown _ => none
  | jsType => some jsType

/-- The options of a field, on top of those read before. -/
def readFieldOptions (before : Option JsType) (limit : Nat) (bs : Bytes) :
    Option (Option JsType) :=
  if Shape.fieldOptions.accepts limit bs then
    build limit (fun jsType r =>
      match r.number, r.token with
      | 6, .varint n => some ((readJsType? n).or jsType)
      | _, _ => some jsType) before bs
  else none

def readField (limit : Nat) : Bytes → Option Field :=
  build limit (fun f r =>
    match r.number, r.token with
    | 1, .bytes bs => do return { f with name := ← readText bs }
    | 3, .varint n => some { f with number := int32 n }
    | 4, .varint n => some { f with label := (readLabel? n).getD f.label }
    | 5, .varint n => some { f with kind := (readKind? n).getD f.kind }
    | 6, .bytes bs => do return { f with typeName := ← readText bs }
    | 8, .bytes bs => do return { f with jsType := ← inner limit (readFieldOptions f.jsType) bs }
    | 9, .varint n => some { f with oneofIndex := some (int32 n) }
    | 17, .varint n => some { f with proto3Optional := readSwitch n }
    | _, _ => some f) {}

def readEnumValue (limit : Nat) : Bytes → Option EnumValue :=
  build limit (fun v r =>
    match r.number, r.token with
    | 1, .bytes bs => do return { v with name := ← readText bs }
    | 2, .varint n => some { v with number := int32 n }
    | 3, .bytes bs => skipInner limit .enumValueOptions bs v
    | _, _ => some v) {}

def readEnum (limit : Nat) : Bytes → Option Enum :=
  build limit (fun e r =>
    match r.number, r.token with
    | 1, .bytes bs => do return { e with name := ← readText bs }
    | 2, .bytes bs => do return { e with values := e.values ++ [← inner limit readEnumValue bs] }
    | 3, .bytes bs => skipInner limit .enumOptions bs e
    | 4, .bytes bs => skipInner limit .plain bs e
    | _, _ => some e) {}

/-- The name of a oneof group. -/
def readOneof (limit : Nat) : Bytes → Option String :=
  build limit (fun name r =>
    match r.number, r.token with
    | 1, .bytes bs => readText bs
    | 2, .bytes bs => skipInner limit .oneofOptions bs name
    | _, _ => some name) ""

/-- The options of a message, on top of those read before: whether it is a map entry. -/
def readMessageOptions (before : Bool) (limit : Nat) (bs : Bytes) : Option Bool :=
  if Shape.messageOptions.accepts limit bs then
    build limit (fun isMapEntry r =>
      match r.number, r.token with
      | 7, .varint n => some (readSwitch n)
      | _, _ => some isMapEntry) before bs
  else none

/-- A message, with those nested in it. -/
def readMessage (limit : Nat) : Bytes → Option Message :=
  build limit (fun m r =>
    match r.number, r.token with
    | 1, .bytes bs => do return { m with name := ← readText bs }
    | 2, .bytes bs => do return { m with fields := m.fields ++ [← inner limit readField bs] }
    | 3, .bytes bs =>
      match limit with
      | 0 => none
      | deeper + 1 => do return { m with nested := m.nested ++ [← readMessage deeper bs] }
    | 4, .bytes bs => do return { m with enums := m.enums ++ [← inner limit readEnum bs] }
    | 5, .bytes bs => skipInner limit .extensionRange bs m
    | 6, .bytes bs => do
      return { m with extensions := m.extensions ++ [← inner limit readField bs] }
    | 7, .bytes bs => do
      return { m with isMapEntry := ← inner limit (readMessageOptions m.isMapEntry) bs }
    | 8, .bytes bs => do return { m with oneofs := m.oneofs ++ [← inner limit readOneof bs] }
    | 9, .bytes bs => skipInner limit .plain bs m
    | _, _ => some m) {}

def readMethod (limit : Nat) : Bytes → Option Method :=
  build limit (fun m r =>
    match r.number, r.token with
    | 1, .bytes bs => do return { m with name := ← readText bs }
    | 2, .bytes bs => do return { m with inputType := ← readText bs }
    | 3, .bytes bs => do return { m with outputType := ← readText bs }
    | 4, .bytes bs => skipInner limit .methodOptions bs m
    | 5, .varint n => some { m with clientStreaming := readSwitch n }
    | 6, .varint n => some { m with serverStreaming := readSwitch n }
    | _, _ => some m) {}

def readService (limit : Nat) : Bytes → Option Service :=
  build limit (fun s r =>
    match r.number, r.token with
    | 1, .bytes bs => do return { s with name := ← readText bs }
    | 2, .bytes bs => do return { s with methods := s.methods ++ [← inner limit readMethod bs] }
    | 3, .bytes bs => skipInner limit .serviceOptions bs s
    | _, _ => some s) {}

def readFile (limit : Nat) : Bytes → Option File :=
  build limit (fun f r =>
    match r.number, r.token with
    | 1, .bytes bs => do return { f with name := ← readText bs }
    | 2, .bytes bs => do return { f with package := ← readText bs }
    | 3, .bytes bs => do return { f with dependencies := f.dependencies ++ [← readText bs] }
    | 4, .bytes bs => do return { f with messages := f.messages ++ [← inner limit readMessage bs] }
    | 5, .bytes bs => do return { f with enums := f.enums ++ [← inner limit readEnum bs] }
    | 6, .bytes bs => do return { f with services := f.services ++ [← inner limit readService bs] }
    | 7, .bytes bs => do
      return { f with extensions := f.extensions ++ [← inner limit readField bs] }
    | 8, .bytes bs => skipInner limit .fileOptions bs f
    | 9, .bytes bs => skipInner limit .sourceInfo bs f
    | 10, .bytes bs | 11, .bytes bs => if isPacked bs then some f else none
    | 12, .bytes bs => do return { f with dialect := ← readText bs }
    | _, _ => some f) {}

def readSchemaSet (bs : Bytes) : Option (List File) :=
  build nestingLimit (fun files r =>
    match r.number, r.token with
    | 1, .bytes bs => do return files ++ [← inner nestingLimit readFile bs]
    | _, _ => some files) [] bs

def readRequest (bs : Bytes) : Option Request :=
  build nestingLimit (fun q r =>
    match r.number, r.token with
    | 1, .bytes bs => do return { q with names := q.names ++ [← readText bs] }
    | 2, .bytes bs => do return { q with parameter := ← readText bs }
    | 3, .bytes bs => skipInner nestingLimit .plain bs q
    | 15, .bytes bs => do return { q with files := q.files ++ [← inner nestingLimit readFile bs] }
    | 17, .bytes bs => do
      let _ ← inner nestingLimit readFile bs
      return q
    | _, _ => some q) {} bs

end RpcStubs.Wire

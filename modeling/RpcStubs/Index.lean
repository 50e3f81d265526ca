/-
The index of a schema set: every message and every enum by its full name, with the place where
it is defined.

A message is listed before the messages nested in it, and the enums nested in a message after
those of its nested messages.  If a name is defined twice, the later definition counts.
-/
import RpcStubs.Schema
import RpcStubs.SchemaPath
import RpcStubs.Table

namespace RpcStubs

/-- The kind of a map's key or value, with the full name of the type it refers to. -/
structure TypeRef where
  kind : Kind
  name : String
deriving DecidableEq, Repr

/-- The key and the value of a map entry. -/
structure MapTypes where
  key : TypeRef
  value : TypeRef
deriving DecidableEq, Repr

/-- Where a message is defined, and what a map entry maps. -/
structure MessageEntry where
  package : String
  file : String
  isMapEntry : Bool := false
  mapTypes : Option MapTypes := none
deriving DecidableEq, Repr

structure EnumEntry where
  package : String
  file : String
deriving DecidableEq, Repr

/-- The messages and enums of a schema set by full name. -/
structure Index where
  messages : Table MessageEntry := {}
  enums : Table EnumEntry := {}

def Field.typeRef (f : Field) : TypeRef :=
  ⟨f.kind, TypeName.bare f.typeName⟩

/-- The last field with a number. -/
def fieldNumbered? (number : Int) (fields : List Field) : Option Field :=
  fields.reverse.find? (·.number == number)

/-- What a map entry with these fields maps: field 1 to field 2, if it has both. -/
def mapTypes? (fields : List Field) : Option MapTypes :=
  match fieldNumbered? 1 fields, fieldNumbered? 2 fields with
  | some key, some value => some ⟨key.typeRef, value.typeRef⟩
  | _, _ => none

/-- The index entry of a message in a file. -/
def Message.entry (file : File) (m : Message) : MessageEntry where
  package := file.package
  file := file.name
  isMapEntry := m.isMapEntry
  mapTypes := if m.isMapEntry then mapTypes? m.fields else none

mutual

/-- A message and all messages nested in it, with their full names, each before those in it. -/
def Message.named (scope : String) : Message → List (String × Message)
  | m@⟨name, _, nested, _, _, _, _⟩ =>
    (TypeName.qualify scope name, m) :: Message.namedAll (TypeName.qualify scope name) nested

def Message.namedAll (scope : String) : List Message → List (String × Message)
  | [] => []
  | m :: ms => m.named scope ++ Message.namedAll scope ms

end

mutual

/-- The full names of the enums in a message, those of nested messages first. -/
def Message.enumNames (scope : String) : Message → List String
  | ⟨name, _, nested, enums, _, _, _⟩ =>
    Message.enumNamesAll (TypeName.qualify scope name) nested
      ++ enums.map fun e => TypeName.qualify scope name ++ "." ++ e.name

def Message.enumNamesAll (scope : String) : List Message → List String
  | [] => []
  | m :: ms => m.enumNames scope ++ Message.enumNamesAll scope ms

end

/-- The messages that a file defines, with their entries. -/
def File.messageEntries (file : File) : List (String × MessageEntry) :=
  (Message.namedAll file.package file.messages).map fun p => (p.1, p.2.entry file)

/-- The full names of the enums that a file defines. -/
def File.enumNames (file : File) : List String :=
  Message.enumNamesAll file.package file.messages
    ++ file.enums.map fun e => TypeName.qualify file.package e.name

/-- The enums that a file defines, with their entries. -/
def File.enumEntries (file : File) : List (String × EnumEntry) :=
  file.enumNames.map fun name => (name, ⟨file.package, file.name⟩)

def Index.ofFiles (files : List File) : Index where
  messages := Table.ofList (files.flatMap File.messageEntries)
  enums := Table.ofList (files.flatMap File.enumEntries)

end RpcStubs

/-
Names in generated code.

Members that would clash with a reserved word are set apart, extension constants and oneof
types are written in camel case, and a method's stub starts with a small letter.
-/
import RpcStubs.Text.Case
import RpcStubs.Text.Word

namespace RpcStubs.Name

open Text

/-- Words that cannot name a member. -/
def reserved : List String :=
  ["abstract", "boolean", "break", "byte", "case", "catch", "char", "class", "const", "continue",
   "debugger", "default", "delete", "do", "double", "else", "enum", "export", "extends", "false",
   "final", "finally", "float", "for", "function", "goto", "if", "implements", "import", "in",
   "instanceof", "int", "interface", "long", "native", "new", "null", "package", "private",
   "protected", "public", "return", "short", "static", "super", "switch", "synchronized", "this",
   "throw", "throws", "transient", "try", "typeof", "var", "void", "volatile", "while", "with"]

/-- A name that can stand for a member: reserved words are set apart by `pb_`. -/
def member (name : String) : String :=
  if name ∈ reserved then "pb_" ++ name else name

/-- Apply a mapping of characters to the first one only. -/
def mapFirst (f : Char → List Char) : List Char → List Char
  | [] => []
  | c :: cs => f c ++ cs

def lowerFirst (name : String) : String :=
  String.ofList (mapFirst lowerChar name.toList)

def upperFirst (name : String) : String :=
  String.ofList (mapFirst upperChar name.toList)

/-- Each underscore before a word character goes, and that character becomes capital. -/
def camelChars : List Char → List Char
  | '_' :: c :: cs => if isWord c then upperChar c ++ camelChars cs else '_' :: camelChars (c :: cs)
  | c :: cs => c :: camelChars cs
  | [] => []

/-- A name in camel case, `user_id` as `userId`. -/
def camel (name : String) : String :=
  String.ofList (camelChars name.toList)

/-- The name of the type of a oneof group, `payment_method` as `PaymentMethod`. -/
def oneofType (name : String) : String :=
  upperFirst (camel (lower name))

/-- The name of a method's stub, `GetUser` as `getUser`. -/
def stub (method : String) : String :=
  member (lowerFirst method)

end RpcStubs.Name

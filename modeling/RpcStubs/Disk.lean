/-
Paths, and a disk as a value.

A path is text with slashes; to look something up it is cut into steps.  The empty step and `.`
stay, `..` goes to the directory above, and any other step goes on by a name.  A name has at most
255 bytes and no NUL character, and a path at most 4095 bytes.  A disk knows its directories and
its files by the names on the way from the top.
-/
import RpcStubs.Text.Pieces

namespace RpcStubs

namespace DiskPath

/-- Whether a path starts at the top. -/
def isAbsolute (path : String) : Bool :=
  path.toList.head? == some '/'

/-- A path continued by another one, which counts alone if it starts at the top. -/
def join (base path : String) : String :=
  if isAbsolute path then path
  else if base = "" ∨ base.toList.getLast? = some '/' then base ++ path
  else base ++ "/" ++ path

/-- The part of a path before its last slash. -/
def directory (path : String) : String :=
  String.ofList ((path.toList.reverse.dropWhile (· ≠ '/')).drop 1).reverse

/-- The steps of a path.  A slash at the end is a step that stays. -/
def steps (path : String) : List String :=
  let parts := (Text.pieces '/' path.toList).map String.ofList
  let named := parts.filter (· ≠ "")
  if path.toList.getLast? = some '/' then named ++ ["."] else named

/-- Whether text has the character that ends a path for the system. -/
def hasNul (text : String) : Bool :=
  text.toList.contains '\x00'

/-- Whether a name has more bytes than a disk takes. -/
def isLongName (name : String) : Bool :=
  name.utf8ByteSize > 255

/-- Whether a path has more bytes than the system takes. -/
def isLongPath (path : String) : Bool :=
  path.utf8ByteSize > 4095

end DiskPath

/-- Why a file cannot be read or written. -/
inductive DiskError where
  /-- Nothing is there. -/
  | missing
  /-- A directory is there, and a file is wanted. -/
  | isDirectory
  /-- A file stands where the path goes on. -/
  | notDirectory
  /-- A file stands where a directory is to be made. -/
  | alreadyExists
  /-- The path has a NUL character. -/
  | unusable
  /-- The path or a name on it is too long. -/
  | tooLong
deriving DecidableEq, Repr

/-- What a file holds. -/
inductive Content where
  | text (content : String)
  | bytes (content : List UInt8)
deriving DecidableEq

def Content.toBytes : Content → List UInt8
  | .text content => content.toUTF8.toList
  | .bytes content => content

/-- A disk: the directories below the top, and the files, by the names that lead to them. -/
structure Disk where
  directories : List (List String) := []
  files : List (List String × Content) := []

namespace Disk

def isDirectory (d : Disk) (names : List String) : Bool :=
  names.isEmpty || d.directories.contains names

def file? (d : Disk) (names : List String) : Option Content :=
  d.files.lookup names

/-- Follow steps from a directory, all of them into directories. -/
def enter (d : Disk) (start : List String) : List String → Except DiskError (List String)
  | [] => .ok start
  | step :: steps =>
    if step = "." then enter d start steps
    else if step = ".." then enter d start.dropLast steps
    else
      let next := start ++ [step]
      if d.isDirectory next then enter d next steps
      else if (d.file? next).isSome then .error .notDirectory
      else .error (if DiskPath.isLongName step then .tooLong else .missing)

def read (d : Disk) (path : String) : Except DiskError (List UInt8) := do
  if DiskPath.hasNul path then throw .unusable
  if DiskPath.isLongPath path then throw .tooLong
  let steps := DiskPath.steps path
  let directory ← d.enter [] steps.dropLast
  match steps.getLast? with
  | none | some "." | some ".." => .error .isDirectory
  | some name =>
    match d.file? (directory ++ [name]) with
    | some content => .ok content.toBytes
    | none =>
      if d.isDirectory (directory ++ [name]) then .error .isDirectory
      else .error (if DiskPath.isLongName name then .tooLong else .missing)

/-- Follow steps from a directory and make those that are missing. -/
def makeDirectories (d : Disk) (start : List String) :
    List String → Except DiskError (Disk × List String)
  | [] => .ok (d, start)
  | step :: steps =>
    if step = "." then makeDirectories d start steps
    else if step = ".." then makeDirectories d start.dropLast steps
    else
      let next := start ++ [step]
      if DiskPath.hasNul step then .error .unusable
      else if DiskPath.isLongName step then .error .tooLong
      else if d.isDirectory next then makeDirectories d next steps
      else if (d.file? next).isSome then
        .error (match steps with
          | [] => .alreadyExists
          | behind :: _ => if DiskPath.hasNul behind then .unusable else .notDirectory)
      else makeDirectories { d with directories := d.directories ++ [next] } next steps

/-- Files with one replaced in place, or added at the end. -/
def putFile (names : List String) (content : Content) :
    List (List String × Content) → List (List String × Content)
  | [] => [(names, content)]
  | f :: fs => if f.1 = names then (names, content) :: fs else f :: putFile names content fs

/-- Write a file, and make the directories that lead to it. -/
def write (d : Disk) (path : String) (content : String) : Except DiskError Disk := do
  let steps := DiskPath.steps path
  let (d, directory) ← d.makeDirectories [] steps.dropLast
  if DiskPath.hasNul path then throw .unusable
  if DiskPath.isLongPath path then throw .tooLong
  match steps.getLast? with
  | none | some "." | some ".." => .error .isDirectory
  | some name =>
    let names := directory ++ [name]
    if DiskPath.isLongName name then .error .tooLong
    else if d.isDirectory names then .error .isDirectory
    else .ok { d with files := putFile names (.text content) d.files }

end Disk

end RpcStubs

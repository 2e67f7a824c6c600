import LetLang.Session

namespace LetLang

inductive PathFault where
  | missing
  | blocked
  | tooLong
  | nul
  deriving DecidableEq, Repr

def PathFault.message : PathFault → String
  | missing => "No such file or directory (os error 2)"
  | blocked => "Not a directory (os error 20)"
  | tooLong => "File name too long (os error 36)"
  | nul => "file name contained an unexpected NUL byte"

inductive Found where
  | nowhere (e : PathFault)
  | directory
  | file (bytes : ByteArray)

inductive SourceFault where
  | path (e : PathFault)
  | tooLarge (size : Nat)
  | directory
  | notText (e : ReadFault)
  deriving DecidableEq, Repr

namespace SourceFault

def maxSize : Nat := 16 * 1024 * 1024

def message (name : String) : SourceFault → String
  | path e => "Cannot access file '" ++ name ++ "': " ++ e.message
  | tooLarge size =>
    "Source file '" ++ name ++ "' is too large (" ++ toString size ++ " bytes, max " ++
      toString maxSize ++ " bytes)"
  | directory => "Error reading file '" ++ name ++ "': Is a directory (os error 21)"
  | notText e => "Error reading file '" ++ name ++ "': " ++ e.message

end SourceFault

def Found.source : Found → Except SourceFault String
  | nowhere e => .error (.path e)
  | directory => .error .directory
  | file bytes =>
    if SourceFault.maxSize < bytes.size then .error (.tooLarge bytes.size)
    else
      match String.fromUTF8? bytes with
      | some text => .ok text
      | none => .error (.notText .notUtf8)

structure Folder where
  files : List (List String × ByteArray)
  directories : List (List String)

namespace Folder

def empty : Folder :=
  ⟨[],[]⟩

def addFile (f : Folder) (name : String) (bytes : ByteArray) : Folder :=
  { f with files := (name.splitOn "/", bytes) :: f.files }

def addDirectory (f : Folder) (name : String) : Folder :=
  { f with directories := name.splitOn "/" :: f.directories }

def isDirectory (f : Folder) (names : List String) : Bool :=
  names.isEmpty || f.directories.any (names.isPrefixOf ·) ||
    f.files.any fun e => names.isPrefixOf e.1 && names != e.1

def at? (f : Folder) (names : List String) : Found :=
  match f.files.lookup names with
  | some bytes => .file bytes
  | none => if f.isDirectory names then .directory else .nowhere .missing

def maxPath : Nat := 4095

def maxName : Nat := 255

def isHere (part : String) : Bool :=
  part = "" || part = "."

def follow (f : Folder) (names : Option (List String)) : List String → Found
  | [] =>
    match names with
    | none => .directory
    | some names => f.at? names.reverse
  | part :: parts =>
    match names.elim .directory fun names => f.at? names.reverse with
    | .file _ => .nowhere .blocked
    | .nowhere e => .nowhere e
    | .directory =>
      if isHere part then f.follow names parts
      else if part = ".." then
        f.follow (match names with | some (_ :: up) => some up | _ => none) parts
      else if maxName < part.utf8ByteSize then .nowhere .tooLong
      else
        match names with
        | none => .nowhere .missing
        | some names => f.follow (some (part :: names)) parts

def find (f : Folder) (path : String) : Found :=
  if path.contains '\x00' then .nowhere .nul
  else if maxPath < path.utf8ByteSize then .nowhere .tooLong
  else if path.startsWith "/" then f.follow none (path.splitOn "/")
  else f.follow (some []) (path.splitOn "/")

end Folder

end LetLang

import LineArithmetic.Text.Quoted
import LineArithmetic.Text.Split

/-!
# Files

Where the command finds documents: a folder of named files, and the faults of
the operating system when a path leads to no file.  A path is walked from the
folder part by part; a point stays where it is, two points lead back, and
nothing is known of what lies outside the folder.
-/

namespace LineArithmetic.Command

open Text

/-- Why a path leads to no file. -/
inductive PathFault where
  | notFound
  | notADirectory
  | isADirectory
  | nameTooLong
  deriving DecidableEq, Repr

namespace PathFault

/-- The number of the fault in the operating system. -/
def code : PathFault → Nat
  | .notFound => 2
  | .notADirectory => 20
  | .isADirectory => 21
  | .nameTooLong => 36

def text : PathFault → String
  | .notFound => "No such file or directory"
  | .notADirectory => "Not a directory"
  | .isADirectory => "Is a directory"
  | .nameTooLong => "File name too long"

/-- The fault of a path in words. -/
def message (fault : PathFault) (path : String) : String :=
  "[Errno " ++ toString fault.code ++ "] " ++ fault.text ++ ": " ++ quoted path

end PathFault

/-- What the command reads from: every path leads to bytes or to a fault. -/
abbrev Reader : Type := String → Except PathFault (List UInt8)

/-- A folder of files, each with its path from the folder, part by part. -/
structure Folder where
  files : List (List String × List UInt8)

namespace Folder

/-- The folder of files with the given paths. -/
def ofFiles (files : List (String × List UInt8)) : Folder :=
  ⟨files.map fun file => (splitText '/' file.1, file.2)⟩

/-- The longest name of a file, in bytes. -/
def maxNameBytes : Nat := 255

/-- The longest path, in bytes. -/
def maxPathBytes : Nat := 4095

/-- Where a walk stands. -/
inductive Place where
  /-- In the folder or below it. -/
  | directory (parts : List String)
  | file (bytes : List UInt8)
  /-- Above the folder, by a number of levels. -/
  | outside (levels : Nat)

/-- One part further. -/
def step (folder : Folder) (place : Place) (part : String) : Except PathFault Place :=
  match place with
  | .file _ => .error .notADirectory
  | .outside levels =>
    if part = "" ∨ part = "." then .ok place
    else if part = ".." then .ok (.outside (levels + 1))
    else if maxNameBytes < part.utf8ByteSize then .error .nameTooLong
    else .error .notFound
  | .directory parts =>
    if part = "" ∨ part = "." then .ok place
    else if part = ".." then
      .ok (if parts.isEmpty then .outside 1 else .directory parts.dropLast)
    else if maxNameBytes < part.utf8ByteSize then .error .nameTooLong
    else
      let target := parts ++ [part]
      match folder.files.find? fun file => file.1 = target with
      | some file => .ok (.file file.2)
      | none =>
        if folder.files.any fun file => target.isPrefixOf file.1 then .ok (.directory target)
        else .error .notFound

/-- Reads the file that a path leads to. -/
def read (folder : Folder) : Reader := fun path =>
  if path = "" then .error .notFound
  else if maxPathBytes < path.utf8ByteSize then .error .nameTooLong
  else
    let start : Place := if path.startsWith "/" then .outside 0 else .directory []
    match (splitText '/' path).foldlM folder.step start with
    | .error fault => .error fault
    | .ok (.file bytes) => .ok bytes
    | .ok _ => .error .isADirectory

end Folder

end LineArithmetic.Command

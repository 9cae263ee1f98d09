import PacketLog.Cli.Run
import PacketLog.Text.Separated

set_option autoImplicit false

/-! # Files in memory

A `Folder` holds files by name and answers for paths that start from it, as a directory does in
which there is nothing else. What is above it cannot be seen. -/

namespace PacketLog.Cli

/-- A directory of files. -/
structure Folder where
  files : List (String × Bytes)

namespace Folder

/-- The greatest length of a name in a path. -/
def maxName : Nat := 255

/-- The greatest length of a path. -/
def maxPath : Nat := 4095

/-- Follows a path's names, `level` directories above the folder. An empty last name stands for a
path that has to be a directory. -/
def follow (f : Folder) (level : Nat) : List String → Except FileError Bytes
  | [] => .error (.read .isDirectory)
  | name :: rest =>
    if name = "" ∨ name = "." then follow f level rest
    else if maxName < name.utf8ByteSize then .error (.open .nameTooLong)
    else if name = ".." then follow f (level + 1) rest
    else if 0 < level then .error (.open .noEntry)
    else match f.files.lookup name with
      | none => .error (.open .noEntry)
      | some bytes => if rest.isEmpty then .ok bytes else .error (.open .notDirectory)

/-- Reads a file. -/
def read (f : Folder) (path : String) : Except FileError Bytes :=
  if maxPath < path.utf8ByteSize then .error (.open .nameTooLong)
  else
    let names := (Text.pieces '/' path.toList).map String.ofList
    f.follow (if path.startsWith "/" then 1 else 0) names

end Folder

end PacketLog.Cli

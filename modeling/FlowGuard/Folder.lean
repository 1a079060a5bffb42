/-!
What stands at a path, seen from a folder that holds files and no further folders. A path is walked name
by name: a point stays, two points lead out of the folder, and a file has nothing below it. Outside of the
folder only folders are known.
-/

namespace FlowGuard

inductive PathFault where
  | absent
  /-- A file stands where a folder is needed. -/
  | throughFile
  | nameTooLong
  deriving DecidableEq, Repr

def PathFault.message : PathFault → String
  | absent => "No such file or directory (os error 2)"
  | throughFile => "Not a directory (os error 20)"
  | nameTooLong => "File name too long (os error 36)"

inductive StoredFile where
  | missing (fault : PathFault)
  | directory
  | bytes (contents : Array UInt8)

structure Folder where
  files : List (String × Array UInt8)

namespace Folder

/-- The longest name of a file, in bytes. -/
def maxName : Nat := 255

/-- A path is shorter than this, in bytes. -/
def pathBound : Nat := 4096

/-- Where a walk stands: in the folder or outside of it. -/
inductive Standpoint where
  | inside
  | outside
  deriving DecidableEq, Repr

def walk (folder : Folder) : Standpoint → List String → StoredFile
  | _, [] => .directory
  | here, name :: rest =>
    if name = "" ∨ name = "." then walk folder here rest
    else if name = ".." then walk folder .outside rest
    else if maxName < name.utf8ByteSize then .missing .nameTooLong
    else
      match here, folder.files.lookup name with
      | .inside, some contents => if rest = [] then .bytes contents else .missing .throughFile
      | _, _ => .missing .absent

def find (folder : Folder) (path : String) : StoredFile :=
  if path = "" then .missing .absent
  else if pathBound ≤ path.utf8ByteSize then .missing .nameTooLong
  else folder.walk (if path.startsWith "/" then .outside else .inside) (path.splitOn "/")

end Folder

end FlowGuard

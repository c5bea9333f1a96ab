/-
**A directory of files, held in memory.**

A directory has files and no further directories; above it there are directories only. A path is cut
at its slashes, where empty parts and points before a name lead nowhere new, and a pair of points
leads up. It leads to a file, to a directory, or to nothing. A slash at the end asks for a directory:
there is none to be read behind a name, and none can be created by writing to it. Names and paths
have a greatest length.
-/

import SchemaBinding.GenerationFault

namespace SchemaBinding.CommandLine

abbrev Directory := List (String × ByteArray)

/-- Where a path leads. A name stands in the directory, or in a directory above it. -/
inductive Location
  | directory
  /-- A file, which may or may not exist. -/
  | file (above : Bool) (name : String)
  /-- A name with a slash behind it. -/
  | slashed (above : Bool) (name : String)
  | nowhere (fault : FileFault)
deriving DecidableEq, Repr

/-- The greatest number of bytes in a name. -/
def maxNameBytes : Nat := 255

/-- The greatest number of bytes in a path. -/
def maxPathBytes : Nat := 4095

/-- Whether a part of a path leads to a directory wherever it is followed. -/
def isPoints (part : String) : Bool := part == "." || part == ".."

namespace Directory

/-- The bytes of the file with a name. -/
def entry (directory : Directory) (above : Bool) (name : String) : Except FileFault ByteArray :=
  if maxNameBytes < name.utf8ByteSize then .error .nameTooLong
  else
    match if above then none else directory.lookup name with
    | some bytes => .ok bytes
    | none => .error .notFound

/-- The fault of a path that takes a name for a directory. -/
def notEntered (directory : Directory) (above : Bool) (name : String) : FileFault :=
  match directory.entry above name with
  | .ok _ => .notADirectory
  | .error fault => fault

/-- Whether a path with these parts leaves the directory before its first name. -/
def leaves (path : String) (parts : List String) : Bool :=
  path.toList.head? = some '/' || (parts.takeWhile isPoints).contains ".."

def locate (directory : Directory) (path : String) : Location :=
  let parts := (path.splitOn "/").filter (· != "")
  let above := leaves path parts
  if maxPathBytes < path.utf8ByteSize then .nowhere .nameTooLong
  else
    match parts.dropWhile isPoints with
    | [] => if path.isEmpty then .nowhere .notFound else .directory
    | name :: rest =>
      if !rest.isEmpty then .nowhere (directory.notEntered above name)
      else if path.toList.getLast? = some '/' then .slashed above name
      else .file above name

def read (directory : Directory) (path : String) : Except FileFault ByteArray :=
  match directory.locate path with
  | .directory => .error .isADirectory
  | .nowhere fault => .error fault
  | .slashed above name => .error (directory.notEntered above name)
  | .file above name => directory.entry above name

def refusal? (directory : Directory) (path : String) : Option FileFault :=
  match directory.locate path with
  | .directory | .slashed _ _ => some .isADirectory
  | .nowhere fault => some fault
  | .file _ name => if maxNameBytes < name.utf8ByteSize then some .nameTooLong else none

/-- The name of the file that comes into the directory by writing to a path, if one does. -/
def newFile? (directory : Directory) (path : String) : Option String :=
  match directory.locate path with
  | .file false name => if (directory.lookup name).isSome then none else some name
  | _ => none

/-- What the name of a readable file must be like. -/
theorem lookup_of_entry {directory : Directory} {above : Bool} {name : String} {bytes : ByteArray}
    (found : directory.entry above name = .ok bytes) :
    name.utf8ByteSize ≤ maxNameBytes ∧ above = false ∧ directory.lookup name = some bytes := by
  unfold entry at found
  split at found
  · simp at found
  · next short =>
    cases above <;> cases known : directory.lookup name <;> simp_all

/-- A file that can be read has a path that can be written. -/
theorem refusal?_of_read {directory : Directory} {path : String} {bytes : ByteArray}
    (found : directory.read path = .ok bytes) : directory.refusal? path = none := by
  unfold read at found
  unfold refusal?
  split at found
  · simp at found
  · simp at found
  · simp at found
  · next place => simp [place, (lookup_of_entry found).1]

/-- Writing to a file that can be read brings no new file. -/
theorem newFile?_of_read {directory : Directory} {path : String} {bytes : ByteArray}
    (found : directory.read path = .ok bytes) : directory.newFile? path = none := by
  unfold read at found
  unfold newFile?
  split at found
  · simp at found
  · simp at found
  · simp at found
  · next place =>
    obtain ⟨_, inside, known⟩ := lookup_of_entry found
    simp [place, inside, known]

end Directory

end SchemaBinding.CommandLine

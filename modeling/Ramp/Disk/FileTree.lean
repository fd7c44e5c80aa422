import Ramp.Disk.Basic
import Ramp.Text.Split

/-!
# `Disk.FileTree` — a disk given as a tree of files

A path is walked name by name from a working directory. Outside that directory there are only
directories that can be entered by going up, and nothing in them can be found by name.

## Contents
- `FileTree` with `insert`, which makes the directories on the way.
- `Place`: where a walk stands, and `Place.step`, one name on.
- `FileTree.locate`: what a path leads to.
- `FileTree.toDisk`.
-/

namespace Ramp

/-- A file or a directory. -/
inductive FileTree where
  | file (bytes : ByteArray)
  | directory (entries : List (String × FileTree))

namespace FileTree

/-- A tree with another one put at the end of a path of names. A directory is made for every name
    on the way that is not one yet. -/
def insert (added : FileTree) : List String → FileTree → FileTree
  | [], _ => added
  | name :: rest, .directory entries =>
    let child := insert added rest ((entries.lookup name).getD (.directory []))
    .directory ((name, child) :: entries.filter fun entry => entry.1 != name)
  | name :: rest, .file _ => .directory [(name, insert added rest (.directory []))]

/-- A working directory with the given files in it, each under its path. -/
def ofFiles (files : List (String × FileTree)) : FileTree :=
  files.foldl (fun tree entry => insert entry.2 (Text.split '/' entry.1) tree) (.directory [])

/-- Where a walk stands: at a tree, with the directories above it up to the working directory
    (nearest first), or at a directory outside the working directory. -/
inductive Place where
  | inside (here : FileTree) (above : List FileTree)
  | outside

/-- The greatest length of a name in bytes. -/
def longestName : Nat := 255

/-- The length from which on a path is too long, in bytes. -/
def pathLimit : Nat := 4096

/-- One name further. An empty name stands for the directory itself, like a single dot. -/
def Place.step (place : Place) (name : String) : Except ReadFailure Place :=
  match place with
  | .inside (.file _) _ => .error .notDirectory
  | .inside (.directory entries) above =>
    if name = "" ∨ name = "." then .ok place
    else if name = ".." then
      match above with
      | [] => .ok .outside
      | parent :: above => .ok (.inside parent above)
    else if longestName < name.utf8ByteSize then .error .nameTooLong
    else match entries.lookup name with
      | some child => .ok (.inside child (.directory entries :: above))
      | none => .error .notFound
  | .outside =>
    if name = "" ∨ name = "." ∨ name = ".." then .ok .outside
    else if longestName < name.utf8ByteSize then .error .nameTooLong
    else .error .notFound

/-- Where a path leads from a working directory. -/
def locate (root : FileTree) (path : String) : Except ReadFailure Place :=
  if path.toList.any fun c => c.toNat == 0 then .error .nulInPath
  else if path.isEmpty then .error .notFound
  else if pathLimit ≤ path.utf8ByteSize then .error .nameTooLong
  else
    let first := if path.toList.head? = some '/' then Place.outside else .inside root []
    (Text.split '/' path).foldlM Place.step first

/-- The text at a place. -/
def Place.text : Place → Except ReadFailure String
  | .inside (.file bytes) _ => ReadFailure.textOf bytes
  | .inside (.directory _) _ | .outside => .error .isDirectory

/-- The disk that holds a tree as its working directory. -/
def toDisk (root : FileTree) : Disk where
  read path := (locate root path).bind Place.text
  has path := (locate root path).isOk

end FileTree

end Ramp

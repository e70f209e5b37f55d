/-!
# File trees

What is under a root directory, and what a path leads to from a place in it.
A path is followed step by step. Every step starts from a directory, also one
that goes up or stays where it is, so a path with a closing slash leads to no
file.
-/
namespace LayeredMap

/-- Why a file gave no text. -/
inductive ReadFailure where
  | refused (reason : String) (number : Nat)
  | notText
  deriving DecidableEq

namespace ReadFailure

def missing : ReadFailure := refused "No such file or directory" 2

def notDirectory : ReadFailure := refused "Not a directory" 20

def directory : ReadFailure := refused "Is a directory" 21

def nameTooLong : ReadFailure := refused "File name too long" 36

def message : ReadFailure → String
  | refused reason number => reason ++ " (os error " ++ toString number ++ ")"
  | notText => "stream did not contain valid UTF-8"

end ReadFailure

inductive FileNode where
  | directory
  | file (bytes : List UInt8)
  deriving DecidableEq

/-- The names from the root. -/
abbrev Place := List String

structure FileTree where
  nodes : List (Place × FileNode) := []

namespace FileTree

def root : Place := []

def node? (t : FileTree) (p : Place) : Option FileNode :=
  if p = root then some .directory else t.nodes.lookup p

def file? (t : FileTree) (p : Place) : Option (List UInt8) :=
  match t.node? p with
  | some (.file bytes) => some bytes
  | _ => none

/-- The bytes that a name may have. -/
def nameLimit : Nat := 255

/-- The bytes that a path must not reach. -/
def pathLimit : Nat := 4096

/-- Follows steps from a place. The last one need not lead to anything. -/
def walk (t : FileTree) : Place → List String → Except ReadFailure Place
  | p, [] => .ok p
  | p, s :: steps =>
    match t.node? p with
    | none => .error .missing
    | some (.file _) => .error .notDirectory
    | some .directory =>
      if s = "" ∨ s = "." then t.walk p steps
      else if s = ".." then t.walk p.dropLast steps
      else if nameLimit < s.utf8ByteSize then .error .nameTooLong
      else t.walk (p ++ [s]) steps

/-- The place a path leads to from another one. -/
def resolve (t : FileTree) (here : Place) (path : String) : Except ReadFailure Place :=
  if path.isEmpty then .error .missing
  else if pathLimit ≤ path.utf8ByteSize then .error .nameTooLong
  else
    let start := if path.toList.head? = some '/' then root else here
    t.walk start ((path.toList.splitOn '/').map String.ofList)

def readText (t : FileTree) (here : Place) (path : String) : Except ReadFailure String := do
  match t.node? (← t.resolve here path) with
  | none => .error .missing
  | some .directory => .error .directory
  | some (.file bytes) =>
    match String.fromUTF8? ⟨bytes.toArray⟩ with
    | some text => .ok text
    | none => .error .notText

/-- The file of a name at a place or else at the nearest one further up. -/
def nearest? (t : FileTree) (name : String) (here : Place) : Option (List UInt8) :=
  (List.range (here.length + 1)).findSome? fun up =>
    t.file? (here.take (here.length - up) ++ [name])

end FileTree

end LayeredMap

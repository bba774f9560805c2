/-!
# ProxyChain.Program.Directory

**A directory of files**, as a program finds it and leaves it. Names of files are lists of steps
from the directory; nothing outside of it can be reached.
-/

namespace ProxyChain

/-- Why a file cannot be used. -/
inductive FileFault
  | missing
  | notDirectory
  | isDirectory
  | notText
  deriving Repr, DecidableEq

/-- The wording of a fault of a file. -/
def FileFault.message : FileFault → String
  | missing => "No such file or directory (os error 2)"
  | notDirectory => "Not a directory (os error 20)"
  | isDirectory => "Is a directory (os error 21)"
  | notText => "stream did not contain valid UTF-8"

/-- A directory with the files in it and below it. -/
structure Directory where
  files : List (List String × ByteArray)

/-- Where a path leads. -/
inductive Place
  /-- To a file, which need not be there. -/
  | file (name : List String)
  | directory
  deriving Repr, DecidableEq

namespace Directory

/-- The content of a file. -/
def content? (d : Directory) (name : List String) : Option ByteArray :=
  d.files.lookup name

/-- Whether there are files below a name. -/
def hasBelow (d : Directory) (name : List String) : Bool :=
  name.isEmpty || d.files.any fun file => name.isPrefixOf file.1 && file.1 != name

/-- Follows the steps of a path from some place. -/
def follow (d : Directory) (here : List String) : List String → Except FileFault Place
  | [] => .ok .directory
  | "" :: rest | "." :: rest => d.follow here rest
  | ".." :: rest => if here.isEmpty then .error .missing else d.follow here.dropLast rest
  | step :: rest =>
    let next := here ++ [step]
    if d.hasBelow next then d.follow next rest
    else if rest.isEmpty then .ok (.file next)
    else if (d.content? next).isSome then .error .notDirectory
    else .error .missing

/-- Where a path leads. -/
def place (d : Directory) (path : String) : Except FileFault Place :=
  if path.isEmpty || path.startsWith "/" then .error .missing else d.follow [] (path.splitOn "/")

/-- Whether a path leads to something that is there. -/
def contains (d : Directory) (path : String) : Bool :=
  match d.place path with
  | .ok (.file name) => (d.content? name).isSome
  | .ok .directory => true
  | .error _ => false

/-- The text of a file. -/
def read (d : Directory) (path : String) : Except FileFault String := do
  match ← d.place path with
  | .directory => .error .isDirectory
  | .file name =>
    match d.content? name with
    | none => .error .missing
    | some bytes => (String.fromUTF8? bytes).elim (.error .notText) .ok

/-- The directory with one file written. -/
def write (d : Directory) (path text : String) : Except FileFault Directory := do
  match ← d.place path with
  | .directory => .error .isDirectory
  | .file name =>
    .ok ⟨d.files.filter (fun file => file.1 != name) ++ [(name, text.toUTF8)]⟩

end Directory

end ProxyChain

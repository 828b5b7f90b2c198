import MinEntropy.Estimator.Library

/-! A directory with files, some of which are libraries, in a system of which only the usual
directories and devices are known: what reading, writing and loading a path comes to. -/

namespace MinEntropy

/-- A file: its bytes, and the library that it can be loaded as. -/
structure File (σ : Type) where
  bytes : List UInt8
  library : Option (Library σ)

/-- Files by their paths below the directory. -/
structure Directory (σ : Type) where
  files : List (String × File σ)

namespace Directory

/-- What is found in the place of a file. -/
inductive Device where
  /-- Is empty and takes everything. -/
  | void
  /-- Takes nothing. -/
  | full
  | input
  | output
  | errors
  deriving DecidableEq, Repr

/-- Where a path begins. -/
inductive Base where
  | own
  /-- The directory around it, in which nothing is known. -/
  | around
  | root
  deriving DecidableEq, Repr

/-- A place in the system, by the names that lead to it. -/
structure Location where
  base : Base
  path : List String
  deriving DecidableEq, Repr

inductive Node (σ : Type) where
  | directory
  | file (f : File σ)
  | device (d : Device)

/-- Why a path cannot be used. -/
inductive PathFault where
  | noEntry
  | notADirectory
  | isADirectory
  | noSpace
  | nameTooLong
  deriving DecidableEq, Repr

def PathFault.message : PathFault → String
  | noEntry => "No such file or directory (os error 2)"
  | notADirectory => "Not a directory (os error 20)"
  | isADirectory => "Is a directory (os error 21)"
  | noSpace => "No space left on device (os error 28)"
  | nameTooLong => "File name too long (os error 36)"

/-! ### The system -/

/-- Directories that are found in every system. -/
def systemDirectories : List (List String) :=
  [[], ["bin"], ["dev"], ["dev", "fd"], ["etc"], ["home"], ["lib"], ["mnt"], ["opt"], ["proc"],
    ["root"], ["sbin"], ["sys"], ["tmp"], ["usr"], ["usr", "bin"], ["usr", "lib"],
    ["usr", "local"], ["var"], ["var", "log"], ["var", "tmp"]]

def devices : List (List String × Device) :=
  [(["dev", "null"], .void), (["dev", "full"], .full), (["dev", "stdin"], .input),
    (["dev", "stdout"], .output), (["dev", "stderr"], .errors), (["dev", "fd", "0"], .input),
    (["dev", "fd", "1"], .output), (["dev", "fd", "2"], .errors)]

/-- Libraries that are found by their names alone. -/
def systemLibraries : List String :=
  ["libc.so.6", "libm.so.6", "libdl.so.2", "libpthread.so.0", "librt.so.1", "libutil.so.1",
    "libresolv.so.2", "libgcc_s.so.1", "ld-linux-x86-64.so.2"]

/-! ### Paths -/

/-- The parts of a path between slashes. -/
def parts (path : String) : List String := path.splitOn "/"

/-- A part that stays where it is. -/
def isIdle (part : String) : Bool := part.isEmpty || part = "."

def Location.parent (l : Location) : Location :=
  if l = ⟨.own, []⟩ then ⟨.around, []⟩ else { l with path := l.path.dropLast }

/-- Where a part of a path leads from a directory. -/
def Location.step (l : Location) (part : String) : Location :=
  if isIdle part then l
  else if part = ".." then l.parent
  else { l with path := l.path ++ [part] }

def file? (d : Directory σ) (path : List String) : Option (File σ) :=
  (d.files.find? fun f => parts f.1 = path).map (·.2)

/-- A path is a directory when files lie below it. -/
def isDirectory (d : Directory σ) (path : List String) : Bool :=
  path.isEmpty || d.files.any fun f => path.isPrefixOf (parts f.1) && path ≠ parts f.1

/-- What is at a place. -/
def node? (d : Directory σ) (l : Location) : Option (Node σ) :=
  match l.base with
  | .own =>
    match d.file? l.path with
    | some f => some (.file f)
    | none => if d.isDirectory l.path then some .directory else none
  | .around => if l.path.isEmpty then some .directory else none
  | .root =>
    if l.path ∈ systemDirectories then some .directory
    else (devices.lookup l.path).map .device

/-- How many bytes a name may have. -/
def maxName : Nat := 255

/-- How many bytes a path may have. -/
def maxPath : Nat := 4095

/-- Follows the parts of a path; only directories lead on. -/
def follow (d : Directory σ) : Location → List String → Except PathFault Location
  | l, [] => .ok l
  | l, part :: rest =>
    match d.node? l with
    | none => .error .noEntry
    | some .directory =>
      if maxName < part.utf8ByteSize then .error .nameTooLong else d.follow (l.step part) rest
    | some _ => .error .notADirectory

/-- The place that a path means, whether there is something or not. -/
def locate (d : Directory σ) (path : String) : Except PathFault Location :=
  if path.isEmpty then .error .noEntry
  else if maxPath < path.utf8ByteSize then .error .nameTooLong
  else d.follow ⟨if path.startsWith "/" then .root else .own, []⟩ (parts path)

/-! ### Reading -/

/-- The bytes at a path, given those of the standard input. Devices that are no source of bytes have
none. -/
def contents (d : Directory σ) (input : List UInt8) (path : String) :
    Except PathFault (List UInt8) := do
  match d.node? (← d.locate path) with
  | none => throw .noEntry
  | some .directory => throw .isADirectory
  | some (.file f) => return f.bytes
  | some (.device device) => return if device = .input then input else []

/-- The bytes at a path, or why there are none. -/
def read (d : Directory σ) (input : List UInt8) (path : String) : Except String (List UInt8) :=
  (d.contents input path).mapError PathFault.message

/-! ### Writing -/

/-- Where a text goes that is written to a path. -/
inductive Destination where
  | file
  | output
  | nowhere
  | refused (reason : String)
  deriving DecidableEq, Repr

/-- A slash after a name asks for a directory. -/
def asksDirectory (path : String) : Bool :=
  path.endsWith "/" &&
    ((parts path).reverse.dropWhile String.isEmpty).head?.any fun part =>
      part ≠ "." && part ≠ ".."

/-- Where a text written to a place goes. -/
def receive (d : Directory σ) (l : Location) : Except PathFault Destination :=
  match d.node? l with
  | none | some (.file _) => .ok .file
  | some .directory => .error .isADirectory
  | some (.device .full) => .error .noSpace
  | some (.device .output) => .ok .output
  | some (.device _) => .ok .nowhere

def destination (d : Directory σ) (path : String) : Destination :=
  let found :=
    if asksDirectory path then
      (d.locate (path.dropEndWhile '/').toString).bind fun _ => .error .isADirectory
    else (d.locate path).bind d.receive
  match found with
  | .ok destination => destination
  | .error fault => .refused fault.message

/-- The text at a path when something has been written last. -/
def text? (d : Directory σ) (written : Option (String × String)) (path : String) : Option String :=
  let place := (d.locate path).toOption
  match written.filter fun (target, _) => place.isSome && (d.locate target).toOption = place with
  | some (_, text) => some text
  | none =>
    match place.bind d.node? with
    | some (.file f) => some (Text.Utf8.lossy f.bytes)
    | _ => none

/-! ### Loading -/

/-- A library with none of the symbols that are looked for. -/
def foreignLibrary : Library σ := ⟨none, none, false⟩

/-- The library at a path. A path without a slash is looked for in the system, and the empty one
stands for the program itself. -/
def library? (d : Directory σ) (path : String) : Option (Library σ) :=
  if path.isEmpty ∨ path ∈ systemLibraries then some foreignLibrary
  else if path.toList.contains '/' then
    match (d.locate path).toOption.bind d.node? with
    | some (.file f) => f.library
    | _ => none
  else none

end Directory

end MinEntropy

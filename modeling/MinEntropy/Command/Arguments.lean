import MinEntropy.Estimator.Mode
import MinEntropy.Text.Integer

/-! The command line: its two commands, their options, and how arguments are read from left to
right. The first argument that cannot be used, or asks for help, decides. -/

namespace MinEntropy.Command

/-- How a report is printed. -/
inductive Format where
  | text
  | json
  deriving DecidableEq, Repr

/-- Which suite is wanted. -/
structure SuiteArguments where
  library : Option String
  mock : Bool
  deriving DecidableEq, Repr

/-- What is to be assessed, and how it is reported. -/
structure AssessArguments where
  mode : Mode
  /-- Zero to detect the word size. -/
  bits : Nat
  verbose : Option Nat
  output : Option String
  format : Format
  suite : SuiteArguments
  /-- Standard input where no file is named. -/
  file : Option String
  deriving DecidableEq, Repr

inductive Task where
  | assess (arguments : AssessArguments)
  | serve (suite : SuiteArguments)
  deriving DecidableEq, Repr

structure Arguments where
  /-- The file with the settings. -/
  config : Option String
  task : Task
  deriving DecidableEq, Repr

/-- Why there is nothing to do. -/
inductive Halt where
  | help
  | version
  /-- The arguments make no sense. -/
  | misuse
  deriving DecidableEq, Repr

/-! ### Options -/

inductive Flag where
  | iid
  | nonIid
  | mock
  deriving DecidableEq, Repr

/-- Options with a value. -/
inductive Setting where
  | config
  | library
  | output
  | bits
  | verbose
  | format
  deriving DecidableEq, Repr

/-- The arguments that a command takes. -/
structure Grammar where
  flags : List (String × Flag)
  settings : List (String × Setting)
  /-- A file may be named. -/
  takesFile : Bool
  tellsVersion : Bool

namespace Grammar

def assess : Grammar where
  flags := [("iid", .iid), ("non-iid", .nonIid), ("mock", .mock)]
  settings := [("config", .config), ("library", .library), ("output", .output), ("bits", .bits),
    ("verbose", .verbose), ("format", .format)]
  takesFile := true
  tellsVersion := false

def serve : Grammar where
  flags := [("mock", .mock)]
  settings := [("config", .config), ("library", .library)]
  takesFile := false
  tellsVersion := false

/-- What may stand before the command. -/
def before : Grammar where
  flags := []
  settings := [("config", .config)]
  takesFile := false
  tellsVersion := true

end Grammar

/-! ### Values -/

def maxBits : Nat := 8

def maxVerbose : Nat := 3

/-- A number from zero to a limit, with an optional sign. -/
def numberUpTo? (limit : Nat) (value : String) : Option Nat :=
  match Text.int64? value.toList with
  | some n => if 0 ≤ n ∧ n.toNat ≤ limit then some n.toNat else none
  | none => none

def format? (value : String) : Option Format :=
  if value = "text" then some .text
  else if value = "json" then some .json
  else none

/-- A setting may have the value. Paths must not be empty. -/
def Setting.accepts (s : Setting) (value : String) : Bool :=
  match s with
  | config | library | output => !value.isEmpty
  | bits => (numberUpTo? maxBits value).isSome
  | verbose => (numberUpTo? maxVerbose value).isSome
  | format => (format? value).isSome

/-! ### Reading -/

/-- The arguments read so far. -/
structure Given where
  flags : List Flag
  values : List (Setting × String)
  file : Option String
  deriving DecidableEq, Repr

namespace Given

def empty : Given := ⟨[], [], none⟩

def value? (g : Given) (s : Setting) : Option String := g.values.lookup s

def has (g : Given) (f : Flag) : Bool := f ∈ g.flags

/-- A flag is given once. -/
def addFlag (g : Given) (f : Flag) : Except Halt Given :=
  if g.has f then .error .misuse else .ok { g with flags := g.flags ++ [f] }

/-- A setting is given once, with a value that it may have. -/
def addValue (g : Given) (s : Setting) (value : String) : Except Halt Given :=
  if (g.value? s).isSome || !s.accepts value then .error .misuse
  else .ok { g with values := g.values ++ [(s, value)] }

/-- One file is named at most. -/
def addFile (grammar : Grammar) (g : Given) (path : String) : Except Halt Given :=
  if !grammar.takesFile || g.file.isSome || path.isEmpty then .error .misuse
  else .ok { g with file := some path }

def addFiles (grammar : Grammar) : Given → List String → Except Halt Given
  | g, [] => .ok g
  | g, path :: rest =>
    match g.addFile grammar path with
    | .ok g => addFiles grammar g rest
    | .error e => .error e

end Given

/-- The shape of an argument. -/
inductive Shape where
  /-- Two hyphens alone: what follows are files. -/
  | separator
  | long (name : String) (value : Option String)
  | short (letter : Char)
  | plain
  deriving DecidableEq, Repr

def Shape.of (token : String) : Shape :=
  match token.toList with
  | '-' :: '-' :: [] => .separator
  | '-' :: '-' :: rest =>
    let name := String.ofList (rest.takeWhile (· ≠ '='))
    match rest.dropWhile (· ≠ '=') with
    | [] => .long name none
    | _ :: value => .long name (some (String.ofList value))
  | '-' :: letter :: _ => .short letter
  | _ => .plain

/-- Help or the version is asked for. -/
def request? (grammar : Grammar) : Shape → Option Halt
  | .long "help" none => some .help
  | .short 'h' => some .help
  | .long "version" none => if grammar.tellsVersion then some .version else none
  | .short 'V' => if grammar.tellsVersion then some .version else none
  | _ => none

/-- What an argument does: it is complete, or a setting waits for its value. -/
inductive Effect where
  | done (g : Given)
  | waits (s : Setting)

/-- A long option, with the value that came with it. -/
def readLong (grammar : Grammar) (g : Given) (name : String) (value : Option String) :
    Except Halt Effect :=
  match grammar.flags.lookup name, grammar.settings.lookup name, value with
  | some f, _, none => (g.addFlag f).map .done
  | none, some s, some v => (g.addValue s v).map .done
  | none, some s, none => .ok (.waits s)
  | _, _, _ => .error .misuse

/-- Reads arguments until they end, or up to the first plain one where no file can be named. -/
def readArguments (grammar : Grammar) :
    Given → Option Setting → List String → Except Halt (Given × List String)
  | g, none, [] => .ok (g, [])
  | _, some _, [] => .error .misuse
  | g, some s, token :: rest =>
    if Shape.of token = .plain then
      match g.addValue s token with
      | .ok g => readArguments grammar g none rest
      | .error e => .error e
    else .error .misuse
  | g, none, token :: rest =>
    let shape := Shape.of token
    match request? grammar shape with
    | some halt => .error halt
    | none =>
      match shape with
      | .separator =>
        match g.addFiles grammar rest with
        | .ok g => .ok (g, [])
        | .error e => .error e
      | .long name value =>
        match readLong grammar g name value with
        | .ok (.done g) => readArguments grammar g none rest
        | .ok (.waits s) => readArguments grammar g (some s) rest
        | .error e => .error e
      | .short _ => .error .misuse
      | .plain =>
        if grammar.takesFile then
          match g.addFile grammar token with
          | .ok g => readArguments grammar g none rest
          | .error e => .error e
        else .ok (g, token :: rest)

/-! ### Commands -/

/-- A library and the stand-in exclude each other. -/
def suiteArguments (g : Given) : Except Halt SuiteArguments :=
  let library := g.value? .library
  let mock := g.has .mock
  if library.isSome && mock then .error .misuse else .ok ⟨library, mock⟩

/-- Exactly one track is named. -/
def mode (g : Given) : Except Halt Mode :=
  match g.has .iid, g.has .nonIid with
  | true, false => .ok .iid
  | false, true => .ok .nonIid
  | _, _ => .error .misuse

def assessArguments (g : Given) : Except Halt AssessArguments := do
  return {
    mode := ← mode g
    bits := ((g.value? .bits).bind (numberUpTo? maxBits)).getD 0
    verbose := (g.value? .verbose).bind (numberUpTo? maxVerbose)
    output := g.value? .output
    format := ((g.value? .format).bind format?).getD .text
    suite := ← suiteArguments g
    file := g.file }

/-- Reads all arguments of a command. -/
def readAll (grammar : Grammar) (tokens : List String) : Except Halt Given :=
  match readArguments grammar .empty none tokens with
  | .ok (g, []) => .ok g
  | .ok (_, _ :: _) => .error .misuse
  | .error e => .error e

/-- The commands that help can be asked for. -/
def topics : List String := ["assess", "serve", "help"]

/-- Help on a command, or on all of them. -/
def helpOn : List String → Halt
  | [] => .help
  | [topic] => if topic ∈ topics then .help else .misuse
  | _ => .misuse

/-- A command and its arguments. The settings file named after the command counts. -/
def readTask (config : Option String) (name : String) (tokens : List String) :
    Except Halt Arguments :=
  if name = "assess" then do
    let g ← readAll .assess tokens
    let a ← assessArguments g
    return ⟨g.value? .config <|> config, .assess a⟩
  else if name = "serve" then do
    let g ← readAll .serve tokens
    let s ← suiteArguments g
    return ⟨g.value? .config <|> config, .serve s⟩
  else if name = "help" then .error (helpOn tokens)
  else .error .misuse

/-- The meaning of a command line. -/
def parse (tokens : List String) : Except Halt Arguments :=
  match readArguments .before .empty none tokens with
  | .error e => .error e
  | .ok (_, []) => .error .misuse
  | .ok (g, name :: rest) => readTask (g.value? .config) name rest

end MinEntropy.Command

import CameraControl.Text.Count

/-!
The arguments of the command line. Long names follow two dashes, single letters follow one and may be strung
together. A value is the next argument, or stands behind an equals sign; behind a letter it may follow at
once. Nothing but the list of devices may be given twice, and arguments are judged from left to right.
-/
namespace CameraControl

namespace Arguments

inductive Flag
  | debug | verbose | quiet | validateConfig | printConfig | json | infoOnly
deriving DecidableEq, Repr

namespace Flag

def all : List Flag := [debug, verbose, quiet, validateConfig, printConfig, json, infoOnly]

def name : Flag → String
  | debug => "debug"
  | verbose => "verbose"
  | quiet => "quiet"
  | validateConfig => "validate-config"
  | printConfig => "print-config"
  | json => "json"
  | infoOnly => "info-only"

def letter? : Flag → Option Char
  | debug => some 'd'
  | verbose => some 'v'
  | quiet => some 'q'
  | _ => none

end Flag

inductive Key
  | config | logFormat | devices | camera | frameInterval
deriving DecidableEq, Repr

namespace Key

def all : List Key := [config, logFormat, devices, camera, frameInterval]

def name : Key → String
  | config => "config"
  | logFormat => "log-format"
  | devices => "devices"
  | camera => "camera"
  | frameInterval => "frame-interval-ms"

def letter? : Key → Option Char
  | config => some 'c'
  | _ => none

def accepts : Key → String → Bool
  | camera, value | frameInterval, value => (Text.count? value).isSome
  | _, _ => true

end Key

end Arguments

structure Arguments where
  flags : List Arguments.Flag := []
  values : List (Arguments.Key × String) := []
deriving DecidableEq, Repr

namespace Arguments

def has (a : Arguments) (flag : Flag) : Bool := flag ∈ a.flags

def value? (a : Arguments) (key : Key) : Option String := a.values.lookup key

def config (a : Arguments) : String := (a.value? .config).getD "camagent.toml"

/-- The devices of all lists, in order. -/
def devices (a : Arguments) : List String :=
  match a.values.filter (·.1 = .devices) with
  | [] => ["0", "1"]
  | lists => lists.flatMap fun (_, list) => list.splitOn ","

def camera (a : Arguments) : Nat := ((a.value? .camera).bind Text.count?).getD 0

def raise? (a : Arguments) (flag : Flag) : Option Arguments :=
  if a.has flag then none else some { a with flags := a.flags ++ [flag] }

def give? (a : Arguments) (key : Key) (value : String) : Option Arguments :=
  if key ≠ .devices && (a.value? key).isSome then none
  else if key.accepts value then some { a with values := a.values ++ [(key, value)] }
  else none

inductive Outcome
  | run (arguments : Arguments)
  | help
  | version
  | misuse
deriving DecidableEq, Repr

/-- What one argument leads to: on to the next one, perhaps with a key that waits for its value, or to an
end. -/
inductive Advance
  | next (arguments : Arguments)
  | awaiting (key : Key) (arguments : Arguments)
  | done (outcome : Outcome)

def Advance.ofOption : Option Arguments → Advance
  | some a => .next a
  | none => .done .misuse

/-- A long name, and the value behind its equals sign if there is one. -/
def long (a : Arguments) (name : String) (value? : Option String) : Advance :=
  match Key.all.find? (·.name = name), value? with
  | some key, some value => .ofOption (a.give? key value)
  | some key, none => .awaiting key a
  | none, some _ => .done .misuse
  | none, none =>
    match Flag.all.find? (·.name = name) with
    | some flag => .ofOption (a.raise? flag)
    | none =>
      if name = "help" then .done .help
      else if name = "version" then .done .version
      else .done .misuse

def dropEquals : List Char → List Char
  | '=' :: rest => rest
  | cs => cs

/-- Letters strung together; the first that wants a value takes the rest. -/
def letters (a : Arguments) : List Char → Advance
  | [] => .next a
  | c :: rest =>
    match Key.all.find? (·.letter? = some c) with
    | some key =>
      if rest.isEmpty then .awaiting key a
      else .ofOption (a.give? key (String.ofList (dropEquals rest)))
    | none =>
      match Flag.all.find? (·.letter? = some c) with
      | some flag =>
        match a.raise? flag with
        | some a => a.letters rest
        | none => .done .misuse
      | none =>
        if c = 'h' then .done .help
        else if c = 'V' then .done .version
        else .done .misuse

def advance (a : Arguments) (argument : String) : Advance :=
  match argument.toList with
  | '-' :: '-' :: rest =>
    let name := rest.takeWhile (· ≠ '=')
    let value? := match rest.drop name.length with
      | _ :: value => some (String.ofList value)
      | [] => none
    a.long (String.ofList name) value?
  | '-' :: c :: rest => a.letters (c :: rest)
  | _ => .done .misuse

/-- A single dash may be a value. -/
def isOption (argument : String) : Bool := argument.startsWith "-" && argument ≠ "-"

/-- Two dashes alone say that no option follows, and nothing else may. -/
def read (a : Arguments) (awaiting : Option Key) : List String → Outcome
  | [] => if awaiting.isSome then .misuse else .run a
  | argument :: rest =>
    match awaiting with
    | some key =>
      if isOption argument then .misuse
      else
        match a.give? key argument with
        | some a => a.read none rest
        | none => .misuse
    | none =>
      if argument = "--" then (if rest.isEmpty then .run a else .misuse)
      else
        match a.advance argument with
        | .next a => a.read none rest
        | .awaiting key a => a.read (some key) rest
        | .done outcome => outcome

def parse (arguments : List String) : Outcome := ({} : Arguments).read none arguments

end Arguments

end CameraControl

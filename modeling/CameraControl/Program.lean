import CameraControl.Arguments
import CameraControl.Config.Loading
import CameraControl.Walk

/-!
The program as a function of its arguments, the files it may read, the environment and the clock.
-/
namespace CameraControl.Program

structure Response where
  code : UInt8 := 0
  output : String := ""
  /-- Lines for the error stream. -/
  complaints : List String := []
deriving DecidableEq, Repr

/-- The options, as they are written, with what they do. -/
def options : List (String × String) := [
  ("-c, --config <CONFIG>", "Path to TOML configuration file [default: camagent.toml]"),
  ("-d, --debug", "Enable debug level logging"),
  ("-v, --verbose", "Enable verbose info level logging"),
  ("-q, --quiet", "Enable quiet mode - only log errors"),
  ("    --validate-config", "Validate configuration file and exit"),
  ("    --print-config", "Print default configuration in TOML format and exit"),
  ("    --log-format <FORMAT>", "Log output format: json, pretty, or compact"),
  ("    --devices <DEVICES>",
    "Simulated device ids; the first faces back, the rest front [default: 0,1]"),
  ("    --camera <CAMERA>", "Camera index to open [default: 0]"),
  ("    --json", "Print device info as JSON"),
  ("    --info-only", "Print device info and exit without opening a camera"),
  ("    --frame-interval-ms <FRAME_INTERVAL_MS>",
    "Interval between simulated frames [default: 33]"),
  ("-h, --help", "Print help (see more with '--help')"),
  ("-V, --version", "Print version")]

def help : String :=
  "Drive the camera agent against a simulated camera subsystem\n\nUsage: camctl [OPTIONS]\n\nOptions:\n" ++
    String.join (options.map fun (option, use) => "  " ++ option ++ "\n          " ++ use ++ "\n")

/-- A path without the segments that lead nowhere. -/
def plain (path : String) : String :=
  let segments := (path.splitOn "/").filter (· ∉ ["", "."])
  (if path.startsWith "/" then "/" else "") ++ "/".intercalate segments

/-- A file is meant as it is named, unless the name can only be a directory's. -/
def namesFile (path : String) : Bool := ((path.splitOn "/").getLast?.getD "") ∉ ["", "."]

def extended (path : String) : String := plain path ++ ".toml"

/-- The files that a configuration may be read from, given how it is named. -/
def candidates (path : String) : List String := [plain path, extended path]

/-- A file of another kind is left alone, and no other file is taken in its place. -/
def chooseFile (path : String) (files : List (String × String)) : Option (String × String) :=
  match files.lookup (plain path), namesFile path with
  | some text, true => if path.endsWith ".toml" then some (plain path, text) else none
  | _, _ => (files.lookup (extended path)).map (extended path, ·)

/-- The files that a run may read. -/
def wanted (arguments : List String) : List String :=
  match Arguments.parse arguments with
  | .run a => candidates a.config
  | _ => []

def formatWarning (a : Arguments) : List String :=
  match a.value? .logFormat with
  | some format =>
    if format ∈ ["json", "pretty", "compact"] then []
    else ["Warning: Unknown log format '" ++ format ++ "', using default"]
  | none => []

def listCamera (i : Inventory) (index : Nat) (id : Option DeviceId) : String :=
  "  [" ++ toString index ++ "] " ++ id.getD "-" ++ " (" ++
    ((i.characteristics? index).map (·.facing.name)).getD "gone" ++ ")\n"

def listCameras (i : Inventory) : String :=
  "Cameras: " ++ toString i.count ++ "\n" ++
    String.join (i.slots.mapIdx (listCamera i))

def showInventory (a : Arguments) (i : Inventory) : String :=
  if a.has .json then i.toJson.pretty ++ "\n" else listCameras i

def fail (warnings : List String) (message : String) (output : String := "") : Response :=
  { code := 1, output, complaints := warnings ++ ["Error: " ++ message] }

/-- Takes stock of the cameras and, unless that was all, walks through a session with one. -/
def serve (a : Arguments) (config : Config) (clock : String) : Response :=
  let warnings := formatWarning a
  let started := do
    let agent : Walk.SimulatedAgent ← Agent.start config (.withDevices a.devices) clock
    agent.inventory
  match started with
  | .error failure => fail warnings failure.message
  | .ok (agent, inventory) =>
    let output := showInventory a inventory
    if a.has .infoOnly then { output, complaints := warnings }
    else
      match Walk.run agent a.camera with
      | .ok _ => { output, complaints := warnings }
      | .error setback => fail warnings setback.message output

def validate (warnings : List String) (config : Config) : Response :=
  match config.problem? with
  | none => { output := "✓ Configuration is valid\n", complaints := warnings }
  | some problem =>
    { code := 1, complaints := warnings ++ ["✗ Configuration validation failed: " ++ problem.message] }

def work (a : Arguments) (files environment : List (String × String)) (clock : String) : Response :=
  if a.has .printConfig then
    { output := "# Camera agent configuration\n" ++ ({} : Config).toToml ++ "\n" }
  else
    match Config.load (chooseFile a.config files) environment with
    | .error failure => fail (formatWarning a) failure.message
    | .ok config =>
      if a.has .validateConfig then validate (formatWarning a) config else serve a config clock

def run (arguments : List String) (files environment : List (String × String)) (clock : String) :
    Response :=
  match Arguments.parse arguments with
  | .run a => work a files environment clock
  | .help => { output := help }
  | .version => { output := "camctl 0.1.0\n" }
  | .misuse =>
    { code := 2, complaints := ["error: invalid arguments", "", "For more information, try '--help'."] }

end CameraControl.Program

import CameraControl.Config
import CameraControl.Config.Setting
import CameraControl.Decimal
import CameraControl.Text.Count
import CameraControl.Text.Quoted
import CameraControl.Toml.Document

/-!
Where a configuration comes from: the defaults, over them a file, over that the environment. Values are
converted where their text or number allows it; `Config.load` says which value does not.
-/
namespace CameraControl

/-- The count nearest to a double, halves going up, within 64 bits. -/
def Double.toCount : Double → Nat
  | finite false magnitude => min (Binary64.roundAway magnitude).toNat (Text.countLimit - 1)
  | infinite false => Text.countLimit - 1
  | _ => 0

namespace Config

inductive LoadFailure
  /-- The file from this place breaks the rules of its format. -/
  | malformed (origin : String)
  | mistyped (found wanted key : String) (origin : Option String)
  /-- A section is neither a table nor a list. -/
  | misplaced (found wanted : String)
deriving DecidableEq, Repr

def LoadFailure.message : LoadFailure → String
  | malformed origin => "TOML parse error in " ++ origin
  | mistyped found wanted key origin =>
    "invalid type: " ++ found ++ ", expected " ++ wanted ++ " for key `" ++ key ++ "`" ++
      origin.elim "" (" in " ++ ·)
  | misplaced found wanted => "invalid type: " ++ found ++ ", expected " ++ wanted

/-- A scalar as a text. -/
def textOf : Toml.Scalar → String
  | .text s => s
  | .moment s => s
  | .int n => toString n
  | .float x => x.text
  | .bool b => toString b

def ticked (kind text : String) : String := kind ++ " `" ++ text ++ "`"

/-- How a value is named where it has the wrong type. -/
def describe : Setting → String
  | .nothing => "unit value"
  | .list _ _ => "sequence"
  | .table _ _ => "map"
  | .scalar s _ =>
    match s with
    | .text _ | .moment _ => "string " ++ Text.quoted (textOf s)
    | .int _ => ticked "64-bit integer" (textOf s)
    | .float _ => ticked "floating point" (textOf s)
    | .bool _ => ticked "boolean" (textOf s)

/-- How a value is named where a section should be. -/
def describeSection : Setting → String
  | .scalar (.int n) _ => ticked "integer" (toString n)
  | .scalar (.float x) _ => ticked "floating point" x.pointed
  | s => describe s

def originOf : Setting → Option String
  | .nothing => none
  | .scalar _ origin => origin
  | .list _ origin => origin
  | .table _ origin => origin

/-- Words for yes and no count as one and zero. -/
def countOfWord? (s : String) : Option Nat :=
  if s.toLower ∈ ["true", "on", "yes"] then some 1
  else if s.toLower ∈ ["false", "off", "no"] then some 0
  else Text.count? s

def mistyped {α : Type} (key : String) (s : Setting) (wanted : String) : Except LoadFailure α :=
  .error (.mistyped (describe s) wanted key (originOf s))

def readText (key : String) (s : Setting) : Except LoadFailure String :=
  match s with
  | .scalar value _ => .ok (textOf value)
  | _ => mistyped key s "a string"

def readCount (key : String) (s : Setting) : Except LoadFailure Nat :=
  match s with
  | .scalar (.int n) _ =>
    if 0 ≤ n then .ok n.toNat else mistyped key s "an unsigned 64 bit or less integer"
  | .scalar (.bool b) _ => .ok b.toNat
  | .scalar (.float x) _ => .ok x.toCount
  | .scalar (.text word) _ | .scalar (.moment word) _ =>
    match countOfWord? word with
    | some n => .ok n
    | none => mistyped key s "an integer"
  | _ => mistyped key s "an integer"

/-- A section gives its fields by name or, as a list, in their order. A field that it leaves out has its
default. -/
def field {α : Type} (read : String → Setting → Except LoadFailure α) (default : α)
    (title : String) (s : Setting) (place : Nat) (name : String) : Except LoadFailure α :=
  match s with
  | .list items _ => (items[place]?).elim (.ok default) (read (title ++ "[" ++ toString place ++ "]"))
  | _ => (s.get? name).elim (.ok default) (read (title ++ "." ++ name))

def checkSection (wanted : String) : Setting → Except LoadFailure Unit
  | .table _ _ | .list _ _ => .ok ()
  | s => .error (.misplaced (describeSection s) wanted)

def ofSettings (root : Setting) : Except LoadFailure Config := do
  let standard : Config := {}
  let handler := (root.get? "handler").getD .nothing
  checkSection "struct HandlerConfig" handler
  let controllerThread ← field readText standard.controllerThread "handler" handler 0 "thread_name"
  let historySize ← field readCount standard.historySize "handler" handler 1 "history_size"
  let dispatch := (root.get? "dispatch").getD .nothing
  checkSection "struct DispatchConfig" dispatch
  let dispatchThread ← field readText standard.dispatchThread "dispatch" dispatch 0 "thread_name"
  let queueCapacity ← field readCount standard.queueCapacity "dispatch" dispatch 1 "queue_capacity"
  let jobTimeout ← field readCount standard.jobTimeout "dispatch" dispatch 2 "job_timeout_ms"
  return { controllerThread, historySize, dispatchThread, queueCapacity, jobTimeout }

def toSetting (c : Config) : Setting :=
  .table [
    ("handler", .table [("thread_name", .text c.controllerThread),
      ("history_size", .nat c.historySize)] none),
    ("dispatch", .table [("thread_name", .text c.dispatchThread),
      ("queue_capacity", .nat c.queueCapacity), ("job_timeout_ms", .nat c.jobTimeout)] none)] none

/-- Two underscores divide the parts of a variable's name. -/
def divide : List Char → List Char
  | '_' :: '_' :: rest => '.' :: divide rest
  | c :: rest => c :: divide rest
  | [] => []

def marker : List Char := "camagent__".toList

/-- The setting that an environment variable stands for. -/
def ofVariable? (name value : String) : Option (String × Setting) :=
  let name := name.toLower.toList
  if marker.isPrefixOf name then
    some (String.ofList (divide (name.drop marker.length)), .text value "the environment")
  else none

/-- The settings of a file, given by the place it came from and its text. -/
def ofFile (origin text : String) : Except LoadFailure (List (String × Setting)) :=
  match Toml.read? text with
  | some entries => .ok (Setting.ofEntries origin entries)
  | none => .error (.malformed origin)

def load (file : Option (String × String)) (environment : List (String × String)) :
    Except LoadFailure Config := do
  let lower ← match file with
    | some (origin, text) => ofFile origin text
    | none => .ok []
  let upper := environment.filterMap fun (name, value) => ofVariable? name value
  ofSettings (((toSetting {}).overlay lower).overlay upper)

/-- A configuration as the text of a file. -/
def toToml (c : Config) : String :=
  "[handler]\nthread_name = " ++ Json.quote c.controllerThread ++
    "\nhistory_size = " ++ toString c.historySize ++
    "\n\n[dispatch]\nthread_name = " ++ Json.quote c.dispatchThread ++
    "\nqueue_capacity = " ++ toString c.queueCapacity ++
    "\njob_timeout_ms = " ++ toString c.jobTimeout ++ "\n"

end Config

end CameraControl

import CameraControl.Program

/-!
The command line program.
-/
namespace CameraControl

/-- Nothing for what is no readable file. -/
def readText? (path : String) : IO (Option (String × String)) := do
  try
    return some (path, ← IO.FS.readFile path)
  catch _ => return none

def readEnvironment : IO (List (String × String)) := do
  let some (_, text) ← readText? "/proc/self/environ" | return []
  return (text.splitOn "\x00").filterMap fun entry =>
    match entry.splitOn "=" with
    | name :: value@(_ :: _) => some (name, "=".intercalate value)
    | _ => none

/-- The time since the machine started, as hours, minutes, seconds and milliseconds. -/
def readClock : IO String := do
  let ms ← IO.monoMsNow
  let digits (width n : Nat) : String :=
    let shown := toString n
    String.ofList (List.replicate (width - shown.length) '0') ++ shown
  return digits 2 (ms / 3600000 % 24) ++ ":" ++ digits 2 (ms / 60000 % 60) ++ ":" ++
    digits 2 (ms / 1000 % 60) ++ "." ++ digits 3 (ms % 1000)

end CameraControl

def main (arguments : List String) : IO UInt32 := do
  let files ← (CameraControl.Program.wanted arguments).filterMapM CameraControl.readText?
  let environment ← CameraControl.readEnvironment
  let clock ← CameraControl.readClock
  let response := CameraControl.Program.run arguments files environment clock
  IO.print response.output
  for line in response.complaints do IO.eprintln line
  return response.code.toUInt32

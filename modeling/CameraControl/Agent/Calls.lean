import CameraControl.Agent

/-!
What callers can do with an agent and with the cameras that it opens for them. Calls that need the camera in
a certain stage leave the waiting to the dispatcher; only `awaitSettings` and `awaitRelease` look at the
outcome, and are given up as timed out when there is none.
-/
namespace CameraControl.Agent

variable {σ δ τ : Type}

/-- Has an action posted once the camera is in a wanted stage. -/
def ask (a : Agent σ δ τ) (action : Action) (wanted : Option Stage.Set := none) :
    Except Failure (Agent σ δ τ) :=
  a.submit (.post wanted action)

def openCamera (a : Agent σ δ τ) (index : Nat) (callback : Tag) : Except Failure (Agent σ δ τ) :=
  a.ask (.openCamera index callback)

def close (a : Agent σ δ τ) : Except Failure (Agent σ δ τ) := a.ask .release

def issue (a : Agent σ δ τ) : Agent σ δ τ × Ticket := ({ a with tickets := a.tickets + 1 }, a.tickets)

def closeSynced (a : Agent σ δ τ) : Except Failure (Agent σ δ τ × Ticket) :=
  let (a, ticket) := a.issue
  (a.submit (.release ticket)).map (·, ticket)

def awaitRelease (a : Agent σ δ τ) (ticket : Ticket) : Except Failure Unit :=
  if .release ticket ∈ a.dispatcher.finished then .ok ()
  else .error (.timeout a.jobTimeout "camera release")

/-- Settings that make no sense are not even queued. -/
def applySettings (a : Agent σ δ τ) (settings : Settings) : Except Failure (Agent σ δ τ) :=
  match settings.problem? with
  | some problem => .error (.invalidSettings problem.message)
  | none => a.ask (.applySettings settings) (some (.atLeast .unconfigured))

def querySettings (a : Agent σ δ τ) : Except Failure (Agent σ δ τ × Ticket) :=
  let (a, ticket) := a.issue
  (a.ask (.querySettings ticket)).map (·, ticket)

def awaitSettings (a : Agent σ δ τ) (ticket : Ticket) : Except Failure (Option Settings) :=
  match a.controller.replies.lookup ticket with
  | some settings => .ok settings
  | none => .error (.timeout a.jobTimeout "camera settings")

def setPreviewTexture (a : Agent σ δ τ) (texture : TextureId) : Except Failure (Agent σ δ τ) :=
  a.ask (.setPreviewTexture texture)

def startPreview (a : Agent σ δ τ) (callback : Option Tag) : Except Failure (Agent σ δ τ) :=
  a.ask (.startPreview callback) (some (.atLeast .previewReady))

def stopPreview (a : Agent σ δ τ) : Except Failure (Agent σ δ τ) := a.ask .stopPreview

def autoFocus (a : Agent σ δ τ) (callback : Option Tag) : Except Failure (Agent σ δ τ) :=
  a.ask (.autoFocus callback) (some (.of [.previewActive, .focusLocked]))

def cancelAutoFocus (a : Agent σ δ τ) : Except Failure (Agent σ δ τ) := a.ask .cancelAutoFocus

def setMoveCallback (a : Agent σ δ τ) (callback : Option Tag) : Except Failure (Agent σ δ τ) :=
  a.ask (.setMoveCallback callback)

/-- Asks for the same camera again. -/
def reconnect (a : Agent σ δ τ) (camera : Camera) (callback : Tag) :
    Except Failure (Agent σ δ τ) :=
  a.ask (.reconnect camera.index callback)

/-- The cameras that were opened so far, in order. -/
def cameras (a : Agent σ δ τ) : List Camera :=
  a.controller.reports.filterMap fun r =>
    match r.report with
    | .opened _ camera => some camera
    | _ => none

variable [Subsystem σ δ τ]

def start (config : Config) (world : σ) (clock : String) : Except Failure (Agent σ δ τ) :=
  match config.problem? with
  | some problem => .error (.configuration problem.message)
  | none =>
    .ok {
      jobTimeout := config.jobTimeout
      controller := {
        subsystem := world
        roster := (Subsystem.ids world).toOption.elim {} Roster.empty.update
        history := .ofSize config.historySize
        clock }
      dispatcher := { capacity := config.queueCapacity } }

/-- Lists the devices anew and takes stock of them. -/
def inventory (a : Agent σ δ τ) : Except Failure (Agent σ δ τ × Inventory) :=
  match Subsystem.ids a.controller.subsystem with
  | .error fault => .error (.subsystem fault)
  | .ok listing =>
    let a := a.enroll listing
    .ok (a, .take a.controller.roster a.controller.subsystem)

end CameraControl.Agent

import TrustedServices.Fwu.Requests
import TrustedServices.Lib.LinkedPool

/- The update agent for a PSA FWU backend whose calls may fail. -/
namespace PsaFwuM

open Lib Fwu

inductive PsaStatus
  | success
  | doesNotExist
  | invalidArgument
  | invalidSignature
  | notPermitted
  | badState
  | other (code : Int)
  deriving DecidableEq, Repr

def psaStatusToFwuStatus : PsaStatus → FwuStatus
  | .success => .success
  | .doesNotExist => .unknown
  | .invalidArgument => .outOfBounds
  | .invalidSignature => .authFail
  | .notPermitted => .noPermission
  | .badState | .other _ => .denied

inductive BackendCall
  | start (component : Nat)
  | write (component offset : Nat) (data : Bytes)
  | finish (component : Nat)
  | cancel (component : Nat)
  | clean (component : Nat)
  | install
  | reject
  | accept
  deriving DecidableEq, Repr

/-- The answers of the backend in one operation, by the number of the call. -/
abbrev Backend := Nat → BackendCall → PsaStatus

inductive AgentState
  | regular
  | staging
  | trial
  deriving DecidableEq, Repr

/-- An image. `readable` and `writable` say whether it has the function. -/
structure Image where
  uuid : Uuid
  component : Nat
  selectedForStaging : Bool
  accepted : Bool
  readable : Bool
  writable : Bool
  deriving DecidableEq, Repr

def Image.released (image : Image) : Image :=
  { image with selectedForStaging := false, accepted := false }

def Image.selected (image : Image) : Image := { image with selectedForStaging := true }

def psaFwuMMaxHandles : Nat := 8

abbrev HandleIndex := Fin psaFwuMMaxHandles

structure Handle (count : Nat) where
  currentOffset : Nat
  opType : OpenOpType
  image : Fin count
  deriving DecidableEq, Repr

structure Agent (count : Nat) where
  images : Fin count → Image
  state : AgentState
  handles : HandleIndex → Option (Handle count)

section

variable {count : Nat}

structure BackendEvent (count : Nat) where
  call : BackendCall
  image : Option (Fin count)
  status : PsaStatus
  agent : Agent count

structure Step (count : Nat) extends agent : Agent count where
  events : List (BackendEvent count)

def Step.invoke (backend : Backend) (step : Step count) (image : Option (Fin count))
    (call : BackendCall) : PsaStatus × Step count :=
  let status := backend step.events.length call
  (status, { step with events := step.events ++ [⟨call, image, status, step.agent⟩] })

def Agent.modifyImage (agent : Agent count) (image : Fin count) (change : Image → Image) :
    Agent count :=
  { agent with images := Function.update agent.images image (change (agent.images image)) }

def Step.modifyImage (step : Step count) (image : Fin count) (change : Image → Image) :
    Step count :=
  { step with agent := step.agent.modifyImage image change }

def setAgentState (agent : Agent count) (state : AgentState) : Agent count :=
  { agent with
    images := fun image =>
      if state = .regular then (agent.images image).released else agent.images image
    state := state }

def Step.setAgentState (step : Step count) (state : AgentState) : Step count :=
  { step with agent := PsaFwuM.setAgentState step.agent state }

def findImage (agent : Agent count) (uuid : Uuid) : Option (Fin count) :=
  (List.finRange count).find? fun image => (agent.images image).uuid == uuid

/-- The loops over the images: call the backend for those that are concerned, change each one
whose call succeeds, and stop at the first failure. -/
def forImages (backend : Backend) (concerns : Image → Bool) (call : Nat → BackendCall)
    (change : Image → Image) : List (Fin count) → Step count → PsaStatus × Step count
  | [], step => (.success, step)
  | image :: rest, step =>
    if concerns (step.images image) then
      let called := step.invoke backend (some image) (call (step.images image).component)
      if called.1 = .success then
        forImages backend concerns call change rest (called.2.modifyImage image change)
      else called
    else forImages backend concerns call change rest step

variable (backend : Backend) (step : Step count)

def clean : FwuStatus × Step count :=
  let cleaned := forImages backend Image.writable .clean Image.released (List.finRange count) step
  (psaStatusToFwuStatus cleaned.1, cleaned.2)

def freeHandles (agent : Agent count) : Agent count := { agent with handles := fun _ => none }

def cancelStaging : FwuStatus × Step count :=
  if step.state = .staging then
    let cancelled := forImages backend Image.selectedForStaging .cancel Image.released
      (List.finRange count) { step with agent := freeHandles step.agent }
    if cancelled.1 = .success then (.success, cancelled.2.setAgentState .regular)
    else (psaStatusToFwuStatus cancelled.1, cancelled.2)
  else (.denied, step)

/-- Start the images with the given identifiers, until one is unknown, read-only or fails. -/
def startNamed : List Uuid → Step count → Bool × Step count
  | [], step => (true, step)
  | uuid :: rest, step =>
    match findImage step.agent uuid with
    | none => (false, step)
    | some image =>
      if (step.images image).writable then
        let called := step.invoke backend (some image)
          (.start (step.images image).component)
        if called.1 = .success then
          startNamed rest (called.2.modifyImage image Image.selected)
        else (false, called.2)
      else (false, step)

def startAll : Bool × Step count :=
  let started := forImages backend Image.writable .start Image.selected (List.finRange count) step
  (started.1 = .success, started.2)

/-- The error path of `begin_staging`. -/
def revert : FwuStatus × Step count :=
  let cleaned := clean backend step
  if cleaned.1 = .success then (.unknown, cleaned.2) else cleaned

def startImages (updateGuid : List Uuid) : Bool × Step count :=
  if updateGuid = [] then startAll backend step else startNamed backend updateGuid step

def startStaging (updateGuid : List Uuid) : FwuStatus × Step count :=
  let started := startImages backend step updateGuid
  if started.1 then (.success, started.2.setAgentState .staging) else revert backend started.2

/-- A session that is already open is discarded first. -/
def beginStaging (updateGuid : List Uuid) : FwuStatus × Step count :=
  match step.state with
  | .staging =>
    let cancelled := cancelStaging backend step
    if cancelled.1 = .success then
      let cleaned := clean backend cancelled.2
      if cleaned.1 = .success then startStaging backend cleaned.2 updateGuid else cleaned
    else revert backend cancelled.2
  | .regular => startStaging backend step updateGuid
  | .trial => (.denied, step)

def Agent.openHandles (agent : Agent count) : Bool :=
  (List.finRange psaFwuMMaxHandles).any fun handle => (agent.handles handle).isSome

def Agent.allAccepted (agent : Agent count) : Bool :=
  (List.finRange count).all fun image =>
    !(agent.images image).selectedForStaging || (agent.images image).accepted

def acceptUpdate : FwuStatus × Step count :=
  let called := step.invoke backend none .accept
  if called.1 = .success then (.success, called.2.setAgentState .regular)
  else (psaStatusToFwuStatus called.1, called.2)

/-- The loop that finishes the images does not change them, so that it is known only then
whether all are accepted. -/
def endStaging : FwuStatus × Step count :=
  if step.state = .staging then
    if step.agent.openHandles then (.busy, step)
    else
      let finished := forImages backend Image.selectedForStaging .finish id
        (List.finRange count) step
      if finished.1 = .success then
        let installed := finished.2.invoke backend none .install
        if installed.1 = .success then
          if installed.2.agent.allAccepted then acceptUpdate backend installed.2
          else (.success, installed.2.setAgentState .trial)
        else (psaStatusToFwuStatus installed.1, installed.2)
      else (psaStatusToFwuStatus finished.1, finished.2)
  else (.denied, step)

section

variable (agent : Agent count)

def freeHandle : Option HandleIndex :=
  (List.finRange psaFwuMMaxHandles).find? fun handle => (agent.handles handle).isNone

def Agent.setHandle (index : HandleIndex) (handle : Option (Handle count)) : Agent count :=
  { agent with handles := Function.update agent.handles index handle }

def openImage (uuid : Uuid) (opType : OpenOpType) : FwuStatus × Option HandleIndex × Agent count :=
  if opType = .write ∧ agent.state ≠ .staging then (.denied, none, agent)
  else
    match findImage agent uuid with
    | none => (.unknown, none, agent)
    | some image =>
      if opType = .write ∧ (agent.images image).selectedForStaging = false then
        (.denied, none, agent)
      else if opType = .read ∧ (agent.images image).readable = false ∨
          opType = .write ∧ (agent.images image).writable = false then
        (.notAvailable, none, agent)
      else
        match freeHandle agent with
        | none => (.notAvailable, none, agent)
        | some index => (.success, some index, agent.setHandle index (some ⟨0, opType, image⟩))

def getHandle (handle : Nat) : Option (HandleIndex × Handle count) :=
  if inside : handle < psaFwuMMaxHandles then
    (agent.handles ⟨handle, inside⟩).map fun description => (⟨handle, inside⟩, description)
  else none

end

def writeStream (handle : Nat) (data : Bytes) : FwuStatus × Step count :=
  if step.state = .staging then
    match getHandle step.agent handle with
    | none => (.unknown, step)
    | some (index, description) =>
      if description.opType = .write then
        match Rpc.addOverflow description.currentOffset data.length with
        | none => (.outOfBounds, step)
        | some offsetAfterWrite =>
          let image := step.images description.image
          if image.selectedForStaging && image.writable then
            let called := step.invoke backend (some description.image)
              (.write image.component description.currentOffset data)
            if called.1 = .success then
              (.success,
                { called.2 with
                  agent := called.2.agent.setHandle index
                    (some { description with currentOffset := offsetAfterWrite }) })
            else (psaStatusToFwuStatus called.1, called.2)
          else (.denied, step)
      else (.noPermission, step)
  else (.denied, step)

def commit (agent : Agent count) (handle : Nat) (accepted : Bool) : FwuStatus × Agent count :=
  match getHandle agent handle with
  | none => (.unknown, agent)
  | some (index, description) =>
    let agent :=
      if (agent.images description.image).selectedForStaging then
        agent.modifyImage description.image fun image => { image with accepted := accepted }
      else agent
    (.success, agent.setHandle index none)

def accept (imageTypeUuid : Uuid) : FwuStatus × Step count :=
  if step.state = .trial then
    match findImage step.agent imageTypeUuid with
    | none => (.unknown, step)
    | some image =>
      if (step.images image).selectedForStaging then
        let step := step.modifyImage image fun image => { image with accepted := true }
        if step.agent.allAccepted then acceptUpdate backend step else (.success, step)
      else (.denied, step)
  else (.denied, step)

def selectPrevious : FwuStatus × Step count :=
  if step.state = .trial then
    let called := step.invoke backend none .reject
    if called.1 = .success then (.success, called.2.setAgentState .regular)
    else (psaStatusToFwuStatus called.1, called.2)
  else (.denied, step)

end

/-- The answers to the queries at the start, by their number: whether the component is in its
trial, if the query succeeds. -/
abbrev ComponentQuery := Nat → Nat → Option Bool

def directoryImage : Image where
  uuid := fwuDirectoryUuid
  component := 0
  selectedForStaging := false
  accepted := false
  readable := true
  writable := false

section

variable (mapping : List (Uuid × Nat)) (query : ComponentQuery)

/-- The images of a mapping from identifiers to components, with the image directory behind. -/
def initialImage (image : Fin (mapping.length + 1)) : Image :=
  if inside : image.val < mapping.length then
    let entry := mapping.get ⟨image.val, inside⟩
    { uuid := entry.1
      component := entry.2
      selectedForStaging := query image.val entry.2 == some true
      accepted := false
      readable := false
      writable := true }
  else directoryImage

/-- The agent after a start, unless a query fails. -/
def psaFwuMUpdateAgentInit : Option (Agent (mapping.length + 1)) :=
  let answers := mapping.zipIdx.map fun entry => query entry.2 entry.1.2
  if answers.all Option.isSome then
    some
      { images := initialImage mapping query
        state := if some true ∈ answers then .trial else .regular
        handles := fun _ => none }
  else none

end

end PsaFwuM

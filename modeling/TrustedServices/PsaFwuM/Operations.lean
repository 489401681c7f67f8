import TrustedServices.Lib.Transition
import TrustedServices.PsaFwuM.Effects

/- What the operations of the agent can come to when the backend's calls may fail, and its runs. -/
namespace PsaFwuM

open Lib Fwu Function

section

variable {count : Nat} {backend : Backend} {step base : Step count} {agent : Agent count}

def Agent.Idle (agent : Agent count) : Prop :=
  ∀ image, (agent.images image).selectedForStaging = false ∧ (agent.images image).accepted = false

theorem psaStatusToFwuStatus_success {status : PsaStatus} :
    psaStatusToFwuStatus status = .success ↔ status = .success := by
  cases status <;> simp [psaStatusToFwuStatus]

theorem setAgentState_idle (agent : Agent count) : (setAgentState agent .regular).Idle :=
  fun _ => ⟨rfl, rfl⟩

theorem setAgentState_images {state : AgentState} (active : state ≠ .regular) :
    (setAgentState agent state).images = agent.images := by
  funext image
  exact if_neg active

theorem setAgentState_proper (proper : agent.Proper) (state : AgentState) :
    (setAgentState agent state).Proper := by
  intro image
  unfold setAgentState
  dsimp only
  split
  · exact ((agent.images image).worked_released).proper (proper image)
  · exact proper image

theorem clean_works : step.Works (clean backend step).2 := forImages_works_end fun _ => ⟨rfl, rfl⟩

/-- A clean that the backend carries out takes all images out of the update. -/
theorem clean_reverts (cleans : ∀ number component, backend number (.clean component) = .success)
    (proper : step.agent.Proper) :
    (clean backend step).1 = .success ∧
      ∀ image, ((clean backend step).2.agent.images image).selectedForStaging = false := by
  have success : (forImages backend Image.writable .clean Image.released (List.finRange count)
      step).1 = .success := by
    by_contra failed
    obtain ⟨_, number, component, refused, _⟩ := forImages_failed failed
    exact refused (cleans number component)
  refine ⟨psaStatusToFwuStatus_success.mpr success,
    fun image => forImages_marks success (fun _ => rfl) ?_⟩
  by_cases selected : (step.images image).selectedForStaging = true
  · exact .inr ⟨List.mem_finRange image, (proper image).writable selected⟩
  · exact .inl (Bool.eq_false_iff.mpr selected)

theorem revert_eq : (revert backend step).2 = (clean backend step).2 := by
  unfold revert
  dsimp only
  split
  · rfl
  · rfl

theorem revert_works : step.Works (revert backend step).2 := by
  rw [revert_eq]
  exact clean_works

theorem revert_fails : (revert backend step).1 ≠ .success := by
  unfold revert
  dsimp only
  split
  · exact nofun
  · assumption

theorem startNamed_works (updateGuid : List Uuid) :
    step.Works (startNamed backend updateGuid step).2 := by
  induction updateGuid generalizing step with
  | nil => exact .refl step
  | cons uuid rest ih =>
    unfold startNamed
    split
    · exact .refl step
    · split_ifs with writable
      · rw [Step.invoke_eq]
        dsimp only
        split_ifs with success
        · rw [success]
          exact (Step.Works.starts _ writable).trans ih
        · exact .failed success ⟨nofun, nofun⟩
      · exact .refl step

theorem startImages_works (updateGuid : List Uuid) :
    step.Works (startImages backend step updateGuid).2 := by
  unfold startImages
  split
  · exact forImages_works_start
  · exact startNamed_works updateGuid

theorem startNamed_selects {updateGuid : List Uuid}
    (started : (startNamed backend updateGuid step).1 = true)
    (some : updateGuid ≠ [] ∨ ∃ image, (step.images image).selectedForStaging = true) :
    ∃ image, ((startNamed backend updateGuid step).2.agent.images image).selectedForStaging =
      true := by
  induction updateGuid generalizing step with
  | nil => exact some.resolve_left fun other => other rfl
  | cons uuid rest ih =>
    unfold startNamed at started ⊢
    split at started
    · cases started
    · rename_i image _
      dsimp only at started ⊢
      split_ifs at started ⊢
      refine ih started (.inr ⟨image, ?_⟩)
      show (update step.images image _ image).selectedForStaging = true
      rw [update_self]
      rfl

theorem startImages_selects {updateGuid : List Uuid}
    (started : (startImages backend step updateGuid).1 = true)
    (some : ∃ image, (step.images image).writable = true) :
    ∃ image, ((startImages backend step updateGuid).2.agent.images image).selectedForStaging =
      true := by
  unfold startImages at started ⊢
  split at started
  · rename_i all
    obtain ⟨image, writable⟩ := some
    rw [if_pos all]
    exact ⟨image, forImages_marks (of_decide_eq_true started) (fun _ => rfl)
      (.inr ⟨List.mem_finRange image, writable⟩)⟩
  · rename_i named
    rw [if_neg named]
    exact startNamed_selects started (.inl named)

/-- Staging starts with an image, if there is one that can be written, or fails with what was done
until then. If images are cleaned when asked, none is left in the update after a failure. -/
inductive Step.Starts (backend : Backend) (before : Step count) : FwuStatus × Step count → Prop
  | started (after : Step count) (works : before.Works after)
      (selects : (∃ image, (before.agent.images image).writable = true) →
        ∃ image, (after.agent.images image).selectedForStaging = true) :
      before.Starts backend (.success, after.setAgentState .staging)
  | failed (status : FwuStatus) (after : Step count) (failure : status ≠ .success)
      (works : before.Works after)
      (reverts : (∀ number component, backend number (.clean component) = .success) →
        before.agent.Proper → ∀ image, (after.agent.images image).selectedForStaging = false) :
      before.Starts backend (status, after)

theorem Step.Works.andStarts {result : FwuStatus × Step count} (works : base.Works step)
    (starts : step.Starts backend result) : base.Starts backend result := by
  cases starts with
  | started after later selects =>
    refine .started after (works.trans later) fun ⟨image, writable⟩ => selects ⟨image, ?_⟩
    rw [(works.agent.images image).writable, writable]
  | failed status after failure later reverts =>
    exact .failed status after failure (works.trans later) fun cleans proper =>
      reverts cleans (works.agent.proper proper)

theorem startStaging_starts (updateGuid : List Uuid) :
    step.Starts backend (startStaging backend step updateGuid) := by
  have works := @startImages_works _ backend step updateGuid
  unfold startStaging
  dsimp only
  split
  · rename_i started
    exact .started _ works (startImages_selects started)
  · have reverts := @clean_reverts _ backend (startImages backend step updateGuid).2
    rw [← revert_eq] at reverts
    exact .failed _ _ revert_fails (works.trans revert_works) fun cleans proper =>
      (reverts cleans (works.agent.proper proper)).2

/-- A cancellation closes the handles. It releases all images, or fails at one of them. -/
inductive Cancels (backend : Backend) (agent : Agent count) : FwuStatus × Step count → Prop
  | cancelled (after : Step count) (works : (⟨freeHandles agent, []⟩ : Step count).Works after)
      (quiet : outstandingAfter after.events Marks.none = Marks.none) :
      Cancels backend agent (.success, after.setAgentState .regular)
  | failed (status : FwuStatus) (after : Step count) (failure : status ≠ .success)
      (works : (⟨freeHandles agent, []⟩ : Step count).Works after)
      (cause : ∃ number component, backend number (.cancel component) ≠ .success)
      (selects : ∃ image, (after.agent.images image).selectedForStaging = true) :
      Cancels backend agent (status, after)

theorem cancelStaging_cancels (staging : agent.state = .staging) :
    Cancels backend agent (cancelStaging backend ⟨agent, []⟩) := by
  have works := @forImages_works_end count backend ⟨freeHandles agent, []⟩
    Image.selectedForStaging (List.finRange count) .cancel fun _ => ⟨rfl, rfl⟩
  have quiet := @forImages_none count backend ⟨freeHandles agent, []⟩
    Image.selectedForStaging .cancel (List.finRange count) (fun _ => ⟨rfl, rfl⟩)
    Image.released rfl
  unfold cancelStaging
  rw [if_pos staging]
  dsimp only
  split_ifs with failure
  · exact .cancelled _ works quiet
  · obtain ⟨image, number, component, refused, selected⟩ := forImages_failed failure
    exact .failed _ _ (mt psaStatusToFwuStatus_success.mp failure) works
      ⟨number, component, refused⟩ ⟨image, selected⟩

/-- The calls of `end_staging`: they finish images, and then install and accept. -/
def EndingCall (backend : Backend) (agent : Agent count) (made : BackendEvent count) : Prop :=
  made.agent = agent ∧ (∃ number, made.status = backend number made.call) ∧
    ((∃ component, made.call = .finish component) ∨
      made.image = none ∧ (made.call = .install ∨ made.call = .accept ∧ agent.allAccepted = true))

inductive Ends (backend : Backend) (agent : Agent count) : FwuStatus × Step count → Prop
  | failed (status : FwuStatus) (events : List (BackendEvent count))
      (cause : ∃ number call, backend number call ≠ .success)
      (calls : ∀ made ∈ events, EndingCall backend agent made) :
      Ends backend agent (status, ⟨agent, events⟩)
  | ended (state : AgentState) (events : List (BackendEvent count)) (left : state ≠ .staging)
      (calls : ∀ made ∈ events, EndingCall backend agent made) :
      Ends backend agent (.success, ⟨setAgentState agent state, events⟩)

variable {events : List (BackendEvent count)}

theorem EndingCall.record {made : BackendCall} {number : Nat}
    (calls : ∀ made ∈ events, EndingCall backend agent made)
    (last : made = .install ∨ made = .accept ∧ agent.allAccepted = true) :
    ∀ event ∈ events ++ [⟨made, none, backend number made, agent⟩],
      EndingCall backend agent event := by
  intro event member
  rcases List.mem_append.mp member with early | late
  · exact calls event early
  · rw [List.mem_singleton.mp late]
    exact ⟨rfl, ⟨number, rfl⟩, .inr ⟨rfl, last⟩⟩

theorem acceptUpdate_ends
    (calls : ∀ made ∈ events, EndingCall backend agent made)
    (allAccepted : agent.allAccepted = true) :
    Ends backend agent (acceptUpdate backend ⟨agent, events⟩) := by
  unfold acceptUpdate
  dsimp only
  split_ifs with failure
  · exact .ended .regular _ nofun (EndingCall.record calls (.inr ⟨rfl, allAccepted⟩))
  · exact .failed _ _ ⟨_, _, failure⟩ (EndingCall.record calls (.inr ⟨rfl, allAccepted⟩))

theorem endStaging_ends (staging : agent.state = .staging) (closed : agent.openHandles = false) :
    Ends backend agent (endStaging backend ⟨agent, []⟩) := by
  obtain ⟨same, finishes⟩ := @forImages_id count backend ⟨agent, []⟩ Image.selectedForStaging
    (List.finRange count) .finish
  have cause := @forImages_failed count backend Image.selectedForStaging .finish id
    (List.finRange count) ⟨agent, []⟩
  unfold endStaging
  rw [if_pos staging, closed]
  rw [if_neg Bool.false_ne_true]
  generalize forImages backend Image.selectedForStaging .finish id (List.finRange count)
    ⟨agent, []⟩ = finished at same finishes cause ⊢
  obtain ⟨status, ⟨after, events⟩⟩ := finished
  obtain rfl : after = agent := same
  have calls : ∀ made ∈ events, EndingCall backend after made := by
    intro made member
    obtain ⟨during, number, component, call, answer⟩ :=
      (finishes made member).resolve_left (fun member => nomatch member)
    exact ⟨during, ⟨number, answer⟩, .inl ⟨component, call⟩⟩
  dsimp only
  split
  · split
    · split_ifs with allAccepted
      · exact acceptUpdate_ends (EndingCall.record calls (.inl rfl)) allAccepted
      · exact .ended .trial _ nofun (EndingCall.record calls (.inl rfl))
    · rename_i failure
      exact .failed _ _ ⟨_, _, failure⟩ (EndingCall.record calls (.inl rfl))
  · rename_i failure
    obtain ⟨_, number, component, refused, _⟩ := cause failure
    exact .failed _ _ ⟨number, _, refused⟩ calls

end

variable {count : Nat}

inductive AgentCall
  | beginStaging (updateGuid : List Uuid)
  | endStaging
  | cancelStaging
  | openImage (uuid : Uuid) (opType : OpenOpType)
  | writeStream (handle : Nat) (data : Bytes)
  | commit (handle : Nat) (accepted : Bool)
  | accept (imageTypeUuid : Uuid)
  | selectPrevious
  deriving DecidableEq, Repr

def AgentCall.begins : AgentCall → Bool
  | .beginStaging _ => true
  | _ => false

def Agent.call (backend : Backend) (agent : Agent count) : AgentCall → FwuStatus × Step count
  | .beginStaging updateGuid => beginStaging backend ⟨agent, []⟩ updateGuid
  | .endStaging => endStaging backend ⟨agent, []⟩
  | .cancelStaging => cancelStaging backend ⟨agent, []⟩
  | .openImage uuid opType =>
    let opened := openImage agent uuid opType
    (opened.1, ⟨opened.2.2, []⟩)
  | .writeStream handle data => writeStream backend ⟨agent, []⟩ handle data
  | .commit handle accepted =>
    let committed := commit agent handle accepted
    (committed.1, ⟨committed.2, []⟩)
  | .accept imageTypeUuid => accept backend ⟨agent, []⟩ imageTypeUuid
  | .selectPrevious => selectPrevious backend ⟨agent, []⟩

/-- An agent with an account of its session: the images that were started and not ended since,
and those that the client has accepted. -/
structure Run (count : Nat) extends agent : Agent count where
  started : Marks count
  approved : Marks count

structure Event where
  backend : Backend
  call : AgentCall

/-- The images that the client has accepted, by a commit while staging or by an acceptance in
the trial; the call counts. -/
def Run.approvedBy (run : Run count) : AgentCall → Marks count
  | .commit handle accepted =>
    match getHandle run.agent handle with
    | some (_, description) =>
      if run.state = .staging then
        update run.approved description.image accepted
      else run.approved
    | none => run.approved
  | .accept imageTypeUuid =>
    match findImage run.agent imageTypeUuid with
    | some image =>
      if run.state = .trial then update run.approved image true
      else run.approved
    | none => run.approved
  | _ => run.approved

/-- A session starts with a call that begins it successfully. -/
def Run.step (run : Run count) (event : Event) : Run count :=
  let result := run.agent.call event.backend event.call
  let fresh := event.call.begins ∧ result.1 = .success
  { agent := result.2.agent
    started := outstandingAfter result.2.events (if fresh then Marks.none else run.started)
    approved := if fresh then Marks.none else run.approvedBy event.call }

/-- What has to hold of a call. When staging begins, there is an image that can be written, and the
backend cleans all images that it is asked to, and cancels them in a session that is open. When
staging ends, the backend does all that it is asked to, or finishes no image. -/
def Dependable (run : Run count) (event : Event) : Prop :=
  match event.call with
  | .beginStaging _ =>
    (∃ image, (run.images image).writable = true) ∧
      (∀ number component, event.backend number (.clean component) = .success) ∧
      (run.state = .staging →
        ∀ number component, event.backend number (.cancel component) = .success)
  | .endStaging =>
    (∀ number call, event.backend number call = .success) ∨
      ∀ number component, event.backend number (.finish component) ≠ .success
  | _ => True

/-- The images in the update: none in the regular state, and while staging those that were
started in the session and whose update has not ended. -/
structure Run.InOrder (run : Run count) : Prop where
  regular : run.state = .regular → run.agent.Idle
  staging : run.state = .staging → ∀ image,
    (run.images image).selectedForStaging = run.started image

/-- The backend installs with an image in the update and no open handle, and accepts with all
images of the update accepted. -/
def BackendEvent.InOrder (approved : Marks count) (made : BackendEvent count) : Prop :=
  (made.call = .install →
    (∃ image, (made.agent.images image).selectedForStaging = true) ∧
      ∀ handle, made.agent.handles handle = none) ∧
  (made.call = .accept → ∀ image, (made.agent.images image).selectedForStaging = true →
    approved image = true)

end PsaFwuM

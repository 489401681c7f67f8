import TrustedServices.PsaFwuM.Consistency

/- The states of the agent over whole runs. -/
namespace PsaFwuM

open Lib Fwu

section

variable {count : Nat} {run : Run count} {backend : Backend} {made : BackendEvent count}
  {approved : Marks count} {result : FwuStatus × Step count} {agent : Agent count}

theorem BackendEvent.inOrder_other
    (other : made.call ≠ .install ∧ made.call ≠ .accept) : made.InOrder approved :=
  ⟨fun install => absurd install other.1, fun accept => absurd accept other.2⟩

theorem Step.Works.inOrder {base after : Step count}
    (works : base.Works after) (before : ∀ made ∈ base.events, made.InOrder approved) :
    ∀ made ∈ after.events, made.InOrder approved := by
  intro made member
  rcases works.calls made member with early | other
  · exact before made early
  · exact BackendEvent.inOrder_other other

theorem Step.Starts.inOrder {base : Step count} (starts : base.Starts backend result)
    (before : ∀ made ∈ base.events, made.InOrder approved) :
    ∀ made ∈ result.2.events, made.InOrder approved := by
  cases starts with
  | started after works _ => exact works.inOrder before
  | failed status after failure works _ => exact works.inOrder before

theorem cancelStaging_inOrder {agent : Agent count} {approved : Marks count}
    (staging : agent.state = .staging) :
    ∀ made ∈ (cancelStaging backend ⟨agent, []⟩).2.events, made.InOrder approved := by
  have cancels := @cancelStaging_cancels _ backend _ staging
  generalize cancelStaging backend ⟨agent, []⟩ = result at cancels
  cases cancels with
  | cancelled after works quiet => exact works.inOrder nofun
  | failed status after failure works _ _ => exact works.inOrder nofun

theorem beginStaging_inOrder (updateGuid : List Uuid) :
    ∀ made ∈ (beginStaging backend ⟨agent, []⟩ updateGuid).2.events, made.InOrder approved := by
  unfold beginStaging
  dsimp only
  split
  · rename_i staging
    have cancels := @cancelStaging_inOrder _ backend _ approved staging
    split
    · split
      · exact (startStaging_starts updateGuid).inOrder (clean_works.inOrder cancels)
      · exact clean_works.inOrder cancels
    · exact revert_works.inOrder cancels
  · exact (startStaging_starts updateGuid).inOrder nofun
  · exact nofun

/-- The calls that end a session, with all images of the update accepted if the client has
accepted all that the agent knows to be. -/
theorem EndingCall.inOrder (ends : EndingCall backend agent made)
    (ready : made.call = .install → (∃ image, (agent.images image).selectedForStaging = true) ∧
      agent.handles = fun _ => none)
    (known : ∀ image, (agent.images image).accepted = true → approved image = true) :
    made.InOrder approved := by
  obtain ⟨during, _, which⟩ := ends
  refine ⟨fun install => ?_, fun accept image selected => ?_⟩
  · rw [during]
    obtain ⟨selected, closed⟩ := ready install
    exact ⟨selected, congrFun closed⟩
  · rw [during] at selected
    rw [accept] at which
    rcases which with ⟨_, finish⟩ | ⟨_, install | ⟨_, allAccepted⟩⟩
    · cases finish
    · cases install
    · simp only [Agent.allAccepted, List.all_eq_true] at allAccepted
      apply known
      simpa [selected] using allAccepted image (List.mem_finRange image)

theorem Ends.inOrder (ends : Ends backend agent result)
    (ready : ∀ made ∈ result.2.events, made.call = .install →
      (∃ image, (agent.images image).selectedForStaging = true) ∧ agent.handles = fun _ => none)
    (known : ∀ image, (agent.images image).accepted = true → approved image = true) :
    ∀ made ∈ result.2.events, made.InOrder approved := by
  intro made member
  cases ends with
  | failed status events cause calls =>
    exact (calls made member).inOrder (ready made member) known
  | ended state events left calls =>
    exact (calls made member).inOrder (ready made member) known

theorem acceptUpdate_events (step : Step count) :
    (acceptUpdate backend step).2.events =
      step.events ++ [⟨.accept, none, backend step.events.length .accept, step.agent⟩] := by
  unfold acceptUpdate
  dsimp only
  split
  · rfl
  · rfl

theorem accept_inOrder {imageTypeUuid : Uuid} (consistent : run.Consistent True) :
    ∀ made ∈ (accept backend ⟨run.agent, []⟩ imageTypeUuid).2.events,
      made.InOrder (run.approvedBy (.accept imageTypeUuid)) := by
  by_cases trial : run.state = .trial
  · cases found : findImage run.agent imageTypeUuid with
    | none =>
      simp only [accept, if_pos trial, found]
      rintro _ ⟨⟩
    | some image =>
      by_cases selected : (run.images image).selectedForStaging = true
      · rw [accept_eq trial found selected]
        split_ifs with allAccepted
        · rw [acceptUpdate_events]
          intro made member
          have known : ∀ here, ((run.agent.judge image true).images here).accepted = true →
              run.approvedBy (.accept imageTypeUuid) here = true := by
            simp only [Run.approvedBy, found, if_pos trial]
            exact Agent.judge_approved consistent.approved
          rw [List.mem_singleton.mp member]
          exact @EndingCall.inOrder _ backend _ _ _
            ⟨rfl, ⟨_, rfl⟩, .inr ⟨rfl, .inr ⟨rfl, allAccepted⟩⟩⟩ (by rintro ⟨⟩) known
        · rintro _ ⟨⟩
      · simp only [accept, if_pos trial, found, if_neg selected]
        rintro _ ⟨⟩
  · rw [accept, if_neg trial]
    rintro _ ⟨⟩

theorem endStaging_inOrder (consistent : run.Consistent True) :
    ∀ made ∈ (endStaging backend ⟨run.agent, []⟩).2.events, made.InOrder run.approved := by
  by_cases staging : run.state = .staging
  · by_cases opened : run.agent.openHandles = true
    · rw [endStaging, if_pos staging, if_pos opened]
      rintro _ ⟨⟩
    · have closed : run.agent.openHandles = false := by simpa using opened
      exact (endStaging_ends staging closed).inOrder
        (fun _ _ _ => ⟨consistent.selects trivial staging, Agent.openHandles_false closed⟩)
        consistent.approved
  · rw [endStaging, if_neg staging]
    rintro _ ⟨⟩

theorem writeStream_inOrder {handle : Nat} {data : Bytes} :
    ∀ made ∈ (writeStream backend ⟨agent, []⟩ handle data).2.events, made.InOrder approved := by
  have written : ∀ image component offset status,
      ∀ made ∈ ((⟨agent, []⟩ : Step count).record image (.write component offset data)
        status).events, made.InOrder approved := by
    intro image component offset status made member
    rw [List.mem_singleton.mp member]
    exact BackendEvent.inOrder_other ⟨nofun, nofun⟩
  unfold writeStream
  split
  · split
    · exact nofun
    · split
      · split
        · exact nofun
        · dsimp only
          split
          · split
            · exact written _ _ _ _
            · exact written _ _ _ _
          · exact nofun
      · exact nofun
  · exact nofun

theorem selectPrevious_inOrder :
    ∀ made ∈ (selectPrevious backend ⟨agent, []⟩).2.events, made.InOrder approved := by
  have rejected : ∀ status, ∀ made ∈ ((⟨agent, []⟩ : Step count).record none .reject
      status).events, made.InOrder approved := by
    intro status made member
    rw [List.mem_singleton.mp member]
    exact BackendEvent.inOrder_other ⟨nofun, nofun⟩
  unfold selectPrevious
  split
  · dsimp only
    split
    · exact rejected _
    · exact rejected _
  · exact nofun

variable {event : Event}

/-- What every call does to the backend. -/
theorem Run.Consistent.call_inOrder (consistent : run.Consistent True) :
    ∀ made ∈ (run.agent.call event.backend event.call).2.events,
      made.InOrder (run.approvedBy event.call) := by
  obtain ⟨backend, call⟩ := event
  cases call with
  | beginStaging updateGuid => exact beginStaging_inOrder updateGuid
  | endStaging => exact endStaging_inOrder consistent
  | cancelStaging =>
    by_cases staging : run.state = .staging
    · exact cancelStaging_inOrder staging
    · show ∀ made ∈ (PsaFwuM.cancelStaging backend ⟨run.agent, []⟩).2.events, _
      rw [PsaFwuM.cancelStaging, if_neg staging]
      exact nofun
  | openImage uuid opType => exact nofun
  | writeStream handle data => exact writeStream_inOrder
  | commit handle accepted => exact nofun
  | accept imageTypeUuid => exact accept_inOrder consistent
  | selectPrevious => exact selectPrevious_inOrder

theorem Run.Consistent.step {sound : Prop} (consistent : run.Consistent sound)
    (dependable : sound → Dependable run event) : (run.step event).Consistent sound := by
  obtain ⟨backend, call⟩ := event
  cases call with
  | beginStaging updateGuid => exact consistent.beginStaging dependable
  | endStaging => exact consistent.endStaging dependable
  | cancelStaging => exact consistent.cancelStaging
  | openImage uuid opType => exact consistent.openImage
  | writeStream handle data => exact consistent.writeStream
  | commit handle accepted => exact consistent.commit
  | accept imageTypeUuid => exact consistent.accept
  | selectPrevious => exact consistent.selectPrevious

def Run.booted (agent : Agent count) : Run count := ⟨agent, Marks.none, Marks.none⟩

theorem initialImage_plain (mapping : List (Uuid × Nat)) (query : ComponentQuery)
    (image : Fin (mapping.length + 1)) :
    (initialImage mapping query image).accepted = false ∧
      ((initialImage mapping query image).readable = true →
        (initialImage mapping query image).writable = false) ∧
      ((initialImage mapping query image).selectedForStaging = true →
        (initialImage mapping query image).writable = true ∧
          some true ∈ mapping.zipIdx.map fun entry => query entry.2 entry.1.2) := by
  unfold initialImage
  split_ifs with inside
  · refine ⟨rfl, nofun, fun selected => ⟨rfl, ?_⟩⟩
    have asked : query image.val (mapping.get ⟨image.val, inside⟩).2 = some true := by
      simpa using selected
    rw [← asked]
    refine List.mem_map.mpr ⟨(mapping.get ⟨image.val, inside⟩, image.val), ?_, rfl⟩
    rw [List.mem_zipIdx_iff_getElem?]
    simp [inside]
  · exact ⟨rfl, fun _ => rfl, nofun⟩

theorem Run.booted_consistent {mapping : List (Uuid × Nat)} {query : ComponentQuery}
    {agent : Agent (mapping.length + 1)} {sound : Prop}
    (booted : psaFwuMUpdateAgentInit mapping query = some agent) :
    (Run.booted agent).Consistent sound := by
  unfold psaFwuMUpdateAgentInit at booted
  dsimp only at booted
  split at booted
  · cases booted
    have plain := initialImage_plain mapping query
    have active : (if some true ∈ mapping.zipIdx.map fun entry => query entry.2 entry.1.2 then
        .trial else .regular) ≠ AgentState.staging := by
      split <;> exact nofun
    refine ⟨fun _ regular image => ?_, fun _ staging => absurd staging active,
      fun _ staging => absurd staging active, fun _ image => (plain image).1, fun image => ?_,
      fun _ _ opened => (nomatch opened), fun image accepted => ?_⟩
    · by_contra selected
      have inTrial := ((plain image).2.2 (by simpa [Run.booted] using selected)).2
      simp only [Run.booted, if_pos inTrial] at regular
      cases regular
    · refine ⟨fun selected => ((plain image).2.2 selected).1, fun accepted => ?_, (plain image).2.1⟩
      cases (plain image).1.symm.trans accepted
    · cases (plain image).1.symm.trans accepted
  · cases booted

/-- In a run of dependable calls, no image is in the update in the regular state, and while staging
those are that were started and not ended. The backend installs an update only with an image in it
and no open handle, and accepts it only when the client has accepted all images. -/
theorem agent_inOrder {mapping : List (Uuid × Nat)} {query : ComponentQuery}
    {agent : Agent (mapping.length + 1)}
    (booted : psaFwuMUpdateAgentInit mapping query = some agent) {run : Run (mapping.length + 1)}
    (reached : Reached Run.step (Run.booted agent) Dependable run) :
    run.InOrder ∧ ∀ event : Event, ∀ made ∈ (run.agent.call event.backend event.call).2.events,
      made.InOrder (run.approvedBy event.call) := by
  have consistent : run.Consistent True :=
    reached.invariant _ (Run.booted_consistent booted) fun _ _ _ consistent dependable =>
      consistent.step fun _ => dependable
  exact ⟨⟨fun regular image => ⟨consistent.unselected trivial regular image,
    consistent.unaccepted regular image⟩, consistent.tracks trivial⟩,
    fun _ => consistent.call_inOrder⟩

end

def twoComponents : List (Uuid × Nat) := [(17, 1), (18, 2)]

/-- A backend that fails at the calls with the given numbers. -/
def failingAt (numbers : List Nat) : Backend := fun number _ =>
  if number ∈ numbers then .other (-132) else .success

/-- An agent with two components, neither in its trial. -/
def twoComponentsAgent : Agent (twoComponents.length + 1) where
  images := initialImage twoComponents fun _ _ => some false
  state := .regular
  handles := fun _ => none

def twoComponentsRun (events : List Event) : Run (twoComponents.length + 1) :=
  events.foldl Run.step (.booted twoComponentsAgent)

/-- If the second component cannot be started and the first one cannot be cleaned, the first
image stays selected in the regular state. If the second image cannot be finished, the first one
stays selected although it is finished. If a session cannot be cancelled but is cleaned, the next
end of staging installs without an image. -/
theorem failedCalls_notInOrder :
    (let run := twoComponentsRun [⟨failingAt [1, 2], .beginStaging []⟩];
      run.state = .regular ∧ (run.images 0).selectedForStaging = true) ∧
    (let run := twoComponentsRun [⟨failingAt [], .beginStaging []⟩, ⟨failingAt [1], .endStaging⟩];
      run.state = .staging ∧ (run.images 0).selectedForStaging = true ∧
        run.started 0 = false) ∧
    (let run := twoComponentsRun [⟨failingAt [], .beginStaging []⟩,
        ⟨failingAt [0], .beginStaging []⟩];
      ∃ made ∈ (run.agent.call (failingAt []) .endStaging).2.events, made.call = .install ∧
        ∀ image, (made.agent.images image).selectedForStaging = false) := by
  decide +kernel

/-- An update of the second component: its end fails at first, it is installed and then accepted
in its trial. -/
def trialRun : List Event :=
  [⟨failingAt [], .beginStaging [18]⟩,
    ⟨failingAt [], .openImage 18 .write⟩,
    ⟨failingAt [], .writeStream 0 [7, 7]⟩, ⟨failingAt [], .commit 0 false⟩,
    ⟨fun _ _ => .other (-132), .endStaging⟩, ⟨failingAt [], .endStaging⟩]

theorem agent_inOrder_trialRun :
    (twoComponentsRun trialRun).agent.state = .trial ∧ (twoComponentsRun trialRun).InOrder ∧
      ∀ made ∈ ((twoComponentsRun trialRun).agent.call (failingAt []) (.accept 18)).2.events,
        made.InOrder ((twoComponentsRun trialRun).approvedBy (.accept 18)) := by
  have admitted : Admitted Run.step Dependable (.booted twoComponentsAgent) trialRun :=
    ⟨⟨⟨0, rfl⟩, fun _ _ => rfl, nofun⟩, trivial, trivial, trivial, .inr fun _ _ => nofun,
      .inl fun _ _ => rfl, trivial⟩
  have inOrder := @agent_inOrder twoComponents (fun _ _ => some false) twoComponentsAgent rfl
    (twoComponentsRun trialRun) (Reached.start.run admitted)
  exact ⟨by decide +kernel, inOrder.1, inOrder.2 ⟨failingAt [], .accept 18⟩⟩

/-- In every run, whatever the backend answers, images are open for writing only while staging and
for reading only if they can be read. Images in the update can be written, and those accepted are
in the update and were accepted by the client. -/
theorem agent_handlesFit {mapping : List (Uuid × Nat)} {query : ComponentQuery}
    {agent : Agent (mapping.length + 1)}
    (booted : psaFwuMUpdateAgentInit mapping query = some agent) {run : Run (mapping.length + 1)}
    (reached : Reached Run.step (Run.booted agent) (fun _ _ => True) run) :
    run.agent.Fits ∧ run.agent.Proper ∧
      ∀ image, (run.images image).accepted = true → run.approved image = true := by
  have consistent : run.Consistent False :=
    reached.invariant _ (Run.booted_consistent booted) fun _ _ _ consistent _ =>
      consistent.step nofun
  exact ⟨consistent.fits, consistent.proper, consistent.approved⟩

/-- The second image is open for writing. -/
theorem agent_handlesFit_opened : (twoComponentsRun (trialRun.take 2)).agent.Fits ∧
    (twoComponentsRun (trialRun.take 2)).agent.handles ⟨0, by decide⟩ = some ⟨0, .write, 1⟩ :=
  ⟨(@agent_handlesFit twoComponents (fun _ _ => some false) _ rfl _
    (reached_foldl _ (fun _ _ _ => trivial) .start)).1, by decide +kernel⟩

end PsaFwuM

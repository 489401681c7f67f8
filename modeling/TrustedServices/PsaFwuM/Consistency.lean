import TrustedServices.PsaFwuM.Operations

/- The invariant of the agent's runs, and that every call keeps it. -/
namespace PsaFwuM

open Lib Fwu Function

variable {count : Nat} {run : Run count} {event : Event} {agent : Agent count} {sound : Prop}

/-- Images are open for writing only while staging, and for reading only if they can be read. -/
def Agent.Fits (agent : Agent count) : Prop :=
  ∀ index description, agent.handles index = some description →
    (description.opType = .write → agent.state = .staging) ∧
      (description.opType = .read → (agent.images description.image).readable = true)

theorem Agent.Worked.fits {before after : Agent count} (worked : before.Worked after)
    (fits : before.Fits) : after.Fits := by
  intro index description opened
  rw [worked.handles] at opened
  rw [worked.state, (worked.images _).readable]
  exact fits index description opened

theorem Agent.fits_closed (closed : agent.handles = fun _ => none) : agent.Fits := by
  intro index description opened
  rw [closed] at opened
  cases opened

/-- What holds in every run. If the calls are `sound`, the images are in order too, and while staging
one is in the update. -/
structure Run.Consistent (sound : Prop) (run : Run count) : Prop where
  unselected : sound → run.state = .regular → ∀ image,
    (run.images image).selectedForStaging = false
  tracks : sound → run.state = .staging → ∀ image,
    (run.images image).selectedForStaging = run.started image
  selects : sound → run.state = .staging → ∃ image,
    (run.images image).selectedForStaging = true
  unaccepted : run.state = .regular → ∀ image, (run.images image).accepted = false
  proper : run.agent.Proper
  fits : run.agent.Fits
  approved : ∀ image, (run.images image).accepted = true → run.approved image = true

variable {result : FwuStatus × Step count}

section

variable (consistent : run.Consistent sound)

include consistent

theorem Run.Consistent.fails (staging : run.state = .staging)
    (computed : run.agent.call event.backend event.call = result)
    (failure : result.1 ≠ .success) (approved : run.approvedBy event.call = run.approved)
    (works : (⟨freeHandles run.agent, []⟩ : Step count).Works result.2)
    (selects : sound → ∃ image, (result.2.agent.images image).selectedForStaging = true) :
    (run.step event).Consistent sound := by
  have active : result.2.agent.state ≠ .regular := by
    rw [works.agent.state, show (freeHandles run.agent).state = _ from staging]
    exact nofun
  unfold Run.step
  dsimp only
  rw [computed, if_neg fun fresh => failure fresh.2, if_neg fun fresh => failure fresh.2, approved]
  exact ⟨fun _ regular => absurd regular active,
    fun holds _ => works.tracks _ (consistent.tracks holds staging), fun holds _ => selects holds,
    fun regular => absurd regular active, works.agent.proper consistent.proper,
    works.agent.fits (Agent.fits_closed rfl),
    fun image accepted => consistent.approved image ((works.agent.images image).accepted accepted)⟩

section

variable (computed : run.agent.call event.backend event.call = result)
  (goesOn : event.call.begins = false ∨ result.1 ≠ .success)
  (approved : ∀ image, (run.images image).accepted = true → run.approvedBy event.call image = true)

include computed goesOn approved

theorem Run.Consistent.keeps (images : result.2.agent.images = run.images)
    (state : result.2.agent.state = run.state) (fits : result.2.agent.Fits)
    (neutral : sound → ∀ made ∈ result.2.events, made.image = none ∨ made.status ≠ .success ∨
      made.call.isStart = false ∧ made.call.isEnd = false) :
    (run.step event).Consistent sound := by
  have stale : ¬ (event.call.begins = true ∧ result.1 = .success) := by
    rintro ⟨begins, success⟩
    rcases goesOn with other | failure
    · rw [other] at begins
      cases begins
    · exact failure success
  unfold Run.step
  dsimp only
  rw [computed, if_neg stale, if_neg stale]
  refine ⟨?_, fun holds => ?_, ?_, ?_, ?_, fits, ?_⟩
  · rw [images, state]
    exact consistent.unselected
  · rw [images, state, outstandingAfter_neutral _ (neutral holds)]
    exact consistent.tracks holds
  · rw [images, state]
    exact consistent.selects
  · rw [images, state]
    exact consistent.unaccepted
  · unfold Agent.Proper
    rw [images]
    exact consistent.proper
  · rw [images]
    exact approved

theorem Run.Consistent.refused (agent : result.2.agent = run.agent)
    (neutral : sound → ∀ made ∈ result.2.events, made.image = none ∨ made.status ≠ .success ∨
      made.call.isStart = false ∧ made.call.isEnd = false) :
    (run.step event).Consistent sound := by
  apply consistent.keeps computed goesOn approved _ _ _ neutral
  · rw [agent]
  · rw [agent]
  · rw [agent]
    exact consistent.fits

end

end

theorem Run.step_leaves (state : AgentState)
    (computed : run.agent.call event.backend event.call = result)
    (other : event.call.begins = false) (left : state ≠ .staging)
    (agent : Agent count) (proper : agent.Proper)
    (reads : ∀ index description, agent.handles index = some description →
      description.opType = .read ∧ (agent.images description.image).readable = true)
    (approved : ∀ image, (agent.images image).accepted = true →
      run.approvedBy event.call image = true)
    (leaves : result.2.agent = setAgentState agent state) : (run.step event).Consistent sound := by
  have stale : ¬ (event.call.begins = true ∧ result.1 = .success) := by
    rw [other]
    exact fun fresh => nomatch fresh.1
  have idle : state = .regular → (setAgentState agent state).Idle := by
    rintro rfl
    exact setAgentState_idle agent
  unfold Run.step
  dsimp only
  rw [computed, if_neg stale, if_neg stale, leaves]
  refine ⟨fun _ regular image => (idle regular image).1, fun _ staging => absurd staging left,
    fun _ staging => absurd staging left, fun regular image => (idle regular image).2,
    setAgentState_proper proper state, ?_, ?_⟩
  · intro index description opened
    obtain ⟨read, readable⟩ := reads index description opened
    refine ⟨fun write => ?_, fun _ => ?_⟩
    · rw [read] at write
      cases write
    · show (if state = .regular then _ else _ : Image).readable = true
      split
      · exact readable
      · exact readable
  · intro image accepted
    apply approved
    by_cases active : state = .regular
    · rw [active] at accepted
      cases accepted
    · rw [← setAgentState_images active]
      exact accepted

theorem Run.step_starts {base : Step count} {updateGuid : List Uuid} {backend : Backend}
    (dependable : sound → Dependable run ⟨backend, .beginStaging updateGuid⟩)
    (regular : base.agent.state = .regular)
    (unselected : sound → ∀ image, (base.agent.images image).selectedForStaging = false)
    (unaccepted : ∀ image, (base.agent.images image).accepted = false) (proper : base.agent.Proper)
    (fits : base.agent.Fits) (quiet : outstandingAfter base.events Marks.none = Marks.none)
    (writable : ∀ image, (base.agent.images image).writable = (run.images image).writable)
    (starts : base.Starts backend (beginStaging backend ⟨run.agent, []⟩ updateGuid)) :
    (run.step ⟨backend, .beginStaging updateGuid⟩).Consistent sound := by
  have unapproved : ∀ {after : Step count}, base.Works after →
      ∀ image, (after.agent.images image).accepted = false := by
    intro after works image
    by_contra accepted
    have early := (works.agent.images image).accepted (by simpa using accepted)
    rw [unaccepted image] at early
    cases early
  unfold Run.step
  dsimp only [Agent.call]
  generalize beginStaging backend ⟨run.agent, []⟩ updateGuid = result at starts ⊢
  cases starts with
  | started after works selects =>
    refine ⟨nofun, fun holds _ image => ?_, fun holds _ => ?_, nofun, ?_, ?_, fun image accepted => ?_⟩
    · refine works.tracks Marks.none (fun image => ?_) image
      rw [quiet]
      exact unselected holds image
    · obtain ⟨image, can⟩ := (dependable holds).1
      exact selects ⟨image, (writable image).trans can⟩
    · exact setAgentState_proper (works.agent.proper proper) .staging
    · intro index description opened
      exact ⟨fun _ => rfl, (works.agent.fits fits index description opened).2⟩
    · cases (unapproved works image).symm.trans accepted
  | failed status after failure works reverts =>
    have active : after.agent.state ≠ .staging := by
      rw [works.agent.state, regular]
      exact nofun
    refine ⟨fun holds _ => reverts (dependable holds).2.1 proper,
      fun _ staging => absurd staging active, fun _ staging => absurd staging active,
      fun _ => unapproved works, works.agent.proper proper, works.agent.fits fits,
      fun image accepted => ?_⟩
    cases (unapproved works image).symm.trans accepted

variable {backend : Backend}

theorem Run.Consistent.beginStaging {updateGuid : List Uuid} (consistent : run.Consistent sound)
    (dependable : sound → Dependable run ⟨backend, .beginStaging updateGuid⟩) :
    (run.step ⟨backend, .beginStaging updateGuid⟩).Consistent sound := by
  cases state : run.state with
  | regular =>
    have begins : PsaFwuM.beginStaging backend ⟨run.agent, []⟩ updateGuid =
        startStaging backend ⟨run.agent, []⟩ updateGuid := by
      unfold PsaFwuM.beginStaging
      rw [state]
    exact @Run.step_starts _ run _ ⟨run.agent, []⟩ _ _ dependable state
      (fun holds => consistent.unselected holds state) (consistent.unaccepted state)
      consistent.proper consistent.fits rfl (fun _ => rfl)
      (begins ▸ startStaging_starts updateGuid)
  | trial =>
    have denied : PsaFwuM.beginStaging backend ⟨run.agent, []⟩ updateGuid =
        (.denied, ⟨run.agent, []⟩) := by
      unfold PsaFwuM.beginStaging
      rw [state]
    exact consistent.refused denied (.inr nofun) consistent.approved rfl fun _ => nofun
  | staging =>
    have cancels := @cancelStaging_cancels _ backend _ state
    have unfolded : PsaFwuM.beginStaging backend ⟨run.agent, []⟩ updateGuid =
        if (PsaFwuM.cancelStaging backend ⟨run.agent, []⟩).1 = .success then
          if (clean backend (PsaFwuM.cancelStaging backend ⟨run.agent, []⟩).2).1 = .success then
            startStaging backend (clean backend
              (PsaFwuM.cancelStaging backend ⟨run.agent, []⟩).2).2 updateGuid
          else clean backend (PsaFwuM.cancelStaging backend ⟨run.agent, []⟩).2
        else revert backend (PsaFwuM.cancelStaging backend ⟨run.agent, []⟩).2 := by
      rw [PsaFwuM.beginStaging]
      rw [state]
    generalize PsaFwuM.cancelStaging backend ⟨run.agent, []⟩ = cancelled at cancels unfolded
    cases cancels with
    | cancelled after works quiet =>
      rw [if_pos rfl] at unfolded
      refine @Run.step_starts _ run _ (after.setAgentState .regular) _ _ dependable rfl
        (fun _ _ => rfl) (fun _ => rfl)
        (setAgentState_proper (works.agent.proper consistent.proper) _)
        (Agent.fits_closed works.agent.handles) quiet
        (fun image => (works.agent.images image).writable) ?_
      rw [unfolded]
      split_ifs with failure
      · exact clean_works.andStarts (startStaging_starts updateGuid)
      · exact .failed _ _ failure clean_works fun cleans proper =>
          absurd (clean_reverts cleans proper).1 failure
    | failed status after failure works cause selects =>
      rw [if_neg failure] at unfolded
      refine consistent.fails state unfolded revert_fails rfl (works.trans revert_works)
        fun holds => ?_
      obtain ⟨number, component, refused⟩ := cause
      exact absurd ((dependable holds).2.2 state number component) refused

theorem Run.Consistent.cancelStaging (consistent : run.Consistent sound) :
    (run.step ⟨backend, .cancelStaging⟩).Consistent sound := by
  by_cases staging : run.state = .staging
  · have cancels := @cancelStaging_cancels _ backend _ staging
    generalize computed : PsaFwuM.cancelStaging backend ⟨run.agent, []⟩ = result at cancels
    cases cancels with
    | cancelled after works quiet =>
      refine run.step_leaves .regular computed rfl nofun after.agent
        (works.agent.proper consistent.proper) ?_ ?_ rfl
      · intro index description opened
        rw [works.agent.handles] at opened
        cases opened
      · exact fun image accepted =>
          consistent.approved image ((works.agent.images image).accepted accepted)
    | failed status after failure works cause selects =>
      exact consistent.fails staging computed failure rfl works fun _ => selects
  · exact consistent.refused (if_neg staging) (.inl rfl) consistent.approved rfl fun _ => nofun

variable {index : HandleIndex} {description : Handle count} {accepted : Bool} {imageTypeUuid : Uuid}

theorem Agent.openHandles_false (closed : agent.openHandles = false) :
    agent.handles = fun _ => none := by
  funext index
  simp only [Agent.openHandles, List.any_eq_false] at closed
  simpa using closed index (List.mem_finRange index)

theorem Run.Consistent.endStaging (consistent : run.Consistent sound)
    (dependable : sound → Dependable run ⟨backend, .endStaging⟩) :
    (run.step ⟨backend, .endStaging⟩).Consistent sound := by
  by_cases staging : run.state = .staging
  · by_cases opened : run.agent.openHandles = true
    · have busy : PsaFwuM.endStaging backend ⟨run.agent, []⟩ = (.busy, ⟨run.agent, []⟩) := by
        rw [PsaFwuM.endStaging, if_pos staging, if_pos opened]
      exact consistent.refused busy (.inl rfl) consistent.approved rfl fun _ => nofun
    · have closed : run.agent.openHandles = false := by simpa using opened
      have ends := @endStaging_ends _ backend _ staging closed
      generalize computed : PsaFwuM.endStaging backend ⟨run.agent, []⟩ = result at ends
      cases ends with
      | failed status events cause calls =>
        refine consistent.refused computed (.inl rfl) consistent.approved rfl
          fun holds made member => ?_
        rcases dependable holds with all | unfinished
        · obtain ⟨number, call, refused⟩ := cause
          exact absurd (all number call) refused
        · obtain ⟨_, ⟨number, answer⟩, ⟨component, call⟩ | ⟨absent, _⟩⟩ := calls made member
          · rw [answer, call]
            exact .inr (.inl (unfinished number component))
          · exact .inl absent
      | ended state events left calls =>
        refine run.step_leaves state computed rfl left run.agent consistent.proper ?_
          consistent.approved rfl
        intro index description opened
        rw [Agent.openHandles_false closed] at opened
        cases opened
  · exact consistent.refused (if_neg staging) (.inl rfl) consistent.approved rfl fun _ => nofun

theorem Agent.Fits.setHandle (fits : agent.Fits) (index : HandleIndex)
    {handle : Option (Handle count)} (fitting : ∀ description, handle = some description →
      (description.opType = .write → agent.state = .staging) ∧
        (description.opType = .read → (agent.images description.image).readable = true)) :
    (agent.setHandle index handle).Fits := by
  intro here description opened
  change update agent.handles index handle here = some description at opened
  by_cases same : here = index
  · rw [same, update_self] at opened
    exact fitting description opened
  · rw [update_of_ne same] at opened
    exact fits here description opened

theorem Run.Consistent.openImage {uuid : Uuid} {opType : OpenOpType}
    (consistent : run.Consistent sound) :
    (run.step ⟨backend, .openImage uuid opType⟩).Consistent sound := by
  have opens : (PsaFwuM.openImage run.agent uuid opType).2.2.images = run.images ∧
      (PsaFwuM.openImage run.agent uuid opType).2.2.state = run.state ∧
        (PsaFwuM.openImage run.agent uuid opType).2.2.Fits := by
    unfold PsaFwuM.openImage
    split_ifs with allowed
    · exact ⟨rfl, rfl, consistent.fits⟩
    · split
      · exact ⟨rfl, rfl, consistent.fits⟩
      · split_ifs with _ supported
        · exact ⟨rfl, rfl, consistent.fits⟩
        · exact ⟨rfl, rfl, consistent.fits⟩
        · split
          · exact ⟨rfl, rfl, consistent.fits⟩
          · refine ⟨rfl, rfl, consistent.fits.setHandle _ fun description opened => ?_⟩
            cases opened
            refine ⟨fun write => ?_, fun read => ?_⟩
            · by_contra other
              exact allowed ⟨write, other⟩
            · by_contra unreadable
              exact supported (.inl ⟨read, by simpa using unreadable⟩)
  exact consistent.keeps rfl (.inl rfl) consistent.approved opens.1 opens.2.1 opens.2.2 fun _ => nofun

variable {handle : Nat}

theorem getHandle_some (found : getHandle agent handle = some (index, description)) :
    agent.handles index = some description := by
  unfold getHandle at found
  split_ifs at found ⊢
  obtain ⟨_, opened, same⟩ := Option.map_eq_some_iff.mp found
  cases same
  exact opened

theorem Run.Consistent.writeStream {data : Bytes}
    (consistent : run.Consistent sound) :
    (run.step ⟨backend, .writeStream handle data⟩).Consistent sound := by
  have writes : (PsaFwuM.writeStream backend ⟨run.agent, []⟩ handle data).2.agent.images =
        run.images ∧
      (PsaFwuM.writeStream backend ⟨run.agent, []⟩ handle data).2.agent.state =
        run.state ∧
      (PsaFwuM.writeStream backend ⟨run.agent, []⟩ handle data).2.agent.Fits ∧
      ∀ made ∈ (PsaFwuM.writeStream backend ⟨run.agent, []⟩ handle data).2.events,
        made.call.isStart = false ∧ made.call.isEnd = false := by
    have still := consistent.fits
    unfold PsaFwuM.writeStream
    split
    · split
      · exact ⟨rfl, rfl, still, nofun⟩
      · rename_i index description found
        split
        · split
          · exact ⟨rfl, rfl, still, nofun⟩
          · dsimp only
            split
            · have written : ∀ made ∈ [(⟨.write (run.images description.image).component
                  description.currentOffset data, some description.image,
                  backend 0 (.write (run.images description.image).component
                    description.currentOffset data), run.agent⟩ : BackendEvent count)],
                  made.call.isStart = false ∧ made.call.isEnd = false := by
                intro made member
                rw [List.mem_singleton.mp member]
                exact ⟨rfl, rfl⟩
              split
              · refine ⟨rfl, rfl, still.setHandle _ fun later opened => ?_, written⟩
                cases opened
                exact still index description (getHandle_some found)
              · exact ⟨rfl, rfl, still, written⟩
            · exact ⟨rfl, rfl, still, nofun⟩
        · exact ⟨rfl, rfl, still, nofun⟩
    · exact ⟨rfl, rfl, still, nofun⟩
  exact consistent.keeps rfl (.inl rfl) consistent.approved writes.1 writes.2.1 writes.2.2.1
    fun _ made member => .inr (.inr (writes.2.2.2 made member))

def Agent.judge (agent : Agent count) (image : Fin count) (accepted : Bool) : Agent count :=
  agent.modifyImage image fun image => { image with accepted := accepted }

theorem Agent.judge_images (agent : Agent count) (image here : Fin count) (accepted : Bool) :
    (agent.judge image accepted).images here =
      { agent.images here with
        accepted := update (fun here => (agent.images here).accepted) image accepted here } := by
  show update agent.images image _ here = _
  by_cases same : here = image
  · rw [same, update_self, update_self]
  · rw [update_of_ne same, update_of_ne same]

theorem Agent.judge_proper {agent : Agent count} {image : Fin count} {accepted : Bool}
    (proper : agent.Proper) (selected : (agent.images image).selectedForStaging = true) :
    (agent.judge image accepted).Proper := by
  intro here
  rw [Agent.judge_images]
  refine ⟨(proper here).writable, ?_, (proper here).exclusive⟩
  by_cases same : here = image
  · rw [same]
    exact fun _ => selected
  · rw [update_of_ne same]
    exact (proper here).accepted

variable {image : Fin count}

theorem Agent.judge_fits (fits : agent.Fits) : (agent.judge image accepted).Fits := by
  intro index description opened
  rw [Agent.judge_images]
  exact fits index description opened

theorem Agent.judge_approved {approved : Marks count}
    (before : ∀ image, (agent.images image).accepted = true → approved image = true)
    (here : Fin count) (late : ((agent.judge image accepted).images here).accepted = true) :
    update approved image accepted here = true := by
  rw [Agent.judge_images] at late
  by_cases same : here = image
  · rw [same, update_self] at late ⊢
    exact late
  · rw [update_of_ne same] at late ⊢
    exact before here late

section

variable (consistent : run.Consistent sound)

include consistent

/-- A handle of an image in the update is open only while staging. -/
theorem Run.Consistent.stagingOf (opened : run.handles index = some description)
    (selected : (run.images description.image).selectedForStaging = true) :
    run.state = .staging := by
  obtain ⟨write, read⟩ := consistent.fits index description opened
  cases opType : description.opType with
  | write => exact write opType
  | read =>
    have readOnly := (consistent.proper _).exclusive (read opType)
    rw [(consistent.proper _).writable selected] at readOnly
    cases readOnly

theorem Run.Consistent.commit : (run.step ⟨backend, .commit handle accepted⟩).Consistent sound := by
  cases found : getHandle run.agent handle with
  | none =>
    have unknown : run.agent.call backend (.commit handle accepted) =
        (.unknown, ⟨run.agent, []⟩) := by
      simp only [Agent.call, PsaFwuM.commit, found]
    refine consistent.refused unknown (.inl rfl) ?_ rfl fun _ => nofun
    simp only [Run.approvedBy, found]
    exact consistent.approved
  | some entry =>
    obtain ⟨index, description⟩ := entry
    have opened := getHandle_some found
    by_cases selected : (run.images description.image).selectedForStaging = true
    · have staging := consistent.stagingOf opened selected
      have judged : run.step ⟨backend, .commit handle accepted⟩ =
          ⟨(run.agent.judge description.image accepted).setHandle index none, run.started,
            update run.approved description.image accepted⟩ := by
        simp only [Run.step, Agent.call, AgentCall.begins, PsaFwuM.commit, Run.approvedBy,
          found, if_pos staging, if_pos selected]
        rfl
      rw [judged]
      have same : ∀ image, ((run.agent.judge description.image accepted).images
          image).selectedForStaging = (run.images image).selectedForStaging := by
        intro image
        rw [Agent.judge_images]
      refine ⟨fun _ regular => ?_, fun holds _ image => ?_, fun holds _ => ?_, fun regular => ?_,
        @Agent.judge_proper _ _ _ accepted consistent.proper selected,
        (Agent.judge_fits consistent.fits).setHandle index nofun,
        Agent.judge_approved consistent.approved⟩
      · cases staging.symm.trans regular
      · exact (same image).trans (consistent.tracks holds staging image)
      · exact ⟨description.image, (same _).trans selected⟩
      · cases staging.symm.trans regular
    · have unjudged : run.agent.call backend (.commit handle accepted) =
          (.success, ⟨run.agent.setHandle index none, []⟩) := by
        simp only [Agent.call, PsaFwuM.commit, found, if_neg selected]
      refine consistent.keeps unjudged (.inl rfl) ?_ rfl rfl
        (consistent.fits.setHandle index nofun) fun _ => nofun
      intro image before
      have apart : image ≠ description.image := by
        rintro rfl
        exact selected ((consistent.proper _).accepted before)
      simp only [Run.approvedBy, found]
      split
      · rw [update_of_ne apart]
        exact consistent.approved image before
      · exact consistent.approved image before

theorem Run.Consistent.reads (left : run.state ≠ .staging)
    (index : HandleIndex) (description : Handle count)
    (opened : run.handles index = some description) :
    description.opType = .read ∧ (run.images description.image).readable = true := by
  obtain ⟨write, read⟩ := consistent.fits index description opened
  cases opType : description.opType with
  | write => exact absurd (write opType) left
  | read => exact ⟨rfl, read opType⟩

theorem Run.Consistent.selectPrevious : (run.step ⟨backend, .selectPrevious⟩).Consistent sound := by
  by_cases trial : run.state = .trial
  · have left : run.state ≠ .staging := by
      rw [trial]
      exact nofun
    by_cases success : backend 0 .reject = .success
    · have selects : PsaFwuM.selectPrevious backend ⟨run.agent, []⟩ =
          (.success, ((⟨run.agent, []⟩ : Step count).record none .reject
            (backend 0 .reject)).setAgentState .regular) := by
        rw [PsaFwuM.selectPrevious, if_pos trial]
        exact if_pos success
      exact run.step_leaves .regular selects rfl nofun run.agent consistent.proper
        (consistent.reads left) consistent.approved rfl
    · have fails : PsaFwuM.selectPrevious backend ⟨run.agent, []⟩ =
          (psaStatusToFwuStatus (backend 0 .reject),
            (⟨run.agent, []⟩ : Step count).record none .reject (backend 0 .reject)) := by
        rw [PsaFwuM.selectPrevious, if_pos trial]
        exact if_neg success
      refine consistent.refused fails (.inl rfl) consistent.approved rfl fun _ made member => ?_
      rw [List.mem_singleton.mp member]
      exact .inl rfl
  · exact consistent.refused (if_neg trial) (.inl rfl) consistent.approved rfl fun _ => nofun

end

theorem Run.approvedBy_accept (approved : run.approved image = true) :
    run.approvedBy (.accept imageTypeUuid) image = true := by
  cases found : findImage run.agent imageTypeUuid with
  | none =>
    simp only [Run.approvedBy, found]
    exact approved
  | some accepted =>
    simp only [Run.approvedBy, found]
    split
    · by_cases same : image = accepted
      · rw [same, update_self]
      · rw [update_of_ne same]
        exact approved
    · exact approved

theorem accept_eq
    (trial : agent.state = .trial) (found : findImage agent imageTypeUuid = some image)
    (selected : (agent.images image).selectedForStaging = true) :
    PsaFwuM.accept backend ⟨agent, []⟩ imageTypeUuid =
      if (agent.judge image true).allAccepted then acceptUpdate backend ⟨agent.judge image true, []⟩
      else (.success, ⟨agent.judge image true, []⟩) := by
  simp only [PsaFwuM.accept, if_pos trial, found, if_pos selected]
  rfl

theorem Run.Consistent.accept (consistent : run.Consistent sound) :
    (run.step ⟨backend, .accept imageTypeUuid⟩).Consistent sound := by
  have stays : ∀ image, (run.images image).accepted = true →
      run.approvedBy (.accept imageTypeUuid) image = true :=
    fun image before => run.approvedBy_accept (consistent.approved image before)
  by_cases trial : run.state = .trial
  · cases found : findImage run.agent imageTypeUuid with
    | none =>
      have unknown : PsaFwuM.accept backend ⟨run.agent, []⟩ imageTypeUuid =
          (.unknown, ⟨run.agent, []⟩) := by
        simp only [PsaFwuM.accept, if_pos trial, found]
      exact consistent.refused unknown (.inl rfl) stays rfl fun _ => nofun
    | some image =>
      by_cases selected : (run.images image).selectedForStaging = true
      · have approvedBy : run.approvedBy (.accept imageTypeUuid) =
            update run.approved image true := by
          simp only [Run.approvedBy, found, if_pos trial]
        have judged : ∀ here, ((run.agent.judge image true).images here).accepted = true →
            run.approvedBy (.accept imageTypeUuid) here = true := by
          rw [approvedBy]
          exact Agent.judge_approved consistent.approved
        have proper := @Agent.judge_proper _ _ _ true consistent.proper selected
        have inTrial : ∀ run' : Run count, run'.agent = run.agent.judge image true →
            run'.approved = run.approvedBy (.accept imageTypeUuid) → run'.Consistent sound := by
          rintro ⟨_, started, _⟩ rfl rfl
          refine ⟨fun _ other => ?_, fun _ other => ?_, fun _ other => ?_, fun other => ?_, proper,
            Agent.judge_fits consistent.fits, judged⟩ <;>
          cases trial.symm.trans other
        have outcome : PsaFwuM.accept backend ⟨run.agent, []⟩ imageTypeUuid =
              (.success, ⟨run.agent.judge image true, []⟩) ∨
            Ends backend (run.agent.judge image true)
              (PsaFwuM.accept backend ⟨run.agent, []⟩ imageTypeUuid) := by
          rw [accept_eq trial found selected]
          split_ifs with allAccepted
          · exact .inr (acceptUpdate_ends nofun allAccepted)
          · exact .inl rfl
        generalize computed : PsaFwuM.accept backend ⟨run.agent, []⟩ imageTypeUuid = result
          at outcome
        have after : (run.step ⟨backend, .accept imageTypeUuid⟩).agent = result.2.agent :=
          congrArg (fun result => result.2.agent) computed
        rcases outcome with rfl | ends
        · exact inTrial _ after rfl
        · cases ends with
          | failed status events cause calls => exact inTrial _ after rfl
          | ended state events left calls =>
            refine run.step_leaves state computed rfl left (run.agent.judge image true) proper ?_
              judged rfl
            intro index description opened
            rw [Agent.judge_images]
            exact consistent.reads (by rw [trial]; exact nofun) index description opened
      · have denied : PsaFwuM.accept backend ⟨run.agent, []⟩ imageTypeUuid =
            (.denied, ⟨run.agent, []⟩) := by
          simp only [PsaFwuM.accept, if_pos trial, found, if_neg selected]
        exact consistent.refused denied (.inl rfl) stays rfl fun _ => nofun
  · exact consistent.refused (if_neg trial) (.inl rfl) stays rfl fun _ => nofun

end PsaFwuM

import TrustedServices.PsaFwuM.Agent

/- What the loops over the images do. -/
namespace PsaFwuM

open Lib Fwu Function

section

variable {count : Nat}

abbrev Marks (count : Nat) := Fin count → Bool

def Marks.none : Marks count := fun _ => false

def BackendCall.isStart : BackendCall → Bool
  | .start _ => true
  | _ => false

def BackendCall.isEnd : BackendCall → Bool
  | .finish _ | .cancel _ | .clean _ => true
  | _ => false

/-- Keep account of the images that were started and whose update has not ended since. -/
def BackendEvent.note (marks : Marks count) (event : BackendEvent count) : Marks count :=
  match event.image with
  | none => marks
  | some image =>
    if event.status = .success ∧ event.call.isStart then update marks image true
    else if event.status = .success ∧ event.call.isEnd then update marks image false
    else marks

def outstandingAfter (events : List (BackendEvent count)) (marks : Marks count) : Marks count :=
  events.foldl BackendEvent.note marks

def Step.record (step : Step count) (image : Option (Fin count)) (call : BackendCall)
    (status : PsaStatus) : Step count :=
  { step with events := step.events ++ [⟨call, image, status, step.agent⟩] }

theorem Step.invoke_eq (backend : Backend) (step : Step count) (image : Option (Fin count))
    (call : BackendCall) :
    step.invoke backend image call =
      (backend step.events.length call,
        step.record image call (backend step.events.length call)) := rfl

theorem outstandingAfter_record (step : Step count) (image : Option (Fin count))
    (call : BackendCall) (status : PsaStatus) (marks : Marks count) :
    outstandingAfter (step.record image call status).events marks =
      BackendEvent.note (outstandingAfter step.events marks) ⟨call, image, status, step.agent⟩ := by
  rw [outstandingAfter, Step.record, List.foldl_append]
  rfl

theorem BackendEvent.note_failed {marks : Marks count} {event : BackendEvent count}
    (failed : event.status ≠ .success) : event.note marks = marks := by
  unfold BackendEvent.note
  split
  · rfl
  · rw [if_neg fun both => failed both.1, if_neg fun both => failed both.1]

end

section

variable {count : Nat} {backend : Backend} {concerns : Image → Bool} {call : Nat → BackendCall}
  {change : Image → Image}

/-- What every call and every change keeps, a loop keeps. -/
theorem forImages_invariant (holds : Step count → Prop) (images : List (Fin count))
    (step : Step count) (initially : holds step)
    (fails : ∀ step image number, holds step →
      backend number (call (step.images image).component) ≠ .success →
        holds (step.record (some image) (call (step.images image).component)
          (backend number (call (step.images image).component))))
    (succeeds : ∀ step image number, holds step → concerns (step.images image) = true →
      backend number (call (step.images image).component) = .success →
        holds ((step.record (some image) (call (step.images image).component)
          .success).modifyImage image change)) :
    holds (forImages backend concerns call change images step).2 := by
  induction images generalizing step with
  | nil => exact initially
  | cons image rest ih =>
    unfold forImages
    split_ifs with concerned
    · rw [Step.invoke_eq]
      dsimp only
      split_ifs with success
      · rw [success]
        exact ih _ (succeeds step image _ initially concerned success)
      · exact fails step image _ initially success
    · exact ih step initially

variable {images : List (Fin count)} {step : Step count}

/-- A loop that fails ends at an image that it concerns. -/
theorem forImages_failed
    (failed : (forImages backend concerns call change images step).1 ≠ .success) :
    ∃ image number component, backend number (call component) ≠ .success ∧
      concerns ((forImages backend concerns call change images step).2.agent.images image) =
        true := by
  induction images generalizing step with
  | nil => exact absurd rfl failed
  | cons image rest ih =>
    unfold forImages at failed ⊢
    dsimp only at failed ⊢
    split_ifs at failed ⊢ with concerned success
    · exact ih failed
    · exact ⟨image, _, _, failed, concerned⟩
    · exact ih failed

/-- A loop that succeeds has changed all the images that it concerns. -/
theorem forImages_marks {mark : Bool}
    (success : (forImages backend concerns call change images step).1 = .success)
    (changes : ∀ image, (change image).selectedForStaging = mark)
    {image : Fin count} (marked : (step.images image).selectedForStaging = mark ∨
      image ∈ images ∧ concerns (step.images image) = true) :
    ((forImages backend concerns call change images step).2.agent.images
      image).selectedForStaging = mark := by
  induction images generalizing step with
  | nil => exact marked.resolve_right fun member => nomatch member.1
  | cons first rest ih =>
    unfold forImages at success ⊢
    dsimp only at success ⊢
    split_ifs at success ⊢ with concerned called
    · apply ih success
      show (update step.images first _ image).selectedForStaging = mark ∨
        _ ∧ concerns (update step.images first _ image) = true
      by_cases same : image = first
      · exact .inl (by rw [same, update_self, changes])
      · rw [update_of_ne same]
        exact marked.imp_right fun member => ⟨List.mem_of_ne_of_mem same member.1, member.2⟩
    · exact absurd success called
    · refine ih success (marked.imp_right fun member => ⟨?_, member.2⟩)
      refine List.mem_of_ne_of_mem ?_ member.1
      rintro rfl
      exact concerned member.2

end

section

variable {count : Nat}

/-- An image in an update can be written, an accepted image is in the update, and no image can be
both read and written. -/
structure Image.Proper (image : Image) : Prop where
  writable : image.selectedForStaging = true → image.writable = true
  accepted : image.accepted = true → image.selectedForStaging = true
  exclusive : image.readable = true → image.writable = false

def Agent.Proper (agent : Agent count) : Prop := ∀ image, (agent.images image).Proper

/-- What the loops leave of an image: its functions. They accept no image. -/
structure Image.Worked (before after : Image) : Prop where
  readable : after.readable = before.readable
  writable : after.writable = before.writable
  accepted : after.accepted = true → before.accepted = true
  proper : before.Proper → after.Proper

theorem Image.worked_released (image : Image) : image.Worked image.released :=
  ⟨rfl, rfl, nofun, fun proper => ⟨nofun, nofun, proper.exclusive⟩⟩

theorem Image.worked_selected {image : Image} (writable : image.writable = true) :
    image.Worked image.selected :=
  ⟨rfl, rfl, id, fun proper => ⟨fun _ => writable, fun _ => rfl, proper.exclusive⟩⟩

/-- What the loops leave of an agent: the state and the handles. -/
structure Agent.Worked (before after : Agent count) : Prop where
  state : after.state = before.state
  handles : after.handles = before.handles
  images : ∀ image, (before.images image).Worked (after.images image)

namespace Agent.Worked

theorem refl (agent : Agent count) : agent.Worked agent := ⟨rfl, rfl, fun _ => ⟨rfl, rfl, id, id⟩⟩

variable {first second third : Agent count}

theorem trans (start : first.Worked second) (rest : second.Worked third) : first.Worked third where
  state := rest.state.trans start.state
  handles := rest.handles.trans start.handles
  images image :=
    { readable := (rest.images image).readable.trans (start.images image).readable
      writable := (rest.images image).writable.trans (start.images image).writable
      accepted late := (start.images image).accepted ((rest.images image).accepted late)
      proper before := (rest.images image).proper ((start.images image).proper before) }

theorem proper (worked : first.Worked second) (before : first.Proper) : second.Proper :=
  fun image => (worked.images image).proper (before image)

theorem modifyImage {agent : Agent count} {image : Fin count} {change : Image → Image}
    (worked : (agent.images image).Worked (change (agent.images image))) :
    agent.Worked (agent.modifyImage image change) :=
  ⟨rfl, rfl, (forall_update_iff agent.images fun here => (agent.images here).Worked).mpr
    ⟨worked, fun here _ => ((refl agent).images here)⟩⟩

end Agent.Worked

end

section

variable {count : Nat} {backend : Backend} {marks : Marks count} {step : Step count}
  {concerns : Image → Bool} {call : Nat → BackendCall} {images : List (Fin count)}

/-- The selected images are those that the calls since `marks` account for. -/
def Step.Tracks (marks : Marks count) (step : Step count) : Prop :=
  ∀ image, (step.images image).selectedForStaging = outstandingAfter step.events marks image

theorem BackendEvent.note_neutral {event : BackendEvent count}
    (neutral : event.image = none ∨ event.status ≠ .success ∨
      event.call.isStart = false ∧ event.call.isEnd = false) : event.note marks = marks := by
  rcases neutral with absent | failed | other
  · rw [BackendEvent.note, absent]
  · exact BackendEvent.note_failed failed
  · unfold BackendEvent.note
    split
    · rfl
    · rw [if_neg (by simp [other.1]), if_neg (by simp [other.2])]

theorem outstandingAfter_neutral (events : List (BackendEvent count))
    (neutral : ∀ event ∈ events, event.image = none ∨ event.status ≠ .success ∨
      event.call.isStart = false ∧ event.call.isEnd = false) :
    outstandingAfter events marks = marks := by
  induction events with
  | nil => rfl
  | cons event rest ih =>
    obtain ⟨first, later⟩ := List.forall_mem_cons.mp neutral
    rw [outstandingAfter, List.foldl_cons, BackendEvent.note_neutral first]
    exact ih later

theorem Step.Tracks.record {image : Option (Fin count)} {made : BackendCall} {status : PsaStatus}
    (tracks : step.Tracks marks)
    (neutral : image = none ∨ status ≠ .success ∨ made.isStart = false ∧ made.isEnd = false) :
    (step.record image made status).Tracks marks := by
  intro here
  rw [outstandingAfter_record, BackendEvent.note_neutral neutral]
  exact tracks here

variable {made : BackendCall} {image : Fin count}

theorem Step.Tracks.mark {change : Image → Image} {mark : Bool} (tracks : step.Tracks marks)
    (changes : ∀ image, (change image).selectedForStaging = mark)
    (noted : ∀ before, BackendEvent.note before ⟨made, some image, .success, step.agent⟩ =
      update before image mark) :
    ((step.record (some image) made .success).modifyImage image change).Tracks marks := by
  intro here
  show (update step.images image _ here).selectedForStaging =
    outstandingAfter (step.record (some image) made .success).events marks here
  rw [outstandingAfter_record, noted]
  by_cases same : here = image
  · rw [same, update_self, update_self, changes]
  · rw [update_of_ne same, update_of_ne same]
    exact tracks here

theorem BackendEvent.note_end {agent : Agent count}
    (ends : made.isStart = false ∧ made.isEnd = true) (before : Marks count) :
    BackendEvent.note before ⟨made, some image, .success, agent⟩ = update before image false := by
  simp [BackendEvent.note, ends.1, ends.2]

/-- Ending updates starts none. -/
theorem forImages_none (ends : ∀ component,
      (call component).isStart = false ∧ (call component).isEnd = true)
    {change : Image → Image} (none : outstandingAfter step.events Marks.none = Marks.none) :
    outstandingAfter (forImages backend concerns call change images step).2.events Marks.none =
      Marks.none := by
  apply forImages_invariant
    (fun step => outstandingAfter step.events Marks.none = Marks.none) images step none
  · intro step image number none failed
    rw [outstandingAfter_record, BackendEvent.note_failed failed]
    exact none
  · intro step image number none _ _
    show outstandingAfter (step.record _ _ _).events Marks.none = Marks.none
    rw [outstandingAfter_record, none, BackendEvent.note_end (ends _)]
    exact update_eq_self image _

end

section

variable {count : Nat} {backend : Backend} {before step later : Step count}
  {concerns : Image → Bool} {images : List (Fin count)}

/-- What a part of an operation does that starts or ends images: the account of the images goes
on, and nothing is installed or accepted. -/
structure Step.Works (before after : Step count) : Prop where
  agent : before.agent.Worked after.agent
  tracks : ∀ marks, before.Tracks marks → after.Tracks marks
  calls : ∀ made ∈ after.events, made ∈ before.events ∨
    made.call ≠ .install ∧ made.call ≠ .accept

namespace Step.Works

theorem refl (step : Step count) : step.Works step :=
  ⟨.refl _, fun _ tracks => tracks, fun _ member => .inl member⟩

theorem trans (start : before.Works step) (rest : step.Works later) : before.Works later where
  agent := start.agent.trans rest.agent
  tracks marks tracks := rest.tracks marks (start.tracks marks tracks)
  calls made member := (rest.calls made member).elim (start.calls made) .inr

variable {made : BackendCall}

theorem failed {image : Option (Fin count)} {status : PsaStatus}
    (failure : status ≠ .success) (other : made ≠ .install ∧ made ≠ .accept) :
    step.Works (step.record image made status) where
  agent := .refl _
  tracks _ tracks := tracks.record (.inr (.inl failure))
  calls event member := (List.mem_append.mp member).imp_right fun last => by
    rw [List.mem_singleton.mp last]
    exact other

variable {image : Fin count}

theorem marked {change : Image → Image} {mark : Bool} (other : made ≠ .install ∧ made ≠ .accept)
    (worked : (step.images image).Worked (change (step.images image)))
    (changes : ∀ image, (change image).selectedForStaging = mark)
    (noted : ∀ before, BackendEvent.note before ⟨made, some image, .success, step.agent⟩ =
      update before image mark) :
    step.Works ((step.record (some image) made .success).modifyImage image change) where
  agent := .modifyImage worked
  tracks _ tracks := tracks.mark changes noted
  calls event member := (List.mem_append.mp member).imp_right fun last => by
    rw [List.mem_singleton.mp last]
    exact other

theorem starts (component : Nat) (writable : (step.images image).writable = true) :
    step.Works ((step.record (some image) (.start component) .success).modifyImage image
      Image.selected) :=
  marked ⟨nofun, nofun⟩ (Image.worked_selected writable) (fun _ => rfl) fun _ => by
    simp [BackendEvent.note, BackendCall.isStart]

end Step.Works

theorem forImages_works_end {call : Nat → BackendCall}
    (ends : ∀ component, (call component).isStart = false ∧ (call component).isEnd = true) :
    step.Works (forImages backend concerns call Image.released images step).2 := by
  have other : ∀ component, call component ≠ .install ∧ call component ≠ .accept := by
    intro component
    constructor <;>
    · intro same
      have ends := (ends component).2
      rw [same] at ends
      cases ends
  apply forImages_invariant step.Works images step (.refl step)
  · exact fun later image number works failure => works.trans (.failed failure (other _))
  · exact fun later image number works _ _ => works.trans
      (.marked (other _) (Image.worked_released _) (fun _ => rfl) (BackendEvent.note_end (ends _)))

theorem forImages_works_start :
    step.Works (forImages backend Image.writable .start Image.selected images step).2 := by
  apply forImages_invariant step.Works images step (.refl step)
  · exact fun later image number works failure =>
      works.trans (.failed failure ⟨nofun, nofun⟩)
  · exact fun later image number works writable _ => works.trans (.starts _ writable)

/-- A loop without a change makes calls only. -/
theorem forImages_id {call : Nat → BackendCall} :
    (forImages backend concerns call id images step).2.agent = step.agent ∧
      ∀ made ∈ (forImages backend concerns call id images step).2.events, made ∈ step.events ∨
        made.agent = step.agent ∧ ∃ number component, made.call = call component ∧
          made.status = backend number made.call := by
  apply forImages_invariant (fun later : Step count => later.agent = step.agent ∧
      ∀ made ∈ later.events, made ∈ step.events ∨
        made.agent = step.agent ∧ ∃ number component, made.call = call component ∧
          made.status = backend number made.call)
    images step ⟨rfl, fun _ member => .inl member⟩
  · rintro later image number ⟨same, calls⟩ _
    refine ⟨same, fun made member => ?_⟩
    rcases List.mem_append.mp member with early | last
    · exact calls made early
    · rw [List.mem_singleton.mp last]
      exact .inr ⟨same, number, _, rfl, rfl⟩
  · rintro later image number ⟨same, calls⟩ _ success
    refine ⟨?_, fun made member => ?_⟩
    · rw [← same]
      show later.agent.modifyImage image id = later.agent
      simp [Agent.modifyImage]
    · rcases List.mem_append.mp member with early | last
      · exact calls made early
      · rw [List.mem_singleton.mp last]
        exact .inr ⟨same, number, _, rfl, success.symm⟩

end

end PsaFwuM

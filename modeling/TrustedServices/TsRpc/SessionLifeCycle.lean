import TrustedServices.TsRpc.SharedBuffers

/- What the statuses of a caller say about its session and its shared memory. -/
namespace TsRpc

open Rpc

/-- The call has opened the session, with an interface that its endpoint answered. -/
def Opened (answers : Nat → OpenAnswers) (before after : CallerContext) : Prop :=
  before.hasOpenedSession = false ∧ after.hasOpenedSession = true ∧
    (answers after.endpointId).query = some (.success, after.interfaceId)

/-- No shared memory is left in the table. -/
def CallerContext.Unshared (context : CallerContext) : Prop :=
  ∀ slot, (context.sharedMemories slot).id = ffaMemHandleInvalid

/-- What the status of a call is to say. -/
def Truthful (caller : CallerSp) : CallerCall → Prop
  | .openSession answers endpointId => ∀ context ∈ caller.context,
    ((openSession answers context endpointId).1 = .success ↔
      Opened (fun _ => answers) context (openSession answers context endpointId).2)
  | .findAndOpenSession discovered rxReleased answers => ∀ context ∈ caller.context,
    ((findAndOpenSession discovered rxReleased answers context).1 = .success ↔
      Opened answers context (findAndOpenSession discovered rxReleased answers context).2)
  | .closeSession answers => ∀ context ∈ caller.context,
    (closeSession answers context).1 = .success → (closeSession answers context).2.1.Unshared
  | .deinit answers => ∀ context ∈ caller.context,
    ((tsRpcCallerSpDeinit answers caller).1 = .success →
      (tsRpcCallerSpDeinit answers caller).2.1.context = none ∧
      ∀ slot, (context.sharedMemories slot).id ≠ ffaMemHandleInvalid →
        .reclaimed (context.sharedMemories slot).id ∈ (tsRpcCallerSpDeinit answers caller).2.2) ∧
    ((closeSession answers context).1 = .success ∨ context.hasOpenedSession = false →
      (tsRpcCallerSpDeinit answers caller).1 = .success)
  | _ => True

/-- The RX buffer is released before a search for endpoints, and a caller ends with an open
session and without shared memory. -/
def Regular (caller : CallerSp) : CallerCall → Prop
  | .findAndOpenSession discovered rxReleased _ => ∀ context ∈ caller.context,
    context.hasOpenedSession = false → discovered ≠ none → rxReleased = true
  | .deinit _ => ∀ context ∈ caller.context, context.hasOpenedSession = true ∧ context.Unshared
  | _ => True

variable {context : CallerContext}

theorem openSession_opened {answers : OpenAnswers} {endpointId : Nat} :
    ((openSession answers context endpointId).1 = .success ↔
      Opened (fun _ => answers) context (openSession answers context endpointId).2) ∧
    ((openSession answers context endpointId).1 = .success →
      (openSession answers context endpointId).2.endpointId = endpointId) ∧
    ((openSession answers context endpointId).1 ≠ .success →
      (openSession answers context endpointId).2 = context) := by
  unfold openSession Opened
  grind

theorem openFirst_opened {answers : Nat → OpenAnswers} (endpoints : List Nat)
    (closed : context.hasOpenedSession = false) :
    (openFirst answers endpoints context).1 = .success ↔
      Opened answers context (openFirst answers endpoints context).2 := by
  induction endpoints with
  | nil => simp [openFirst, Opened, closed]
  | cons endpoint rest ih =>
    obtain ⟨opened, there, kept⟩ := @openSession_opened context (answers endpoint) endpoint
    simp only [openFirst]
    split
    · exact ih
    · split
      · rename_i success
        simpa [Opened, there success] using opened
      · rename_i failed
        rw [kept failed]
        exact ih

theorem releaseSharedMemory_success {answers : ReleaseAnswers} {id : Nat}
    (used : id ≠ ffaMemHandleInvalid)
    (success : (releaseSharedMemory answers context id).1 = .success) :
    ∃ slot, findSharedMemoryDescriptor context id = some slot ∧
      (releaseSharedMemory answers context id).2.1 = context.setSlot slot emptyDescriptor := by
  unfold releaseSharedMemory at success ⊢
  grind

/-- Behind the slots that are empty, the memory of each slot is found where it is. -/
theorem releaseSlots_unshared {answers : Slot → ReleaseAnswers} {done slots : List Slot}
    (whole : done ++ slots = List.finRange maxShmNum)
    (empty : ∀ slot ∈ done, (context.sharedMemories slot).id = ffaMemHandleInvalid)
    (success : (releaseSlots answers slots context).1 = .success) :
    (releaseSlots answers slots context).2.1.Unshared := by
  induction slots generalizing done context with
  | nil =>
    intro slot
    apply empty
    rw [List.append_nil] at whole
    simp [whole]
  | cons slot rest ih =>
    have later : done ++ [slot] ++ rest = List.finRange maxShmNum := by simpa using whole
    simp only [releaseSlots] at success ⊢
    split
    · rename_i used
      rw [if_pos used] at success
      split
      · rename_i failed
        rw [if_pos failed] at success
        exact absurd success failed
      · rename_i released
        rw [if_neg released] at success
        obtain ⟨found, search, emptied⟩ := releaseSharedMemory_success used (not_not.mp released)
        have skipped : done.find? (fun other => (context.sharedMemories other).id ==
            (context.sharedMemories slot).id) = none := by
          simpa +contextual [empty] using fun _ _ => used.symm
        obtain rfl : slot = found := by
          simpa [findSharedMemoryDescriptor, ← whole, skipped] using search
        rw [emptied] at success ⊢
        apply ih later _ success
        intro other member
        by_cases here : other = slot
        · rw [here, CallerContext.setSlot_same]
          rfl
        · rw [context.setSlot_other _ here]
          exact empty other (by simpa [here] using member)
    · rename_i unused
      rw [if_neg unused] at success
      apply ih later _ success
      simpa [or_imp, forall_and] using ⟨empty, not_not.mp unused⟩

/-- The status of a call says what it is to say exactly if the call is regular, in every state of
a caller. -/
theorem callerSp_truthful_iff (caller : CallerSp) (call : CallerCall) :
    Truthful caller call ↔ Regular caller call := by
  cases call with
  | openSession answers endpointId => exact iff_of_true (fun _ _ => openSession_opened.1) trivial
  | findAndOpenSession discovered rxReleased answers =>
    apply forall₂_congr
    intro context _
    unfold findAndOpenSession
    have opened := fun endpoints => @openFirst_opened context answers endpoints
    grind [Opened]
  | closeSession answers =>
    refine iff_of_true (fun context _ success => ?_) trivial
    have emptied := @releaseSlots_unshared context answers [] _ (List.nil_append _) (by simp)
    cases isOpen : context.hasOpenedSession with
    | false => simp [closeSession, isOpen] at success
    | true =>
      have released : (releaseSlots answers (List.finRange maxShmNum) context).1 = .success := by
        by_contra failed
        simp [closeSession, isOpen, failed] at success
      simpa [closeSession, isOpen, released, CallerContext.Unshared] using emptied released
  | deinit answers =>
    apply forall₂_congr
    intro context here
    rw [Option.mem_def] at here
    cases isOpen : context.hasOpenedSession with
    | true => simp [tsRpcCallerSpDeinit, here, isOpen, CallerContext.Unshared]
    | false => simp [tsRpcCallerSpDeinit, closeSession, here, isOpen]
  | init | createSharedMemory | releaseSharedMemory | call => exact Iff.rfl

/-- A search for endpoints without the RX buffer, and the end of a caller without a session. -/
theorem freshCaller_misreports :
    ¬ Truthful ⟨some (initialContext 7), 0⟩
        (.findAndOpenSession (some []) false fun _ => ⟨none, none⟩) ∧
      ¬ Truthful ⟨some (initialContext 7), 0⟩ (.deinit fun _ => ⟨none, false⟩) := by
  constructor
  · intro truthful
    have opened := ((truthful (initialContext 7) rfl).mp rfl).2.1
    cases opened
  · intro truthful
    have success := (truthful (initialContext 7) rfl).2 (.inr rfl)
    cases success

end TsRpc

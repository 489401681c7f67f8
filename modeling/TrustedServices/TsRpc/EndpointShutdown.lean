import TrustedServices.TsRpc.EndpointSp

/- The end of an endpoint: its walk looks each slot up again by owner and handle. -/
namespace TsRpc

open Rpc

variable {count : Nat} (relinquish : BitVec 64 → Bool)

/-- The loop of the shutdown. -/
def relinquishSlots :
    List (Fin count) → EndpointSp count → RpcStatus × EndpointSp count × List EndpointCall
  | [], endpoint => (.success, endpoint, [])
  | slot :: rest, endpoint =>
    let memory := endpoint.sharedMemories slot
    let handled := handleMemoryRelinquish relinquish endpoint memory.ownerId memory.handle
    if handled.1 = .success then
      let others := relinquishSlots rest handled.2.1
      (others.1, others.2.1, handled.2.2 ++ others.2.2)
    else handled

/-- The endpoint is gone, with its tables, after a success. -/
def tsRpcEndpointSpDeinit (endpoint : EndpointSp count) :
    RpcStatus × Option (EndpointSp count) × List EndpointCall :=
  let walked := relinquishSlots relinquish (List.finRange count) endpoint
  (walked.1, if walked.1 = .success then none else some walked.2.1, walked.2.2)

/-- The memory of each slot in use is relinquished once, and the shutdown succeeds. -/
def ShutsDown (endpoint : EndpointSp count) : Prop :=
  tsRpcEndpointSpDeinit relinquish endpoint =
    (.success, none, ((List.finRange count).filter fun slot =>
      (endpoint.sharedMemories slot).used).map fun slot =>
        .relinquish (endpoint.sharedMemories slot).handle true)

variable {relinquish} {endpoint : EndpointSp count}

theorem relinquishSlots_length (slots : List (Fin count))
    (success : (relinquishSlots relinquish slots endpoint).1 = .success) :
    (relinquishSlots relinquish slots endpoint).2.2.length = slots.length := by
  induction slots generalizing endpoint with
  | nil => rfl
  | cons slot rest ih =>
    have once : ∀ sourceId handle,
        (handleMemoryRelinquish relinquish endpoint sourceId handle).1 = .success →
          (handleMemoryRelinquish relinquish endpoint sourceId handle).2.2.length = 1 := by
      intro sourceId handle relinquished
      unfold handleMemoryRelinquish at relinquished ⊢
      split at relinquished
      · cases relinquished
      · dsimp only
        split <;> rfl
    simp only [relinquishSlots] at success ⊢
    split_ifs with relinquished
    · rw [if_pos relinquished] at success
      simp [ih success, once _ _ relinquished, Nat.add_comm]
    · rw [if_neg relinquished] at success
      exact absurd success relinquished

/-- Behind the slots that are done, each slot is found where it is. -/
theorem relinquishSlots_used {done slots : List (Fin count)}
    (whole : done ++ slots = List.finRange count)
    (emptied : ∀ slot ∈ done, (endpoint.sharedMemories slot).used = false)
    (ready : ∀ slot ∈ slots, (endpoint.sharedMemories slot).used = true ∧
      relinquish (endpoint.sharedMemories slot).handle = true) :
    (relinquishSlots relinquish slots endpoint).1 = .success ∧
      (relinquishSlots relinquish slots endpoint).2.2 =
        slots.map fun slot => .relinquish (endpoint.sharedMemories slot).handle true := by
  induction slots generalizing done endpoint with
  | nil => exact ⟨rfl, rfl⟩
  | cons slot rest ih =>
    have apart : slot ∉ done ++ rest :=
      (List.nodup_cons.mp (List.nodup_middle.mp (whole ▸ List.nodup_finRange count))).1
    have kept : ∀ other ∈ done ++ rest,
        (endpoint.setSlot slot zeroSlot).sharedMemories other = endpoint.sharedMemories other := by
      intro other member
      apply Function.update_of_ne
      rintro rfl
      exact apart member
    simp only [List.mem_append, or_imp, forall_and] at kept
    simp only [List.mem_cons, forall_eq_or_imp] at ready
    have handled : handleMemoryRelinquish relinquish endpoint
        (endpoint.sharedMemories slot).ownerId (endpoint.sharedMemories slot).handle =
          (.success, endpoint.setSlot slot zeroSlot,
            [.relinquish (endpoint.sharedMemories slot).handle true]) := by
      have skipped : ∀ matching : Fin count → Bool,
          done.find? (fun other => (endpoint.sharedMemories other).used && matching other) = none := by
        simp +contextual [emptied]
      simp [handleMemoryRelinquish, findSharedMemory, ← whole, Bool.and_assoc, skipped, ready.1]
    obtain ⟨success, made⟩ := @ih (endpoint.setSlot slot zeroSlot) (done ++ [slot])
      (by simpa using whole) (by
        simp only [List.forall_mem_append, List.forall_mem_singleton]
        exact ⟨by simpa +contextual [kept.1] using emptied, by simp [EndpointSp.setSlot, zeroSlot]⟩)
      (by simpa +contextual [kept.2] using ready.2)
    simp +contextual [relinquishSlots, handled, success, made, kept.2]

/-- If all memory in use can be given back, an endpoint shuts down only with all of its slots in
use. -/
theorem shutsDown_iff (relinquish : BitVec 64 → Bool) (endpoint : EndpointSp count)
    (works : ∀ slot, (endpoint.sharedMemories slot).used = true →
      relinquish (endpoint.sharedMemories slot).handle = true) :
    ShutsDown relinquish endpoint ↔ ∀ slot, (endpoint.sharedMemories slot).used = true := by
  unfold ShutsDown tsRpcEndpointSpDeinit
  constructor
  · intro shut
    obtain ⟨success, shut⟩ := Prod.mk.inj shut
    have length := relinquishSlots_length _ success
    rw [(Prod.mk.inj shut).2, List.length_map, List.length_filter_eq_length_iff] at length
    simpa using length
  · intro used
    obtain ⟨success, made⟩ := @relinquishSlots_used count relinquish endpoint []
      (List.finRange count) rfl (by simp) fun slot _ => ⟨used slot, works slot (used slot)⟩
    simp [success, made, used]

/-- An endpoint for one memory, from its start on or with a memory. -/
def lonelyEndpoint (memory : MemorySlot) : EndpointSp 1 := ⟨[none], fun _ => memory⟩

theorem lonelyEndpoint_shutsDown : ShutsDown (fun _ => true)
    (lonelyEndpoint (retrievedSlot 1 2 ⟨some 4096, 1⟩)) :=
  (shutsDown_iff _ _ fun _ _ => rfl).mpr fun _ => rfl

theorem freshEndpoint_staysUp : ¬ ShutsDown (fun _ => true) (lonelyEndpoint zeroSlot) := by
  intro shut
  have success : RpcStatus.errorNotFound = .success := congrArg Prod.fst shut
  cases success

end TsRpc

import TrustedServices.Crypto.RemoteHash

/- The clone of a hash operation, for whose target a context may be recycled. -/
namespace Crypto

open Lib Function Provider

section

variable {size : Nat} (cloneStatus : HashOperation → PsaStatus) (clientId : ClientId)
  (service : HashService size) (opHandle : BitVec 32)

/-- The status of the backend and the target, which is cleared after a failure. -/
def psaHashClone (source : HashOperation) : PsaStatus × HashOperation :=
  match source with
  | .active _ _ =>
    (cloneStatus source, if cloneStatus source = psaSuccess then source else .inactive)
  | _ => (psaErrorBadState, .inactive)

/-- The service status of a clone request, the handle of the target and the service. The target is
initialized before the source is read. -/
def hashCloneService : PsaStatus × BitVec 32 × HashService size :=
  match cryptoContextPoolFind service.provider.pool .hash clientId opHandle with
  | none => (psaErrorBadState, 0, service)
  | some source =>
    let allocated := service.provider.alloc .hash clientId
    match allocated.1 with
    | none => (psaErrorBadState, 0, { service with provider := allocated.2 })
    | some (target, targetOpHandle) =>
      let operations := update service.operations target .inactive
      let cloned := psaHashClone cloneStatus (operations source)
      (cloned.1, targetOpHandle,
        { service with
          provider := allocated.2
          operations := update operations target cloned.2 })

/-- The handle of a client has a context with the operation. -/
def OperationService.Runs (service : HashService size) (clientId : ClientId) (opHandle : BitVec 32)
    (context : Fin size) (operation : HashOperation) : Prop :=
  cryptoContextPoolFind service.provider.pool .hash clientId opHandle = some context ∧
    service.operations context = operation

/-- Every context that is in use was in use before, for the same setup. -/
def NoneConsumed (before after : Provider size) : Prop :=
  ∀ context, (after.pool.contexts context).opHandle ≠ 0 →
    (before.pool.contexts context).opHandle ≠ 0 ∧ after.live context = before.live context

/-- A clone leaves the operation of a handle as it is, and adds a copy of it or nothing. -/
structure ClonePreserves (operation : HashOperation)
    (cloned : PsaStatus × BitVec 32 × HashService size) : Prop where
  success : cloned.1 = psaSuccess → ∃ source target, source ≠ target ∧
    cloned.2.2.Runs clientId opHandle source operation ∧
    cloned.2.2.Runs clientId cloned.2.1 target operation
  failure : cloned.1 ≠ psaSuccess →
    (∃ source, cloned.2.2.Runs clientId opHandle source operation) ∧
      NoneConsumed service.provider cloned.2.2.provider

end

variable {size : Nat} {cloneStatus : HashOperation → PsaStatus} {clientId : ClientId}
  {service : HashService size} {opHandle : BitVec 32} {source : Fin size}

/-- The service clones as its provider handles a request with the status of the clone. -/
theorem hashCloneHandler_service {request : MultipartRequest} (answered : request.psaStatus =
      (hashCloneService cloneStatus request.sourceId service request.opHandle).1) :
    (hashCloneHandler service.provider request).provider =
        (hashCloneService cloneStatus request.sourceId service request.opHandle).2.2.provider ∧
      (hashCloneHandler service.provider request).reply.serviceStatus =
        some (hashCloneService cloneStatus request.sourceId service request.opHandle).1 := by
  revert answered
  unfold hashCloneHandler hashCloneService
  cases cryptoContextPoolFind service.provider.pool .hash request.sourceId request.opHandle with
  | none => exact fun _ => ⟨rfl, rfl⟩
  | some source =>
    dsimp only
    cases (service.provider.alloc .hash request.sourceId).1 with
    | none => exact fun _ => ⟨rfl, rfl⟩
    | some target => exact fun answered => ⟨rfl, congrArg some answered⟩

section

variable {provider : Provider size} {free active rest newActive : List (Fin size)} {target : Fin size}
  (pooled : provider.Pooled free active)

include pooled in
/-- With an active context, an allocation finds a free one. -/
theorem Provider.Pooled.withRoom_free (member : source ∈ active) :
    ¬ provider.withRoom.Pooled [] newActive := by
  intro roomy
  have none := roomy.represents.freePath.start_eq
  have tail := pooled.represents.backward.start_eq
  unfold Provider.withRoom at none
  cases recycled : provider.pool.recycles with
  | some context =>
    rw [recycled] at none
    cases none
  | none =>
    rw [recycled] at none
    unfold CryptoContextPool.recycles at recycled
    rw [show provider.links.free = _ from none] at recycled
    rw [show provider.links.tail = _ from recycled, List.head?_reverse] at tail
    rw [List.getLast?_eq_none_iff.mp tail.symm] at member
    cases member

/-- A context that is recycled is the first free one, and another active context is not. -/
theorem Provider.recycles_iff (member : source ∈ active)
    (roomy : provider.withRoom.Pooled (target :: rest) newActive)
    (remains : ∀ context ∈ active, provider.pool.recycles ≠ some context → context ∈ newActive) :
    provider.pool.recycles ≠ some source ↔ source ≠ target := by
  constructor
  · rintro stays rfl
    have distinct := roomy.represents.distinct
    rw [List.cons_append, List.nodup_cons, List.mem_append, not_or] at distinct
    exact distinct.1.2 (remains source member stays)
  · intro different recycled
    have first := roomy.represents.freePath.start_eq
    unfold Provider.withRoom at first
    rw [recycled] at first
    exact different (Option.some.inj first)

include pooled in
theorem Provider.Pooled.consumed
    (next : (provider.withRoom.withSetup target .hash clientId).Pooled rest (target :: newActive)) :
    ¬ NoneConsumed provider (provider.withRoom.withSetup target .hash clientId) := by
  intro unconsumed
  obtain ⟨used, same⟩ := unconsumed target (next.nonzero target (List.mem_cons_self ..))
  rcases pooled.complete target with isFree | isActive
  · exact used (pooled.idle target isFree)
  · obtain ⟨number, less, known⟩ := pooled.setUp target isActive
    rw [known, withSetup_live, withRoom_setups] at same
    have equal := congrArg Setup.number (Option.some.inj same)
    dsimp only at equal
    omega

end

/-- A clone preserves its source exactly if the source is not recycled for the target and the
backend succeeds. -/
theorem clonePreserves_iff (small : size < 2 ^ 32) (wellFormed : service.provider.WellFormed)
    {alg : BitVec 32} {absorbed : Bytes}
    (runs : service.Runs clientId opHandle source (.active alg absorbed)) :
    ClonePreserves clientId service opHandle (.active alg absorbed)
        (hashCloneService cloneStatus clientId service opHandle) ↔
      service.provider.pool.recycles ≠ some source ∧
        cloneStatus (.active alg absorbed) = psaSuccess := by
  obtain ⟨found, operation⟩ := runs
  obtain ⟨_, _, pooled⟩ := wellFormed
  obtain ⟨isActive, number, known⟩ := pooled.find found
  obtain ⟨free, active, roomy, kept, remains⟩ := pooled.withRoom
  cases free with
  | nil => exact absurd roomy (pooled.withRoom_free isActive)
  | cons target rest =>
    have next := @Provider.Pooled.withSetup _ _ _ _ .hash clientId _ small roomy
    unfold hashCloneService
    rw [found, roomy.alloc_some]
    dsimp only
    by_cases same : source = target
    · subst same
      rw [update_self]
      refine iff_of_false (fun preserves => ?_) fun stays => ?_
      · exact pooled.consumed next (preserves.failure (show psaErrorBadState ≠ psaSuccess by decide)).2
      · exact (recycles_iff isActive roomy remains).mp stays.1 rfl
    · have stays := (recycles_iff isActive roomy remains).mpr same
      rw [update_of_ne same, operation]
      constructor
      · intro preserves
        refine ⟨stays, ?_⟩
        by_contra fails
        exact pooled.consumed next (preserves.failure fails).2
      · rintro ⟨-, succeeds⟩
        refine ⟨fun _ => ⟨source, target, same, ⟨?_, ?_⟩, ?_, ?_⟩, fun fails => absurd succeeds fails⟩
        · have stillActive := remains source isActive stays
          obtain ⟨_, _, setUp⟩ := roomy.setUp source stillActive
          rw [(kept source stillActive).2, known] at setUp
          obtain ⟨usage, client, handle, _⟩ := Setup.mk.inj (Option.some.inj setUp)
          refine next.find_eq (List.mem_cons_of_mem _ stillActive) ((withSetup_other same).trans ?_)
          rw [usage, client, handle]
        · exact (update_of_ne same ..).trans ((update_of_ne same ..).trans operation)
        · exact next.find_eq (List.mem_cons_self ..) withSetup_context
        · exact (update_self ..).trans (if_pos succeeds)

/-- A client with ten operations, which fill the pool. -/
def fullService : HashService 10 := ⟨fullPool .hash, fun _ => .active 0 [], none⟩

theorem fullService_wellFormed : fullService.provider.WellFormed :=
  providers_wellFormed (by decide) (reached_foldl _ (fun _ _ _ => trivial) .start) .hash

/-- The clone of the last operation of the client preserves it. -/
theorem clonePreserves_last :
    ClonePreserves 1 fullService 10 (.active 0 [])
      (hashCloneService (fun _ => psaSuccess) 1 fullService 10) := by
  have runs : fullService.Runs 1 10 0 (.active 0 []) := ⟨by decide +kernel, rfl⟩
  exact (clonePreserves_iff (by decide) fullService_wellFormed runs).mpr ⟨by decide +kernel, rfl⟩

/-- The clone of the first one fails, and the handle of the first one is lost. -/
theorem oldestClone_lost :
    (hashCloneService (fun _ => psaSuccess) 1 fullService 1).1 = psaErrorBadState ∧
      ¬ ClonePreserves 1 fullService 1 (.active 0 [])
        (hashCloneService (fun _ => psaSuccess) 1 fullService 1) := by
  have status : (hashCloneService (fun _ => psaSuccess) 1 fullService 1).1 = psaErrorBadState := by
    decide +kernel
  refine ⟨status, fun preserves => ?_⟩
  obtain ⟨⟨source, found, _⟩, _⟩ := preserves.failure (by rw [status]; decide)
  have lost : cryptoContextPoolFind (hashCloneService (fun _ => psaSuccess) 1 fullService
      1).2.2.provider.pool .hash 1 1 = none := by
    decide +kernel
  rw [lost] at found
  cases found

end Crypto

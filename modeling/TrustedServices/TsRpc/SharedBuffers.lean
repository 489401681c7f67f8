import TrustedServices.TsRpc.CallerSp

/- Whether a buffer of the caller is freed while it is shared, or twice. -/
namespace TsRpc

open Lib Rpc

/-- An account of the buffers: those shared and not reclaimed, with their handles, those freed,
and those that were freed while they were shared or already freed. -/
structure BufferLedger where
  live : List (Nat × Nat)
  freed : List Nat
  faults : List Nat
  deriving DecidableEq, Repr

def BufferLedger.note (ledger : BufferLedger) : BufferEvent → BufferLedger
  | .shared buffer handle => { ledger with live := (buffer, handle) :: ledger.live }
  | .reclaimed handle => { ledger with live := ledger.live.filter fun share => share.2 ≠ handle }
  | .freed buffer =>
    { ledger with
      freed := buffer :: ledger.freed
      faults :=
        if buffer ∈ ledger.live.map Prod.fst ∨ buffer ∈ ledger.freed then
          buffer :: ledger.faults
        else ledger.faults }

/-- The calls of the caller, with what happens during each of them. -/
inductive CallerCall
  | init (answers : InitAnswers)
  | openSession (answers : OpenAnswers) (endpointId : Nat)
  | findAndOpenSession (discovered : Option (List Nat)) (rxReleased : Bool)
      (answers : Nat → OpenAnswers)
  | createSharedMemory (answers : CreateAnswers) (size : Nat)
  | releaseSharedMemory (answers : ReleaseAnswers) (id : Nat)
  | call (answer : Option CallReply) (id requestLength : Nat)
  | closeSession (answers : Slot → ReleaseAnswers)
  | deinit (answers : Slot → ReleaseAnswers)

structure CallerRun where
  caller : CallerSp
  ledger : BufferLedger

def CallerRun.initial : CallerRun := ⟨⟨none, 0⟩, ⟨[], [], []⟩⟩

/-- The run after an operation on the context; without one, nothing happens. -/
def CallerRun.onContext (run : CallerRun)
    (operation : CallerContext → CallerContext × List BufferEvent) : CallerRun :=
  match run.caller.context with
  | none => run
  | some context =>
    let result := operation context
    { caller := { run.caller with context := some result.1 }
      ledger := result.2.foldl BufferLedger.note run.ledger }

def CallerRun.step (run : CallerRun) : CallerCall → CallerRun
  | .init answers => { run with caller := (tsRpcCallerSpInit answers run.caller).2 }
  | .openSession answers endpointId =>
    run.onContext fun context => ((openSession answers context endpointId).2, [])
  | .findAndOpenSession discovered rxReleased answers =>
    run.onContext fun context =>
      ((findAndOpenSession discovered rxReleased answers context).2, [])
  | .createSharedMemory answers size =>
    let created := run.onContext fun context =>
      (createSharedMemory answers context run.caller.nextBuffer size).2.2
    { created with caller := { created.caller with nextBuffer := run.caller.nextBuffer + 1 } }
  | .releaseSharedMemory answers id =>
    run.onContext fun context => (releaseSharedMemory answers context id).2
  | .call _ _ _ => run
  | .closeSession answers => run.onContext fun context => (closeSession answers context).2
  | .deinit answers =>
    let result := tsRpcCallerSpDeinit answers run.caller
    { caller := result.2.1, ledger := result.2.2.foldl BufferLedger.note run.ledger }

/-- What has to hold of a call: when a buffer is shared, the request to retrieve it is delivered,
and it is reclaimed if the endpoint does not retrieve it. -/
def SharesSafely (_ : CallerRun) : CallerCall → Prop
  | .createSharedMemory answers _ =>
    answers.share.isSome →
      answers.retrieve.isSome ∧ (answers.retrieve ≠ some .success → answers.reclaim = true)
  | _ => True

instance (run : CallerRun) (event : CallerCall) : Decidable (SharesSafely run event) := by
  unfold SharesSafely
  split <;> infer_instance

variable {next : Nat} {ledger : BufferLedger} {context : CallerContext}

/-- The descriptor of a buffer: it is not freed, and if it is shared, then under its handle. -/
structure BufferLedger.Describes (next : Nat) (ledger : BufferLedger) (descriptor : SharedMemory)
    (buffer : Nat) : Prop where
  holds : descriptor.buffer = some buffer
  old : buffer < next
  kept : buffer ∉ ledger.freed
  under : ∀ handle, (buffer, handle) ∈ ledger.live → handle = descriptor.id

/-- The account has no fault, and the slots in use describe different buffers. -/
structure BufferLedger.Sound (next : Nat) (ledger : BufferLedger) : Prop where
  faults : ledger.faults = []
  live : ∀ share ∈ ledger.live, share.1 < next
  freed : ∀ buffer ∈ ledger.freed, buffer < next

structure CallerContext.Tracked (next : Nat) (ledger : BufferLedger) (context : CallerContext) :
    Prop where
  describes : ∀ slot, (context.sharedMemories slot).id ≠ ffaMemHandleInvalid →
    ∃ buffer, ledger.Describes next (context.sharedMemories slot) buffer
  distinct : ∀ slot other, (context.sharedMemories slot).id ≠ ffaMemHandleInvalid →
    (context.sharedMemories other).id ≠ ffaMemHandleInvalid →
    (context.sharedMemories slot).buffer = (context.sharedMemories other).buffer → slot = other

theorem findSharedMemoryDescriptor_id {id : Nat} {slot : Slot}
    (found : findSharedMemoryDescriptor context id = some slot) :
    (context.sharedMemories slot).id = id := by
  simpa using List.find?_some found

theorem emptied_apart {slot other : Slot}
    (used : ((context.setSlot slot emptyDescriptor).sharedMemories other).id ≠
      ffaMemHandleInvalid) : other ≠ slot := by
  rintro rfl
  apply used
  rw [context.setSlot_same]
  rfl

section

variable (sound : ledger.Sound next)

include sound

theorem BufferLedger.Sound.reclaimed (handle : Nat) :
    (ledger.note (.reclaimed handle)).Sound next :=
  ⟨sound.faults, fun share member => sound.live share (List.mem_filter.mp member).1, sound.freed⟩

theorem BufferLedger.Sound.release {buffer : Nat}
    (old : buffer < next) (unshared : buffer ∉ ledger.live.map Prod.fst)
    (kept : buffer ∉ ledger.freed) : (ledger.note (.freed buffer)).Sound next := by
  refine ⟨?_, sound.live, fun other member => ?_⟩
  · show (if _ then _ else _) = []
    rw [if_neg (not_or.mpr ⟨unshared, kept⟩)]
    exact sound.faults
  · rcases List.mem_cons.mp member with rfl | earlier
    · exact old
    · exact sound.freed other earlier

theorem BufferLedger.Sound.later : ledger.Sound (next + 1) :=
  ⟨sound.faults, fun share member => Nat.lt_succ_of_lt (sound.live share member),
    fun buffer member => Nat.lt_succ_of_lt (sound.freed buffer member)⟩

theorem BufferLedger.Sound.fresh_unshared (handle : Nat) : (next, handle) ∉ ledger.live :=
  fun member => absurd (sound.live _ member) (Nat.lt_irrefl _)

theorem BufferLedger.Sound.fresh_kept : next ∉ ledger.freed :=
  fun member => absurd (sound.freed next member) (Nat.lt_irrefl _)

theorem shared_sound (handle : Nat) : (ledger.note (.shared next handle)).Sound (next + 1) := by
  refine ⟨sound.faults, fun share member => ?_, sound.later.freed⟩
  rcases List.mem_cons.mp member with rfl | earlier
  · exact Nat.lt_succ_self _
  · exact sound.later.live share earlier

end

section

variable (tracked : context.Tracked next ledger)

include tracked

theorem CallerContext.Tracked.reclaimed (handle : Nat) :
    context.Tracked next (ledger.note (.reclaimed handle)) := by
  refine ⟨fun slot used => ?_, tracked.distinct⟩
  obtain ⟨buffer, describes⟩ := tracked.describes slot used
  exact ⟨buffer, describes.holds, describes.old, describes.kept, fun other member =>
    describes.under other (List.mem_filter.mp member).1⟩

theorem CallerContext.Tracked.free {buffer : Nat}
    (apart : ∀ slot, (context.sharedMemories slot).id ≠ ffaMemHandleInvalid →
      (context.sharedMemories slot).buffer ≠ some buffer) :
    context.Tracked next (ledger.note (.freed buffer)) := by
  refine ⟨fun slot used => ?_, tracked.distinct⟩
  obtain ⟨own, describes⟩ := tracked.describes slot used
  refine ⟨own, describes.holds, describes.old, fun member => ?_, describes.under⟩
  rcases List.mem_cons.mp member with rfl | earlier
  · exact apart slot used describes.holds
  · exact describes.kept earlier

theorem CallerContext.Tracked.empty (slot : Slot) :
    (context.setSlot slot emptyDescriptor).Tracked next ledger := by
  refine ⟨fun other used => ?_, fun other third used usedToo same => ?_⟩
  · have kept := context.setSlot_other emptyDescriptor (emptied_apart used)
    rw [kept] at used ⊢
    exact tracked.describes other used
  · have first := context.setSlot_other emptyDescriptor (emptied_apart used)
    have second := context.setSlot_other emptyDescriptor (emptied_apart usedToo)
    rw [first] at used same
    rw [second] at usedToo same
    exact tracked.distinct other third used usedToo same

theorem CallerContext.Tracked.later : context.Tracked (next + 1) ledger := by
  refine ⟨fun slot used => ?_, tracked.distinct⟩
  obtain ⟨buffer, describes⟩ := tracked.describes slot used
  exact ⟨buffer, describes.holds, Nat.lt_succ_of_lt describes.old, describes.kept, describes.under⟩

theorem CallerContext.Tracked.fresh (slot : Slot)
    (used : (context.sharedMemories slot).id ≠ ffaMemHandleInvalid) :
    (context.sharedMemories slot).buffer ≠ some next := by
  obtain ⟨buffer, describes⟩ := tracked.describes slot used
  rw [describes.holds]
  intro same
  exact absurd describes.old (by rw [Option.some.inj same]; exact Nat.lt_irrefl _)

theorem shared_tracked (handle : Nat) :
    context.Tracked (next + 1) (ledger.note (.shared next handle)) := by
  refine ⟨fun slot used => ?_, tracked.distinct⟩
  obtain ⟨buffer, describes⟩ := tracked.later.describes slot used
  refine ⟨buffer, describes.holds, describes.old, describes.kept, fun other member => ?_⟩
  rcases List.mem_cons.mp member with same | earlier
  · cases same
    exact absurd describes.holds (tracked.fresh slot used)
  · exact describes.under other earlier

end

/-- What an operation leaves of the slots and of the account. -/
structure Keeps (next : Nat) (ledger : BufferLedger)
    (result : CallerContext × List BufferEvent) : Prop where
  sound : (result.2.foldl BufferLedger.note ledger).Sound next
  tracked : result.1.Tracked next (result.2.foldl BufferLedger.note ledger)

theorem Keeps.andThen {first second : CallerContext × List BufferEvent}
    (keeps : Keeps next (first.2.foldl BufferLedger.note ledger) second) :
    Keeps next ledger (second.1, first.2 ++ second.2) := by
  refine ⟨?_, ?_⟩
  · rw [List.foldl_append]
    exact keeps.sound
  · rw [List.foldl_append]
    exact keeps.tracked

section

variable (sound : ledger.Sound next) (tracked : context.Tracked next ledger)

include sound tracked

theorem releaseSharedMemory_keeps {answers : ReleaseAnswers} {id : Nat} :
    Keeps next ledger (releaseSharedMemory answers context id).2 := by
  unfold releaseSharedMemory
  split
  · exact ⟨sound, tracked⟩
  · rename_i valid
    split
    · exact ⟨sound, tracked⟩
    · rename_i slot found
      split
      · exact ⟨sound, tracked⟩
      · split_ifs
        · exact ⟨sound, tracked⟩
        · have named := findSharedMemoryDescriptor_id found
          have used : (context.sharedMemories slot).id ≠ ffaMemHandleInvalid := by
            rw [named]
            exact valid
          obtain ⟨buffer, describes⟩ := tracked.describes slot used
          have unshared : buffer ∉ (ledger.note (.reclaimed id)).live.map Prod.fst := by
            intro member
            obtain ⟨⟨same, handle⟩, share, rfl⟩ := List.mem_map.mp member
            obtain ⟨shared, other⟩ := List.mem_filter.mp share
            have equal := describes.under handle shared
            rw [named] at equal
            simp [equal] at other
          have apart : ∀ other,
              ((context.setSlot slot emptyDescriptor).sharedMemories other).id ≠
                ffaMemHandleInvalid →
              ((context.setSlot slot emptyDescriptor).sharedMemories other).buffer ≠
                some buffer := by
            intro other usedToo same
            have here := emptied_apart usedToo
            rw [context.setSlot_other _ here] at usedToo same
            exact here (tracked.distinct other slot usedToo used (same.trans describes.holds.symm))
          rw [describes.holds]
          exact ⟨(sound.reclaimed id).release describes.old unshared describes.kept,
            ((tracked.reclaimed id).empty slot).free apart⟩
        · exact ⟨sound.reclaimed id, tracked.reclaimed id⟩

theorem releaseSlots_keeps {answers : Slot → ReleaseAnswers} (slots : List Slot) :
    Keeps next ledger (releaseSlots answers slots context).2 := by
  induction slots generalizing context ledger with
  | nil => exact ⟨sound, tracked⟩
  | cons slot rest ih =>
    unfold releaseSlots
    split
    · have kept := @releaseSharedMemory_keeps _ _ _ sound tracked (answers slot)
        (context.sharedMemories slot).id
      dsimp only
      split
      · exact kept
      · exact (ih kept.sound kept.tracked).andThen
    · exact ih sound tracked

theorem closeSession_keeps {answers : Slot → ReleaseAnswers} :
    Keeps next ledger (closeSession answers context).2 := by
  unfold closeSession
  split
  · exact ⟨sound, tracked⟩
  · have kept := @releaseSlots_keeps _ _ _ sound tracked answers (List.finRange maxShmNum)
    dsimp only
    split
    · exact kept
    · exact ⟨kept.sound, kept.tracked.describes, kept.tracked.distinct⟩

theorem freshFreed_keeps : Keeps (next + 1) ledger (context, [.freed next]) := by
  refine ⟨sound.later.release (Nat.lt_succ_self _) ?_ ?_, tracked.later.free tracked.fresh⟩
  · intro member
    obtain ⟨⟨_, handle⟩, shared, rfl⟩ := List.mem_map.mp member
    exact sound.fresh_unshared handle shared
  · exact sound.fresh_kept

theorem freshReclaimed_keeps (handle : Nat) :
    Keeps (next + 1) ledger (context, [.shared next handle, .reclaimed handle, .freed next]) := by
  have unshared : next ∉ ((ledger.note (.shared next handle)).note
      (.reclaimed handle)).live.map Prod.fst := by
    intro member
    obtain ⟨⟨same, other⟩, share, rfl⟩ := List.mem_map.mp member
    obtain ⟨shared, kept⟩ := List.mem_filter.mp share
    rcases List.mem_cons.mp shared with new | earlier
    · simp [(Prod.mk.inj new).2] at kept
    · exact sound.fresh_unshared other earlier
  exact ⟨((shared_sound sound handle).reclaimed handle).release (Nat.lt_succ_self _) unshared
      sound.fresh_kept,
    ((shared_tracked tracked handle).reclaimed handle).free tracked.fresh⟩

theorem freshStored_keeps
    (slot : Slot) (handle size : Nat) : Keeps (next + 1) ledger
      (context.setSlot slot ⟨handle, some next, size⟩, [.shared next handle]) := by
  have shared := shared_tracked tracked handle
  refine ⟨shared_sound sound handle, fun other used => ?_, fun other third used usedToo same => ?_⟩
  · by_cases here : other = slot
    · rw [here, context.setSlot_same]
      refine ⟨next, rfl, Nat.lt_succ_self _, sound.fresh_kept, fun under member => ?_⟩
      rcases List.mem_cons.mp member with new | earlier
      · exact (Prod.mk.inj new).2
      · exact absurd earlier (sound.fresh_unshared under)
    · rw [context.setSlot_other _ here] at used ⊢
      exact shared.describes other used
  · have apart : ∀ here there : Slot, here = slot → there ≠ slot →
        ((context.setSlot slot ⟨handle, some next, size⟩).sharedMemories there).id ≠
          ffaMemHandleInvalid →
        ((context.setSlot slot ⟨handle, some next, size⟩).sharedMemories here).buffer ≠
          ((context.setSlot slot ⟨handle, some next, size⟩).sharedMemories there).buffer := by
      intro here there own different used equal
      rw [context.setSlot_other _ different] at used equal
      rw [own, context.setSlot_same] at equal
      exact tracked.fresh there used equal.symm
    by_cases here : other = slot
    · by_cases there : third = slot
      · rw [here, there]
      · exact absurd same (apart other third here there usedToo)
    · by_cases there : third = slot
      · exact absurd same.symm (apart third other there here used)
      · rw [context.setSlot_other _ here] at used same
        rw [context.setSlot_other _ there] at usedToo same
        exact tracked.distinct other third used usedToo same

theorem createSharedMemory_keeps {answers : CreateAnswers} {size : Nat}
   
    (safe : answers.share.isSome →
      answers.retrieve.isSome ∧ (answers.retrieve ≠ some .success → answers.reclaim = true)) :
    Keeps (next + 1) ledger (createSharedMemory answers context next size).2.2 := by
  have unchanged : Keeps (next + 1) ledger (context, []) := ⟨sound.later, tracked.later⟩
  unfold createSharedMemory
  split
  · exact unchanged
  · split
    · exact unchanged
    · split
      · exact unchanged
      · rename_i slot found
        split
        · exact unchanged
        · split
          · exact freshFreed_keeps sound tracked
          · rename_i handle shares
            obtain ⟨delivered, reclaims⟩ := safe (by rw [shares]; rfl)
            split
            · rename_i lost
              rw [lost] at delivered
              cases delivered
            · rename_i status retrieved
              split
              · rename_i failed
                have reclaim : answers.reclaim = true := by
                  apply reclaims
                  rw [retrieved]
                  exact fun same => failed (Option.some.inj same)
                rw [reclaim]
                exact freshReclaimed_keeps sound tracked handle
              · exact freshStored_keeps sound tracked slot handle (roundup size)

end

variable {run : CallerRun}

structure CallerRun.Consistent (run : CallerRun) : Prop where
  sound : run.ledger.Sound run.caller.nextBuffer
  tracked : ∀ context ∈ run.caller.context, context.Tracked run.caller.nextBuffer run.ledger

section

variable (consistent : run.Consistent)

include consistent

theorem CallerRun.Consistent.onContext
    {operation : CallerContext → CallerContext × List BufferEvent}
    (keeps : ∀ context, run.ledger.Sound run.caller.nextBuffer →
      context.Tracked run.caller.nextBuffer run.ledger →
        Keeps run.caller.nextBuffer run.ledger (operation context)) :
    (run.onContext operation).Consistent := by
  unfold CallerRun.onContext
  split
  · exact consistent
  · rename_i context present
    have kept := keeps context consistent.sound (consistent.tracked context present)
    exact ⟨kept.sound, fun later same => Option.some.inj same ▸ kept.tracked⟩

theorem CallerRun.Consistent.create {answers : CreateAnswers} {size : Nat}
    (safe : SharesSafely run (.createSharedMemory answers size)) :
    (run.step (.createSharedMemory answers size)).Consistent := by
  dsimp only [CallerRun.step]
  unfold CallerRun.onContext
  cases present : run.caller.context with
  | none =>
    refine ⟨consistent.sound.later, fun context member => ?_⟩
    cases present.symm.trans member
  | some context =>
    have kept := @createSharedMemory_keeps _ _ _ consistent.sound
      (consistent.tracked context present) answers size safe
    exact ⟨kept.sound, fun later same => Option.some.inj same ▸ kept.tracked⟩

theorem CallerRun.Consistent.init {answers : InitAnswers} :
    (run.step (.init answers)).Consistent := by
  have fresh (ownId : Nat) : CallerRun.Consistent
      { run with caller := { run.caller with context := some (initialContext ownId) } } := by
    refine ⟨consistent.sound, fun context same => ?_⟩
    rw [← Option.some.inj same]
    exact ⟨fun slot used => absurd rfl used, fun slot other used => absurd rfl used⟩
  dsimp only [CallerRun.step]
  unfold tsRpcCallerSpInit
  split
  · exact consistent
  · exact consistent
  · split_ifs
    · exact consistent
    · split
      · exact fresh _
      · exact consistent

theorem CallerRun.Consistent.deinit {answers : Slot → ReleaseAnswers}
    : (run.step (.deinit answers)).Consistent := by
  dsimp only [CallerRun.step]
  unfold tsRpcCallerSpDeinit
  split
  · exact consistent
  · rename_i context present
    have kept := @closeSession_keeps _ _ _ consistent.sound
      (consistent.tracked context present) answers
    split
    · dsimp only
      split
      · exact ⟨kept.sound, fun later same => Option.some.inj same ▸ kept.tracked⟩
      · exact ⟨kept.sound, nofun⟩
    · exact ⟨consistent.sound, nofun⟩

end

variable {answers : Nat → OpenAnswers}

theorem openSession_memories {answers : OpenAnswers} {endpointId : Nat} :
    (openSession answers context endpointId).2.sharedMemories = context.sharedMemories := by
  unfold openSession
  repeat' split
  all_goals rfl

theorem openFirst_memories (endpoints : List Nat) :
    (openFirst answers endpoints context).2.sharedMemories = context.sharedMemories := by
  induction endpoints generalizing context with
  | nil => rfl
  | cons endpoint rest ih =>
    unfold openFirst
    split
    · exact ih
    · dsimp only
      split
      · exact openSession_memories
      · exact ih.trans openSession_memories

theorem findAndOpenSession_memories {discovered : Option (List Nat)} {rxReleased : Bool} :
    (findAndOpenSession discovered rxReleased answers context).2.sharedMemories =
      context.sharedMemories := by
  unfold findAndOpenSession
  split
  · rfl
  · split
    · rfl
    · split
      · rfl
      · exact openFirst_memories _

theorem CallerContext.Tracked.congr {later : CallerContext} (tracked : context.Tracked next ledger)
    (same : later.sharedMemories = context.sharedMemories) : later.Tracked next ledger := by
  refine ⟨?_, ?_⟩
  · rw [same]
    exact tracked.describes
  · rw [same]
    exact tracked.distinct

theorem CallerRun.Consistent.step {event : CallerCall} (consistent : run.Consistent)
    (safe : SharesSafely run event) : (run.step event).Consistent := by
  cases event with
  | init answers => exact consistent.init
  | openSession answers endpointId =>
    exact consistent.onContext fun context sound tracked =>
      ⟨sound, tracked.congr openSession_memories⟩
  | findAndOpenSession discovered rxReleased answers =>
    exact consistent.onContext fun context sound tracked =>
      ⟨sound, tracked.congr findAndOpenSession_memories⟩
  | createSharedMemory answers size => exact consistent.create safe
  | releaseSharedMemory answers id =>
    exact consistent.onContext fun context sound tracked =>
      releaseSharedMemory_keeps sound tracked
  | call answer id requestLength => exact consistent
  | closeSession answers =>
    exact consistent.onContext fun context sound tracked =>
      closeSession_keeps sound tracked
  | deinit answers => exact consistent.deinit

/-- In a run in which each shared buffer is retrieved or reclaimed, no buffer is freed while it
is shared, and none twice. -/
theorem callerSp_freesSafely {run : CallerRun}
    (reached : Reached CallerRun.step .initial SharesSafely run) : run.ledger.faults = [] := by
  have consistent : run.Consistent :=
    reached.invariant _ ⟨⟨rfl, nofun, nofun⟩, nofun⟩ fun _ _ _ consistent safe =>
      consistent.step safe
  exact consistent.sound.faults

/-- A caller of endpoint 3 in a session. -/
def openedCaller : List CallerCall :=
  [.init ⟨some (1, 1), some 7, true⟩, .openSession ⟨some 1, some (.success, 0)⟩ 3]

/-- Memory that is shared; another one that the endpoint does not retrieve; the first one
is released when the session is closed. -/
def sharingRun : List CallerCall :=
  openedCaller ++
    [.createSharedMemory ⟨true, some 5, some .success, true⟩ 4096,
      .createSharedMemory ⟨true, some 6, some .errorNotFound, true⟩ 4096,
      .closeSession fun _ => ⟨some .success, true⟩]

theorem sharingRun_freesSafely :
    (sharingRun.foldl CallerRun.step .initial).ledger.freed = [0, 1] ∧
      (sharingRun.foldl CallerRun.step .initial).ledger.faults = [] := by
  have admitted : Admitted CallerRun.step SharesSafely .initial sharingRun := by decide +kernel
  exact ⟨by decide +kernel, callerSp_freesSafely (Reached.start.run admitted)⟩

/-- The buffer is freed while it is shared if the request to retrieve it is not delivered, and if
the endpoint refuses it and the reclaim fails. -/
theorem failedRetrieval_freesShared :
    ((openedCaller ++ [CallerCall.createSharedMemory ⟨true, some 5, none, true⟩ 4096]).foldl
        CallerRun.step .initial).ledger.faults = [0] ∧
      ((openedCaller ++ [CallerCall.createSharedMemory
          ⟨true, some 5, some .errorNotFound, false⟩ 4096]).foldl
        CallerRun.step .initial).ledger.faults = [0] := by
  decide +kernel

end TsRpc

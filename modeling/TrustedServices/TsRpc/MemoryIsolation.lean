import TrustedServices.Lib.Transition
import TrustedServices.TsRpc.EndpointSp

/- The memory that an endpoint hands to its services, over any interleaving. -/
namespace TsRpc

open Lib Rpc Function

variable {count : Nat}

/-- A memory transaction: who shares which memory. -/
structure Share where
  owner : BitVec 16
  region : Region
  deriving DecidableEq, Repr

/-- The shares of the clients, and how often the endpoint has each of them retrieved. -/
structure Spmc where
  shares : BitVec 64 → Option Share
  retrieved : BitVec 64 → Nat

def Spmc.note (spmc : Spmc) : EndpointCall → Spmc
  | .retrieve _ _ (.failed false) => spmc
  | .retrieve _ handle _ =>
    { spmc with retrieved := update spmc.retrieved handle (spmc.retrieved handle + 1) }
  | .relinquish handle true =>
    { spmc with retrieved := update spmc.retrieved handle (spmc.retrieved handle - 1) }
  | _ => spmc

structure World (count : Nat) extends endpoint : EndpointSp count where
  spmc : Spmc

/-- Clients share memory, reclaim it and send messages, which come with what the SPMC answers to
the endpoint. -/
inductive WorldEvent
  | share (handle : BitVec 64) (share : Share)
  | reclaim (handle : BitVec 64)
  | message (request : Message) (calls : MemoryCalls)

def World.step (world : World count) : WorldEvent → World count
  | .share handle share =>
    { world with
      spmc := { world.spmc with
        shares := update world.spmc.shares handle (some share) } }
  | .reclaim handle =>
    { world with
      spmc := { world.spmc with shares := update world.spmc.shares handle none } }
  | .message request calls =>
    let received := tsRpcEndpointSpReceive calls world.endpoint request
    ⟨received.2.1, received.2.2.foldl Spmc.note world.spmc⟩

/-- What is assumed of the SPMC. A handle is given out if it is free, memory is reclaimed if it is
not retrieved, and a region is given to a sender that shares it under the handle. -/
def World.Lawful (world : World count) : WorldEvent → Prop
  | .share handle _ => world.spmc.shares handle = none
  | .reclaim handle => world.spmc.retrieved handle = 0
  | .message _ calls => ∀ sender handle region,
    calls.retrieve sender handle = .retrieved region →
      world.spmc.shares handle = some ⟨sender, region⟩

def World.initial (count : Nat) (services : List (Option Service)) : World count :=
  ⟨⟨services, fun _ => zeroSlot⟩, ⟨fun _ => none, fun _ => 0⟩⟩

def Region.bytes (region : Region) : Nat := region.pageCount.toNat * 4096

/-- The endpoint has retrieved the region, which the owner shares under the handle. -/
def Spmc.Holds (spmc : Spmc) (owner : BitVec 16) (handle : BitVec 64) (region : Region) : Prop :=
  spmc.shares handle = some ⟨owner, region⟩ ∧ 0 < spmc.retrieved handle

/-- A slot describes memory that the endpoint has retrieved. -/
def Spmc.Backs (spmc : Spmc) (slot : MemorySlot) : Prop :=
  ∃ region, spmc.Holds slot.ownerId slot.handle region ∧ slot.data = region.address ∧
    slot.size ≤ region.bytes

/-- A request of a client has no buffer, or its buffer is memory of the client itself, shared
under the handle it sent, and its data lie inside. -/
def Spmc.Isolates (spmc : Spmc) (request : Message) (served : ServiceRequest) : Prop :=
  served.sourceId = request.sourceId ∧
    (served.data = none ∧ served.size = 0 ∧ served.dataLength = 0 ∨
      ∃ region, spmc.Holds request.sourceId (tsRpcAbiGetMemoryHandle request.args) region ∧
        served.data = region.address ∧ served.size ≤ region.bytes ∧
        served.dataLength ≤ region.bytes)

variable {endpoint : EndpointSp count} {ownerId : BitVec 16} {handle : BitVec 64} {slot : Fin count}

theorem findFreeSharedMemory_unused (found : findFreeSharedMemory endpoint = some slot) :
    (endpoint.sharedMemories slot).used = false := by
  simpa using List.find?_some found

theorem findSharedMemory_slot (found : findSharedMemory endpoint ownerId handle = some slot) :
    (endpoint.sharedMemories slot).used = true ∧
      (endpoint.sharedMemories slot).ownerId = ownerId ∧
        (endpoint.sharedMemories slot).handle = handle := by
  simpa [and_assoc] using List.find?_some found

section

variable (endpoint : EndpointSp count)

@[simp] theorem EndpointSp.setSlot_same (slot : Fin count)
    (memory : MemorySlot) : (endpoint.setSlot slot memory).sharedMemories slot = memory :=
  update_self _ _ _

theorem EndpointSp.setSlot_other {other : Fin count} (memory : MemorySlot) (apart : other ≠ slot) :
    (endpoint.setSlot slot memory).sharedMemories other = endpoint.sharedMemories other :=
  update_of_ne apart _ _

def EndpointSp.slotsOf (handle : BitVec 64) : Finset (Fin count) :=
  Finset.univ.filter fun slot =>
    (endpoint.sharedMemories slot).used = true ∧ (endpoint.sharedMemories slot).handle = handle

end

theorem EndpointSp.mem_slotsOf {other : Fin count} :
    other ∈ endpoint.slotsOf handle ↔ (endpoint.sharedMemories other).used = true ∧
      (endpoint.sharedMemories other).handle = handle := by
  simp [EndpointSp.slotsOf]

theorem EndpointSp.slotsOf_fill (memory : MemorySlot) (other : BitVec 64) :
    (endpoint.setSlot slot memory).slotsOf other ⊆
      if memory.handle = other then insert slot (endpoint.slotsOf other)
      else endpoint.slotsOf other := by
  intro here member
  rw [mem_slotsOf] at member
  by_cases same : here = slot
  · rw [same, EndpointSp.setSlot_same] at member
    rw [if_pos member.2, same]
    exact Finset.mem_insert_self _ _
  · rw [endpoint.setSlot_other _ same] at member
    have before := mem_slotsOf.mpr member
    split
    · exact Finset.mem_insert_of_mem before
    · exact before

theorem EndpointSp.slotsOf_clear (other : BitVec 64) :
    (endpoint.setSlot slot zeroSlot).slotsOf other ⊆ (endpoint.slotsOf other).erase slot := by
  intro here member
  rw [mem_slotsOf] at member
  have apart : here ≠ slot := by
    rintro rfl
    rw [EndpointSp.setSlot_same] at member
    cases member.1
  rw [endpoint.setSlot_other _ apart] at member
  exact Finset.mem_erase.mpr ⟨apart, mem_slotsOf.mpr member⟩

variable {world : World count}

/-- The slots in use hold what was retrieved, and the endpoint has retrieved each memory at least
as often as it has slots for it. -/
structure World.Consistent (world : World count) : Prop where
  slots : ∀ slot, (world.sharedMemories slot).used = true → ∃ region,
    world.spmc.shares (world.sharedMemories slot).handle =
      some ⟨(world.sharedMemories slot).ownerId, region⟩ ∧
    world.sharedMemories slot = retrievedSlot
      (world.sharedMemories slot).ownerId (world.sharedMemories slot).handle
      region
  counts : ∀ handle, (world.endpoint.slotsOf handle).card ≤ world.spmc.retrieved handle

theorem World.initial_consistent (count : Nat) (services : List (Option Service)) :
    (World.initial count services).Consistent := by
  refine ⟨fun slot used => (nomatch used), fun handle => ?_⟩
  have none : (World.initial count services).endpoint.slotsOf handle = ∅ := by
    rw [Finset.eq_empty_iff_forall_notMem]
    intro slot member
    cases (EndpointSp.mem_slotsOf.mp member).1
  rw [none]
  exact Nat.zero_le _

/-- What is shared under a handle that no slot has does not matter. -/
theorem World.Consistent.update_shares (consistent : world.Consistent) (share : Option Share)
    (apart : ∀ slot, (world.sharedMemories slot).used = true →
      (world.sharedMemories slot).handle ≠ handle) :
    World.Consistent { world with
      spmc := { world.spmc with shares := update world.spmc.shares handle share } } := by
  refine ⟨fun slot used => ?_, consistent.counts⟩
  obtain ⟨region, shared, same⟩ := consistent.slots slot used
  exact ⟨region, (update_of_ne (apart slot used) _ _).trans shared, same⟩

theorem World.Consistent.share {share : Share} (consistent : world.Consistent)
    (free : world.spmc.shares handle = none) : (world.step (.share handle share)).Consistent := by
  apply consistent.update_shares
  intro slot used equal
  obtain ⟨region, shared, _⟩ := consistent.slots slot used
  rw [equal, free] at shared
  cases shared

theorem World.Consistent.reclaim (consistent : world.Consistent)
    (idle : world.spmc.retrieved handle = 0) : (world.step (.reclaim handle)).Consistent := by
  apply consistent.update_shares
  intro slot used equal
  have counted : 0 < (world.endpoint.slotsOf handle).card :=
    Finset.card_pos.mpr ⟨slot, EndpointSp.mem_slotsOf.mpr ⟨used, equal⟩⟩
  have bound := consistent.counts handle
  omega

/-- What a message can do, and the calls it makes: nothing, call a service, retrieve memory of its
sender into a free slot, or relinquish the memory of a slot of its sender. -/
inductive Receives (calls : MemoryCalls) (endpoint : EndpointSp count) (request : Message) :
    EndpointSp count × List EndpointCall → Prop
  | answered : Receives calls endpoint request (endpoint, [])
  | served {service : Service} {served : ServiceRequest}
      (passed : serviceRequest endpoint request.sourceId request.args = .ok (service, served)) :
      Receives calls endpoint request (endpoint, [.service served])
  | failed (handle : BitVec 64) (stillRetrieved : Bool) :
      Receives calls endpoint request
        (endpoint, [.retrieve request.sourceId handle (.failed stillRetrieved)])
  | filled (slot : Fin count) (handle : BitVec 64) (region : Region)
      (free : findFreeSharedMemory endpoint = some slot)
      (answer : calls.retrieve request.sourceId handle = .retrieved region) :
      Receives calls endpoint request
        (endpoint.setSlot slot (retrievedSlot request.sourceId handle region),
          [.retrieve request.sourceId handle (.retrieved region)])
  | kept (handle : BitVec 64) :
      Receives calls endpoint request (endpoint, [.relinquish handle false])
  | cleared (slot : Fin count) (handle : BitVec 64)
      (found : findSharedMemory endpoint request.sourceId handle = some slot) :
      Receives calls endpoint request
        (endpoint.setSlot slot zeroSlot, [.relinquish (endpoint.sharedMemories slot).handle true])

section

variable (calls : MemoryCalls) (endpoint : EndpointSp count) (request : Message)

theorem handleMemoryRetrieve_receives (handle : BitVec 64) : Receives calls endpoint request
    (handleMemoryRetrieve calls.retrieve endpoint request.sourceId handle).2 := by
  unfold handleMemoryRetrieve
  cases free : findFreeSharedMemory endpoint with
  | none => exact .answered
  | some slot =>
    cases answer : calls.retrieve request.sourceId handle with
    | failed stillRetrieved => exact .failed handle stillRetrieved
    | retrieved region => exact .filled slot handle region free answer

theorem handleMemoryRelinquish_receives (handle : BitVec 64) : Receives calls endpoint request
    (handleMemoryRelinquish calls.relinquish endpoint request.sourceId handle).2 := by
  unfold handleMemoryRelinquish
  cases found : findSharedMemory endpoint request.sourceId handle with
  | none => exact .answered
  | some slot =>
    dsimp only
    cases calls.relinquish (endpoint.sharedMemories slot).handle with
    | false => exact .kept _
    | true => exact .cleared slot handle found

theorem tsRpcEndpointSpReceive_receives :
    Receives calls endpoint request (tsRpcEndpointSpReceive calls endpoint request).2 := by
  unfold tsRpcEndpointSpReceive
  dsimp only
  split_ifs
  · unfold handleManagementInterface
    generalize (tsRpcAbiGetOpcode request.args).toNat = opcode
    match opcode with
    | 0 => exact .answered
    | 1 => exact handleMemoryRetrieve_receives calls endpoint request _
    | 2 => exact handleMemoryRelinquish_receives calls endpoint request _
    | 3 =>
      generalize handleInterfaceIdQuery _ _ = queried
      cases queried with
      | none => exact .answered
      | some interfaceId => exact .answered
    | _ + 4 => exact .answered
  · unfold handleServiceInterfaces
    cases passed : serviceRequest endpoint request.sourceId request.args with
    | error status => exact .answered
    | ok called => exact .served passed
  · exact .answered

end

/-- A retrieval without a slot for it. -/
theorem World.Consistent.more {retrieved : BitVec 64 → Nat} (consistent : world.Consistent)
    (more : ∀ handle, world.spmc.retrieved handle ≤ retrieved handle) :
    World.Consistent ⟨world.endpoint, ⟨world.spmc.shares, retrieved⟩⟩ :=
  ⟨consistent.slots, fun handle => Nat.le_trans (consistent.counts handle) (more handle)⟩

theorem World.Consistent.fill {sender : BitVec 16} {region : Region} (consistent : world.Consistent)
    (shared : world.spmc.shares handle = some ⟨sender, region⟩) :
    World.Consistent ⟨world.endpoint.setSlot slot (retrievedSlot sender handle region),
      world.spmc.note (.retrieve sender handle (.retrieved region))⟩ := by
  refine ⟨fun other used => ?_, fun other => ?_⟩
  · by_cases same : other = slot
    · rw [same, EndpointSp.setSlot_same]
      exact ⟨region, shared, rfl⟩
    · rw [world.endpoint.setSlot_other _ same] at used ⊢
      exact consistent.slots other used
  · have inside := Finset.card_le_card (@EndpointSp.slotsOf_fill _ world.endpoint slot
      (retrievedSlot sender handle region) other)
    have before := consistent.counts other
    dsimp only [Spmc.note]
    by_cases same : handle = other
    · subst same
      rw [if_pos (by rfl)] at inside
      have grown := Finset.card_insert_le slot (world.endpoint.slotsOf handle)
      rw [update_self]
      omega
    · rw [if_neg (by exact same)] at inside
      rw [update_of_ne (Ne.symm same)]
      omega

theorem World.Consistent.clear (consistent : world.Consistent)
    (used : (world.sharedMemories slot).used = true) :
    World.Consistent ⟨world.endpoint.setSlot slot zeroSlot,
      world.spmc.note (.relinquish (world.sharedMemories slot).handle true)⟩ := by
  refine ⟨fun other used => ?_, fun other => ?_⟩
  · have apart : other ≠ slot := by
      rintro rfl
      rw [EndpointSp.setSlot_same] at used
      cases used
    rw [world.endpoint.setSlot_other _ apart] at used ⊢
    exact consistent.slots other used
  · have inside := Finset.card_le_card (@EndpointSp.slotsOf_clear _ world.endpoint slot other)
    have before := consistent.counts other
    dsimp only [Spmc.note]
    by_cases same : (world.sharedMemories slot).handle = other
    · subst same
      rw [Finset.card_erase_of_mem (EndpointSp.mem_slotsOf.mpr ⟨used, rfl⟩)] at inside
      rw [update_self]
      omega
    · have shrunk := Finset.card_le_card (Finset.erase_subset slot (world.endpoint.slotsOf other))
      rw [update_of_ne (Ne.symm same)]
      omega

theorem World.Consistent.message {request : Message} {calls : MemoryCalls}
    (consistent : world.Consistent) (lawful : world.Lawful (.message request calls)) :
    (world.step (.message request calls)).Consistent := by
  have receives := tsRpcEndpointSpReceive_receives calls world.endpoint request
  dsimp only [World.step]
  generalize (tsRpcEndpointSpReceive calls world.endpoint request).2 = received at receives ⊢
  cases receives with
  | answered => exact consistent
  | served passed => exact consistent
  | failed handle stillRetrieved =>
    cases stillRetrieved with
    | false => exact consistent
    | true =>
      refine consistent.more fun other => ?_
      by_cases same : other = handle
      · rw [same, update_self]
        exact Nat.le_succ _
      · rw [update_of_ne same]
  | filled slot handle region free answer => exact consistent.fill (lawful _ _ _ answer)
  | kept handle => exact consistent
  | cleared slot handle found => exact consistent.clear (findSharedMemory_slot found).1

theorem World.Consistent.step {event : WorldEvent} (consistent : world.Consistent)
    (lawful : world.Lawful event) : (world.step event).Consistent := by
  cases event with
  | share handle share => exact consistent.share lawful
  | reclaim handle => exact consistent.reclaim lawful
  | message request calls => exact consistent.message lawful

variable {request : Message} {calls : MemoryCalls}

theorem size_le_bytes (sourceId : BitVec 16) (handle : BitVec 64) (region : Region) :
    (retrievedSlot sourceId handle region).size ≤ region.bytes := by
  exact Nat.mod_le _ _

theorem World.Consistent.backs (consistent : world.Consistent)
    (used : (world.sharedMemories slot).used = true) :
    world.spmc.Backs (world.sharedMemories slot) := by
  obtain ⟨region, shared, same⟩ := consistent.slots slot used
  have counted : 0 < (world.endpoint.slotsOf (world.sharedMemories slot).handle).card :=
    Finset.card_pos.mpr ⟨slot, EndpointSp.mem_slotsOf.mpr ⟨used, rfl⟩⟩
  refine ⟨region, ⟨shared, Nat.lt_of_lt_of_le counted (consistent.counts _)⟩, ?_, ?_⟩
  · rw [same]
    rfl
  · rw [same]
    exact size_le_bytes _ _ region

theorem World.Consistent.isolates (consistent : world.Consistent) {service : Service}
    {served : ServiceRequest}
    (passed : serviceRequest world.endpoint request.sourceId request.args = .ok (service, served)) :
    world.spmc.Isolates request served := by
  unfold serviceRequest at passed
  split at passed
  · cases passed
  · cases passed
  · split at passed
    · cases passed
    · rename_i memory found
      split_ifs at passed ⊢ with inside
      cases passed
      refine ⟨rfl, ?_⟩
      unfold requestMemory at found
      split at found
      · obtain ⟨slot, located, same⟩ := Option.map_eq_some_iff.mp found
        obtain ⟨used, owner, named⟩ := findSharedMemory_slot located
        obtain ⟨region, holds, address, fits⟩ := consistent.backs used
        rw [owner, named] at holds
        rw [same] at address fits
        exact .inr ⟨region, holds, address, fits, Nat.le_trans (Nat.le_of_not_lt inside) fits⟩
      · cases found
        exact .inl ⟨rfl, rfl, Nat.le_zero.mp (Nat.le_of_not_lt inside)⟩

variable {received : EndpointSp count × List EndpointCall}

theorem serviceRequest_of_served
    {served : ServiceRequest} (receives : Receives calls endpoint request received)
    (made : .service served ∈ received.2) :
    ∃ service, serviceRequest endpoint request.sourceId request.args = .ok (service, served) := by
  cases receives with
  | answered => cases made
  | served passed =>
    cases List.mem_singleton.mp made
    exact ⟨_, passed⟩
  | failed | filled | kept | cleared => cases List.mem_singleton.mp made

/-- A change of a slot that is not the client's, before or after, is not seen by the client. -/
theorem requestMemory_setSlot {memory : MemorySlot} {client : BitVec 16}
    (before : (endpoint.sharedMemories slot).used = true →
      (endpoint.sharedMemories slot).ownerId ≠ client)
    (after : memory.used = true → memory.ownerId ≠ client) :
    requestMemory (endpoint.setSlot slot memory) client handle =
      requestMemory endpoint client handle := by
  have same : findSharedMemory (endpoint.setSlot slot memory) client handle =
      findSharedMemory endpoint client handle := by
    unfold findSharedMemory
    congr 1
    funext other
    by_cases here : other = slot
    · rw [here, EndpointSp.setSlot_same]
      have unseen : ∀ entry : MemorySlot, (entry.used = true → entry.ownerId ≠ client) →
          (entry.used && entry.ownerId == client && entry.handle == handle) = false := by
        intro entry foreign
        cases used : entry.used with
        | false => rfl
        | true => simp [foreign used]
      rw [unseen _ after, unseen _ before]
    · rw [endpoint.setSlot_other _ here]
  unfold requestMemory
  rw [same]
  split
  · cases found : findSharedMemory endpoint client handle with
    | none => rfl
    | some located =>
      obtain ⟨used, owner, _⟩ := findSharedMemory_slot found
      have apart : located ≠ slot := by
        rintro rfl
        exact before used owner
      simp only [Option.map_some, endpoint.setSlot_other _ apart]
  · rfl

theorem receives_requestMemory
    (receives : Receives calls endpoint request received) {client : BitVec 16}
    (other : request.sourceId ≠ client) (handle : BitVec 64) :
    requestMemory received.1 client handle = requestMemory endpoint client handle := by
  cases receives with
  | answered | served | failed | kept => rfl
  | filled slot own region free answer =>
    apply requestMemory_setSlot
    · intro used
      cases (findFreeSharedMemory_unused free).symm.trans used
    · exact fun _ => other
  | cleared slot own found =>
    apply requestMemory_setSlot
    · intro _
      rw [(findSharedMemory_slot found).2.1]
      exact other
    · exact nofun

/-- In every run with a lawful SPMC, the slots in use describe memory that the endpoint has
retrieved. Of every message, whatever the SPMC answers to it, the service is called with memory of
the message's own client only, and which memory a handle of another client denotes stays. -/
theorem endpoint_isolatesMemory {services : List (Option Service)} {world : World count}
    (reached : Reached World.step (World.initial count services) World.Lawful world) :
    (∀ slot, (world.sharedMemories slot).used = true →
      world.spmc.Backs (world.sharedMemories slot)) ∧
    (∀ request calls served,
      .service served ∈ (tsRpcEndpointSpReceive calls world.endpoint request).2.2 →
      world.spmc.Isolates request served) ∧
    ∀ request calls client handle, request.sourceId ≠ client →
      requestMemory (tsRpcEndpointSpReceive calls world.endpoint request).2.1 client handle =
        requestMemory world.endpoint client handle := by
  have consistent : world.Consistent :=
    reached.invariant _ (World.initial_consistent count services)
      fun _ _ _ consistent lawful => consistent.step lawful
  refine ⟨fun _ used => consistent.backs used, fun request calls served made => ?_,
    fun request calls _ handle other =>
      receives_requestMemory (tsRpcEndpointSpReceive_receives calls _ request) other handle⟩
  obtain ⟨service, passed⟩ :=
    serviceRequest_of_served (tsRpcEndpointSpReceive_receives calls _ request) made
  exact consistent.isolates passed

/-- A service that answers every request without a response. -/
def silentService : Service := ⟨0, fun _ => ⟨.success, 0, 0⟩⟩

/-- An SPMC that knows of two pages of partition 1, under handle 7. -/
def lentPages : MemoryCalls where
  retrieve sender handle :=
    if sender = 1 ∧ handle = 7 then .retrieved ⟨some 0x8000, 2⟩ else .failed false
  relinquish _ := true

/-- Partition 1 shares two pages under handle 7, and the endpoint retrieves them. -/
def retrievalRun : List WorldEvent :=
  [.share 7 ⟨1, ⟨some 0x8000, 2⟩⟩, .message ⟨1, 9, false, ![0xff0001, 7, 0, 0, 0]⟩ lentPages]

/-- A call of the service with the shared memory, of a client. -/
def callMessage (client : BitVec 16) : Message := ⟨client, 9, false, ![0x3, 7, 0, 8000, 0]⟩

/-- Partition 1 reaches the service with its memory; partition 2 does not with the same handle. -/
theorem endpoint_isolatesMemory_retrieval :
    let world := retrievalRun.foldl World.step (World.initial 2 [some silentService])
    (∃ served, (tsRpcEndpointSpReceive lentPages world.endpoint (callMessage 1)).2.2 =
        [.service served] ∧ world.spmc.Isolates (callMessage 1) served) ∧
    (tsRpcEndpointSpReceive lentPages world.endpoint (callMessage 2)).2.2 = [] := by
  intro world
  have reached : Reached World.step (World.initial 2 [some silentService]) World.Lawful world := by
    refine Reached.start.run ⟨rfl, ?_, trivial⟩
    intro sender handle region answer
    simp only [lentPages] at answer
    split_ifs at answer with lent
    rw [lent.1, lent.2, ← Retrieval.retrieved.inj answer]
    rfl
  have isolates := (endpoint_isolatesMemory reached).2.1 (callMessage 1) lentPages
  exact ⟨⟨⟨1, 0, 3, 0, some 0x8000, 8000, 8192⟩, by decide, isolates _ (by decide)⟩, by decide⟩

end TsRpc

import TrustedServices.Crypto.ContextPool

/- The requests that operate on contexts of their client only. -/
namespace Crypto

open Lib Function Provider

variable {size : Nat} {provider : Provider size} {free active : List (Fin size)}
  {context : Fin size}

def Provider.number (provider : Provider size) (context : Fin size) : Nat :=
  match provider.live context with
  | none => 0
  | some setup => setup.number

/-- The free list and the active list are the pool, the active list in the order of the setups with
the last one first. Active contexts have distinct handles other than zero, and the usage and client
of their setup. -/
structure Provider.Pooled (provider : Provider size) (free active : List (Fin size)) : Prop where
  represents : provider.links.Represents free active
  complete : ∀ context, context ∈ free ∨ context ∈ active
  order : active.Pairwise fun later earlier => provider.number earlier < provider.number later
  handles : (active.map fun context => (provider.contexts context).opHandle).Nodup
  nonzero : ∀ context ∈ active, (provider.contexts context).opHandle ≠ 0
  idle : ∀ context ∈ free, (provider.contexts context).opHandle = 0
  setUp : ∀ context ∈ active, ∃ number < provider.setups,
    provider.live context = some ⟨(provider.contexts context).usage,
      (provider.contexts context).clientId, (provider.contexts context).opHandle, number⟩

section

variable (pooled : provider.Pooled free active)

include pooled

theorem Provider.Pooled.active_nodup : active.Nodup :=
  (List.nodup_append.mp pooled.represents.distinct).2.1

theorem Provider.Pooled.active_length : active.length ≤ size := by
  have most := pooled.active_nodup.length_le_card
  rwa [Fintype.card_fin] at most

/-- A provider that agrees on the active contexts keeps what holds of them. -/
theorem Provider.Pooled.of_agree {other : Provider size} {otherFree otherActive : List (Fin size)}
    (represents : other.pool.links.Represents otherFree otherActive)
    (complete : ∀ context, context ∈ otherFree ∨ context ∈ otherActive)
    (idle : ∀ context ∈ otherFree, (other.pool.contexts context).opHandle = 0)
    (fewer : otherActive.Sublist active) (setups : other.setups = provider.setups)
    (contexts : ∀ context ∈ otherActive, other.pool.contexts context = provider.contexts context)
    (live : ∀ context ∈ otherActive, other.live context = provider.live context) :
    other.Pooled otherFree otherActive := by
  refine ⟨represents, complete, ?_, ?_, ?_, idle, ?_⟩
  · refine (pooled.order.sublist fewer).imp_of_mem ?_
    intro later earlier laterIn earlierIn less
    unfold Provider.number at less ⊢
    rwa [live later laterIn, live earlier earlierIn]
  · rw [List.map_congr_left fun context member => by rw [contexts context member]]
    exact (fewer.map _).nodup pooled.handles
  · intro context member
    rw [contexts context member]
    exact pooled.nonzero context (fewer.subset member)
  · intro context member
    rw [contexts context member, live context member, setups]
    exact pooled.setUp context (fewer.subset member)

end

theorem Provider.Pooled.freed {front back : List (Fin size)}
    (pooled : provider.Pooled free (front ++ context :: back)) :
    (provider.free context).Pooled (context :: free) (front ++ back) := by
  have represents := pooled.represents.release
  have apart : ∀ other ∈ front ++ back, other ≠ context := by
    intro other member same
    exact (List.nodup_append.mp represents.distinct).2.2 context (by simp) other member same.symm
  refine pooled.of_agree represents ?_ ?_ ?_ rfl ?_ ?_
  · intro other
    have member := pooled.complete other
    simp only [List.mem_append, List.mem_cons] at member ⊢
    tauto
  · intro other member
    by_cases same : other = context
    · subst same
      exact congrArg CryptoContext.opHandle (update_self other _ provider.contexts)
    · have idle : other ∈ free := (List.mem_cons.mp member).resolve_left same
      show (update provider.contexts context _ other).opHandle = 0
      rw [update_of_ne same]
      exact pooled.idle other idle
  · exact (List.Sublist.cons _ (List.Sublist.refl _)).append_left front
  · intro other member
    exact update_of_ne (apart other member) _ _
  · intro other member
    exact update_of_ne (apart other member) _ _

theorem addToFreeList_fold (contexts : List (Fin size)) {pool : CryptoContextPool size}
    {free : List (Fin size)} (represents : pool.links.Represents free [])
    (zero : ∀ context ∈ free, (pool.contexts context).opHandle = 0)
    (distinct : (contexts.reverse ++ free).Nodup) :
    (contexts.foldl addToFreeList pool).links.Represents (contexts.reverse ++ free) [] ∧
      ∀ context ∈ contexts.reverse ++ free,
        ((contexts.foldl addToFreeList pool).contexts context).opHandle = 0 := by
  induction contexts generalizing pool free with
  | nil => exact ⟨represents, zero⟩
  | cons context rest ih =>
    rw [List.reverse_cons, List.append_assoc, List.singleton_append] at distinct ⊢
    have fresh : context ∉ free := (List.nodup_cons.mp (List.nodup_append.mp distinct).2.1).1
    refine ih (represents.addFree (by rwa [List.append_nil])) ?_ distinct
    intro other member
    by_cases same : other = context
    · subst same
      exact congrArg CryptoContext.opHandle (update_self other _ pool.contexts)
    · show (update pool.contexts context _ other).opHandle = 0
      rw [update_of_ne same]
      exact zero other ((List.mem_cons.mp member).resolve_left same)

theorem Provider.init_pooled (contexts : Fin size → CryptoContext) :
    (Provider.init contexts).Pooled (List.finRange size).reverse [] := by
  have distinct : ((List.finRange size).reverse ++ []).Nodup := by
    rw [List.append_nil, List.nodup_reverse]
    exact List.nodup_finRange size
  obtain ⟨represents, zero⟩ := @addToFreeList_fold size (List.finRange size)
    ⟨Links.empty, contexts, 0⟩ [] Links.Represents.empty (List.forall_mem_nil _) distinct
  rw [List.append_nil] at represents zero
  refine ⟨represents, ?_, List.Pairwise.nil, List.nodup_nil, List.forall_mem_nil _, zero,
    List.forall_mem_nil _⟩
  intro context
  exact .inl (List.mem_reverse.mpr (List.mem_finRange context))

theorem Provider.withRoom_pool : provider.withRoom.pool = provider.pool.withRoom := by
  unfold Provider.withRoom CryptoContextPool.withRoom
  cases provider.pool.recycles with
  | none => rfl
  | some context => rfl

theorem Provider.withRoom_setups : provider.withRoom.setups = provider.setups := by
  unfold Provider.withRoom
  cases provider.pool.recycles with
  | none => rfl
  | some context => rfl

/-- Making room for an allocation leaves all active contexts but the one that is recycled. -/
theorem Provider.Pooled.withRoom (pooled : provider.Pooled free active) :
    ∃ newFree newActive, provider.withRoom.Pooled newFree newActive ∧
      (∀ context ∈ newActive,
        context ∈ active ∧ provider.withRoom.live context = provider.live context) ∧
      ∀ context ∈ active, provider.pool.recycles ≠ some context → context ∈ newActive := by
  have tail := pooled.represents.backward.start_eq
  unfold Provider.withRoom
  cases recycled : provider.pool.recycles with
  | none =>
    exact ⟨free, active, pooled, fun context member => ⟨member, rfl⟩, fun context member _ => member⟩
  | some context =>
    have last : active.reverse.head? = some context := by
      rw [← tail]
      unfold CryptoContextPool.recycles at recycled
      split at recycled
      · exact recycled
      · cases recycled
    obtain ⟨front, rfl⟩ : ∃ front, active = front ++ [context] := by
      rw [List.head?_reverse] at last
      exact List.getLast?_eq_some_iff.mp last
    refine ⟨context :: free, front ++ [], pooled.freed, fun other member => ?_,
      fun other member kept => ?_⟩
    · have distinct := pooled.freed.represents.distinct
      rw [List.cons_append, List.nodup_cons, List.mem_append, not_or] at distinct
      have different : other ≠ context := fun same => distinct.1.2 (same ▸ member)
      rw [List.append_nil] at member
      exact ⟨List.mem_append_left _ member, update_of_ne different _ _⟩
    · have different : other ≠ context := fun same => kept (congrArg some same.symm)
      rw [List.append_nil]
      rcases List.mem_append.mp member with inFront | last
      · exact inFront
      · exact absurd (List.mem_singleton.mp last) different

variable {inUse : BitVec 32 → Bool} {candidate : BitVec 32} {clientId : ClientId}

theorem skipUsed_unused {rounds : Nat}
    (unused : ∃ i < rounds, inUse (candidate + BitVec.ofNat 32 i) = false) :
    inUse (skipUsed inUse rounds candidate) = false := by
  induction rounds generalizing candidate with
  | zero =>
    obtain ⟨i, small, _⟩ := unused
    cases small
  | succ rounds ih =>
    obtain ⟨i, small, free⟩ := unused
    rw [skipUsed]
    split_ifs with used
    · cases i with
      | zero =>
        rw [BitVec.add_zero] at free
        rw [free] at used
        cases used
      | succ i =>
        refine ih ⟨i, by omega, ?_⟩
        rw [BitVec.ofNat_add] at free
        rwa [BitVec.add_assoc, BitVec.add_comm 1]
    · exact Bool.eq_false_of_not_eq_true used

/-- With fewer values in use than there are, the loop ends at one that is not in use. -/
theorem skipUsed_ends {used : List (BitVec 32)}
    {rounds : Nat} (listed : ∀ handle, inUse handle = true → handle ∈ used)
    (few : used.length < rounds) (small : rounds ≤ 2 ^ 32) :
    inUse (skipUsed inUse rounds candidate) = false := by
  apply skipUsed_unused
  by_contra all
  have distinct : ((List.range rounds).map fun i => candidate + BitVec.ofNat 32 i).Nodup := by
    refine (List.nodup_map_iff_inj_on List.nodup_range).mpr ?_
    intro i iIn j jIn same
    have values := congrArg BitVec.toNat ((BitVec.add_right_inj candidate).mp same)
    rw [List.mem_range] at iIn jIn
    rw [BitVec.toNat_ofNat, BitVec.toNat_ofNat, Nat.mod_eq_of_lt (by omega),
      Nat.mod_eq_of_lt (by omega)] at values
    exact values
  have inside : ((List.range rounds).map fun i => candidate + BitVec.ofNat 32 i) ⊆ used := by
    intro handle member
    obtain ⟨i, iIn, rfl⟩ := List.mem_map.mp member
    apply listed
    by_contra unused
    exact all ⟨i, List.mem_range.mp iIn, Bool.eq_false_of_not_eq_true unused⟩
  have length := (List.subperm_of_subset distinct inside).length_le
  rw [List.length_map, List.length_range] at length
  omega

theorem opHandleInUse_iff {pool : CryptoContextPool size} {nodes : List (Fin size)}
    {candidate : BitVec 32} (path : Path pool.links.next pool.links.head nodes)
    (few : nodes.length ≤ size) :
    opHandleInUse pool candidate = true ↔
      candidate ∈ nodes.map fun context => (pool.contexts context).opHandle := by
  unfold opHandleInUse
  rw [path.walk_eq few, List.find?_isSome, List.mem_map]
  constructor
  · rintro ⟨context, member, same⟩
    exact ⟨context, member, (beq_iff_eq.mp same).symm⟩
  · rintro ⟨context, member, same⟩
    exact ⟨context, member, beq_iff_eq.mpr same.symm⟩

theorem Provider.Pooled.allocOpHandle_fresh {rest : List (Fin size)} {usage : CryptoContextOpId}
    {clientId : ClientId} (small : size < 2 ^ 32)
    (pooled : provider.Pooled (context :: rest) active) :
    allocOpHandle (provider.pool.activated context usage clientId) ≠ 0 ∧
      ∀ other ∈ active, (provider.contexts other).opHandle ≠
        allocOpHandle (provider.pool.activated context usage clientId) := by
  have represents := pooled.represents.activate
  have fits : (context :: active).length ≤ size := by
    have most := (List.nodup_append.mp represents.distinct).2.1.length_le_card
    rwa [Fintype.card_fin] at most
  have inUse (candidate : BitVec 32) := @opHandleInUse_iff size
    (provider.pool.activated context usage clientId) (context :: active) candidate
    represents.forward fits
  have fresh : opHandleInUse (provider.pool.activated context usage clientId)
      (allocOpHandle (provider.pool.activated context usage clientId)) = false := by
    refine skipUsed_ends (fun handle => (inUse handle).mp) ?_ small
    rw [List.length_map]
    omega
  have unused (other : Fin size) (member : other ∈ context :: active) :
      ((provider.pool.activated context usage clientId).contexts other).opHandle ≠
        allocOpHandle (provider.pool.activated context usage clientId) := by
    intro same
    have used := (inUse _).mpr (List.mem_map.mpr ⟨other, member, same⟩)
    rw [fresh] at used
    cases used
  have apart : context ∉ active := by
    have distinct := pooled.represents.distinct
    rw [List.cons_append, List.nodup_cons, List.mem_append, not_or] at distinct
    exact distinct.1.2
  constructor
  · -- the context itself still has handle zero
    have zero : ((provider.pool.activated context usage clientId).contexts context).opHandle = 0 := by
      show (update provider.contexts context _ context).opHandle = 0
      rw [update_self]
      exact pooled.idle context (List.mem_cons_self ..)
    have different := unused context (List.mem_cons_self ..)
    rw [zero] at different
    exact different.symm
  · intro other member
    have different := unused other (List.mem_cons_of_mem _ member)
    have notContext : other ≠ context := fun same => apart (same ▸ member)
    have same : (provider.pool.activated context usage clientId).contexts other =
        provider.contexts other := update_of_ne notContext _ _
    rwa [same] at different

def Provider.withSetup (provider : Provider size) (context : Fin size) (usage : CryptoContextOpId)
    (clientId : ClientId) : Provider size :=
  let pool := provider.pool.activated context usage clientId
  let opHandle := allocOpHandle pool
  ⟨{ pool with
      contexts := update pool.contexts context { pool.contexts context with opHandle }
      mostRecentOpHandle := opHandle },
    update provider.live context (some ⟨usage, clientId, opHandle, provider.setups⟩),
    provider.setups + 1⟩

section

variable {usage : CryptoContextOpId} {clientId : ClientId} {other : Fin size}

theorem Provider.withSetup_context :
    (provider.withSetup context usage clientId).pool.contexts context =
      ⟨usage, clientId, allocOpHandle (provider.pool.activated context usage clientId)⟩ := by
  show update _ context _ context = _
  rw [update_self]
  show CryptoContext.mk ((provider.pool.activated context usage clientId).contexts context).usage
    ((provider.pool.activated context usage clientId).contexts context).clientId _ = _
  have own : (provider.pool.activated context usage clientId).contexts context =
      { provider.contexts context with usage, clientId } := update_self ..
  rw [own]

theorem Provider.withSetup_other (different : other ≠ context) :
    (provider.withSetup context usage clientId).pool.contexts other = provider.contexts other := by
  show update _ context _ other = _
  rw [update_of_ne different]
  exact update_of_ne different _ _

theorem Provider.withSetup_live :
    (provider.withSetup context usage clientId).live context = some ⟨usage, clientId,
      allocOpHandle (provider.pool.activated context usage clientId), provider.setups⟩ :=
  update_self ..

theorem Provider.withSetup_live_other (different : other ≠ context) :
    (provider.withSetup context usage clientId).live other = provider.live other :=
  update_of_ne different _ _

theorem Provider.Pooled.withSetup {rest : List (Fin size)} (small : size < 2 ^ 32)
    (pooled : provider.Pooled (context :: rest) active) :
    (provider.withSetup context usage clientId).Pooled rest (context :: active) := by
  obtain ⟨nonzero, fresh⟩ := @Provider.Pooled.allocOpHandle_fresh size provider active context rest
    usage clientId small pooled
  have distinct := pooled.represents.distinct
  rw [List.cons_append, List.nodup_cons, List.mem_append, not_or] at distinct
  have notActive : ∀ other ∈ active, other ≠ context :=
    fun other member same => distinct.1.2 (same ▸ member)
  have notFree : ∀ other ∈ rest, other ≠ context :=
    fun other member same => distinct.1.1 (same ▸ member)
  refine ⟨pooled.represents.activate, ?_, ?_, ?_, ?_, ?_, ?_⟩
  · intro other
    have member := pooled.complete other
    simp only [List.mem_cons] at member ⊢
    tauto
  · refine List.pairwise_cons.mpr ⟨fun other member => ?_, ?_⟩
    · obtain ⟨number, less, setUp⟩ := pooled.setUp other member
      unfold Provider.number
      rw [withSetup_live, withSetup_live_other (notActive other member), setUp]
      exact less
    · refine pooled.order.imp_of_mem ?_
      intro later earlier laterIn earlierIn less
      unfold Provider.number at less ⊢
      rwa [withSetup_live_other (notActive later laterIn),
        withSetup_live_other (notActive earlier earlierIn)]
  · have others : (active.map fun other =>
        ((provider.withSetup context usage clientId).pool.contexts other).opHandle) =
          active.map fun other => (provider.contexts other).opHandle :=
      List.map_congr_left fun other member => by
        rw [withSetup_other (notActive other member)]
    rw [List.map_cons, others, withSetup_context, List.nodup_cons, List.mem_map]
    refine ⟨?_, pooled.handles⟩
    rintro ⟨other, member, same⟩
    exact fresh other member same
  · refine List.forall_mem_cons.mpr ⟨?_, fun other member => ?_⟩
    · rw [withSetup_context]
      exact nonzero
    · rw [withSetup_other (notActive other member)]
      exact pooled.nonzero other member
  · intro other member
    rw [withSetup_other (notFree other member)]
    exact pooled.idle other (List.mem_cons_of_mem _ member)
  · refine List.forall_mem_cons.mpr ⟨?_, fun other member => ?_⟩
    · rw [withSetup_live, withSetup_context]
      exact ⟨provider.setups, Nat.lt_succ_self _, rfl⟩
    · obtain ⟨number, less, setUp⟩ := pooled.setUp other member
      rw [withSetup_live_other (notActive other member), withSetup_other (notActive other member)]
      exact ⟨number, Nat.lt_succ_of_lt less, setUp⟩

end

section

variable {usage : CryptoContextOpId}

/-- An allocation makes room, and sets up a free context if there is one. -/
theorem Provider.Pooled.alloc_some (pooled : provider.withRoom.Pooled (context :: free) active) :
    provider.alloc usage clientId =
      (some (context, allocOpHandle (provider.withRoom.pool.activated context usage clientId)),
        provider.withRoom.withSetup context usage clientId) := by
  have head := pooled.represents.freePath.start_eq
  rw [withRoom_pool] at head
  unfold Provider.alloc cryptoContextPoolAlloc Provider.withSetup
  rw [head, withRoom_pool, withRoom_setups]
  rfl

theorem Provider.Pooled.alloc_none (pooled : provider.withRoom.Pooled [] active) :
    provider.alloc usage clientId = (none, provider.withRoom) := by
  have head := pooled.represents.freePath.start_eq
  rw [withRoom_pool] at head
  unfold Provider.alloc cryptoContextPoolAlloc
  rw [head]
  show (none, (⟨provider.pool.withRoom, provider.withRoom.live, provider.setups⟩ :
    Provider size)) = _
  rw [← withRoom_pool, ← withRoom_setups]

theorem Provider.Pooled.find {opHandle : BitVec 32} (pooled : provider.Pooled free active)
    (found : cryptoContextPoolFind provider.pool usage clientId opHandle = some context) :
    context ∈ active ∧ ∃ number, provider.live context = some ⟨usage, clientId, opHandle, number⟩ := by
  unfold cryptoContextPoolFind at found
  rw [pooled.represents.forward.walk_eq pooled.active_length] at found
  have member := List.mem_of_find?_eq_some found
  have matched := List.find?_some found
  rw [Bool.and_eq_true, Bool.and_eq_true, beq_iff_eq, beq_iff_eq, beq_iff_eq] at matched
  obtain ⟨⟨sameHandle, sameUsage⟩, sameClient⟩ := matched
  obtain ⟨number, _, setUp⟩ := pooled.setUp context member
  rw [sameHandle, sameUsage, sameClient] at setUp
  exact ⟨member, number, setUp⟩

end

def Provider.WellFormed (provider : Provider size) : Prop :=
  ∃ free active, provider.Pooled free active

theorem Provider.Pooled.wellFormed_free (pooled : provider.Pooled free active)
    (member : context ∈ active) : (provider.free context).WellFormed := by
  obtain ⟨front, back, rfl⟩ := List.append_of_mem member
  exact ⟨_, _, pooled.freed⟩

theorem Provider.wellFormed_ite {condition : Prop} [Decidable condition] {first second : Provider size}
    (firstFormed : first.WellFormed) (secondFormed : second.WellFormed) :
    (if condition then first else second).WellFormed := by
  split
  · exact firstFormed
  · exact secondFormed

variable (request : MultipartRequest)

/-- The request is a clone of the last active context, while no context is free. -/
def Provider.RecyclesSource (provider : Provider size) (request : MultipartRequest) : Prop :=
  request.opcode = .hashClone ∧ ∃ context,
    cryptoContextPoolFind provider.pool .hash request.sourceId request.opHandle = some context ∧
      provider.pool.recycles = some context

variable {source : Fin size}

/-- The source of a clone that is not recycled is still the one that was found. -/
theorem hashCloneHandler_proper (usage : request.opcode.usage = .hash)
    (pooled : provider.Pooled free active)
    (found : cryptoContextPoolFind provider.pool .hash request.sourceId request.opHandle =
      some source) (stays : provider.pool.recycles ≠ some source) :
    ∀ operation ∈ (hashCloneHandler provider request).operations, operation.Proper := by
  obtain ⟨isActive, number, known⟩ := pooled.find found
  obtain ⟨newFree, newActive, roomy, kept, remains⟩ := pooled.withRoom
  have stillActive := remains source isActive stays
  have sameLive := (kept source stillActive).2
  unfold hashCloneHandler
  rw [found]
  cases newFree with
  | nil =>
    rw [roomy.alloc_none]
    exact List.forall_mem_nil _
  | cons context rest =>
    have different : source ≠ context := by
      have distinct := roomy.represents.distinct
      rw [List.cons_append, List.nodup_cons, List.mem_append, not_or] at distinct
      exact fun same => distinct.1.2 (same ▸ stillActive)
    rw [roomy.alloc_some]
    refine List.forall_mem_cons.mpr ⟨⟨⟨provider.withRoom.setups, ?_⟩, rfl⟩,
      List.forall_mem_singleton.mpr ⟨⟨number, ?_⟩, ?_⟩⟩
    · unfold MultipartRequest.operation
      rw [usage]
      exact withSetup_live
    · unfold MultipartRequest.operation
      rw [usage]
      exact known
    · exact (withSetup_live_other different).trans sameLive

/-- One that is recycled has become the target. -/
theorem hashCloneHandler_improper (pooled : provider.Pooled free active)
    (found : cryptoContextPoolFind provider.pool .hash request.sourceId request.opHandle =
      some source) (recycled : provider.pool.recycles = some source) :
    ∃ operation ∈ (hashCloneHandler provider request).operations, ¬operation.Proper := by
  obtain ⟨isActive, _⟩ := pooled.find found
  obtain ⟨number, less, known⟩ := pooled.setUp source isActive
  obtain ⟨newFree, newActive, roomy, _⟩ := pooled.withRoom
  have head := roomy.represents.freePath.start_eq
  have first : provider.withRoom.pool.links.free = some source := by
    unfold Provider.withRoom
    rw [recycled]
    rfl
  rw [first] at head
  obtain ⟨rest, rfl⟩ := List.head?_eq_some_iff.mp head.symm
  unfold hashCloneHandler
  rw [found]
  rw [roomy.alloc_some]
  refine ⟨_, List.mem_cons_of_mem _ (List.mem_singleton.mpr rfl), fun proper => ?_⟩
  have same := proper.since
  have live := @withSetup_live _ provider.withRoom source .hash request.sourceId
  rw [withRoom_setups] at live
  have numbers := live.symm.trans (same.trans known)
  have equal := congrArg Setup.number (Option.some.inj numbers)
  dsimp only at equal
  omega

theorem Opcode.eq_hashClone {opcode : Opcode} (clone : opcode.action = .clone) :
    opcode = .hashClone := by
  cases opcode <;> first | rfl | cases clone

section

variable (wellFormed : provider.WellFormed)

include wellFormed

theorem setupHandler_wellFormed (small : size < 2 ^ 32) :
    (setupHandler provider request).provider.WellFormed := by
  obtain ⟨_, _, pooled⟩ := wellFormed
  obtain ⟨free, active, roomy, _⟩ := pooled.withRoom
  unfold setupHandler
  cases free with
  | nil =>
    rw [roomy.alloc_none]
    exact ⟨_, _, roomy⟩
  | cons context rest =>
    have next := @Provider.Pooled.withSetup _ _ _ _ request.opcode.usage request.sourceId _ small
      roomy
    rw [roomy.alloc_some]
    exact wellFormed_ite (next.wellFormed_free (List.mem_cons_self ..)) ⟨_, _, next⟩

theorem setupHandler_proper :
    ∀ operation ∈ (setupHandler provider request).operations, operation.Proper := by
  obtain ⟨_, _, pooled⟩ := wellFormed
  obtain ⟨free, active, roomy, _⟩ := pooled.withRoom
  unfold setupHandler
  cases free with
  | nil =>
    rw [roomy.alloc_none]
    exact List.forall_mem_nil _
  | cons context rest =>
    rw [roomy.alloc_some]
    exact List.forall_mem_singleton.mpr ⟨⟨_, withSetup_live⟩, rfl⟩

variable (missing : PsaStatus) (frees : PsaStatus → Bool)

theorem findHandler_wellFormed :
    (findHandler provider request missing frees).provider.WellFormed := by
  unfold findHandler
  split
  · exact wellFormed
  · rename_i context found
    obtain ⟨_, _, pooled⟩ := wellFormed
    split
    · exact wellFormed_ite (pooled.wellFormed_free (pooled.find found).1) ⟨_, _, pooled⟩
    · exact ⟨_, _, pooled⟩

theorem findHandler_proper :
    ∀ operation ∈ (findHandler provider request missing frees).operations, operation.Proper := by
  unfold findHandler
  split
  · exact List.forall_mem_nil _
  · rename_i context found
    obtain ⟨_, _, pooled⟩ := wellFormed
    split
    · exact List.forall_mem_singleton.mpr ⟨(pooled.find found).2, rfl⟩
    · exact List.forall_mem_nil _

theorem hashCloneHandler_wellFormed (small : size < 2 ^ 32) :
    (hashCloneHandler provider request).provider.WellFormed := by
  unfold hashCloneHandler
  split
  · exact wellFormed
  · obtain ⟨_, _, pooled⟩ := wellFormed
    obtain ⟨free, active, roomy, _⟩ := pooled.withRoom
    cases free with
    | nil =>
      rw [roomy.alloc_none]
      exact ⟨_, _, roomy⟩
    | cons context rest =>
      rw [roomy.alloc_some]
      exact ⟨_, _, roomy.withSetup small⟩

theorem hashCloneHandler_proper_iff (clone : request.opcode = .hashClone) :
    (∀ operation ∈ (hashCloneHandler provider request).operations, operation.Proper) ↔
      ¬provider.RecyclesSource request := by
  obtain ⟨_, _, pooled⟩ := wellFormed
  constructor
  · rintro proper ⟨-, source, found, recycled⟩
    obtain ⟨operation, member, improper⟩ := hashCloneHandler_improper request pooled found recycled
    exact improper (proper operation member)
  · intro stays
    cases found : cryptoContextPoolFind provider.pool .hash request.sourceId request.opHandle with
    | none =>
      unfold hashCloneHandler
      rw [found]
      exact List.forall_mem_nil _
    | some source =>
      exact hashCloneHandler_proper request (congrArg Opcode.usage clone) pooled found
        fun recycled => stays ⟨clone, source, found, recycled⟩

theorem Provider.WellFormed.handle (small : size < 2 ^ 32) :
    (provider.handle request).provider.WellFormed := by
  unfold Provider.handle
  split
  · exact setupHandler_wellFormed request wellFormed small
  · exact findHandler_wellFormed request wellFormed _ _
  · exact findHandler_wellFormed request wellFormed _ _
  · exact findHandler_wellFormed request wellFormed _ _
  · exact hashCloneHandler_wellFormed request wellFormed small

theorem Provider.WellFormed.handle_proper (other : request.opcode.action ≠ .clone) :
    ∀ operation ∈ (provider.handle request).operations, operation.Proper := by
  unfold Provider.handle
  split
  · exact setupHandler_proper request wellFormed
  · exact findHandler_proper request wellFormed _ _
  · exact findHandler_proper request wellFormed _ _
  · exact findHandler_proper request wellFormed _ _
  · rename_i clone
    exact absurd clone other

theorem Provider.WellFormed.handle_proper_iff :
    (∀ operation ∈ (provider.handle request).operations, operation.Proper) ↔
      ¬provider.RecyclesSource request := by
  by_cases clone : request.opcode.action = .clone
  · unfold Provider.handle
    rw [clone]
    exact hashCloneHandler_proper_iff request wellFormed (Opcode.eq_hashClone clone)
  · refine ⟨fun _ recycles => clone ?_, fun _ => wellFormed.handle_proper request clone⟩
    rw [recycles.1]
    rfl

end

theorem providers_wellFormed (small : size < 2 ^ 32)
    {contexts : CryptoContextOpId → Fin size → CryptoContext} {providers : Providers size}
    (reached : Reached Providers.step (Providers.init contexts) (fun _ _ => True) providers) :
    ∀ usage, (providers usage).WellFormed := by
  refine reached.invariant (fun providers => ∀ usage, (providers usage).WellFormed) ?_ ?_
  · intro usage
    exact ⟨_, _, init_pooled (contexts usage)⟩
  · intro providers request _ wellFormed _ usage
    unfold Providers.step
    by_cases same : usage = request.opcode.usage
    · subst same
      rw [update_self]
      exact (wellFormed _).handle request small
    · rw [update_of_ne same]
      exact wellFormed usage

/-- After any requests, the lists of each pool are as they should be, and a request operates on
contexts of its client only, if and only if it does not clone a context that it recycles. -/
theorem contexts_private (small : size < 2 ^ 32)
    {contexts : CryptoContextOpId → Fin size → CryptoContext} {providers : Providers size}
    (reached : Reached Providers.step (Providers.init contexts) (fun _ _ => True) providers) :
    (∀ usage, ∃ free active, (providers usage).Pooled free active) ∧
      ∀ request : MultipartRequest,
        (∀ operation ∈ (providers.handle request).operations, operation.Proper) ↔
          ¬(providers request.opcode.usage).RecyclesSource request :=
  ⟨providers_wellFormed small reached, fun request =>
    (providers_wellFormed small reached _).handle_proper_iff request⟩

/-- Ten hash operations of one client, which fill a pool of ten contexts. -/
def fullPool : Providers 10 :=
  (List.replicate 10 ⟨.hashSetup, 1, 0, true, psaSuccess, rpcSuccess⟩).foldl Providers.step
    (Providers.init fun _ _ => ⟨.none, 0, 0⟩)

theorem contexts_private_fullPool :
    10 < 2 ^ 32 ∧ (∀ usage, ∃ free active, (fullPool usage).Pooled free active) ∧
      ∀ request : MultipartRequest,
        (∀ operation ∈ (fullPool.handle request).operations, operation.Proper) ↔
          ¬(fullPool request.opcode.usage).RecyclesSource request :=
  ⟨by decide, contexts_private (by decide) (reached_foldl _ (fun _ _ _ => trivial) .start)⟩

/-- The clone of the first of them: the source is recycled for the target, with handle 11. -/
theorem oldestClone_improper :
    (fullPool.handle ⟨.hashClone, 1, 1, true, psaErrorBadState, rpcSuccess⟩).operations =
        [⟨.hash, 1, 11, some ⟨.hash, 1, 11, 10⟩, some ⟨.hash, 1, 11, 10⟩⟩,
          ⟨.hash, 1, 1, some ⟨.hash, 1, 1, 0⟩, some ⟨.hash, 1, 11, 10⟩⟩] ∧
      ¬∀ operation ∈
        (fullPool.handle ⟨.hashClone, 1, 1, true, psaErrorBadState, rpcSuccess⟩).operations,
          operation.Proper := by
  have operations :
      (fullPool.handle ⟨.hashClone, 1, 1, true, psaErrorBadState, rpcSuccess⟩).operations =
        [⟨.hash, 1, 11, some ⟨.hash, 1, 11, 10⟩, some ⟨.hash, 1, 11, 10⟩⟩,
          ⟨.hash, 1, 1, some ⟨.hash, 1, 1, 0⟩, some ⟨.hash, 1, 11, 10⟩⟩] := by decide +kernel
  refine ⟨operations, fun proper => ?_⟩
  rw [operations] at proper
  have source := (proper _ (List.mem_cons_of_mem _ (List.mem_singleton.mpr rfl))).since
  revert source
  decide

end Crypto

import TrustedServices.SmmVariable.SecureBoot

/- The walk of `verify_var_by_key_var` through the payload of a key variable. -/
namespace SmmVariable

open Lib

/-- A step reads within the payload, and does not divide by zero. -/
def WalkStep.Allowed (length : Nat) : WalkStep → Prop
  | .header offset => offset + signatureListHeader ≤ length
  | .divide divisor => divisor ≠ 0
  | .certificate offset size => offset + size ≤ length

/-- The verification returns, and all of its steps are allowed. -/
def WalkSafe (env : Env) (map : EfiDataMap) (hash payload : Bytes) : Prop :=
  verifyVarByKeyVar env map hash payload ≠ .noReturn ∧
    ∀ step ∈ (walkKeyVar env map hash payload).2, step.Allowed payload.length

/-- A list that the walk can go through: its signatures lie behind its header, and there are none or
they have room for their owner. -/
def SignatureList.Walkable (list : SignatureList) : Prop :=
  list.signatureSize ≠ 0 ∧ signatureListHeader + list.signatureHeaderSize ≤ list.signatureListSize ∧
    (list.signatures = 0 ∨ signatureOwnerSize ≤ list.signatureSize)

instance (list : SignatureList) : Decidable list.Walkable :=
  inferInstanceAs (Decidable (_ ∧ _ ∧ _))

/-- Every list that the walk comes to has a header, and if the walk goes on with it, it can be gone
through. -/
def walkableLists : Nat → Bytes → Bool
  | 0, _ => false
  | fuel + 1, rest =>
    rest.isEmpty ||
      (decide (signatureListHeader ≤ rest.length) &&
        (!decide ((SignatureList.ofBytes rest).Entered rest.length) ||
          (decide (SignatureList.ofBytes rest).Walkable &&
            walkableLists fuel (rest.drop (SignatureList.ofBytes rest).signatureListSize))))

def WalkableKey (payload : Bytes) : Prop :=
  walkableLists (payload.length + 1) payload = true

instance (payload : Bytes) : Decidable (WalkableKey payload) :=
  inferInstanceAs (Decidable (_ = _))

section

variable {env : Env} {map : EfiDataMap} {hash : Bytes} {memory : Nat → UInt8}
  {signatureSize count start : Nat}

theorem verifyByCertificates_allowed {length : Nat} (inside : ∀ index < count,
      start + index * signatureSize + 16 + (2 ^ 64 + signatureSize - 16) % 2 ^ 64 ≤ length) :
    ∀ step ∈ (verifyByCertificates env map hash memory signatureSize count start).2,
      step.Allowed length := by
  induction count generalizing start with
  | zero =>
    intro step member
    cases member
  | succ count ih =>
    intro step member
    rcases List.mem_cons.mp member with rfl | later
    · have first := inside 0 (Nat.succ_pos _)
      rw [Nat.zero_mul, Nat.add_zero] at first
      exact first
    · split at later
      · cases later
      · refine ih (fun index below => ?_) step later
        have next := inside (index + 1) (Nat.succ_lt_succ below)
        rw [Nat.succ_mul] at next
        omega

section

variable (refuses : ∀ certData hash key, env.verifyPkcs7Signature certData hash key = false)

include refuses

/-- If no certificate verifies the request, all of them are read. -/
theorem certificate_mem_walk {index : Nat} (below : index < count) :
    WalkStep.certificate (start + index * signatureSize + 16)
        ((2 ^ 64 + signatureSize - 16) % 2 ^ 64) ∈
      (verifyByCertificates env map hash memory signatureSize count start).2 := by
  induction count generalizing start index with
  | zero => omega
  | succ count ih =>
    cases index with
    | zero =>
      rw [Nat.zero_mul, Nat.add_zero]
      exact List.mem_cons_self
    | succ index =>
      apply List.mem_cons_of_mem
      rw [refuses, if_neg Bool.false_ne_true, Nat.succ_mul,
        Nat.add_comm (index * signatureSize), ← Nat.add_assoc]
      exact ih (Nat.lt_of_succ_lt_succ below)

theorem verifyByCertificates_refused :
    (verifyByCertificates env map hash memory signatureSize count start).1 = false := by
  induction count generalizing start with
  | zero => rfl
  | succ count ih =>
    rw [verifyByCertificates, refuses, if_neg Bool.false_ne_true]
    exact ih

end

end

section

variable {env : Env} {map : EfiDataMap} {hash payload : Bytes} {fuel start : Nat}

variable {list : SignatureList}

/-- A list that can be gone through has its certificates within the bytes that are left. -/
theorem SignatureList.Walkable.inside {size index : Nat}
    (walkable : list.Walkable) (small : list.signatureListSize < 2 ^ 32 ∧ list.signatureSize < 2 ^ 32)
    (fits : list.signatureListSize ≤ size) (below : index < list.computedSignatures) :
    28 + list.signatureHeaderSize + index * list.signatureSize + 16 +
      (2 ^ 64 + list.signatureSize - 16) % 2 ^ 64 ≤ size := by
  obtain ⟨nonzero, headerFits, owner⟩ := walkable
  unfold signatureListHeader at headerFits
  have count : list.computedSignatures = list.signatures := by
    unfold SignatureList.computedSignatures SignatureList.signatures signatureListHeader
    congr 1
    omega
  rw [count] at below
  have enough : signatureOwnerSize ≤ list.signatureSize := by
    rcases owner with none | enough
    · omega
    · exact enough
  unfold signatureOwnerSize at enough
  have last : (index + 1) * list.signatureSize ≤
      list.signatureListSize - signatureListHeader - list.signatureHeaderSize :=
    Nat.le_trans (Nat.mul_le_mul_right _ below) (Nat.div_mul_le_self _ _)
  unfold signatureListHeader at last
  rw [Nat.succ_mul] at last
  omega

/-- A list is one that the walk can go through if all of its certificates lie in a memory. -/
theorem walkable_of_certificates (inMemory : payload.length < 2 ^ 63)
    (small : list.signatureListSize < 2 ^ 32 ∧ list.signatureHeaderSize < 2 ^ 32 ∧
      list.signatureSize < 2 ^ 32) (nonzero : list.signatureSize ≠ 0)
    (certificates : ∀ index < list.computedSignatures,
      start + 28 + list.signatureHeaderSize + index * list.signatureSize + 16 +
        (2 ^ 64 + list.signatureSize - 16) % 2 ^ 64 ≤ payload.length) : list.Walkable := by
  have headerFits : signatureListHeader + list.signatureHeaderSize ≤ list.signatureListSize := by
    -- Otherwise the number of signatures wraps, and the last one lies far behind the memory.
    by_contra short
    unfold signatureListHeader at short
    have product := Nat.div_add_mod
      ((2 ^ 64 + list.signatureListSize - 28 - list.signatureHeaderSize) % 2 ^ 64) list.signatureSize
    have remainder := Nat.mod_lt
      ((2 ^ 64 + list.signatureListSize - 28 - list.signatureHeaderSize) % 2 ^ 64)
      (Nat.pos_of_ne_zero nonzero)
    rw [Nat.mul_comm, ← SignatureList.computedSignatures.eq_def] at product
    have some : list.computedSignatures ≠ 0 := by
      intro zero
      rw [zero, Nat.zero_mul] at product
      omega
    have last := certificates (list.computedSignatures - 1) (by omega)
    rw [Nat.sub_one_mul] at last
    omega
  refine ⟨nonzero, headerFits, ?_⟩
  by_contra neither
  unfold signatureOwnerSize at neither
  unfold signatureListHeader at headerFits
  have first := certificates 0 (by
    have count : list.computedSignatures = list.signatures := by
      unfold SignatureList.computedSignatures SignatureList.signatures signatureListHeader
      congr 1
      omega
    omega)
  omega

theorem SignatureList.ofBytes_small (rest : Bytes) :
    (SignatureList.ofBytes rest).signatureListSize < 2 ^ 32 ∧
      (SignatureList.ofBytes rest).signatureHeaderSize < 2 ^ 32 ∧
      (SignatureList.ofBytes rest).signatureSize < 2 ^ 32 :=
  ⟨leNat_word_lt _ _, leNat_word_lt _ _, leNat_word_lt _ _⟩

/-- The walk through lists that it can go through, from any of them on. -/
theorem walkableLists_safe (inside : start ≤ payload.length)
    (walkable : walkableLists fuel (payload.drop start) = true) :
    (verifyBySignatureLists env map hash (keyMemory env payload) fuel start
        (payload.length - start)).1 ≠ .noReturn ∧
      ∀ step ∈ (verifyBySignatureLists env map hash (keyMemory env payload) fuel start
        (payload.length - start)).2, step.Allowed payload.length := by
  induction fuel generalizing start with
  | zero => cases walkable
  | succ fuel ih =>
    rw [walkableLists, Bool.or_eq_true, Bool.and_eq_true, decide_eq_true_eq] at walkable
    rcases walkable with empty | ⟨header, rest⟩
    · have done : payload.length - start = 0 := by
        rw [List.isEmpty_iff, List.drop_eq_nil_iff] at empty
        omega
      rw [done, verifyBySignatureLists]
      exact ⟨by rintro ⟨⟩, fun step member => by cases member⟩
    · have small := SignatureList.ofBytes_small (payload.drop start)
      generalize isList : SignatureList.ofBytes (payload.drop start) = list at rest small
      have headerAllowed : (WalkStep.header start).Allowed payload.length := by
        rw [List.length_drop] at header
        unfold WalkStep.Allowed
        omega
      rw [verifyBySignatureLists_list inside header isList]
      by_cases entered : list.Entered (payload.drop start).length
      · rw [if_pos entered]
        rw [decide_eq_true entered, Bool.not_true, Bool.false_or, Bool.and_eq_true,
          decide_eq_true_eq, List.drop_drop] at rest
        obtain ⟨listWalkable, later⟩ := rest
        have fits := entered.1
        rw [List.length_drop] at fits
        have next : start + list.signatureListSize ≤ payload.length := by omega
        obtain ⟨returns, allowed⟩ := ih next later
        rw [if_neg listWalkable.1]
        constructor
        · dsimp only
          split
          · rintro ⟨⟩
          · exact returns
        · intro step member
          rcases List.mem_cons.mp member with rfl | member
          · exact headerAllowed
          rcases List.mem_cons.mp member with rfl | member
          · exact listWalkable.1
          rcases List.mem_append.mp member with read | further
          · refine verifyByCertificates_allowed (fun index below => ?_) step read
            have bound := listWalkable.inside ⟨small.1, small.2.2⟩ fits below
            omega
          · split at further
            · cases further
            · exact allowed step further
      · rw [if_neg entered]
        constructor
        · dsimp only
          split
          · rintro ⟨⟩
          · rintro ⟨⟩
        · intro step member
          rw [List.mem_singleton.mp member]
          exact headerAllowed

/-- A walk with safe steps in which no certificate verifies the request has only come to lists that
it can go through. -/
theorem walkableLists_of_safe (inMemory : payload.length < 2 ^ 63) (refuses : ∀ certData hash key,
    env.verifyPkcs7Signature certData hash key = false) (inside : start ≤ payload.length)
    (returns : (verifyBySignatureLists env map hash (keyMemory env payload) fuel start
      (payload.length - start)).1 ≠ .noReturn)
    (allowed : ∀ step ∈ (verifyBySignatureLists env map hash (keyMemory env payload) fuel start
      (payload.length - start)).2, step.Allowed payload.length) :
    walkableLists fuel (payload.drop start) = true := by
  induction fuel generalizing start with
  | zero => exact absurd rfl returns
  | succ fuel ih =>
    rw [walkableLists, Bool.or_eq_true, Bool.and_eq_true, decide_eq_true_eq]
    by_cases empty : (payload.drop start).isEmpty = true
    · exact .inl empty
    right
    have left : payload.length - start ≠ 0 := by
      intro zero
      apply empty
      rw [List.isEmpty_iff, List.drop_eq_nil_iff]
      omega
    have header : signatureListHeader ≤ (payload.drop start).length := by
      have first : (WalkStep.header start).Allowed payload.length := by
        apply allowed
        rw [verifyBySignatureLists, if_neg left]
        split_ifs <;> exact List.mem_cons_self
      unfold WalkStep.Allowed at first
      rw [List.length_drop]
      omega
    refine ⟨header, ?_⟩
    have small := SignatureList.ofBytes_small (payload.drop start)
    generalize isList : SignatureList.ofBytes (payload.drop start) = list at small ⊢
    rw [verifyBySignatureLists_list inside header isList] at allowed returns
    by_cases entered : list.Entered (payload.drop start).length
    · rw [if_pos entered] at allowed returns
      rw [decide_eq_true entered, Bool.not_true, Bool.false_or, Bool.and_eq_true,
        decide_eq_true_eq, List.drop_drop]
      have nonzero : list.signatureSize ≠ 0 := by
        intro zero
        rw [if_pos zero] at returns
        exact returns rfl
      have fits := entered.1
      rw [List.length_drop] at fits
      simp only [if_neg nonzero, verifyByCertificates_refused refuses,
        if_neg Bool.false_ne_true] at allowed returns
      have certificates : ∀ index < list.computedSignatures,
          start + 28 + list.signatureHeaderSize + index * list.signatureSize + 16 +
            (2 ^ 64 + list.signatureSize - 16) % 2 ^ 64 ≤ payload.length := by
        intro index below
        apply allowed (.certificate _ _)
        apply List.mem_cons_of_mem
        apply List.mem_cons_of_mem
        exact List.mem_append_left _ (certificate_mem_walk refuses below)
      refine ⟨walkable_of_certificates inMemory small nonzero certificates, ?_⟩
      refine ih (by omega) returns fun step member => ?_
      apply allowed
      apply List.mem_cons_of_mem
      apply List.mem_cons_of_mem
      exact List.mem_append_right _ member
    · rw [decide_eq_false entered]
      rfl

/-- The verification by a key variable returns and stays within its payload for every request,
exactly if every list that the walk comes to has a header and can be gone through. -/
theorem verifyVarByKeyVar_safe_iff (payload : Bytes) (inMemory : payload.length < 2 ^ 63) :
    (∀ env map hash, WalkSafe env map hash payload) ↔ WalkableKey payload := by
  constructor
  · intro safe
    obtain ⟨returns, allowed⟩ := safe .calm
      ⟨.zero, winCertTypeEfiGuid, efiCertTypePkcs7Guid, [], 40, []⟩ []
    exact walkableLists_of_safe inMemory (fun _ _ _ => rfl) (Nat.zero_le _) returns allowed
  · intro walkable env map hash
    exact walkableLists_safe (Nat.zero_le _) walkable

end

theorem verifyVarByKeyVar_safe_sampleKey :
    sampleKey.length < 2 ^ 63 ∧ ∀ env map hash, WalkSafe env map hash sampleKey :=
  ⟨by decide, (verifyVarByKeyVar_safe_iff sampleKey (by decide)).mpr (by decide +kernel)⟩

/-- A list without certificates whose signatures have no size. -/
def sizelessKey : Bytes :=
  efiCertX509Guid.toBytes ++ [28, 0, 0, 0, 0, 0, 0, 0, 0, 0, 0, 0]

/-- Such a list can be enrolled as the platform key, and the next verification divides by zero. -/
theorem sizelessKey_divides :
    let map : EfiDataMap :=
      ⟨⟨2024, 1, 1, 0, 0, 2, 0, 0, 0, 0, 0⟩, 0x0EF1, efiCertTypePkcs7Guid, [], 40, []⟩
    (∃ store, Reachable (.standard true) 3 (.running store) ∧
      store.view.values (efiGlobalVariable, efiPlatformKeyName) = some (0x27#32, sizelessKey)) ∧
    (walkKeyVar .calm map [] sizelessKey).2 = [.header 0, .divide 0] ∧
    ¬WalkSafe .calm map [] sizelessKey := by
  intro map
  have walk : (walkKeyVar .calm map [] sizelessKey).2 = [.header 0, .divide 0] := by
    decide +kernel
  refine ⟨exists_reachable [.powerOn .calm, .request .calm (.setVariable ⟨efiGlobalVariable,
    0x27#32, efiPlatformKeyName, signedData 1 sizelessKey⟩)] (by decide +kernel), walk,
    fun safe => ?_⟩
  have nonzero := safe.2 (.divide 0) (by rw [walk]; decide)
  exact nonzero rfl

end SmmVariable

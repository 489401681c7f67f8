import TrustedServices.SmmVariable.SecureBoot

/- The authentication of the secure boot variables, with every allocation and read. -/
namespace SmmVariable

open Lib

/-- A call of `verify_var_by_key_var`: the key variable, what the store holds of it, and the
result. -/
structure KeyCheck where
  name : Bytes
  payload : Bytes
  status : EfiStatus
  deriving DecidableEq, Repr

section

variable (env : Env) (map : EfiDataMap) (hash : Bytes) (maxVariableSize : Nat)

def keyChecks : List (Nat × Bytes) → UefiVariableStore → List KeyCheck
  | [], _ => []
  | (index, name) :: rest, store =>
    if !env.malloc (.allowedKeyStoreVariable index) then keyChecks rest store
    else
      let key := uefiVariableStoreGetVariable env store efiGlobalVariable name maxVariableSize
        maxVariableSize
      if key.1.status ≠ .success then []
      else
        let verified := verifyVarByKeyVar env map hash key.1.data
        ⟨name, key.1.data, verified⟩ ::
          if verified = .success ∨ verified = .noReturn then [] else keyChecks rest key.2

section

variable (store : UefiVariableStore)

/-- The read of the platform key that decides whether requests are authenticated. -/
def readPlatformKey : GetVariableResult × UefiVariableStore :=
  uefiVariableStoreGetVariable env store efiGlobalVariable efiPlatformKeyName maxVariableSize
    maxVariableSize

/-- The platform key was found to be absent or empty. -/
def PlatformKeyMissing : Prop :=
  (readPlatformKey env maxVariableSize store).1.status = .notFound ∨
    (readPlatformKey env maxVariableSize store).1.status = .success ∧
      (readPlatformKey env maxVariableSize store).1.dataSize = 0

/-- The platform key was read and is not empty. -/
def PlatformKeyEnrolled : Prop :=
  env.malloc .pkVariable = true ∧
    (readPlatformKey env maxVariableSize store).1.status = .success ∧
    (readPlatformKey env maxVariableSize store).1.dataSize ≠ 0

/-- The calls that `authenticate_secure_boot_variable` makes. -/
def secureBootChecks (variable_ : AccessVariable) : List KeyCheck :=
  let pk := readPlatformKey env maxVariableSize store
  if env.malloc .pkVariable ∧ pk.1.status = .success ∧ pk.1.dataSize ≠ 0 then
    match selectVerificationKeys variable_.guid variable_.name with
    | .error _ => []
    | .ok names => keyChecks env map hash maxVariableSize ((List.range names.length).zip names) pk.2
  else []

/-- A success means that the platform key is missing, or that one of the signers verified the
request. -/
def FailsClosed (variable_ : AccessVariable) : Prop :=
  (authenticateSecureBootVariable env store variable_ map hash maxVariableSize).1 = .success →
    PlatformKeyMissing env maxVariableSize store ∨
    ∃ check ∈ secureBootChecks env map hash maxVariableSize store variable_,
      check.name ∈ signersOf (variable_.guid, variable_.name) ∧ check.status = .success

end

end

variable {env : Env} {map : EfiDataMap} {hash : Bytes} {maxVariableSize : Nat}
  {store : UefiVariableStore} {request : AccessVariable} {keys : List (Nat × Bytes)}
  {status : EfiStatus}

/-- Without any allocation, the loop leaves the status as it was. -/
theorem verifyByKeyVariables_unallocated
    (none : ∀ key ∈ keys, env.malloc (.allowedKeyStoreVariable key.1) = false) :
    verifyByKeyVariables env map hash maxVariableSize status keys store = (status, store) ∧
      keyChecks env map hash maxVariableSize keys store = [] := by
  induction keys with
  | nil => exact ⟨rfl, rfl⟩
  | cons key rest ih =>
    have unallocated := none key List.mem_cons_self
    have skipped := ih fun later member => none later (List.mem_cons_of_mem _ member)
    rw [verifyByKeyVariables, keyChecks, unallocated]
    exact skipped

/-- The loop succeeds with a key variable that verifies the request, if it does not keep a success
from before. -/
theorem verifyByKeyVariables_checked (pending : status ≠ .success ∨
      ∃ key ∈ keys, env.malloc (.allowedKeyStoreVariable key.1) = true)
    (success : (verifyByKeyVariables env map hash maxVariableSize status keys store).1 = .success) :
    ∃ check ∈ keyChecks env map hash maxVariableSize keys store,
      check.name ∈ keys.map Prod.snd ∧ check.status = .success := by
  induction keys generalizing status store with
  | nil =>
    rcases pending with failed | ⟨key, member, _⟩
    · exact absurd success failed
    · cases member
  | cons key rest ih =>
    rw [verifyByKeyVariables] at success
    rw [keyChecks]
    cases allocated : env.malloc (.allowedKeyStoreVariable key.1) with
    | false =>
      rw [allocated] at success
      have later : status ≠ .success ∨
          ∃ key ∈ rest, env.malloc (.allowedKeyStoreVariable key.1) = true := by
        rcases pending with failed | ⟨other, member, found⟩
        · exact .inl failed
        · rcases List.mem_cons.mp member with rfl | behind
          · rw [allocated] at found
            cases found
          · exact .inr ⟨other, behind, found⟩
      obtain ⟨check, member, name, verified⟩ := ih later success
      exact ⟨check, member, List.mem_cons_of_mem _ name, verified⟩
    | true =>
      rw [allocated] at success
      simp only [Bool.not_true, Bool.false_eq_true, ↓reduceIte] at success ⊢
      split at success
      · rename_i unread
        split_ifs at success ⊢
        exact absurd success unread
      · rename_i readable
        rw [if_neg readable]
        split_ifs at success with unverified
        · exact ⟨_, List.mem_cons_self, List.mem_cons_self, success⟩
        · rw [not_or] at unverified
          obtain ⟨check, member, name, verified⟩ := ih (.inl unverified.1) success
          refine ⟨check, List.mem_cons_of_mem _ ?_, List.mem_cons_of_mem _ name, verified⟩
          rw [if_neg (not_or.mpr unverified)]
          exact member

theorem selectVerificationKeys_subset {guid : EfiGuid} {name : Bytes} {names : List Bytes}
    (selected : selectVerificationKeys guid name = .ok names) : names ⊆ signersOf (guid, name) := by
  have global : compareGuid guid efiGlobalVariable = true →
      [efiPlatformKeyName] ⊆ signersOf (guid, name) := by
    intro same
    unfold signersOf
    rw [if_pos (compareGuid_iff _ _ |>.mp same)]
    exact List.Subset.refl _
  have database : compareGuid guid efiImageSecurityDatabaseGuid = true →
      [efiPlatformKeyName, efiKeyExchangeKeyName] ⊆ signersOf (guid, name) := by
    intro same
    rw [compareGuid_iff _ _ |>.mp same]
    exact List.Subset.refl _
  unfold selectVerificationKeys at selected
  split at selected
  · split_ifs at selected ⊢
    rw [← Except.ok.inj selected]
    exact global ‹_›
  · split at selected
    · split_ifs at selected ⊢
      rw [← Except.ok.inj selected]
      exact global ‹_›
    · split at selected
      · split_ifs at selected ⊢
        rw [← Except.ok.inj selected]
        exact database ‹_›
      · rw [← Except.ok.inj selected]
        exact List.nil_subset _

/-- How the authentication goes on from the read of the platform key. -/
theorem authenticateSecureBootVariable_cases :
    (PlatformKeyEnrolled env maxVariableSize store ∧
      authenticateSecureBootVariable env store request map hash maxVariableSize =
        (match selectVerificationKeys request.guid request.name with
        | .error status => (status, (readPlatformKey env maxVariableSize store).2)
        | .ok names => verifyByKeyVariables env map hash maxVariableSize .success
            ((List.range names.length).zip names) (readPlatformKey env maxVariableSize store).2)) ∨
    (¬PlatformKeyEnrolled env maxVariableSize store ∧
      ((authenticateSecureBootVariable env store request map hash maxVariableSize).1 = .success →
        PlatformKeyMissing env maxVariableSize store)) := by
  unfold authenticateSecureBootVariable PlatformKeyEnrolled PlatformKeyMissing readPlatformKey
  cases env.malloc .pkVariable with
  | false =>
    refine .inr ⟨fun enrolled => ?_, fun success => ?_⟩
    · cases enrolled.1
    · cases success
  | true =>
    simp only [Bool.not_true, Bool.false_eq_true, ↓reduceIte, true_and]
    split_ifs with absent readable empty
    · refine .inr ⟨fun enrolled => ?_, fun _ => .inl absent⟩
      rw [absent] at enrolled
      cases enrolled.1
    · exact .inr ⟨fun enrolled => readable enrolled.1, fun success => by cases success⟩
    · exact .inr ⟨fun enrolled => enrolled.2 empty, fun _ => .inr ⟨not_not.mp readable, empty⟩⟩
    · exact .inl ⟨⟨not_not.mp readable, empty⟩, rfl⟩

/-- The authentication fails closed exactly if, with a platform key enrolled, one of the selected
key variables can be allocated. -/
theorem authenticateSecureBootVariable_failsClosed_iff (env : Env) (store : UefiVariableStore)
    (request : AccessVariable) (map : EfiDataMap) (hash : Bytes) (maxVariableSize : Nat) :
    FailsClosed env map hash maxVariableSize store request ↔
      (PlatformKeyEnrolled env maxVariableSize store →
        ∀ names, selectVerificationKeys request.guid request.name = .ok names →
          ∃ index < names.length, env.malloc (.allowedKeyStoreVariable index) = true) := by
  have position {names : List Bytes} {key : Nat × Bytes}
      (member : key ∈ (List.range names.length).zip names) : key.1 < names.length :=
    List.mem_range.mp (List.of_mem_zip member).1
  obtain ⟨enrolled, runs⟩ | ⟨notEnrolled, missing⟩ :=
    @authenticateSecureBootVariable_cases env map hash maxVariableSize store request
  · have present : ¬PlatformKeyMissing env maxVariableSize store := by
      rintro (absent | ⟨_, empty⟩)
      · rw [enrolled.2.1] at absent
        cases absent
      · exact enrolled.2.2 empty
    have checks : secureBootChecks env map hash maxVariableSize store request =
        match selectVerificationKeys request.guid request.name with
        | .error _ => []
        | .ok names => keyChecks env map hash maxVariableSize
            ((List.range names.length).zip names) (readPlatformKey env maxVariableSize store).2 :=
      if_pos enrolled
    unfold FailsClosed
    rw [runs, checks]
    cases selected : selectVerificationKeys request.guid request.name with
    | error status =>
      refine iff_of_true (fun success => ?_) (fun _ names isOk => by cases isOk)
      have refused : status = .securityViolation := by
        unfold selectVerificationKeys at selected
        repeat' split at selected
        all_goals cases selected
        all_goals rfl
      rw [refused] at success
      cases success
    | ok names =>
      constructor
      · intro closed _ others same
        obtain rfl := Except.ok.inj same
        by_contra noneAllocated
        have unallocated : ∀ key ∈ (List.range names.length).zip names,
            env.malloc (.allowedKeyStoreVariable key.1) = false := by
          intro key member
          by_contra allocated
          exact noneAllocated ⟨key.1, position member, Bool.not_eq_false _ ▸ allocated⟩
        obtain ⟨kept, noChecks⟩ := @verifyByKeyVariables_unallocated env map hash maxVariableSize
          (readPlatformKey env maxVariableSize store).2 _ .success unallocated
        dsimp only at closed
        rw [kept, noChecks] at closed
        rcases closed rfl with isMissing | ⟨check, member, _⟩
        · exact present isMissing
        · cases member
      · intro allocates success
        obtain ⟨index, below, allocated⟩ := allocates enrolled names rfl
        have member : (index, names[index]) ∈ (List.range names.length).zip names := by
          refine List.mem_iff_getElem.mpr ⟨index, by simpa using below, ?_⟩
          simp
        obtain ⟨check, checked, name, verified⟩ :=
          verifyByKeyVariables_checked (.inr ⟨_, member, allocated⟩) success
        obtain ⟨key, isKey, same⟩ := List.mem_map.mp name
        refine .inr ⟨check, checked, ?_, verified⟩
        rw [← same]
        exact selectVerificationKeys_subset selected (List.of_mem_zip isKey).2
  · exact iff_of_true (fun success => .inl (missing success))
      (fun enrolled => absurd enrolled notEnrolled)

/-- There is no memory for the allowed key variables, and every signature is refused. -/
def Env.withoutKeyMemory : Env :=
  { Env.calm with
    malloc := fun site =>
      match site with
      | .allowedKeyStoreVariable _ => false
      | _ => true }

/-- An enrolled platform key, and a request for the key exchange key that nobody has signed. -/
theorem unverifiedKek_authenticated :
    let request : AccessVariable :=
      ⟨efiGlobalVariable, 0x27#32, efiKeyExchangeKeyName, signedData 2 [8]⟩
    let map : EfiDataMap :=
      ⟨⟨2024, 1, 1, 0, 0, 2, 0, 0, 0, 0, 0⟩, 0x0EF1, efiCertTypePkcs7Guid, [], 40, [8]⟩
    ∃ store, Reachable (.standard true) 3 (.running store) ∧
      store.view.values (efiGlobalVariable, efiPlatformKeyName) = some (0x27#32, sampleKey) ∧
      (authenticateSecureBootVariable .withoutKeyMemory store request map [] 4096).1 = .success ∧
      ¬FailsClosed .withoutKeyMemory map [] 4096 store request ∧
      (uefiVariableStoreSetVariable (.standard true) .withoutKeyMemory store request).2.view.values
        (efiGlobalVariable, efiKeyExchangeKeyName) = some (0x27#32, [8]) := by
  intro request map
  obtain ⟨store, reachable, pk, success, changed, noChecks, readable, filled⟩ :
      ∃ store, Reachable (.standard true) 3 (.running store) ∧
        store.view.values (efiGlobalVariable, efiPlatformKeyName) = some (0x27#32, sampleKey) ∧
        (authenticateSecureBootVariable .withoutKeyMemory store request map [] 4096).1 =
          .success ∧
        (uefiVariableStoreSetVariable (.standard true) .withoutKeyMemory store
          request).2.view.values (efiGlobalVariable, efiKeyExchangeKeyName) =
            some (0x27#32, [8]) ∧
        secureBootChecks .withoutKeyMemory map [] 4096 store request = [] ∧
        (readPlatformKey .withoutKeyMemory 4096 store).1.status = .success ∧
        (readPlatformKey .withoutKeyMemory 4096 store).1.dataSize ≠ 0 :=
    exists_reachable enrolment (by decide +kernel)
  refine ⟨store, reachable, pk, success, fun closed => ?_, changed⟩
  rcases closed success with (absent | ⟨_, empty⟩) | ⟨check, member, _⟩
  · rw [readable] at absent
    cases absent
  · exact filled empty
  · rw [noChecks] at member
    cases member

end SmmVariable

import TrustedServices.SmmVariable.ReplayProtection
import TrustedServices.SmmVariable.SignatureLists

/- Who may change the variables that secure boot rests on. -/
namespace SmmVariable

open Lib StoreView

/-- PK and KEK, and the databases db, dbx, dbt and dbr. -/
def protectedVariables : List (EfiGuid × Bytes) :=
  [(efiGlobalVariable, efiPlatformKeyName), (efiGlobalVariable, efiKeyExchangeKeyName),
    (efiImageSecurityDatabaseGuid, efiImageSecurityDatabase),
    (efiImageSecurityDatabaseGuid, efiImageSecurityDatabase1),
    (efiImageSecurityDatabaseGuid, efiImageSecurityDatabase2),
    (efiImageSecurityDatabaseGuid, efiImageSecurityDatabase3)]

/-- The key variables whose certificates may sign a change of a protected variable. -/
def signersOf (key : EfiGuid × Bytes) : List Bytes :=
  if key.1 = efiGlobalVariable then [efiPlatformKeyName]
  else [efiPlatformKeyName, efiKeyExchangeKeyName]

/-- The timestamp that a request for the variable is compared with. -/
def StoreView.recordedTime (view : StoreView) (key : EfiGuid × Bytes) : EfiTime :=
  match findVariable view.variableIndex key.1 key.2 with
  | some pos => (view.entry pos).timestamp
  | none => .zero

/-- The attributes that decide whether a request for the variable is authenticated: those of the
variable, or the request's own if it is not set. -/
def StoreView.decisiveAttributes (view : StoreView) (request : AccessVariable) : Attributes :=
  match view.lookup request.guid request.name with
  | some variable_ => variable_.attributes
  | none => request.attributes

/-- A certificate of one of the key variables verifies the request, and the request is later
than the variable or appends to it. -/
def SignedBy (env : Env) (view : StoreView) (request : AccessVariable) (signers : List Bytes) :
    Prop :=
  ∃ map hash, initEfiDataMap request.data = some map ∧
    calcVariableHash env request map = some hash ∧
    (∃ name ∈ signers, ∃ attributes payload,
      view.values (efiGlobalVariable, name) = some (attributes, payload) ∧
      ∃ certificate ∈ keyCertificates payload,
        env.verifyPkcs7Signature map.certData hash certificate = true) ∧
    (memcmp map.timeStamp.toBytes
        (view.recordedTime (request.guid, request.name)).toBytes = .gt ∨
      hasAny request.attributes efiVariableAppendWrite = true)

variable {key : EfiGuid × Bytes}

theorem values_eq_some {view : StoreView} {attributes : Attributes}
    {data : Bytes} : view.values key = some (attributes, data) ↔
      view.lookup key.1 key.2 = some ⟨attributes, some data⟩ := by
  unfold StoreView.values
  cases view.lookup key.1 key.2 with
  | none => simp
  | some variable_ =>
    obtain ⟨stored, bytes⟩ := variable_
    cases bytes <;> simp

section

variable {env : Env} (reads : env.Reads) {store : UefiVariableStore} {name : Bytes} {guid : EfiGuid}
  {maxVariableSize : Nat} {hash : Bytes}

include reads in
theorem value_of_getVariable {dataSize maxDataLen : Nat}
    (success : (uefiVariableStoreGetVariable env store guid name dataSize maxDataLen).1.status =
      .success) :
    ∃ attributes, store.view.values (guid, name) = some (attributes,
      (uefiVariableStoreGetVariable env store guid name dataSize maxDataLen).1.data) := by
  rw [getVariable_answer reads] at success ⊢
  split_ifs with terminated
  · rw [if_pos terminated] at success
    exact absurd success terminated
  · rw [if_neg terminated] at success
    unfold readAnswer at success ⊢
    cases found : store.view.lookup guid name with
    | none =>
      rw [found] at success
      cases success
    | some variable_ =>
      obtain ⟨attributes, data⟩ := variable_
      rw [found] at success
      dsimp only at success ⊢
      split_ifs at success with seen
      cases data with
      | none => cases success
      | some data =>
        dsimp only at success
        split_ifs at success with fits
        refine ⟨attributes, values_eq_some.mpr ?_⟩
        simp only [seen, fits, ↓reduceIte]
        exact found

include reads in
/-- GetVariable on a variable that may be seen either returns it or finds no room for it. -/
theorem getVariable_of_value (dataSize maxDataLen : Nat)
    {attributes : Attributes} {payload : Bytes} (terminated : checkNameTerminator name = .success)
    (value : store.view.values (guid, name) = some (attributes, payload))
    (seen : accessible store.isBootService attributes = true) :
    (uefiVariableStoreGetVariable env store guid name dataSize maxDataLen).1.status = .bufferTooSmall ∨
      ((uefiVariableStoreGetVariable env store guid name dataSize maxDataLen).1.status = .success ∧
        (uefiVariableStoreGetVariable env store guid name dataSize maxDataLen).1.dataSize =
          payload.length) := by
  rw [getVariable_answer reads, if_neg (not_not_intro terminated)]
  have found := values_eq_some.mp value
  rw [found]
  unfold readAnswer
  dsimp only
  rw [if_pos seen]
  split
  · exact .inr ⟨rfl, rfl⟩
  · exact .inl rfl

include reads in
/-- The loop over the key variables succeeds only if one of them verifies the request. -/
theorem verifyByKeyVariables_success {map : EfiDataMap}
    (allocations : ∀ index, env.malloc (.allowedKeyStoreVariable index) = true)
    {status : EfiStatus} {keys : List (Nat × Bytes)} (pending : keys ≠ [] ∨ status ≠ .success)
    (verified : (verifyByKeyVariables env map hash maxVariableSize status keys store).1 = .success) :
    ∃ key ∈ keys, ∃ attributes payload,
      store.view.values (efiGlobalVariable, key.2) = some (attributes, payload) ∧
      verifyVarByKeyVar env map hash payload = .success := by
  induction keys generalizing status store with
  | nil =>
    rcases pending with nonempty | failed
    · exact absurd rfl nonempty
    · exact absurd verified failed
  | cons key rest ih =>
    obtain ⟨index, name⟩ := key
    rw [verifyByKeyVariables, allocations index, Bool.not_true, if_neg Bool.false_ne_true]
      at verified
    dsimp only at verified
    split at verified
    · rename_i unread
      split_ifs at verified ⊢
      exact absurd verified unread
    · rename_i readable
      obtain ⟨attributes, value⟩ := value_of_getVariable reads (not_not.mp readable)
      split_ifs at verified ⊢ with unverified
      · exact ⟨_, List.mem_cons_self, attributes, _, value, verified⟩
      · rw [not_or] at unverified
        obtain ⟨key, member, attributes, payload, found, holds⟩ := ih (.inr unverified.1) verified
        rw [view_getVariable] at found
        exact ⟨key, List.mem_cons_of_mem _ member, attributes, payload, found, holds⟩

include reads in
/-- With a platform key enrolled that may be seen, a request for a protected variable is verified
by one of the key variables. -/
theorem authenticateSecureBootVariable_success {request : AccessVariable} {map : EfiDataMap}
    {pkAttributes : Attributes} {pk : Bytes} {signers : List Bytes}
    (allocations : ∀ index, env.malloc (.allowedKeyStoreVariable index) = true)
    (enrolled : store.view.values (efiGlobalVariable, efiPlatformKeyName) = some (pkAttributes, pk))
    (nonempty : pk ≠ []) (seen : accessible store.isBootService pkAttributes = true)
    (selected : selectVerificationKeys request.guid request.name = .ok signers)
    (some_ : signers ≠ [])
    (verified : (authenticateSecureBootVariable env store request map hash maxVariableSize).1 =
      .success) :
    ∃ name ∈ signers, ∃ attributes payload,
      store.view.values (efiGlobalVariable, name) = some (attributes, payload) ∧
      verifyVarByKeyVar env map hash payload = .success := by
  unfold authenticateSecureBootVariable at verified
  split_ifs at verified ⊢
  dsimp only at verified
  rcases getVariable_of_value reads maxVariableSize maxVariableSize (by decide) enrolled seen with
    tooSmall | ⟨success, size⟩
  · rw [tooSmall] at verified
    cases verified
  · have filled : pk.length ≠ 0 := fun empty => nonempty (List.length_eq_zero_iff.mp empty)
    rw [success, size, if_neg nofun, if_neg (by decide), if_neg filled, selected] at verified
    have zipped : (List.range signers.length).zip signers ≠ [] := by
      intro empty
      have length := congrArg List.length empty
      simp at length
      exact some_ length
    obtain ⟨key, member, attributes, payload, value, holds⟩ :=
      verifyByKeyVariables_success reads allocations (.inl zipped) verified
    rw [view_getVariable] at value
    exact ⟨key.2, (List.of_mem_zip member).2, attributes, payload, value, holds⟩

end

/-- The code selects the signers of a protected variable, whose name is none of a private one. -/
theorem selectVerificationKeys_protected
    (isProtected : key ∈ protectedVariables) :
    selectVerificationKeys key.1 key.2 = .ok (signersOf key) ∧ isPrivateAuthVar key.2 = false := by
  revert key
  decide

section

variable {config : BuildConfig} {env : Env} {store : UefiVariableStore} {request : AccessVariable}
  {status : EfiStatus} {after : StoreView} {names : Bytes → Prop} {limit pos : Nat}

section

variable (outcome : SetAtOutcome config env store pos request status after)
  (valid : store.view.WellFormed names limit)

include outcome valid

/-- A request that changes the value at its position has passed the authentication. -/
theorem SetAtOutcome.passed_of_change (changes : after.valueAt pos ≠ store.view.valueAt pos) :
    ∃ authenticated,
      requestAuthenticated config env store (store.entry pos).info request = .ok authenticated := by
  cases outcome with
  | denied _ _ =>
    have same := store.view.sameVariables_modifyEntry pos _
      (VariableEntry.sameVariable_withoutUnused _)
    exact absurd (same.valueAt_eq valid pos) changes
  | unauthenticated _ _ => exact absurd rfl changes
  | mismatched _ _ _ _ _ => exact absurd rfl changes
  | emptied _ _ _ _ => exact absurd rfl changes
  | deleted _ passed _ _ _ _ => exact ⟨_, passed⟩
  | updated _ passed _ _ _ _ => exact ⟨_, passed⟩
  | created _ passed _ _ _ => exact ⟨_, passed⟩

/-- A request that changes the value of a name is about that name, and has passed the
authentication, unless a purge is misled. -/
theorem SetAtOutcome.values_change
    (named : (store.entry pos).Names request.guid request.name)
    (finds : PurgeFinds (env.fault true))
    (changes : after.values key ≠ store.view.values key) :
    key = (request.guid, request.name) ∧ ∃ authenticated,
      requestAuthenticated config env store (store.entry pos).info request = .ok authenticated := by
  have updated := outcome.values_eq valid named finds
  have isKey : key = (request.guid, request.name) := by
    by_contra other
    rw [updated, Function.update_of_ne other] at changes
    exact changes rfl
  refine ⟨isKey, outcome.passed_of_change valid ?_⟩
  intro same
  have own : store.view.values (request.guid, request.name) =
      (store.view.valueAt pos).map Prod.snd := values_named valid.index named
  rw [updated, isKey, Function.update_self, same, own] at changes
  exact changes rfl

end

/-- The request has been authenticated for an entry with the attributes and the timestamp of its
variable, against the variables of the store. -/
structure AuthenticatedFor (config : BuildConfig) (env : Env) (store : UefiVariableStore)
    (request : AccessVariable) (at_ : UefiVariableStore) (info : VariableInfo) : Prop where
  values : at_.view.values = store.view.values
  phase : at_.isBootService = store.isBootService
  needed : needsAuthentication config info request = (config.authVar &&
    hasAny (store.view.decisiveAttributes request) efiVariableTimeBasedAuthenticatedWriteAccess)
  time : info.timestamp = store.view.recordedTime (request.guid, request.name)
  passed : ∃ authenticated, requestAuthenticated config env at_ info request = .ok authenticated

/-- A SetVariable request that changes the value of a name is about that name and has been
authenticated, unless a purge is misled. -/
theorem SetOutcome.values_change (outcome : SetOutcome config env store request status after)
    (valid : store.view.WellFormed Terminated limit) (finds : PurgeFinds (env.fault true))
    (changes : after.values key ≠ store.view.values key) :
    key = (request.guid, request.name) ∧
      ∃ at_ info, AuthenticatedFor config env store request at_ info := by
  have validAfter := outcome.wellFormed valid id
  cases outcome with
  | invalid _ => exact absurd rfl changes
  | full _ _ =>
    have same := addEntry_sameVariables store.view request.guid request.name
    exact absurd (congrFun (same.values_eq valid validAfter) key) changes
  | @found pos _ _ _ _ at_ outcome =>
    obtain ⟨isKey, passed⟩ := outcome.values_change valid (names_of_findVariable at_) finds changes
    have found : findVariable store.view.variableIndex request.guid request.name = some pos := at_
    refine ⟨isKey, store, (store.view.entry pos).info, rfl, rfl, ?_, ?_, passed⟩
    · unfold needsAuthentication decisiveAttributes lookup
      rw [found, Option.bind_some]
      cases (store.view.entry pos).isVariableSet <;> rfl
    · unfold recordedTime
      rw [found]
  | @added pos _ _ terminated _ absent _ at_ outcome =>
    have same := addEntry_sameVariables store.view request.guid request.name
    obtain ⟨extended, entry⟩ := addEntry_extends valid terminated absent at_
    have values := same.values_eq valid extended
    have missing : findVariable store.view.variableIndex request.guid request.name = none := absent
    obtain ⟨isKey, passed⟩ := outcome.values_change extended
      (by rw [entry]; exact ⟨rfl, rfl, rfl⟩) finds (values ▸ changes)
    refine ⟨isKey,
      { store with variableIndex := (addEntry store.variableIndex request.guid request.name).1 },
      ((addEntry store.variableIndex request.guid request.name).1.entry pos).info,
      values, rfl, ?_, ?_, passed⟩
    · unfold needsAuthentication decisiveAttributes lookup
      rw [missing, entry]
      rfl
    · unfold recordedTime
      rw [missing, entry]
      rfl

end

/-- What the protection rests on: the platform key may be seen, the reads and allocations that
authentication needs and the checks of a purge work, the key variables are well formed, and a
request for a protected variable is one that the code authenticates. -/
structure KeysGuarded (env : Env) (store : UefiVariableStore) (request : AccessVariable) : Prop where
  seen : ∀ attributes payload,
    store.view.values (efiGlobalVariable, efiPlatformKeyName) = some (attributes, payload) →
      accessible store.isBootService attributes = true
  reads : env.Reads
  finds : PurgeFinds (env.fault true)
  allocations : ∀ index, env.malloc (.allowedKeyStoreVariable index) = true
  wellFormed : ∀ name ∈ [efiPlatformKeyName, efiKeyExchangeKeyName], ∀ attributes payload,
    store.view.values (efiGlobalVariable, name) = some (attributes, payload) → WellFormedKey payload
  authenticates : (request.guid, request.name) ∈ protectedVariables →
    hasAny (store.view.decisiveAttributes request)
      efiVariableTimeBasedAuthenticatedWriteAccess = true

theorem signersOf_subset (key : EfiGuid × Bytes) {name : Bytes} (signer : name ∈ signersOf key) :
    name ∈ [efiPlatformKeyName, efiKeyExchangeKeyName] := by
  unfold signersOf at signer
  split at signer
  · exact List.mem_cons.mpr (.inl (List.mem_singleton.mp signer))
  · exact signer

theorem protectedVariable_signed {limit : Nat} (few : limit < 2 ^ 31)
    {config : BuildConfig} (authVar : config.authVar = true) {store : UefiVariableStore}
    (reachable : Reachable config limit (.running store)) {pkAttributes : Attributes}
    {pk : Bytes}
    (enrolled : store.view.values (efiGlobalVariable, efiPlatformKeyName) = some (pkAttributes, pk))
    (nonempty : pk ≠ []) {env : Env} {request : AccessVariable}
    (guarded : KeysGuarded env store request) {key : EfiGuid × Bytes}
    (isProtected : key ∈ protectedVariables)
    (changes : (uefiVariableStoreSetVariable config env store request).2.view.values key ≠
      store.view.values key) :
    key = (request.guid, request.name) ∧ SignedBy env store.view request (signersOf key) := by
  have valid : store.view.WellFormed Terminated limit := reachable.wellFormed few
  have outcome := uefiVariableStoreSetVariable_outcome config env store request valid.hasRoom
  obtain ⟨rfl, at_, info, for_⟩ := outcome.values_change valid guarded.finds changes
  refine ⟨rfl, ?_⟩
  obtain ⟨authenticated, passed⟩ := for_.passed
  unfold requestAuthenticated authenticateIfNeeded at passed
  rw [for_.needed, authVar, guarded.authenticates isProtected, Bool.and_self, if_pos rfl] at passed
  obtain ⟨map, hash, passed⟩ := authenticateVariable_ok passed
  obtain ⟨selected, shared⟩ := selectVerificationKeys_protected isProtected
  have verified := passed.verified
  rw [shared, if_neg Bool.false_ne_true] at verified
  have view := view_queryVariableInfo at_ env 0
  have phase : (uefiVariableStoreQueryVariableInfo env at_ 0).2.isBootService =
      store.isBootService := (congrArg isBootService view).trans for_.phase
  have values : (uefiVariableStoreQueryVariableInfo env at_ 0).2.view.values = store.view.values := by
    rw [view]
    exact for_.values
  have some_ : signersOf (request.guid, request.name) ≠ [] := by
    unfold signersOf
    split <;> exact List.cons_ne_nil _ _
  obtain ⟨name, signer, attributes, payload, value, holds⟩ :=
    authenticateSecureBootVariable_success guarded.reads guarded.allocations
      (values ▸ enrolled) nonempty (phase ▸ guarded.seen _ _ enrolled) selected some_ verified
  rw [values] at value
  obtain ⟨certificate, member, signed⟩ := verifyBySignatureLists_success (Nat.zero_le _)
    (guarded.wellFormed name (signersOf_subset _ signer) attributes payload value) holds
  refine ⟨map, hash, passed.mapped, passed.hashed, ?_, ?_⟩
  · exact ⟨name, signer, attributes, payload, value, certificate, member, signed⟩
  · rw [← for_.time]
    exact passed.timely

/-- One signature list with one certificate, of one byte. -/
def sampleKey : Bytes :=
  efiCertX509Guid.toBytes ++ ([45, 0, 0, 0, 0, 0, 0, 0, 17, 0, 0, 0] ++
    (List.replicate 16 0 ++ [0xCC]))

/-- Nothing fails, and the one certificate of `sampleKey` verifies every signature. -/
def Env.certified : Env :=
  { Env.calm with verifyPkcs7Signature := fun _ _ certificate => certificate == [0xCC] }

/-- The device is switched on and the platform key is enrolled. -/
def enrolment : List Event :=
  [.powerOn .calm, .request .calm (.setVariable
    ⟨efiGlobalVariable, 0x27#32, efiPlatformKeyName, signedData 1 sampleKey⟩)]

/-- A signed request enrols the key exchange key. -/
theorem protectedVariable_signed_kek :
    let request : AccessVariable :=
      ⟨efiGlobalVariable, 0x27#32, efiKeyExchangeKeyName, signedData 2 sampleKey⟩
    ∃ store, Reachable (.standard true) 3 (.running store) ∧
      (uefiVariableStoreSetVariable (.standard true) .certified store request).2.view.values
        (efiGlobalVariable, efiKeyExchangeKeyName) = some (0x27#32, sampleKey) ∧
      SignedBy .certified store.view request [efiPlatformKeyName] := by
  intro request
  obtain ⟨store, reachable, pk, kek, changed, phase, decisive⟩ :
      ∃ store, Reachable (.standard true) 3 (.running store) ∧
        store.view.values (efiGlobalVariable, efiPlatformKeyName) = some (0x27#32, sampleKey) ∧
        store.view.values (efiGlobalVariable, efiKeyExchangeKeyName) = none ∧
        (uefiVariableStoreSetVariable (.standard true) .certified store request).2.view.values
          (efiGlobalVariable, efiKeyExchangeKeyName) = some (0x27#32, sampleKey) ∧
        store.isBootService = true ∧ store.view.decisiveAttributes request = 0x27#32 :=
    exists_reachable enrolment (by decide +kernel)
  have guarded : KeysGuarded .certified store request := by
    refine ⟨fun attributes payload value => ?_, fun _ _ _ _ => rfl, fun _ _ => rfl,
      fun _ => rfl, fun name isKey attributes payload value => ?_, fun _ => ?_⟩
    · rw [pk] at value
      obtain ⟨rfl, rfl⟩ := Prod.mk.inj (Option.some.inj value)
      rw [phase]
      decide
    · rcases List.mem_cons.mp isKey with rfl | isKek
      · rw [pk] at value
        obtain ⟨rfl, rfl⟩ := Prod.mk.inj (Option.some.inj value)
        decide
      · rw [List.mem_singleton.mp isKek, kek] at value
        cases value
    · rw [decisive]
      decide
  refine ⟨store, reachable, changed, ?_⟩
  have isProtected : (efiGlobalVariable, efiKeyExchangeKeyName) ∈ protectedVariables := by decide
  have signed := protectedVariable_signed (by decide) rfl reachable pk (by decide) guarded
    isProtected (by rw [changed, kek]; exact Option.some_ne_none _)
  exact signed.2

/-- A request without the authentication attribute creates the key exchange key although a platform
key is enrolled and no signature verifies. -/
theorem setVariable_kek_unsigned :
    let request : AccessVariable := ⟨efiGlobalVariable, 0x07#32, efiKeyExchangeKeyName, [8]⟩
    ∃ store, Reachable (.standard true) 3 (.running store) ∧
      store.view.values (efiGlobalVariable, efiPlatformKeyName) = some (0x27#32, sampleKey) ∧
      store.view.values (efiGlobalVariable, efiKeyExchangeKeyName) = none ∧
      (uefiVariableStoreSetVariable (.standard true) .calm store request).2.view.values
        (efiGlobalVariable, efiKeyExchangeKeyName) = some (0x07#32, [8]) ∧
      ∀ signers, ¬ SignedBy .calm store.view request signers := by
  intro request
  have unsigned (view signers) : ¬ SignedBy .calm view request signers := by
    rintro ⟨_, _, _, _, ⟨_, _, _, _, _, _, _, verified⟩, _⟩
    cases verified
  simp only [unsigned, not_false_eq_true, implies_true, and_true]
  exact exists_reachable enrolment (by decide +kernel)

end SmmVariable

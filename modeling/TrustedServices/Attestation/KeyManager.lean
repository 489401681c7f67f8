import TrustedServices.Lib.Bytes
import TrustedServices.Lib.Transition

/- The attestation key manager over a key store that survives restarts. -/
namespace Attestation

open Lib

abbrev KeyId := BitVec 32

/-- A key: the data that was imported, or the number of a generated key. -/
inductive Key
  | imported (data : Bytes)
  | generated (serial : Nat)
  deriving DecidableEq, Repr

structure KeyStore where
  persistent : KeyId → Option Key
  volatile : KeyId → Option Key
  /-- The number of the next key that is generated. -/
  serial : Nat

def KeyStore.find (store : KeyStore) (id : KeyId) : Option Key :=
  (store.persistent id).or (store.volatile id)

/-- How the key store answers the calls that one call to the key manager makes. -/
structure StoreAnswers where
  /-- Whether a query of a key that exists succeeds. -/
  query : Bool
  /-- The id for a new volatile key, if a key can be created. -/
  create : Option KeyId
  /-- Whether an operation with a key that exists succeeds. -/
  use : Bool

/-- The id of a persistent key, or zero for a volatile key. -/
structure KeyAttributes where
  keyId : KeyId

section

variable (store : KeyStore)

def psaGetKeyAttributes (answers : StoreAnswers) (id : KeyId) : Option KeyAttributes :=
  if answers.query ∧ (store.find id).isSome then some ⟨id⟩ else none

def KeyStore.create (attributes : KeyAttributes) (volatileId : KeyId)
    (key : Key) : Option KeyId × KeyStore :=
  if attributes.keyId ≠ 0 then
    if (store.find attributes.keyId).isSome then (none, store)
    else
      (some attributes.keyId,
        { store with persistent := Function.update store.persistent attributes.keyId (some key) })
  else if volatileId = 0 ∨ (store.find volatileId).isSome then (none, store)
  else
    (some volatileId,
      { store with volatile := Function.update store.volatile volatileId (some key) })

section

variable (answers : StoreAnswers) (attributes : KeyAttributes)

def psaGenerateKey : Option KeyId × KeyStore :=
  match answers.create with
  | none => (none, store)
  | some volatileId =>
    { store with serial := store.serial + 1 }.create attributes volatileId (.generated store.serial)

def psaImportKey (data : Bytes) : Option KeyId × KeyStore :=
  match answers.create with
  | none => (none, store)
  | some volatileId => store.create attributes volatileId (.imported data)

end

def psaUseKey (answers : StoreAnswers) (id : KeyId) : Option Key :=
  if answers.use then store.find id else none

end

structure LocalAttestKeyMngr where
  cfgIakId : KeyId
  iakId : KeyId

structure KeyWorld where
  mngr : LocalAttestKeyMngr
  store : KeyStore

def setIakAttributes (cfgIakId : KeyId) : KeyAttributes :=
  if cfgIakId ≠ 0 then ⟨cfgIakId⟩ else ⟨0⟩

def generateIak (store : KeyStore) (answers : StoreAnswers) (cfgIakId : KeyId) :
    Option KeyId × KeyStore :=
  psaGenerateKey store answers (setIakAttributes cfgIakId)

def localAttestKeyMngrInit (cfgIakId : KeyId) : LocalAttestKeyMngr := ⟨cfgIakId, 0⟩

section

variable (world : KeyWorld)

def localAttestKeyMngrDeinit : KeyWorld :=
  if world.mngr.cfgIakId = 0 ∧ world.mngr.iakId ≠ 0 then
    { mngr := { world.mngr with iakId := 0 }
      store :=
        { world.store with
          volatile := Function.update world.store.volatile world.mngr.iakId none } }
  else world

section

variable (answers : StoreAnswers)

/-- Keep the id that a generated key got, zero if there is none. -/
def KeyWorld.generate (cfgIakId : KeyId) : Option KeyId × KeyWorld :=
  let generated := generateIak world.store answers cfgIakId
  (generated.1,
    { mngr := { world.mngr with iakId := generated.1.getD 0 }, store := generated.2 })

def attestKeyMngrGetIakId : Option KeyId × KeyWorld :=
  if world.mngr.iakId = 0 then
    if world.mngr.cfgIakId ≠ 0 then
      match psaGetKeyAttributes world.store answers world.mngr.cfgIakId with
      | some attributes =>
        (some attributes.keyId,
          { world with mngr := { world.mngr with iakId := attributes.keyId } })
      -- The id that is passed on is the current one, which is zero here.
      | none => world.generate answers world.mngr.iakId
    else world.generate answers world.mngr.cfgIakId
  else (some world.mngr.iakId, world)

/-- An operation with the key: the export of the public key, or the signing of a report. -/
def withIak : Option Key × KeyWorld :=
  match attestKeyMngrGetIakId world answers with
  | (some id, later) => (psaUseKey later.store answers id, later)
  | (none, later) => (none, later)

def attestKeyMngrExportIakPublicKey : Option Key × KeyWorld :=
  withIak world answers

def attestReportSign : Option Key × KeyWorld :=
  withIak world answers

def attestKeyMngrImportIak (data : Bytes) : Option KeyId × KeyWorld :=
  if world.mngr.iakId = 0 then
    let imported :=
      psaImportKey world.store answers (setIakAttributes world.mngr.cfgIakId) data
    (imported.1,
      { mngr := { world.mngr with iakId := imported.1.getD 0 }, store := imported.2 })
  else (none, world)

end

end

inductive KeyCall
  | getIakId (answers : StoreAnswers)
  | exportIakPublicKey (answers : StoreAnswers)
  | sign (answers : StoreAnswers)
  | importIak (answers : StoreAnswers) (data : Bytes)
  | iakExists (answers : StoreAnswers)
  | deinit
  | restart

/-- A run, with the keys that the successful calls referred to. -/
structure KeyRun where
  world : KeyWorld
  referred : List (Option Key)

def KeyRun.initial (cfgIakId : KeyId) (store : KeyStore) : KeyRun :=
  ⟨⟨localAttestKeyMngrInit cfgIakId, store⟩, []⟩

/-- The volatile keys are lost, and the manager is initialized again. -/
def KeyWorld.restart (world : KeyWorld) : KeyWorld :=
  { mngr := localAttestKeyMngrInit world.mngr.cfgIakId
    store := { world.store with volatile := fun _ => none } }

def KeyRun.referById (run : KeyRun) (outcome : Option KeyId × KeyWorld) : KeyRun :=
  { world := outcome.2
    referred := run.referred ++ (outcome.1.map outcome.2.store.find).toList }

def KeyRun.referByUse (run : KeyRun) (outcome : Option Key × KeyWorld) : KeyRun :=
  { world := outcome.2, referred := run.referred ++ (outcome.1.map some).toList }

def KeyRun.step (run : KeyRun) : KeyCall → KeyRun
  | .getIakId answers => run.referById (attestKeyMngrGetIakId run.world answers)
  | .exportIakPublicKey answers =>
    run.referByUse (attestKeyMngrExportIakPublicKey run.world answers)
  | .sign answers => run.referByUse (attestReportSign run.world answers)
  | .importIak answers data => run.referById (attestKeyMngrImportIak run.world answers data)
  | .iakExists _ => run
  | .deinit => { run with world := localAttestKeyMngrDeinit run.world }
  | .restart => { run with world := run.world.restart }

/-- The identity is stable: all successful calls refer to one key, and the manager holds no other
key than the configured one if the key store has that. -/
structure KeyRun.Stable (cfgIakId : KeyId) (run : KeyRun) : Prop where
  same : ∀ key ∈ run.referred, ∀ other ∈ run.referred, key = other
  kept : ∀ key, run.world.store.persistent cfgIakId = some key →
    run.world.mngr.iakId = 0 ∨ run.world.store.find run.world.mngr.iakId = some key

/-- A call that looks the key up finds the configured key in the key store. -/
def KeyCall.FindsKey (run : KeyRun) : KeyCall → Prop
  | .getIakId answers | .exportIakPublicKey answers | .sign answers =>
    run.world.mngr.iakId = 0 →
      (run.world.store.persistent run.world.mngr.cfgIakId).isSome ∧ answers.query
  | _ => True

instance (run : KeyRun) : (call : KeyCall) → Decidable (call.FindsKey run)
  | .getIakId _ | .exportIakPublicKey _ | .sign _ => inferInstanceAs (Decidable (_ = _ → _ ∧ _))
  | .importIak _ _ | .iakExists _ | .deinit | .restart => isTrue trivial

section

variable {cfgIakId : KeyId} {run : KeyRun} {answers : StoreAnswers} {data : Bytes}

/-- What every run keeps in which the key is found: only the configured key is held, and it is
the one that was referred to. -/
structure KeyRun.Identified (cfgIakId : KeyId) (run : KeyRun) : Prop where
  configured : run.world.mngr.cfgIakId = cfgIakId
  held : run.world.mngr.iakId = 0 ∨
    run.world.mngr.iakId = cfgIakId ∧
      (run.world.store.persistent cfgIakId).isSome
  referred : ∀ key ∈ run.referred, key.isSome ∧ key = run.world.store.persistent cfgIakId

theorem KeyStore.find_persistent {store : KeyStore} {id : KeyId}
    (present : (store.persistent id).isSome) : store.find id = store.persistent id := by
  obtain ⟨key, found⟩ := Option.isSome_iff_exists.mp present
  simp [KeyStore.find, found]

section

variable (nonzero : cfgIakId ≠ 0) (identified : run.Identified cfgIakId)

include nonzero identified

theorem attestKeyMngrGetIakId_found (finds : run.world.mngr.iakId = 0 →
      (run.world.store.persistent run.world.mngr.cfgIakId).isSome ∧ answers.query) :
    (run.world.store.persistent cfgIakId).isSome ∧
      attestKeyMngrGetIakId run.world answers =
        (some cfgIakId, { run.world with mngr := ⟨cfgIakId, cfgIakId⟩ }) := by
  obtain ⟨⟨⟨cfg, iakId⟩, store⟩, referred⟩ := run
  obtain ⟨rfl, held, _⟩ := identified
  dsimp only at nonzero held finds ⊢
  unfold attestKeyMngrGetIakId
  by_cases empty : iakId = 0
  · obtain ⟨present, queried⟩ := finds empty
    have queried : psaGetKeyAttributes store answers cfg = some ⟨cfg⟩ := by
      unfold psaGetKeyAttributes
      rw [KeyStore.find_persistent present, if_pos ⟨queried, present⟩]
    rw [if_pos empty, if_pos nonzero, queried]
    exact ⟨present, rfl⟩
  · obtain ⟨rfl, present⟩ := held.resolve_left empty
    rw [if_neg empty]
    exact ⟨present, rfl⟩

theorem KeyRun.Identified.get (finds : (KeyCall.getIakId answers).FindsKey run) :
    (run.step (.getIakId answers)).Identified cfgIakId := by
  obtain ⟨present, found⟩ := attestKeyMngrGetIakId_found nonzero identified finds
  dsimp only [KeyRun.step, referById]
  rw [found]
  refine ⟨rfl, .inr ⟨rfl, present⟩, ?_⟩
  intro key member
  obtain earlier | now := List.mem_append.mp member
  · exact identified.referred key earlier
  · have same : key = run.world.store.find cfgIakId := by simpa using now
    rw [same, KeyStore.find_persistent present]
    exact ⟨present, rfl⟩

theorem KeyRun.Identified.use (finds : run.world.mngr.iakId = 0 →
      (run.world.store.persistent run.world.mngr.cfgIakId).isSome ∧ answers.query) :
    (run.referByUse (withIak run.world answers)).Identified cfgIakId := by
  obtain ⟨present, found⟩ := attestKeyMngrGetIakId_found nonzero identified finds
  unfold referByUse withIak
  rw [found]
  refine ⟨rfl, .inr ⟨rfl, present⟩, ?_⟩
  intro key member
  obtain earlier | now := List.mem_append.mp member
  · exact identified.referred key earlier
  · unfold psaUseKey at now
    dsimp only at now
    split at now
    · rw [KeyStore.find_persistent present] at now
      obtain ⟨value, holds⟩ := Option.isSome_iff_exists.mp present
      rw [holds] at now
      simp only [Option.map_some, Option.toList_some, List.mem_singleton] at now
      rw [now, holds]
      exact ⟨rfl, rfl⟩
    · simp at now

theorem KeyRun.Identified.import : (run.step (.importIak answers data)).Identified cfgIakId := by
  obtain ⟨⟨⟨cfg, iakId⟩, store⟩, referred⟩ := run
  obtain ⟨rfl, held, refers⟩ := identified
  dsimp only [KeyRun.step, referById, attestKeyMngrImportIak]
  by_cases empty : iakId = 0
  · rw [if_pos empty]
    unfold psaImportKey KeyStore.create setIakAttributes
    cases answers.create with
    | none => exact ⟨rfl, .inl rfl, by simpa using refers⟩
    | some volatileId =>
      dsimp only
      rw [if_pos nonzero, if_pos nonzero]
      by_cases taken : (store.find cfg).isSome
      · rw [if_pos taken]
        exact ⟨rfl, .inl rfl, by simpa using refers⟩
      · rw [if_neg taken]
        have absent : store.persistent cfg = none := by
          cases holds : store.persistent cfg with
          | none => rfl
          | some key => simp [KeyStore.find, holds] at taken
        have unreferred : referred = [] := by
          apply List.eq_nil_iff_forall_not_mem.mpr
          intro key member
          obtain ⟨present, same⟩ := refers key member
          rw [same, absent] at present
          cases present
        refine ⟨rfl, .inr ⟨rfl, by simp⟩, ?_⟩
        intro key member
        rw [unreferred] at member
        have same : key = some (.imported data) := by
          simpa [KeyStore.find] using member
        rw [same]
        simp
  · rw [if_neg empty]
    exact ⟨rfl, held, by simpa using refers⟩

theorem KeyRun.Identified.step
    {call : KeyCall} (finds : call.FindsKey run) : (run.step call).Identified cfgIakId := by
  cases call with
  | getIakId answers => exact identified.get nonzero finds
  | exportIakPublicKey answers => exact identified.use nonzero finds
  | sign answers => exact identified.use nonzero finds
  | importIak answers data => exact identified.import nonzero
  | iakExists answers => exact identified
  | deinit =>
    have persistent : ¬(run.world.mngr.cfgIakId = 0 ∧ run.world.mngr.iakId ≠ 0) :=
      fun both => nonzero (identified.configured.symm.trans both.1)
    unfold KeyRun.step localAttestKeyMngrDeinit
    rw [if_neg persistent]
    exact identified
  | restart => exact ⟨identified.configured, .inl rfl, identified.referred⟩

end

theorem KeyRun.Identified.stable (identified : run.Identified cfgIakId) :
    run.Stable cfgIakId where
  same key member other otherMember :=
    (identified.referred key member).2.trans (identified.referred other otherMember).2.symm
  kept key holds := by
    obtain empty | ⟨configured, present⟩ := identified.held
    · exact .inl empty
    · right
      rw [configured, KeyStore.find_persistent present, holds]

/-- The identity is stable in every run in which each lookup of the key finds the configured key
in the key store. -/
theorem iak_stable (nonzero : cfgIakId ≠ 0) (store : KeyStore)
    (reached : Reached KeyRun.step (KeyRun.initial cfgIakId store)
      (fun run call => call.FindsKey run) run) : run.Stable cfgIakId := by
  have identified : run.Identified cfgIakId := by
    apply reached.invariant
    · exact ⟨rfl, .inl rfl, fun _ member => nomatch member⟩
    · intro state call _ identified finds
      exact identified.step nonzero finds
  exact identified.stable

end

def emptyKeyStore : KeyStore := ⟨fun _ => none, fun _ => none, 0⟩

/-- The key store answers all calls, with the id `0x7fff0000` for a volatile key. -/
def answering : StoreAnswers := ⟨true, some 0x7fff0000, true⟩

/-- The key is imported in manufacture, and used before and after a restart. -/
def provisionedCalls : List KeyCall :=
  [.importIak answering [1, 2, 3], .sign answering, .restart, .getIakId answering, .restart,
    .exportIakPublicKey answering]

theorem iak_stable_provisioned :
    (provisionedCalls.foldl KeyRun.step (KeyRun.initial 7 emptyKeyStore)).Stable 7 ∧
      (provisionedCalls.foldl KeyRun.step (KeyRun.initial 7 emptyKeyStore)).referred =
        List.replicate 4 (some (.imported [1, 2, 3])) :=
  ⟨iak_stable (by decide) emptyKeyStore (Reached.start.run (by decide)), by decide⟩

/-- Without a provisioned key, each boot generates a volatile key of its own. A provisioned key is
given up for a generated one when a query fails. -/
theorem generatedIak_unstable :
    ([KeyCall.getIakId answering, .restart, .getIakId answering].foldl KeyRun.step
        (KeyRun.initial 7 emptyKeyStore)).referred =
          [some (.generated 0), some (.generated 1)] ∧
      ([KeyCall.importIak answering [1, 2, 3], .restart,
          .getIakId { answering with query := false }].foldl KeyRun.step
        (KeyRun.initial 7 emptyKeyStore)).referred =
          [some (.imported [1, 2, 3]), some (.generated 0)] := by
  decide

end Attestation

import TrustedServices.Tpm.CrbProvider

/- What a request at one locality can reach of the others. -/
namespace Tpm

open Lib Accessing

section

/-- The registers and the data buffer of a locality. -/
def Locality.Own (locality : Locality) (region : CrbRegion) (position : Nat) : Prop :=
  region = locality.region ∧ locality.base ≤ position ∧
    position < locality.base + locAndCrbCtrlSize

/-- The register that all localities share. -/
def LocStateRegister (region : CrbRegion) (position : Nat) : Prop :=
  ∃ locality : Locality, region = locality.region ∧ locality.base + locStateOffset ≤ position ∧
    position < locality.base + locStateOffset + 4

/-- A run of bytes of the locality. -/
def Locality.Holds (locality : Locality) (area : CrbRegion → Nat → Prop) (offset length : Nat) :
    Prop :=
  ∀ position, locality.base + offset ≤ position → position < locality.base + offset + length →
    area locality.region position

theorem Locality.holds_own (locality : Locality) {offset length : Nat}
    (inside : offset + length ≤ locAndCrbCtrlSize) :
    locality.Holds locality.Own offset length := by
  intro position lower upper
  exact ⟨rfl, by omega, by omega⟩

theorem Locality.holds_dataBuffer_iff (locality : Locality) (length : Nat) :
    locality.Holds locality.Own dataBufferOffset length ↔ length ≤ crbDataBufSize := by
  constructor
  · intro holds
    by_cases empty : length = 0
    · omega
    · have last := holds (locality.base + dataBufferOffset + length - 1) (by omega) (by omega)
      have upper := last.2.2
      unfold locAndCrbCtrlSize at upper
      omega
  · intro fits
    apply locality.holds_own
    unfold locAndCrbCtrlSize
    omega

variable {area : CrbRegion → Nat → Prop} {memory : Memory CrbRegion} (locality : Locality)
  (offset : Nat)

@[simp] theorem memory_loadField : (loadField locality offset memory).memory = memory := rfl

@[simp] theorem touchesOnly_loadField :
    TouchesOnly area (loadField locality offset) memory ↔ locality.Holds area offset 4 := by
  unfold loadField
  rw [touchesOnly_bind, touchesOnly_loadWord, touchesOnly_pure, and_true]
  rfl

@[simp] theorem touchesOnly_storeField (value : BitVec 32) :
    TouchesOnly area (storeField locality offset value) memory ↔
      locality.Holds area offset 4 := by
  unfold storeField
  rw [touchesOnly_store, length_leBytes]
  rfl

theorem framed_loadField : Framed (loadField locality offset) :=
  (framed_loadWord _ _ _).bind fun _ => framed_pure _

theorem framed_storeField (value : BitVec 32) : Framed (storeField locality offset value) :=
  framed_store _ _ _

end

section

variable {State : Type} (backend : TpmBackend State) (tpm : State) (locality : Locality)
  (memory : Memory CrbRegion)

def CommandStarted : Prop :=
  (loadField locality ctrlStartOffset memory).value &&& crbCtrlStartCommand ≠ 0

def commandLength : Nat := (tpmGetRequestLength locality memory).value

def commandResponse : Bytes :=
  (backend.execute tpm
    (load locality.region (locality.base + dataBufferOffset) (commandLength locality memory)
      memory).value crbSize).1

/-- A command that is executed fits the data buffer, and so does its response. -/
def CommandFits : Prop :=
  CommandStarted locality memory → commandLength locality memory ≠ 0 →
    commandLength locality memory ≤ crbSize →
    commandLength locality memory ≤ crbDataBufSize ∧
      (commandResponse backend tpm locality memory).length ≤ crbDataBufSize

theorem touchesOnly_tpmGetRequestLength :
    TouchesOnly locality.Own (tpmGetRequestLength locality) memory := by
  unfold tpmGetRequestLength
  rw [touchesOnly_bind, touchesOnly_load, touchesOnly_pure, and_true]
  exact locality.holds_own (show dataBufferOffset + 2 + 4 ≤ locAndCrbCtrlSize by decide)

theorem holds_ctrlStart : locality.Holds locality.Own ctrlStartOffset 4 :=
  locality.holds_own (by decide)

theorem commandHandler_own_iff :
    TouchesOnly locality.Own (commandHandler backend tpm locality) memory ↔
      CommandFits backend tpm locality memory := by
  unfold commandHandler CommandFits CommandStarted
  rw [touchesOnly_bind, touchesOnly_loadField, memory_loadField]
  simp only [holds_ctrlStart, true_and, ne_eq]
  split
  case isTrue idle => simp only [touchesOnly_pure, idle, not_true_eq_false, false_implies]
  case isFalse started =>
    rw [touchesOnly_bind]
    simp only [touchesOnly_tpmGetRequestLength, true_and, started, not_false_eq_true, true_implies]
    change TouchesOnly _ (if commandLength locality memory = 0 ∨
      crbSize < commandLength locality memory then _ else _) memory ↔ _
    split
    case isTrue refused =>
      simp only [touchesOnly_pure, true_iff]
      intro present fits
      omega
    case isFalse accepted =>
      have present : ¬ commandLength locality memory = 0 := by omega
      have fits : commandLength locality memory ≤ crbSize := by omega
      simp only [present, fits, not_false_eq_true, true_implies]
      rw [touchesOnly_bind, touchesOnly_load, memory_load]
      simp only [touchesOnly_bind, touchesOnly_store, touchesOnly_loadField,
        touchesOnly_storeField, touchesOnly_pure, holds_ctrlStart, and_true]
      exact and_congr (locality.holds_dataBuffer_iff _) (locality.holds_dataBuffer_iff _)

end

section

variable (locality : Locality) (memory : Memory CrbRegion)

/-- What a locality request may reach. -/
def Locality.OwnOrShared (region : CrbRegion) (position : Nat) : Prop :=
  locality.Own region position ∨ LocStateRegister region position

variable {offset : Nat}

variable {locality} in
theorem holds_shared (inside : offset + 4 ≤ locAndCrbCtrlSize) :
    locality.Holds locality.OwnOrShared offset 4 := by
  intro position lower upper
  exact Or.inl (locality.holds_own inside position lower upper)

theorem touchesOnly_setLocState (locState : BitVec 32) (localities : List Locality) :
    TouchesOnly locality.OwnOrShared (setLocState locState localities) memory := by
  induction localities generalizing memory with
  | nil => exact (touchesOnly_pure ()).mpr trivial
  | cons other rest ih =>
    unfold setLocState
    rw [touchesOnly_bind, touchesOnly_storeField]
    refine ⟨?_, ih _⟩
    intro position lower upper
    exact Or.inr ⟨other, rfl, lower, upper⟩

theorem touchesOnly_updateLocState (change : BitVec 32 → BitVec 32) :
    TouchesOnly locality.OwnOrShared (updateLocState locality change) memory := by
  unfold updateLocState setLocStateAll
  simp only [touchesOnly_bind, touchesOnly_loadField, touchesOnly_setLocState, and_true]
  exact holds_shared (by decide)

theorem touchesOnly_updateField (inside : offset + 4 ≤ locAndCrbCtrlSize)
    (change : BitVec 32 → BitVec 32) :
    TouchesOnly locality.OwnOrShared (updateField locality offset change) memory := by
  unfold updateField
  rw [touchesOnly_bind, touchesOnly_loadField, touchesOnly_storeField]
  exact ⟨holds_shared inside, holds_shared inside⟩

theorem touchesOnly_whenRequested (bits : BitVec 32) (program : CrbProgram Unit)
    (touches : ∀ memory, TouchesOnly locality.OwnOrShared program memory) :
    TouchesOnly locality.OwnOrShared (whenRequested locality bits program) memory := by
  unfold whenRequested
  rw [touchesOnly_bind, touchesOnly_loadField]
  refine ⟨holds_shared (by decide), ?_⟩
  split
  · exact (touchesOnly_pure ()).mpr trivial
  · exact touches _

theorem touchesOnly_requestAccess :
    TouchesOnly locality.OwnOrShared (requestAccess locality) memory := by
  unfold requestAccess
  simp only [touchesOnly_bind]
  exact ⟨touchesOnly_updateLocState locality _ _,
    touchesOnly_updateField locality _ (by decide) _,
    touchesOnly_updateField locality _ (by decide) _⟩

theorem touchesOnly_relinquish : TouchesOnly locality.OwnOrShared (relinquish locality) memory := by
  unfold relinquish
  simp only [touchesOnly_bind]
  exact ⟨touchesOnly_updateLocState locality _ _,
    touchesOnly_updateField locality _ (by decide) _,
    touchesOnly_updateField locality _ (by decide) _⟩

variable {State : Type} (tpm : State)

theorem localityReqHandler_touches :
    TouchesOnly locality.OwnOrShared (localityReqHandler tpm locality) memory := by
  unfold localityReqHandler
  split
  · exact (touchesOnly_pure _).mpr trivial
  · simp only [touchesOnly_bind, touchesOnly_pure, and_true]
    exact ⟨touchesOnly_whenRequested locality _ _ _ (touchesOnly_requestAccess locality),
      touchesOnly_whenRequested locality _ _ _ (touchesOnly_relinquish locality)⟩

theorem framed_setLocState (locState : BitVec 32) (localities : List Locality) :
    Framed (setLocState locState localities) := by
  induction localities with
  | nil => exact framed_pure ()
  | cons other rest ih => exact (framed_storeField other _ locState).bind fun _ => ih

theorem framed_updateLocState (change : BitVec 32 → BitVec 32) :
    Framed (updateLocState locality change) := by
  apply (framed_loadField locality _).bind
  intro locState
  apply (framed_setLocState _ _).bind
  intro _
  exact (framed_setLocState _ _).bind fun _ => framed_setLocState _ _

theorem framed_updateField (offset : Nat) (change : BitVec 32 → BitVec 32) :
    Framed (updateField locality offset change) :=
  (framed_loadField locality offset).bind fun _ => framed_storeField locality offset _

theorem framed_whenRequested (bits : BitVec 32) {program : CrbProgram Unit}
    (framed : Framed program) : Framed (whenRequested locality bits program) := by
  apply (framed_loadField locality _).bind
  intro locCtrl
  split
  · exact framed_pure ()
  · exact framed

theorem framed_requestAccess : Framed (requestAccess locality) :=
  (framed_updateLocState locality _).bind fun _ =>
    (framed_updateField locality _ _).bind fun _ => framed_updateField locality _ _

theorem framed_relinquish : Framed (relinquish locality) :=
  (framed_updateLocState locality _).bind fun _ =>
    (framed_updateField locality _ _).bind fun _ => framed_updateField locality _ _

theorem framed_localityReqHandler : Framed (localityReqHandler tpm locality) := by
  unfold localityReqHandler
  split
  · exact framed_pure _
  · apply (framed_whenRequested locality _ (framed_requestAccess locality)).bind
    intro _
    apply (framed_whenRequested locality _ (framed_relinquish locality)).bind
    intro _
    exact framed_pure _

end

variable {State : Type} (backend : TpmBackend State) (tpm : State) (locality : Locality)
  (memory : Memory CrbRegion)

/-- The secure CRB is touched at most at the shared register. -/
def SecureRegisterOnly (region : CrbRegion) (position : Nat) : Prop :=
  region = .secure → position < locStateOffset + 4

theorem commandHandler_region :
    TouchesOnly (fun region _ => region = locality.region) (commandHandler backend tpm locality)
      memory := by
  have field (offset length : Nat) :
      locality.Holds (fun region _ => region = locality.region) offset length :=
    fun _ _ _ => rfl
  unfold commandHandler tpmGetRequestLength
  simp only [touchesOnly_bind, touchesOnly_loadField, field, true_and]
  split
  · exact (touchesOnly_pure _).mpr trivial
  · simp only [touchesOnly_bind, touchesOnly_load, implies_true, touchesOnly_pure, true_and]
    split
    · exact (touchesOnly_pure _).mpr trivial
    · simp only [touchesOnly_bind, touchesOnly_load, touchesOnly_store, touchesOnly_loadField,
        touchesOnly_storeField, touchesOnly_pure, field, implies_true, and_true]

variable {locality : Locality}

theorem region_nonSecure (other : locality ≠ 4) : locality.region = .nonSecure := by
  have bound : locality.val < 4 := by
    have different : locality.val ≠ 4 := fun same => other (Fin.ext same)
    omega
  exact if_pos bound

theorem ownOrShared_secure (other : locality ≠ 4) {region : CrbRegion}
    {position : Nat} (reached : locality.OwnOrShared region position) :
    SecureRegisterOnly region position := by
  intro isSecure
  rcases reached with own | ⟨shared, inRegion, _, upper⟩
  · rw [own.1, region_nonSecure other] at isSecure
    cases isSecure
  · by_cases last : shared = 4
    · subst last
      exact upper
    · rw [inRegion, region_nonSecure last] at isSecure
      cases isSecure

/-- The provider as a request finds it. -/
structure Visit (State : Type) where
  tpm : State
  memory : Memory CrbRegion
  request : CrbRequest

structure Isolated (visit : Visit State) : Prop where
  command : ∀ locality, decodeStart visit.request = some (.command, locality) →
    TouchesOnly locality.Own (handleStartCommand backend visit.tpm visit.request) visit.memory
  localityReq : ∀ locality, decodeStart visit.request = some (.localityReq, locality) →
    ∀ region position, ¬ locality.Own region position → ¬ LocStateRegister region position →
      (handleStartCommand backend visit.tpm visit.request visit.memory).memory region position =
        visit.memory region position
  secure : ∀ qualifier locality, decodeStart visit.request = some (qualifier, locality) →
    locality ≠ 4 → TouchesOnly SecureRegisterOnly
      (handleStartCommand backend visit.tpm visit.request) visit.memory

/-- A command of the request fits the data buffer of its locality. -/
def Visit.Fits (visit : Visit State) : Prop :=
  ∀ locality, decodeStart visit.request = some (.command, locality) →
    CommandFits backend visit.tpm locality visit.memory

variable {backend} {visit : Visit State}

theorem handleStartCommand_command {area : CrbRegion → Nat → Prop}
    (decoded : decodeStart visit.request = some (.command, locality)) :
    TouchesOnly area (handleStartCommand backend visit.tpm visit.request) visit.memory ↔
      TouchesOnly area (commandHandler backend visit.tpm locality) visit.memory := by
  unfold handleStartCommand
  rw [decoded]
  rw [touchesOnly_bind, touchesOnly_pure, and_true]

variable (backend) in
theorem handleStartCommand_localityReq
    (decoded : decodeStart visit.request = some (.localityReq, locality)) :
    TouchesOnly locality.OwnOrShared (handleStartCommand backend visit.tpm visit.request)
        visit.memory ∧
      Framed (handleStartCommand backend visit.tpm visit.request) := by
  unfold handleStartCommand
  rw [decoded]
  rw [touchesOnly_bind, touchesOnly_pure, and_true]
  exact ⟨localityReqHandler_touches locality visit.memory visit.tpm,
    (framed_localityReqHandler locality visit.tpm).bind fun _ => framed_pure _⟩

/-- One request is isolated exactly if its command fits. -/
theorem isolated_iff : Isolated backend visit ↔ visit.Fits backend := by
  constructor
  · intro isolated locality decoded
    rw [← commandHandler_own_iff]
    exact (handleStartCommand_command decoded).mp (isolated.command locality decoded)
  · intro fits
    refine ⟨?_, ?_, ?_⟩
    · intro locality decoded
      rw [handleStartCommand_command decoded, commandHandler_own_iff]
      exact fits locality decoded
    · intro locality decoded region position notOwn notShared
      obtain ⟨touches, framed⟩ := handleStartCommand_localityReq backend decoded
      apply framed
      intro access member covers
      exact (touches access member region position covers).elim notOwn notShared
    · intro qualifier locality decoded other
      cases qualifier with
      | command =>
        rw [handleStartCommand_command decoded]
        refine TouchesOnly.mono (commandHandler_region backend visit.tpm locality visit.memory) ?_
        intro region position same isSecure
        rw [same, region_nonSecure other] at isSecure
        cases isSecure
      | localityReq =>
        refine TouchesOnly.mono (handleStartCommand_localityReq backend decoded).1 ?_
        intro region position reached
        exact ownOrShared_secure other reached

/-- A client's request, before which the clients write to the memory as they like. -/
structure CrbStep where
  clientWrites : Memory CrbRegion → Memory CrbRegion
  request : CrbRequest

variable (backend) in
def visits (tpm : State) (memory : Memory CrbRegion) : List CrbStep → List (Visit State)
  | [] => []
  | step :: rest =>
    let visit : Visit State := ⟨tpm, step.clientWrites memory, step.request⟩
    let done := handleStartCommand backend tpm step.request visit.memory
    visit :: visits done.value.2 done.memory rest

/-- A run keeps the localities apart exactly if every command that is executed fits, with its
response, the data buffer that its locality advertises. -/
theorem localities_isolated_iff {State : Type} (backend : TpmBackend State) (tpm : State)
    (memory : Memory CrbRegion) (steps : List CrbStep) :
    (∀ visit ∈ visits backend tpm memory steps, Isolated backend visit) ↔
      ∀ visit ∈ visits backend tpm memory steps, visit.Fits backend := by
  simp only [isolated_iff]

/-- A backend with an empty response. -/
def silentBackend : TpmBackend Unit where
  execute := fun tpm _ _ => ([], tpm)
  bounded := fun _ _ _ => Nat.zero_le _

/-- The start bit of locality 0 and, in its data buffer, a command of 4096 bytes. -/
def pageLongCommand : Memory CrbRegion := fun _ position =>
  if position = 0x4c then 1 else if position = 0x84 then 0x10 else 0

/-- A command at locality 0 is read to the end of its page and further, over the registers of
locality 1. -/
theorem pageLongCommand_overreads :
    let request : CrbRequest := fun register => if register = 1 then tpmFuncStart else 0
    let access : Access CrbRegion := ⟨.nonSecure, 0x80, 0x1000⟩
    decodeStart request = some (.command, 0) ∧
      access ∈ (handleStartCommand silentBackend () request pageLongCommand).accesses ∧
      (1 : Locality).base < access.offset + access.length := by
  refine ⟨by decide, ?_, by decide⟩
  decide +kernel

end Tpm

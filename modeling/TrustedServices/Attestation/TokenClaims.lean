import TrustedServices.Attestation.EventLog

/- The claims of a token, from the registered sources to the items that are encoded. -/
namespace Attestation.Report

open Lib BoundedList

abbrev PsaStatus := Int32

def psaSuccess : PsaStatus := 0
def psaErrorProgrammerError : PsaStatus := -129
def psaErrorInvalidArgument : PsaStatus := -135
def psaErrorBufferTooSmall : PsaStatus := -138
def psaErrorInsufficientMemory : PsaStatus := -141

inductive SubjectId
  | none
  | authChallenge
  | instanceId
  | verificationServiceIndicator
  | profileDefinition
  | implementationId
  | clientId
  | lifecycleState
  | hwVersion
  | bootSeed
  | noSwMeasurements
  | swComponent
  deriving DecidableEq, Repr

/-- What a claim holds that is no collection. A string is `none` for a null pointer. -/
inductive ClaimValue
  | unsupported
  | integer (value : Int32)
  | textString (string : Option Bytes)
  | byteString (bytes : Bytes)
  | measurement (id : Option Bytes) (digest : Bytes)
  deriving DecidableEq, Repr

inductive Claim
  | single (category : ClaimCategory) (subjectId : SubjectId) (value : ClaimValue)
  | collection (category : ClaimCategory) (subjectId : SubjectId) (claims : List Claim)

def Claim.category : Claim → ClaimCategory
  | .single category _ _ => category
  | .collection category _ _ => category

/-- Without memory for its claims, the limit is zero. -/
def claimVectorInit (allocated : Bool) (limit : Nat) : ClaimVector Claim :=
  .empty (if allocated then limit else 0)

/-- The category map is that of the last registration. `getClaim` is what the source answers when
claims of a category are collated. -/
structure ClaimSource where
  categoryMap : BitVec 32
  getClaim : ClaimCategory → Option Claim

abbrev ClaimsRegister := BoundedList ClaimSource

def queryCollectionByCategory (category : ClaimCategory) (result : ClaimVector Claim)
    (claims : List Claim) : ClaimVector Claim :=
  claims.foldl
    (fun result claim =>
      if claim.category = category then claimVectorPushBack result claim else result)
    result

def querySource (category : ClaimCategory) (result : ClaimVector Claim) (source : ClaimSource) :
    ClaimVector Claim :=
  if source.categoryMap &&& category.bits ≠ 0 then
    match source.getClaim category with
    | none => result
    | some (.collection _ _ claims) => queryCollectionByCategory category result claims
    | some (.single own subjectId value) =>
      if own = category then claimVectorPushBack result (.single own subjectId value)
      else result
  else result

def claimsRegisterQueryByCategory (register : ClaimsRegister) (category : ClaimCategory)
    (result : ClaimVector Claim) : ClaimVector Claim :=
  register.items.foldl (querySource category) result

def eatArmPsaClaimIdBase : Int := -75000
def eatArmPsaClaimIdSwComponents : Int := eatArmPsaClaimIdBase - 6

def eatLabel : SubjectId → Int
  | .authChallenge => eatArmPsaClaimIdBase - 8
  | .instanceId => eatArmPsaClaimIdBase - 9
  | .verificationServiceIndicator => eatArmPsaClaimIdBase - 10
  | .profileDefinition => eatArmPsaClaimIdBase - 0
  | .implementationId => eatArmPsaClaimIdBase - 3
  | .clientId => eatArmPsaClaimIdBase - 1
  | .lifecycleState => eatArmPsaClaimIdBase - 2
  | .hwVersion => eatArmPsaClaimIdBase - 5
  | .bootSeed => eatArmPsaClaimIdBase - 4
  | .noSwMeasurements => eatArmPsaClaimIdBase - 7
  | .swComponent => eatArmPsaClaimIdSwComponents
  | .none => 0

def eatSwComponentClaimIdMeasurementType : Int := 1
def eatSwComponentClaimIdMeasurementValue : Int := 2

inductive EatItem
  | integer (label : Int) (value : Int32)
  | textString (label : Int) (string : Option Bytes)
  | byteString (label : Int) (bytes : Bytes)
  | map (items : List EatItem)

/-- The items that the encoder is given for a claim. -/
def encodeClaim : Claim → List EatItem
  | .single _ subjectId (.integer value) => [.integer (eatLabel subjectId) value]
  | .single _ subjectId (.textString string) => [.textString (eatLabel subjectId) string]
  | .single _ subjectId (.byteString bytes) => [.byteString (eatLabel subjectId) bytes]
  | .single _ _ (.measurement id digest) =>
    [.map [.textString eatSwComponentClaimIdMeasurementType id,
      .byteString eatSwComponentClaimIdMeasurementValue digest]]
  | .single _ _ .unsupported => []
  | .collection _ _ _ => []

/-- A token: a map with the items of the device claims and, if there are any software claims, the
array of theirs, under the label `eatArmPsaClaimIdSwComponents`. -/
structure EatToken where
  deviceItems : List EatItem
  swComponents : Option (List EatItem)

def encodeToken (deviceClaims swClaims : ClaimVector Claim) : EatToken where
  deviceItems := deviceClaims.items.flatMap encodeClaim
  swComponents :=
    if swClaims.items.length ≠ 0 then some (swClaims.items.flatMap encodeClaim) else none

inductive QcborError
  | success
  | bufferTooSmall
  | other
  deriving DecidableEq, Repr

def qcborToPsaStatus : QcborError → PsaStatus
  | .success => psaSuccess
  | .bufferTooSmall => psaErrorBufferTooSmall
  | .other => psaErrorProgrammerError

/-- What the rest of the platform does while a report is created: the status of the key, which
allocations succeed, how the encoder ends and the status of the signature. -/
structure Platform where
  iakId : PsaStatus
  deviceVector : Bool
  swVector : Bool
  encodeBuffer : Bool
  qcborFinish : QcborError
  eatSign : PsaStatus

def eatSerialize (platform : Platform) (deviceClaims swClaims : ClaimVector Claim) :
    PsaStatus × Option EatToken :=
  if platform.encodeBuffer then
    match platform.qcborFinish with
    | .success => (psaSuccess, some (encodeToken deviceClaims swClaims))
    | failure => (qcborToPsaStatus failure, none)
  else (psaErrorInsufficientMemory, none)

section

def maxDeviceClaims : Nat := 50
def maxSwClaims : Nat := 50

def validateChallenge (length : Nat) : Bool := length = 32 ∨ length = 48 ∨ length = 64

/-- The category of the claims that are not from a source is not set; nothing reads it. -/
def authChallengeClaim (challenge : Bytes) : Claim :=
  .single .none .authChallenge (.byteString challenge)

def clientIdClaim (clientId : Int32) : Claim := .single .none .clientId (.integer clientId)

def noSwClaim : Claim := .single .none .noSwMeasurements (.integer 1)

variable (platform : Platform) (register : ClaimsRegister) (clientId : Int32) (challenge : Bytes)

def collateSwClaims : ClaimVector Claim :=
  claimsRegisterQueryByCategory register .bootMeasurement
    (claimVectorInit platform.swVector maxSwClaims)

def collateDeviceClaims : ClaimVector Claim :=
  let deviceClaims := claimVectorInit platform.deviceVector maxDeviceClaims
  let deviceClaims := claimVectorPushBack deviceClaims (authChallengeClaim challenge)
  let deviceClaims := claimVectorPushBack deviceClaims (clientIdClaim clientId)
  let deviceClaims := claimsRegisterQueryByCategory register .device deviceClaims
  let deviceClaims := claimsRegisterQueryByCategory register .verificationService deviceClaims
  if (collateSwClaims platform register).items.length = 0 then
    claimVectorPushBack deviceClaims noSwClaim
  else deviceClaims

def createReport : PsaStatus × Option EatToken :=
  if platform.iakId = psaSuccess then
    match eatSerialize platform (collateDeviceClaims platform register clientId challenge)
        (collateSwClaims platform register) with
    | (status, some token) =>
      if status = psaSuccess then
        if platform.eatSign = psaSuccess then (psaSuccess, some token)
        else (platform.eatSign, none)
      else (status, none)
    | (status, none) => (status, none)
  else (platform.iakId, none)

end

/-- The claims that the iterator over an event log comes to. -/
def logClaims (memory : Memory Unit) (limit : Nat) (stack : Attestation.Claim) :
    Nat → Nat → List Attestation.Claim
  | 0, _ => []
  | fuel + 1, pos =>
    if pos < limit then
      (eventLogIteratorCurrent pos limit stack memory).value.2 ::
        logClaims memory limit stack fuel (eventLogIteratorNext pos limit memory).value
    else []

section

variable {memory : Memory Unit} {len fuel pos : Nat} {stack : Attestation.Claim}
  {category : ClaimCategory} {vector result : ClaimVector Attestation.Claim}
  {report : Attestation.Claim → Claim}
  (keeps : ∀ claim, (report claim).category = claim.category)

include keeps

theorem queryCollectionByCategory_log
    (ends : (Attestation.queryCollectionByCategory len category stack fuel pos vector
      memory).value = some result) :
    result.map report = queryCollectionByCategory category (vector.map report)
      ((logClaims memory len stack fuel pos).map report) := by
  induction fuel generalizing pos vector with
  | zero => cases ends
  | succ fuel ih =>
    unfold logClaims
    by_cases inside : pos < len
    · rw [value_queryCollectionByCategory inside] at ends
      rw [ih ends, if_pos inside]
      unfold queryCollectionByCategory addClaim
      rw [List.map_cons, List.foldl_cons, keeps]
      split
      · rw [claimVectorPushBack, map_push]
        rfl
      · rfl
    · rw [queryCollectionByCategory_done (Nat.le_of_not_lt inside)] at ends
      cases ends
      rw [if_neg inside]
      rfl

/-- A register queries an event log as it does a source with the collection of the log's claims. -/
theorem claimsRegisterQueryByCategory_log {categoryMap : BitVec 32} (given : len ≠ 0)
    (ends : (Attestation.claimsRegisterQueryByCategory categoryMap len category stack fuel vector
      memory).value = some result) (own : ClaimCategory) (subjectId : SubjectId) :
    result.map report = querySource category (vector.map report) ⟨categoryMap, fun _ =>
      some (.collection own subjectId ((logClaims memory len stack fuel 0).map report))⟩ := by
  unfold Attestation.claimsRegisterQueryByCategory at ends
  unfold querySource
  by_cases mapped : categoryMap &&& category.bits ≠ 0
  · rw [if_pos ⟨mapped, given⟩] at ends
    rw [if_pos mapped]
    exact queryCollectionByCategory_log keeps ends
  · rw [if_neg fun both => mapped both.1] at ends
    rw [if_neg mapped]
    cases ends
    rfl

end

variable (category : ClaimCategory) (result : ClaimVector Claim)

variable (platform : Platform) (register : ClaimsRegister) (clientId : Int32) (challenge : Bytes)

end Attestation.Report

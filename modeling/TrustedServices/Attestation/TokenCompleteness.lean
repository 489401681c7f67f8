import TrustedServices.Attestation.TokenClaims

/- What can be lost between the sources and the encoded token. -/
namespace Attestation.Report

open Lib

/-- What an item of a token is about, by its label. -/
def labelledSubject (label : Int) : Option SubjectId :=
  [(-75008, SubjectId.authChallenge), (-75009, .instanceId), (-75010, .verificationServiceIndicator),
    (-75000, .profileDefinition), (-75003, .implementationId), (-75001, .clientId),
    (-75002, .lifecycleState), (-75005, .hwVersion), (-75004, .bootSeed),
    (-75007, .noSwMeasurements), (-75006, .swComponent), (0, .none)].lookup label

/-- What a reader of a token finds in an item. A measurement is a map without a label. -/
def EatItem.content : EatItem → Option (SubjectId × ClaimValue)
  | .integer label value => (labelledSubject label).map (·, .integer value)
  | .textString label (some string) => (labelledSubject label).map (·, .textString (some string))
  | .byteString label bytes => (labelledSubject label).map (·, .byteString bytes)
  | .map [.textString 1 (some id), .byteString 2 digest] =>
    some (.swComponent, .measurement (some id) digest)
  | _ => none

def Claim.content : Claim → Option (SubjectId × ClaimValue)
  | .single _ subjectId value => some (subjectId, value)
  | .collection _ _ _ => none

/-- Each claim stands in the items once, and nothing else does. -/
def Carries (items : List EatItem) (claims : List Claim) : Prop :=
  List.Forall₂ (fun claim item => item.content.isSome ∧ item.content = claim.content) claims items

/-- The claims that the encoder knows, without null pointers. -/
def Claim.encodable : Claim → Bool
  | .single _ _ (.integer _) => true
  | .single _ _ (.textString string) => string.isSome
  | .single _ _ (.byteString _) => true
  | .single _ subjectId (.measurement id _) => subjectId = .swComponent && id.isSome
  | .single _ _ .unsupported => false
  | .collection _ _ _ => false

theorem encodeClaim_length_le (claim : Claim) : (encodeClaim claim).length ≤ 1 := by
  unfold encodeClaim
  split <;> simp only [List.length_singleton, List.length_nil, le_refl, Nat.zero_le]

theorem encodable_of_content {claim : Claim} {item : EatItem} (some : item.content.isSome)
    (same : item.content = claim.content) : claim.encodable = true := by
  cases claim with
  | collection category subjectId claims =>
    rw [same] at some
    cases some
  | single category subjectId value =>
    unfold EatItem.content at same
    split at same <;> simp only [Claim.content, Option.map_eq_some_iff, Option.some.injEq,
      Prod.mk.injEq, reduceCtorEq] at same
    · obtain ⟨_, _, _, rfl⟩ := same
      rfl
    · obtain ⟨_, _, _, rfl⟩ := same
      rfl
    · obtain ⟨_, _, _, rfl⟩ := same
      rfl
    · obtain ⟨rfl, rfl⟩ := same
      rfl

theorem flatMap_encodeClaim_length_le (claims : List Claim) :
    (claims.flatMap encodeClaim).length ≤ claims.length := by
  induction claims with
  | nil => exact Nat.le_refl 0
  | cons claim rest ih =>
    have one := encodeClaim_length_le claim
    rw [List.flatMap_cons, List.length_append, List.length_cons]
    omega

variable {claims : List Claim}

theorem Carries.encodable {items : List EatItem}
    (carried : Carries items claims) : ∀ claim ∈ claims, claim.encodable = true := by
  intro claim inside
  induction carried with
  | nil => cases inside
  | cons told _ ih =>
    rcases List.mem_cons.mp inside with rfl | later
    · exact encodable_of_content told.1 told.2
    · exact ih later

/-- Items of the claims that are kept up to a limit carry what is due only if as many were there
and the limit is not reached. -/
theorem Carries.kept {kept due : List Claim} {limit : Nat}
    (carried : Carries ((kept.take limit).flatMap encodeClaim) due) :
    due.length ≤ limit ∧ due.length ≤ kept.length := by
  have length := List.Forall₂.length_eq carried
  have bound := flatMap_encodeClaim_length_le (kept.take limit)
  rw [List.length_take] at bound
  omega

variable (sources : List ClaimSource)

variable (platform : Platform) (calls : List (BitVec 32 × Option ClaimSource)) (clientId : Int32)
  (challenge : Bytes)

variable {platform calls clientId challenge}

end Attestation.Report

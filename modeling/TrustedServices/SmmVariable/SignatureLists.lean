import TrustedServices.SmmVariable.Auth

/- The signature lists of a key variable as a format. -/
namespace SmmVariable

open Lib

structure SignatureList where
  signatureType : EfiGuid
  signatureListSize : Nat
  signatureHeaderSize : Nat
  signatureSize : Nat
  deriving DecidableEq, Repr

def signatureListHeader : Nat := 28
def signatureOwnerSize : Nat := 16

def SignatureList.ofBytes (rest : Bytes) : SignatureList where
  signatureType := EfiGuid.ofBytes (slice rest 0 16)
  signatureListSize := leNat (slice rest 16 4)
  signatureHeaderSize := leNat (slice rest 20 4)
  signatureSize := leNat (slice rest 24 4)

/-- A list whose header, signatures and end lie within the bytes that are left. -/
def SignatureList.Fits (list : SignatureList) (size : Nat) : Prop :=
  signatureListHeader + list.signatureHeaderSize ≤ list.signatureListSize ∧
    list.signatureListSize ≤ size ∧ signatureOwnerSize < list.signatureSize

instance (list : SignatureList) (size : Nat) : Decidable (list.Fits size) :=
  inferInstanceAs (Decidable (_ ∧ _ ∧ _))

def SignatureList.signatures (list : SignatureList) : Nat :=
  (list.signatureListSize - signatureListHeader - list.signatureHeaderSize) / list.signatureSize

/-- The certificates of the first list in `rest`, each behind the GUID of its owner. -/
def SignatureList.certificates (list : SignatureList) (rest : Bytes) : List Bytes :=
  (List.range list.signatures).map fun index =>
    slice rest (signatureListHeader + list.signatureHeaderSize + index * list.signatureSize +
      signatureOwnerSize) (list.signatureSize - signatureOwnerSize)

/-- The bytes are signature lists, one behind the other. -/
def wellFormedLists : Nat → Bytes → Bool
  | 0, rest => rest.isEmpty
  | fuel + 1, rest =>
    rest.isEmpty ||
      (decide (signatureListHeader ≤ rest.length) &&
        decide ((SignatureList.ofBytes rest).Fits rest.length) &&
        wellFormedLists fuel (rest.drop (SignatureList.ofBytes rest).signatureListSize))

/-- The certificates of the lists in `rest`. -/
def listedCertificates : Nat → Bytes → List Bytes
  | 0, _ => []
  | fuel + 1, rest =>
    if (SignatureList.ofBytes rest).Fits rest.length then
      (SignatureList.ofBytes rest).certificates rest ++
        listedCertificates fuel (rest.drop (SignatureList.ofBytes rest).signatureListSize)
    else []

/-- The payload of a key variable is a sequence of signature lists. -/
def WellFormedKey (payload : Bytes) : Prop :=
  wellFormedLists (payload.length + 1) payload = true

instance (payload : Bytes) : Decidable (WellFormedKey payload) :=
  inferInstanceAs (Decidable (_ = _))

def keyCertificates (payload : Bytes) : List Bytes :=
  listedCertificates (payload.length + 1) payload

/-- The number of signatures as it is computed, in 64 bits. -/
def SignatureList.computedSignatures (list : SignatureList) : Nat :=
  ((2 ^ 64 + list.signatureListSize - 28 - list.signatureHeaderSize) % 2 ^ 64) / list.signatureSize

/-- The walk goes on with a list of certificates that is not longer than the bytes that are left. -/
def SignatureList.Entered (list : SignatureList) (size : Nat) : Prop :=
  list.signatureListSize ≤ size ∧ compareGuid list.signatureType efiCertX509Guid = true

instance (list : SignatureList) (size : Nat) : Decidable (list.Entered size) :=
  inferInstanceAs (Decidable (_ ∧ _))

theorem slice_drop (payload : Bytes) (start offset width : Nat) :
    slice (payload.drop start) offset width = slice payload (start + offset) width := by
  unfold slice
  rw [List.drop_drop]

variable {env : Env} {map : EfiDataMap} {hash payload : Bytes}

theorem readMemory_keyMemory {offset size : Nat} (inside : offset + size ≤ payload.length) :
    readMemory (keyMemory env payload) offset size = slice payload offset size := by
  unfold readMemory keyMemory slice
  apply List.ext_getElem
  · simp
    omega
  · intro index left right
    simp only [List.length_map, List.length_range] at left
    have present : offset + index < payload.length := by omega
    simp [present]

theorem verifyByCertificates_success {memory : Nat → UInt8} {signatureSize count start : Nat}
    (verified : (verifyByCertificates env map hash memory signatureSize count start).1 = true) :
    ∃ index < count, env.verifyPkcs7Signature map.certData hash
      (readMemory memory (start + index * signatureSize + 16)
        ((2 ^ 64 + signatureSize - 16) % 2 ^ 64)) = true := by
  induction count generalizing start with
  | zero => cases verified
  | succ count ih =>
    rw [verifyByCertificates] at verified
    split_ifs at verified ⊢ with here
    · exact ⟨0, Nat.succ_pos _, by simpa using here⟩
    · obtain ⟨index, below, later⟩ := ih verified
      refine ⟨index + 1, Nat.succ_lt_succ below, ?_⟩
      rw [Nat.succ_mul, Nat.add_comm (index * signatureSize), ← Nat.add_assoc]
      exact later

variable {list : SignatureList}

/-- The certificates of a list that fits lie within the list. -/
theorem SignatureList.certificate_inside {size index : Nat}
    (fits : list.Fits size) (below : index < list.signatures) :
    signatureListHeader + list.signatureHeaderSize + index * list.signatureSize +
      list.signatureSize ≤ size := by
  obtain ⟨header, inside, _⟩ := fits
  have last : (index + 1) * list.signatureSize ≤
      list.signatureListSize - signatureListHeader - list.signatureHeaderSize :=
    Nat.le_trans (Nat.mul_le_mul_right _ below) (Nat.div_mul_le_self _ _)
  rw [Nat.succ_mul] at last
  omega

theorem readMemory_header {start offset width : Nat} (inside : start ≤ payload.length)
    (header : signatureListHeader ≤ (payload.drop start).length)
    (field : offset + width ≤ signatureListHeader) :
    readMemory (keyMemory env payload) (start + offset) width =
      slice (payload.drop start) offset width := by
  rw [List.length_drop] at header
  rw [slice_drop, readMemory_keyMemory (by omega)]

theorem readMemory_fields {start : Nat} (inside : start ≤ payload.length)
    (header : signatureListHeader ≤ (payload.drop start).length) :
    (⟨EfiGuid.ofBytes (readMemory (keyMemory env payload) start 16),
      leNat (readMemory (keyMemory env payload) (start + 16) 4),
      leNat (readMemory (keyMemory env payload) (start + 20) 4),
      leNat (readMemory (keyMemory env payload) (start + 24) 4)⟩ : SignatureList) =
        .ofBytes (payload.drop start) := by
  have type := @readMemory_header env payload start 0 16 inside header (by decide)
  rw [Nat.add_zero] at type
  rw [type, readMemory_header inside header (by decide), readMemory_header inside header (by decide),
    readMemory_header inside header (by decide)]
  rfl

/-- A round of the outer loop that comes to a list. -/
theorem verifyBySignatureLists_list {fuel start : Nat} (inside : start ≤ payload.length)
    (header : signatureListHeader ≤ (payload.drop start).length)
    (isList : SignatureList.ofBytes (payload.drop start) = list) :
    verifyBySignatureLists env map hash (keyMemory env payload) (fuel + 1) start
        (payload.length - start) =
      if list.Entered (payload.drop start).length then
        if list.signatureSize = 0 then (.noReturn, [.header start, .divide 0])
        else
          let certificates := verifyByCertificates env map hash (keyMemory env payload)
            list.signatureSize list.computedSignatures (start + 28 + list.signatureHeaderSize)
          let later :=
            if certificates.1 then (.success, [])
            else verifyBySignatureLists env map hash (keyMemory env payload) fuel
              (start + list.signatureListSize) (payload.length - (start + list.signatureListSize))
          (later.1, .header start :: .divide list.signatureSize :: (certificates.2 ++ later.2))
      else (if list.signatureListSize ≤ (payload.drop start).length then .invalidParameter
        else .securityViolation, [.header start]) := by
  have fields := @readMemory_fields env payload start inside header
  rw [isList] at fields
  have left : payload.length - start ≠ 0 := by
    rw [List.length_drop] at header
    unfold signatureListHeader at header
    omega
  rw [verifyBySignatureLists, if_neg left, ← fields, List.length_drop, ← Nat.sub_sub]
  unfold SignatureList.Entered SignatureList.computedSignatures
  by_cases fits : leNat (readMemory (keyMemory env payload) (start + 16) 4) ≤ payload.length - start
  · simp only [fits, true_and, ↓reduceIte]
  · simp only [fits, false_and, ↓reduceIte]

theorem leNat_word_lt (bytes : Bytes) (offset : Nat) : leNat (slice bytes offset 4) < 2 ^ 32 := by
  have short : (slice bytes offset 4).length ≤ 4 := by
    exact List.length_take_le _ _
  have bound := leNat_lt (slice bytes offset 4)
  have power : 256 ^ (slice bytes offset 4).length ≤ 256 ^ 4 :=
    Nat.pow_le_pow_right (by decide) short
  omega

/-- The inner loop tries the certificates of a list that fits, and no others. -/
theorem verifyByCertificates_list {start : Nat}
    (inside : start ≤ payload.length) (fits : list.Fits (payload.drop start).length)
    (small : list.signatureListSize < 2 ^ 32 ∧ list.signatureSize < 2 ^ 32)
    (verified : (verifyByCertificates env map hash (keyMemory env payload) list.signatureSize
      list.computedSignatures (start + 28 + list.signatureHeaderSize)).1 = true) :
    ∃ certificate ∈ list.certificates (payload.drop start),
      env.verifyPkcs7Signature map.certData hash certificate = true := by
  obtain ⟨headerFits, listFits, owner⟩ := fits
  unfold signatureListHeader at headerFits
  unfold signatureOwnerSize at owner
  have count : (2 ^ 64 + list.signatureListSize - 28 - list.signatureHeaderSize) % 2 ^ 64 =
      list.signatureListSize - 28 - list.signatureHeaderSize := by omega
  have width : (2 ^ 64 + list.signatureSize - 16) % 2 ^ 64 = list.signatureSize - 16 := by omega
  rw [SignatureList.computedSignatures, count] at verified
  obtain ⟨index, below, holds⟩ := verifyByCertificates_success verified
  have last := SignatureList.certificate_inside ⟨headerFits, listFits, owner⟩ below
  unfold signatureListHeader at last
  rw [List.length_drop] at last
  rw [width, readMemory_keyMemory (by omega)] at holds
  refine ⟨_, List.mem_map.mpr ⟨index, List.mem_range.mpr below, rfl⟩, ?_⟩
  unfold signatureListHeader signatureOwnerSize
  rw [slice_drop]
  have position : start + (28 + list.signatureHeaderSize + index * list.signatureSize + 16) =
      start + 28 + list.signatureHeaderSize + index * list.signatureSize + 16 := by omega
  rw [position]
  exact holds

/-- A verification against well-formed lists succeeds for one of their certificates only. -/
theorem verifyBySignatureLists_success {fuel start : Nat} (inside : start ≤ payload.length)
    (wellFormed : wellFormedLists fuel (payload.drop start) = true)
    (verified : (verifyBySignatureLists env map hash (keyMemory env payload) fuel start
      (payload.length - start)).1 = .success) :
    ∃ certificate ∈ listedCertificates fuel (payload.drop start),
      env.verifyPkcs7Signature map.certData hash certificate = true := by
  induction fuel generalizing start with
  | zero => cases verified
  | succ fuel ih =>
    by_cases empty : (payload.drop start).isEmpty = true
    · have done : payload.length - start = 0 := by
        rw [List.isEmpty_iff, List.drop_eq_nil_iff] at empty
        omega
      rw [done, verifyBySignatureLists] at verified
      cases verified
    rw [wellFormedLists, Bool.eq_false_iff.mpr empty, Bool.false_or, Bool.and_eq_true,
      Bool.and_eq_true, decide_eq_true_eq, decide_eq_true_eq] at wellFormed
    obtain ⟨⟨header, fits⟩, rest⟩ := wellFormed
    have small : (SignatureList.ofBytes (payload.drop start)).signatureListSize < 2 ^ 32 ∧
        (SignatureList.ofBytes (payload.drop start)).signatureSize < 2 ^ 32 :=
      ⟨leNat_word_lt _ _, leNat_word_lt _ _⟩
    rw [listedCertificates, if_pos fits]
    rw [List.drop_drop] at rest ⊢
    generalize isList : SignatureList.ofBytes (payload.drop start) = list at *
    rw [verifyBySignatureLists_list inside header isList] at verified
    split_ifs at verified with entered _
    dsimp only at verified
    split_ifs at verified with found
    · obtain ⟨certificate, member, holds⟩ := verifyByCertificates_list inside fits small found
      exact ⟨certificate, List.mem_append_left _ member, holds⟩
    · have within := entered.1
      rw [List.length_drop] at within
      obtain ⟨certificate, member, holds⟩ := ih (by omega) rest verified
      exact ⟨certificate, List.mem_append_right _ member, holds⟩

end SmmVariable

import TrustedServices.Lib.Bytes

/- Parameters as records of a tag, a length and a value. -/
namespace Common

open Lib

/-- A record. The value is what its pointer leads to, which may be more than `length` bytes. -/
structure TlvRecord where
  tag : BitVec 16
  length : BitVec 16
  value : Bytes
  deriving DecidableEq, Repr

/-- The record of a buffer. Its length is cut to 16 bits. -/
def TlvRecord.ofBuffer (tag : BitVec 16) (buffer : Bytes) : TlvRecord :=
  ⟨tag, BitVec.ofNat 16 buffer.length, buffer⟩

def tlvHdrLen : Nat := 4

/-- The sum is one of `size_t`. -/
def tlvRequiredSpace (length : Nat) : Nat := (tlvHdrLen + length) % 2 ^ 64

/-- A buffer that is encoded to, before and behind the position. -/
structure TlvIterator where
  encoded : Bytes
  space : Bytes
  prevTag : BitVec 16
  deriving DecidableEq, Repr

def tlvIteratorBegin (buffer : Bytes) : TlvIterator := ⟨[], buffer, 0⟩

def TlvIterator.buffer (iter : TlvIterator) : Bytes := iter.encoded ++ iter.space

def tlvField (field : BitVec 16) : Bytes :=
  [UInt8.ofNat (field.toNat / 256), UInt8.ofNat field.toNat]

def TlvRecord.bytes (record : TlvRecord) : Bytes :=
  tlvField record.tag ++ tlvField record.length ++ record.value.take record.length.toNat

/-- The iterator behind the record, or `none` if there is no room or the tags do not ascend. -/
def tlvEncode (iter : TlvIterator) (record : TlvRecord) : Option TlvIterator :=
  if tlvRequiredSpace record.length.toNat ≤ iter.space.length ∧ iter.prevTag ≤ record.tag then
    some ⟨iter.encoded ++ record.bytes,
      iter.space.drop (tlvRequiredSpace record.length.toNat), record.tag⟩
  else none

/-- The record at the position, and what lies behind it. -/
def tlvDecode (space : Bytes) : Option (TlvRecord × Bytes) :=
  if tlvHdrLen ≤ space.length then
    let tag := BitVec.ofNat 16 (beNat (slice space 0 2))
    let length := BitVec.ofNat 16 (beNat (slice space 2 2))
    if length.toNat + tlvHdrLen ≤ space.length then
      some (⟨tag, length, slice space tlvHdrLen length.toNat⟩,
        space.drop (length.toNat + tlvHdrLen))
    else none
  else none

/-- The records up to the first one that does not have a smaller tag. -/
def tlvFindDecodeIn (tag : BitVec 16) : Nat → Bytes → Option (TlvRecord × Bytes)
  | 0, _ => none
  | rounds + 1, space =>
    match tlvDecode space with
    | none => none
    | some (record, behind) =>
      if record.tag = tag then some (record, behind)
      else if tag < record.tag then none
      else tlvFindDecodeIn tag rounds behind

/-- A buffer has fewer records than bytes. -/
def tlvFindDecode (space : Bytes) (tag : BitVec 16) : Option (TlvRecord × Bytes) :=
  tlvFindDecodeIn tag (space.length + 1) space

section

theorem tlvRequiredSpace_eq {length : Nat} (small : length < 2 ^ 64 - tlvHdrLen) :
    tlvRequiredSpace length = tlvHdrLen + length := by
  exact Nat.mod_eq_of_lt (by unfold tlvHdrLen at small ⊢; omega)

theorem tlvRequiredSpace_field (length : BitVec 16) :
    tlvRequiredSpace length.toNat = tlvHdrLen + length.toNat := by
  exact tlvRequiredSpace_eq (by unfold tlvHdrLen; omega)

@[simp] theorem length_tlvField (field : BitVec 16) : (tlvField field).length = 2 := rfl

theorem beNat_tlvField (field : BitVec 16) : beNat (tlvField field) = field.toNat := by
  simp only [tlvField, beNat, UInt8.toNat_ofNat', List.length_cons, List.length_nil]
  omega

variable {record : TlvRecord}

theorem TlvRecord.length_bytes (whole : record.length.toNat ≤ record.value.length) :
    record.bytes.length = tlvHdrLen + record.length.toNat := by
  simp only [TlvRecord.bytes, List.length_append, length_tlvField, List.length_take, tlvHdrLen]
  omega

end

section

variable {record : TlvRecord} {behind : Bytes}

section

variable (whole : record.length.toNat ≤ record.value.length)

include whole

/-- A record that has been encoded is decoded with its value, cut to its length. -/
theorem tlvDecode_bytes : tlvDecode (record.bytes ++ behind) =
      some (⟨record.tag, record.length, record.value.take record.length.toNat⟩, behind) := by
  have length := TlvRecord.length_bytes whole
  have tag : slice (record.bytes ++ behind) 0 2 = tlvField record.tag := by
    unfold TlvRecord.bytes
    rw [List.append_assoc, List.append_assoc]
    exact slice_append_left _ _ 2 rfl
  have lengthField : slice (record.bytes ++ behind) 2 2 = tlvField record.length := by
    unfold TlvRecord.bytes
    rw [List.append_assoc, List.append_assoc, slice_append_right _ _ _ _ (by simp)]
    exact slice_append_left _ _ 2 rfl
  have value : slice (record.bytes ++ behind) tlvHdrLen record.length.toNat =
      record.value.take record.length.toNat := by
    unfold TlvRecord.bytes
    rw [List.append_assoc, slice_append_right _ _ _ _ (by simp [tlvHdrLen])]
    exact slice_append_left _ _ _ (by rw [List.length_take]; omega)
  have rest : (record.bytes ++ behind).drop (record.length.toNat + tlvHdrLen) = behind := by
    rw [Nat.add_comm, ← length, List.drop_left]
  unfold tlvDecode
  rw [tag, lengthField, beNat_tlvField, beNat_tlvField, BitVec.ofNat_toNat, BitVec.ofNat_toNat,
    BitVec.setWidth_eq, BitVec.setWidth_eq]
  rw [if_pos (by rw [List.length_append]; omega), if_pos (by rw [List.length_append]; omega), value,
    rest]

theorem tlvFindDecode_bytes : tlvFindDecode (record.bytes ++ behind) record.tag =
      some (⟨record.tag, record.length, record.value.take record.length.toNat⟩, behind) := by
  unfold tlvFindDecode tlvFindDecodeIn
  rw [tlvDecode_bytes whole]
  exact if_pos rfl

end

theorem tlvEncode_begin {buffer : Bytes} :
    tlvEncode (tlvIteratorBegin buffer) record =
      if tlvHdrLen + record.length.toNat ≤ buffer.length then
        some ⟨record.bytes, buffer.drop (tlvHdrLen + record.length.toNat), record.tag⟩
      else none := by
  have first : (0 : BitVec 16) ≤ record.tag := BitVec.le_def.mpr (Nat.zero_le _)
  unfold tlvEncode tlvIteratorBegin
  rw [tlvRequiredSpace_field]
  rw [List.nil_append]
  simp only [first, and_true]

end

section

variable {tag : BitVec 16} {buffer behind : Bytes}

@[simp] theorem TlvRecord.ofBuffer_length :
    (TlvRecord.ofBuffer tag buffer).length.toNat = buffer.length % 2 ^ 16 :=
  BitVec.toNat_ofNat _ _

theorem TlvRecord.length_ofBuffer_bytes :
    (TlvRecord.ofBuffer tag buffer).bytes.length = tlvHdrLen + buffer.length % 2 ^ 16 := by
  rw [TlvRecord.length_bytes, TlvRecord.ofBuffer_length]
  exact Nat.mod_le _ _

theorem tlvFindDecode_ofBuffer :
    tlvFindDecode ((TlvRecord.ofBuffer tag buffer).bytes ++ behind) tag =
      some (⟨tag, BitVec.ofNat 16 buffer.length, buffer.take (buffer.length % 2 ^ 16)⟩, behind) := by
  have whole : (TlvRecord.ofBuffer tag buffer).length.toNat ≤ buffer.length := by
    exact Nat.mod_le _ _
  have found := @tlvFindDecode_bytes (TlvRecord.ofBuffer tag buffer) behind whole
  rwa [TlvRecord.ofBuffer_length] at found

variable {space : Bytes}

theorem tlvDecode_length {record : TlvRecord} (decoded : tlvDecode space = some (record, behind)) :
    record.value.length = record.length.toNat := by
  unfold tlvDecode at decoded
  split_ifs at decoded ⊢
  dsimp only at decoded
  split_ifs at decoded ⊢ with fits
  cases decoded
  exact length_slice _ _ _ (by rw [Nat.add_comm]; exact fits)

theorem tlvFindDecode_length {record : TlvRecord}
    (found : tlvFindDecode space tag = some (record, behind)) :
    record.value.length = record.length.toNat := by
  have all (rounds : Nat) (space : Bytes)
      (found : tlvFindDecodeIn tag rounds space = some (record, behind)) :
      record.value.length = record.length.toNat := by
    induction rounds generalizing space with
    | zero => cases found
    | succ rounds ih =>
      unfold tlvFindDecodeIn at found
      split at found
      · cases found
      · rename_i decoded
        split_ifs at found ⊢
        · cases found
          exact tlvDecode_length decoded
        · exact ih _ found
  exact all _ _ found

end

end Common

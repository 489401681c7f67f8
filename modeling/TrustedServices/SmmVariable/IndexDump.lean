import TrustedServices.SmmVariable.Index

/- Serialising the index, and restoring it from a dump that may have been cut short. -/
namespace SmmVariable

open Lib

def VariableMetadata.toBytes (metadata : VariableMetadata) : Bytes :=
  metadata.guid.toBytes ++ (metadata.timestamp.toBytes ++
    (leBytes 32 metadata.fingerprint.toNat ++ (leBytes 8 metadata.nameSize ++
    ((metadata.name ++ List.replicate variableIndexMaxNameBytes 0).take variableIndexMaxNameBytes ++
    (leBytes 4 metadata.attributes.toNat ++ (leBytes 4 0 ++ leBytes 8 metadata.uid))))))

def VariableMetadata.ofBytes (image : Bytes) : VariableMetadata where
  guid := EfiGuid.ofBytes (slice image 0 16)
  timestamp := EfiTime.ofBytes (slice image 16 16)
  fingerprint := BitVec.ofNat 256 (leNat (slice image 32 32))
  nameSize := leNat (slice image 64 8)
  name := (slice image 72 128).take (leNat (slice image 64 8))
  attributes := BitVec.ofNat 32 (leNat (slice image 200 4))
  uid := leNat (slice image 208 8)

@[simp] theorem VariableMetadata.length_toBytes (metadata : VariableMetadata) :
    metadata.toBytes.length = sizeofVariableMetadata := by
  simp [toBytes, variableIndexMaxNameBytes, sizeofVariableMetadata]

/-- The metadata of a live entry: what its fixed-width image can hold. -/
structure VariableMetadata.Stored (metadata : VariableMetadata) : Prop where
  size : metadata.nameSize = metadata.name.length
  fits : metadata.name.length ≤ variableIndexMaxNameBytes
  uid : metadata.uid < 2 ^ 64

/-- Any metadata that a fixed-width image can hold, whatever its name size. -/
structure VariableMetadata.Held (metadata : VariableMetadata) : Prop where
  name : metadata.name.length = min metadata.nameSize variableIndexMaxNameBytes
  nameSize : metadata.nameSize < 2 ^ 64
  uid : metadata.uid < 2 ^ 64

theorem VariableMetadata.Stored.held {metadata : VariableMetadata} (stored : metadata.Stored) :
    metadata.Held := by
  obtain ⟨size, fits, uid⟩ := stored
  refine ⟨by omega, ?_, uid⟩
  unfold variableIndexMaxNameBytes at fits
  omega

theorem VariableMetadata.ofBytes_toBytes (metadata : VariableMetadata) (held : metadata.Held)
    (rest : Bytes) : ofBytes (metadata.toBytes ++ rest) = metadata := by
  obtain ⟨guid, timestamp, fingerprint, nameSize, name, attributes, uid⟩ := metadata
  obtain ⟨nameFits, sizeFits, uidFits⟩ := held
  simp only [variableIndexMaxNameBytes] at nameFits sizeFits uidFits
  have word32 := leNat_leBytes_bitVec 4 attributes
  have word256 := leNat_leBytes_bitVec 32 fingerprint
  have sizeWord : leNat (leBytes 8 nameSize) = nameSize := leNat_leBytes 8 nameSize (by omega)
  have uidWord : leNat (leBytes 8 uid) = uid := leNat_leBytes 8 uid (by omega)
  have guidFront : ∀ back, slice (guid.toBytes ++ back) 0 16 = guid.toBytes := fun back =>
    slice_append_left _ _ _ guid.length_toBytes
  have timeFront : ∀ back, slice (timestamp.toBytes ++ back) 0 16 = timestamp.toBytes := fun back =>
    slice_append_left _ _ _ timestamp.length_toBytes
  have guidBehind : ∀ back offset width, 16 ≤ offset →
      slice (guid.toBytes ++ back) offset width = slice back (offset - 16) width := by
    intro back offset width far
    rw [slice_append_right _ _ _ _ (by simpa using far), guid.length_toBytes]
  have timeBehind : ∀ back offset width, 16 ≤ offset →
      slice (timestamp.toBytes ++ back) offset width = slice back (offset - 16) width := by
    intro back offset width far
    rw [slice_append_right _ _ _ _ (by simpa using far), timestamp.length_toBytes]
  have guidWord : EfiGuid.ofBytes guid.toBytes = guid := by
    simpa using guid.ofBytes_toBytes []
  have timeWord : EfiTime.ofBytes timestamp.toBytes = timestamp := by
    simpa using timestamp.ofBytes_toBytes []
  have array : ((name ++ List.replicate 128 0).take 128).length = 128 := by
    simp
  have nameFront : ∀ back, slice ((name ++ List.replicate 128 0).take 128 ++ back) 0 128 =
      (name ++ List.replicate 128 0).take 128 := fun back => slice_append_left _ _ _ array
  have nameBehind : ∀ back offset width, 128 ≤ offset →
      slice ((name ++ List.replicate 128 0).take 128 ++ back) offset width =
        slice back (offset - 128) width := by
    intro back offset width far
    rw [slice_append_right _ _ _ _ (by rwa [array]), array]
  have nameWord : ((name ++ List.replicate 128 0).take 128).take nameSize = name := by
    rw [List.take_take, ← nameFits]
    exact List.take_left
  simp (disch := decide) only [ofBytes, toBytes, variableIndexMaxNameBytes, List.append_assoc,
    slice_leBytes_behind, slice_leBytes_front, guidFront, timeFront, guidBehind, timeBehind,
    nameFront, nameBehind, Nat.sub_self, Nat.reduceSub, guidWord, timeWord, sizeWord, nameWord,
    uidWord, word32, word256]

def VariableConstraints.toBytes (constraints : VariableConstraints) : Bytes :=
  leBytes 2 constraints.revision.toNat ++ (leBytes 2 constraints.property.toNat ++
    (leBytes 4 constraints.attributes.toNat ++ (leBytes 8 constraints.minSize.toNat ++
    leBytes 8 constraints.maxSize.toNat)))

def VariableConstraints.ofBytes (image : Bytes) : VariableConstraints where
  revision := BitVec.ofNat 16 (leNat (slice image 0 2))
  property := BitVec.ofNat 16 (leNat (slice image 2 2))
  attributes := BitVec.ofNat 32 (leNat (slice image 4 4))
  minSize := BitVec.ofNat 64 (leNat (slice image 8 8))
  maxSize := BitVec.ofNat 64 (leNat (slice image 16 8))

@[simp] theorem VariableConstraints.length_toBytes (constraints : VariableConstraints) :
    constraints.toBytes.length = sizeofVariableConstraints := by
  simp [toBytes, sizeofVariableConstraints]

theorem VariableConstraints.ofBytes_toBytes (constraints : VariableConstraints) (rest : Bytes) :
    ofBytes (constraints.toBytes ++ rest) = constraints := by
  have word16 := leNat_leBytes_bitVec 2
  have word32 := leNat_leBytes_bitVec 4
  have word64 := leNat_leBytes_bitVec 8
  simp (disch := decide) only [ofBytes, toBytes, List.append_assoc, slice_leBytes_behind,
    slice_leBytes_front, Nat.sub_self, Nat.reduceSub, word16, word32, word64]

namespace VariableEntry

section

variable (entry : VariableEntry)

def isDumped : Bool :=
  entry.inUse && entry.isVariableSet && isNonVolatile entry.attributes

/-- The bytes a dump saves for one entry. -/
def record : Bytes :=
  entry.info.metadata.toBytes ++ (UInt8.ofNat entry.isConstraintsSet.toNat ::
    if entry.isConstraintsSet then entry.checkConstraints.toBytes else [])

/-- The entry that `record` restores. -/
def restored : VariableEntry where
  info :=
    { metadata := entry.info.metadata
      checkConstraints := if entry.isConstraintsSet then entry.checkConstraints else .zero
      isVariableSet := true
      isConstraintsSet := entry.isConstraintsSet }
  inUse := true
  dirty := false

theorem length_record : entry.record.length = 217 + (if entry.isConstraintsSet then 24 else 0) := by
  simp only [record, List.length_append, List.length_cons, VariableMetadata.length_toBytes,
    sizeofVariableMetadata]
  split <;> simp [sizeofVariableConstraints]

end

end VariableEntry

structure DumpResult where
  status : EfiStatus
  data : Bytes
  anyDirty : Bool
  entries : List VariableEntry

/-- The loop of `variable_index_dump` over the entries still to be saved. The
checks made before each of the three copies return the same status, so they
amount to one check of the whole record. -/
def dumpLoop (bufferSize : Nat) : Bytes → Bool → List VariableEntry → DumpResult
  | dumped, anyDirty, [] => ⟨.success, dumped, anyDirty, []⟩
  | dumped, anyDirty, entry :: rest =>
    if entry.isDumped ∧ bufferSize < dumped.length + entry.record.length then
      ⟨.bufferTooSmall, [], anyDirty, entry :: rest⟩
    else
      let next := dumpLoop bufferSize (if entry.isDumped then dumped ++ entry.record else dumped)
        (anyDirty || entry.dirty) rest
      { next with entries := { entry with dirty := false } :: next.entries }

def variableIndexDump (index : VariableIndex) (bufferSize : Nat) : DumpResult :=
  dumpLoop bufferSize (leBytes 4 (index.counter + 1).toNat) false index.entries

def variableIndexConfirmWrite (index : VariableIndex) : VariableIndex :=
  { index with counter := index.counter + 1 }

/-- What a restore leaves: the table, the bytes consumed, and whether it wrote
behind the table. -/
structure RestoreResult where
  entries : List VariableEntry
  bytesLoaded : Nat
  overrun : Bool

/-- The loop of `variable_index_restore`; the table is the part from the current
position on. -/
def restoreLoop : List VariableEntry → Bytes → RestoreResult
  | [], data => ⟨[], 0, decide (sizeofVariableMetadata ≤ data.length)⟩
  | entry :: table, data =>
    if data.length < sizeofVariableMetadata then ⟨entry :: table, 0, false⟩
    else
      let loaded := { entry with info.metadata := .ofBytes (data.take sizeofVariableMetadata) }
      match data.drop sizeofVariableMetadata with
      | [] => ⟨loaded :: table, sizeofVariableMetadata, false⟩
      | flag :: data =>
        let flagged := { loaded with isConstraintsSet := flag != 0 }
        if flag != 0 then
          if data.length < sizeofVariableConstraints then
            ⟨flagged :: table, sizeofVariableMetadata + 1, false⟩
          else
            let next := restoreLoop table (data.drop sizeofVariableConstraints)
            { next with
              entries :=
                { flagged with
                  checkConstraints := .ofBytes (data.take sizeofVariableConstraints)
                  isVariableSet := true
                  inUse := true } :: next.entries
              bytesLoaded :=
                sizeofVariableMetadata + 1 + sizeofVariableConstraints + next.bytesLoaded }
        else
          let next := restoreLoop table data
          { next with
            entries := { flagged with isVariableSet := true, inUse := true } :: next.entries
            bytesLoaded := sizeofVariableMetadata + 1 + next.bytesLoaded }

/-- Without four bytes of data the counter stays. -/
def variableIndexRestore (index : VariableIndex) (data : Bytes) : VariableIndex × RestoreResult :=
  let result := restoreLoop index.entries (if 4 ≤ data.length then data.drop 4 else data)
  ({ counter := if 4 ≤ data.length then BitVec.ofNat 32 (leNat (slice data 0 4)) else index.counter
     entries := result.entries },
   { result with bytesLoaded := (if 4 ≤ data.length then 4 else 0) + result.bytesLoaded })

/-- The records of the entries a dump saves, in table order. -/
def dumpRecords (entries : List VariableEntry) : Bytes :=
  (entries.filter VariableEntry.isDumped).flatMap VariableEntry.record

def VariableEntry.clean (entry : VariableEntry) : VariableEntry :=
  { entry with dirty := false }

theorem dumpRecords_cons (entry : VariableEntry) (rest : List VariableEntry) :
    dumpRecords (entry :: rest) =
      (if entry.isDumped then entry.record else []) ++ dumpRecords rest := by
  simp only [dumpRecords, List.filter_cons]
  split <;> simp

theorem length_dumpRecords_le (entries : List VariableEntry) :
    (dumpRecords entries).length ≤ 241 * entries.length := by
  induction entries with
  | nil => simp [dumpRecords]
  | cons entry rest ih =>
    have bound : entry.record.length ≤ 241 := by
      rw [entry.length_record]
      split <;> omega
    rw [dumpRecords_cons, List.length_append, List.length_cons]
    split
    · omega
    · simp only [List.length_nil]
      omega

/-- The records of variables without constraints all have the same size. -/
theorem length_dumpRecords_eq (entries : List VariableEntry)
    (saved : ∀ entry ∈ entries, entry.isDumped = true ∧ entry.isConstraintsSet = false) :
    (dumpRecords entries).length = 217 * entries.length := by
  induction entries with
  | nil => simp [dumpRecords]
  | cons entry rest ih =>
    obtain ⟨dumped, unconstrained⟩ := saved entry List.mem_cons_self
    have others := ih fun other member => saved other (List.mem_cons_of_mem _ member)
    rw [dumpRecords_cons, if_pos dumped, List.length_append, entry.length_record, unconstrained,
      List.length_cons, others]
    simp only [Bool.false_eq_true, ↓reduceIte]
    omega

theorem dumpLoop_success (bufferSize : Nat) (entries : List VariableEntry) (dumped : Bytes)
    (anyDirty : Bool) (room : dumped.length + (dumpRecords entries).length ≤ bufferSize) :
    dumpLoop bufferSize dumped anyDirty entries =
      ⟨.success, dumped ++ dumpRecords entries, anyDirty || entries.any (·.dirty),
        entries.map VariableEntry.clean⟩ := by
  induction entries generalizing dumped anyDirty with
  | nil => simp [dumpLoop, dumpRecords]
  | cons entry rest ih =>
    rw [dumpRecords_cons, List.length_append] at room
    have fits : ¬ (entry.isDumped ∧ bufferSize < dumped.length + entry.record.length) := by
      rintro ⟨saved, large⟩
      simp only [saved, ↓reduceIte] at room
      omega
    rw [dumpLoop, if_neg fits]
    by_cases saved : entry.isDumped
    · simp only [saved, ↓reduceIte] at room ⊢
      rw [ih (dumped ++ entry.record) _ (by rw [List.length_append]; omega)]
      simp [dumpRecords_cons, saved, VariableEntry.clean, Bool.or_assoc]
    · simp only [saved, Bool.false_eq_true, ↓reduceIte] at room ⊢
      rw [ih dumped _ (by simpa using room)]
      simp [dumpRecords_cons, saved, VariableEntry.clean, Bool.or_assoc]

/-- The sync buffer is large enough for any index. -/
theorem variableIndexDump_eq (index : VariableIndex) (bufferSize : Nat)
    (room : variableIndexMaxDumpSize index ≤ bufferSize) :
    variableIndexDump index bufferSize =
      ⟨.success, leBytes 4 (index.counter + 1).toNat ++ dumpRecords index.entries,
        index.entries.any (·.dirty), index.entries.map VariableEntry.clean⟩ := by
  have bound := length_dumpRecords_le index.entries
  rw [variableIndexDump, dumpLoop_success]
  · simp
  · simp only [variableIndexMaxDumpSize, sizeofVariableMetadata, sizeofVariableConstraints,
      VariableIndex.maxVariables] at room
    rw [length_leBytes]
    omega

/-- One whole record restores one entry of a fresh table. -/
theorem restoreLoop_record (entry : VariableEntry) (held : entry.info.metadata.Held)
    (table : List VariableEntry) (rest : Bytes) :
    restoreLoop (.zero :: table) (entry.record ++ rest) =
      { restoreLoop table rest with
        entries := entry.restored :: (restoreLoop table rest).entries
        bytesLoaded := entry.record.length + (restoreLoop table rest).bytesLoaded } := by
  obtain ⟨⟨metadata, constraints, isVariableSet, isConstraintsSet⟩, inUse, dirty⟩ := entry
  have image := metadata.length_toBytes
  have loaded : VariableMetadata.ofBytes metadata.toBytes = metadata := by
    simpa using metadata.ofBytes_toBytes held []
  have constraintsImage := constraints.length_toBytes
  have constraintsLoaded : VariableConstraints.ofBytes constraints.toBytes = constraints := by
    simpa using constraints.ofBytes_toBytes []
  have front : ∀ back, (metadata.toBytes ++ back).take sizeofVariableMetadata = metadata.toBytes := by
    intro back
    rw [← image]
    exact List.take_left
  have behind : ∀ back, (metadata.toBytes ++ back).drop sizeofVariableMetadata = back := by
    intro back
    rw [← image]
    exact List.drop_left
  have long : ∀ back : Bytes, ¬ (metadata.toBytes ++ back).length < sizeofVariableMetadata := by
    intro back
    rw [List.length_append, image]
    omega
  cases isConstraintsSet with
  | false =>
    simp only [VariableEntry.record, List.append_assoc, restoreLoop, long, ↓reduceIte, front,
      behind, loaded, Bool.false_eq_true, List.cons_append, List.nil_append, Bool.toNat_false]
    simp [VariableEntry.restored, VariableEntry.zero, VariableInfo.zero, sizeofVariableMetadata]
  | true =>
    have constraintsFront : (constraints.toBytes ++ rest).take sizeofVariableConstraints =
        constraints.toBytes := by
      rw [← constraintsImage]
      exact List.take_left
    have constraintsBehind : (constraints.toBytes ++ rest).drop sizeofVariableConstraints =
        rest := by
      rw [← constraintsImage]
      exact List.drop_left
    have constraintsLong : ¬ (constraints.toBytes ++ rest).length < sizeofVariableConstraints := by
      rw [List.length_append, constraintsImage]
      omega
    simp only [VariableEntry.record, List.append_assoc, restoreLoop, long, ↓reduceIte, front,
      behind, loaded, List.cons_append, Bool.toNat_true]
    simp only [constraintsLong, constraintsFront, constraintsBehind, constraintsLoaded, ↓reduceIte]
    simp [VariableEntry.restored, VariableEntry.zero, VariableInfo.zero, sizeofVariableMetadata,
      sizeofVariableConstraints]

/-- Whole records fill the front of a fresh table; what follows them goes on in
the rest of the table. -/
theorem restoreLoop_records (saved : List VariableEntry)
    (held : ∀ entry ∈ saved, entry.info.metadata.Held) (count : Nat) (rest : Bytes)
    (room : saved.length ≤ count) :
    restoreLoop (List.replicate count .zero) (saved.flatMap VariableEntry.record ++ rest) =
      let tail := restoreLoop (List.replicate (count - saved.length) .zero) rest
      { tail with
        entries := saved.map VariableEntry.restored ++ tail.entries
        bytesLoaded := (saved.flatMap VariableEntry.record).length + tail.bytesLoaded } := by
  induction saved generalizing count with
  | nil => simp
  | cons entry others ih =>
    obtain ⟨left, rfl⟩ : ∃ left, count = left + 1 := ⟨count - 1, by
      simp only [List.length_cons] at room
      omega⟩
    have roomLeft : others.length ≤ left := by
      simp only [List.length_cons] at room
      omega
    rw [List.flatMap_cons, List.append_assoc, List.replicate_succ,
      restoreLoop_record entry (held entry List.mem_cons_self),
      ih (fun other member => held other (List.mem_cons_of_mem _ member)) left roomLeft]
    simp only [List.length_cons, Nat.add_sub_add_right, List.map_cons, List.cons_append,
      List.length_append, Nat.add_assoc]

/-- A record that was cut short puts no entry in use and does not overrun. -/
theorem restoreLoop_cutRecord (entry : VariableEntry) (count kept : Nat)
    (short : kept < entry.record.length) :
    let result := restoreLoop (List.replicate (count + 1) .zero) (entry.record.take kept)
    result.overrun = false ∧ result.entries.length = count + 1 ∧
      ∀ other ∈ result.entries, other.inUse = false ∧ other.isVariableSet = false := by
  obtain ⟨⟨metadata, constraints, isVariableSet, isConstraintsSet⟩, inUse, dirty⟩ := entry
  have image := metadata.length_toBytes
  have idle : ∀ first : VariableEntry, first.inUse = false → first.isVariableSet = false →
      ∀ other ∈ first :: List.replicate count VariableEntry.zero,
        other.inUse = false ∧ other.isVariableSet = false := by
    intro first unused unset other member
    rcases List.mem_cons.mp member with rfl | member
    · exact ⟨unused, unset⟩
    · rw [List.eq_of_mem_replicate member]
      exact ⟨rfl, rfl⟩
  rw [VariableEntry.length_record] at short
  by_cases none : kept < sizeofVariableMetadata
  · have little : (List.take kept (VariableEntry.record ⟨⟨metadata, constraints, isVariableSet,
        isConstraintsSet⟩, inUse, dirty⟩)).length < sizeofVariableMetadata := by
      rw [List.length_take]
      omega
    rw [List.replicate_succ, restoreLoop, if_pos little]
    exact ⟨rfl, by simp, idle _ rfl rfl⟩
  · obtain ⟨more, rfl⟩ : ∃ more, kept = metadata.toBytes.length + more :=
      ⟨kept - metadata.toBytes.length, by rw [image]; omega⟩
    have cut : ∀ back, (metadata.toBytes ++ back).take (metadata.toBytes.length + more) =
        metadata.toBytes ++ back.take more := by
      intro back
      rw [List.take_append, List.take_of_length_le (by omega), Nat.add_sub_cancel_left]
    have long : ∀ back : Bytes, ¬ (metadata.toBytes ++ back).length < sizeofVariableMetadata := by
      intro back
      rw [List.length_append, image]
      omega
    have behind : ∀ back, (metadata.toBytes ++ back).drop sizeofVariableMetadata = back := by
      intro back
      rw [← image]
      exact List.drop_left
    rw [List.replicate_succ]
    simp only [VariableEntry.record, cut, restoreLoop, long, ↓reduceIte, behind]
    cases more with
    | zero => exact ⟨rfl, by simp, idle _ rfl rfl⟩
    | succ more =>
      rw [image, sizeofVariableMetadata] at short
      cases isConstraintsSet with
      | false =>
        simp only [Bool.false_eq_true, ↓reduceIte] at short
        omega
      | true =>
        simp only [↓reduceIte] at short
        have little : (constraints.toBytes.take more).length < sizeofVariableConstraints := by
          rw [List.length_take, sizeofVariableConstraints]
          omega
        simp only [List.take_succ_cons, ↓reduceIte, Bool.toNat_true, little]
        exact ⟨rfl, by simp, idle _ rfl rfl⟩

/-- Cutting a list of records leaves whole records and part of the next. -/
theorem take_records (saved : List VariableEntry) (kept : Nat)
    (short : kept < (saved.flatMap VariableEntry.record).length) :
    ∃ (front : List VariableEntry) (next : VariableEntry) (back : List VariableEntry) (part : Nat),
      saved = front ++ next :: back ∧ part < next.record.length ∧
        (saved.flatMap VariableEntry.record).take kept =
          front.flatMap VariableEntry.record ++ next.record.take part := by
  induction saved generalizing kept with
  | nil => simp at short
  | cons entry others ih =>
    rw [List.flatMap_cons, List.length_append] at short
    by_cases inside : kept < entry.record.length
    · refine ⟨[], entry, others, kept, rfl, inside, ?_⟩
      rw [List.flatMap_cons, List.take_append_of_le_length (by omega)]
      simp
    · obtain ⟨front, next, back, part, split, cutShort, cut⟩ :=
        ih (kept - entry.record.length) (by omega)
      refine ⟨entry :: front, next, back, part, by rw [split]; rfl, cutShort, ?_⟩
      rw [List.flatMap_cons, List.take_append, List.take_of_length_le (by omega), cut,
        List.flatMap_cons, List.append_assoc]

theorem restoreLoop_nil (count : Nat) :
    restoreLoop (List.replicate count .zero) [] = ⟨List.replicate count .zero, 0, false⟩ := by
  cases count with
  | zero => rfl
  | succ count => rfl

/-- What a dump restores after it was cut: the records that are whole, in table
order, and no other entry in use. -/
theorem restoreLoop_take (saved : List VariableEntry)
    (stored : ∀ entry ∈ saved, entry.info.metadata.Stored) (count : Nat)
    (room : saved.length ≤ count) (kept : Nat) :
    let result := restoreLoop (List.replicate count .zero)
      ((saved.flatMap VariableEntry.record).take kept)
    ∃ front rest, front <+: saved ∧ result.entries = front.map VariableEntry.restored ++ rest ∧
      (∀ entry ∈ rest, entry.inUse = false ∧ entry.isVariableSet = false) ∧
      front.length + rest.length = count ∧
      (kept < (saved.flatMap VariableEntry.record).length → front.length < saved.length) := by
  by_cases short : kept < (saved.flatMap VariableEntry.record).length
  · obtain ⟨front, next, back, part, rfl, cutShort, cut⟩ := take_records saved kept short
    have frontHeld : ∀ entry ∈ front, entry.info.metadata.Held := fun entry member =>
      (stored entry (List.mem_append_left _ member)).held
    rw [List.length_append, List.length_cons] at room
    have frontRoom : front.length ≤ count := by omega
    obtain ⟨left, leftEq⟩ : ∃ left, count - front.length = left + 1 :=
      ⟨count - front.length - 1, by omega⟩
    obtain ⟨_, size, idle⟩ := restoreLoop_cutRecord next left part cutShort
    refine ⟨front, _, List.prefix_append _ _, ?_, idle, by rw [size]; omega, fun _ => by simp⟩
    rw [cut, restoreLoop_records front frontHeld count _ frontRoom, leftEq]
  · refine ⟨saved, List.replicate (count - saved.length) .zero, List.prefix_rfl, ?_, ?_, ?_, ?_⟩
    · have whole := restoreLoop_records saved (fun entry member => (stored entry member).held) count
        [] room
      rw [List.append_nil, restoreLoop_nil] at whole
      rw [List.take_of_length_le (by omega), whole]
    · intro entry member
      rw [List.eq_of_mem_replicate member]
      exact ⟨rfl, rfl⟩
    · rw [List.length_replicate]
      omega
    · intro cut
      exact absurd cut short

/-- A dump starts with its counter; the records follow. -/
theorem variableIndexRestore_counted (index : VariableIndex) (counter : BitVec 32)
    (records : Bytes) :
    (variableIndexRestore index (leBytes 4 counter.toNat ++ records)).1 =
      ⟨counter, (restoreLoop index.entries records).entries⟩ := by
  have image := length_leBytes 4 counter.toNat
  have long : 4 ≤ (leBytes 4 counter.toNat ++ records).length := by
    rw [List.length_append, image]
    omega
  have behind : (leBytes 4 counter.toNat ++ records).drop 4 = records := by
    rw [List.drop_append_of_le_length (by omega), List.drop_of_length_le (by omega),
      List.nil_append]
  have word : BitVec.ofNat 32 (leNat (leBytes 4 counter.toNat)) = counter :=
    leNat_leBytes_bitVec 4 counter
  rw [variableIndexRestore]
  simp only [long, ↓reduceIte, behind, slice_leBytes_front, word]

end SmmVariable

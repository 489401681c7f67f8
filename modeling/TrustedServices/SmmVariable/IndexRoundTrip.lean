import TrustedServices.Lib.Transition
import TrustedServices.SmmVariable.WellFormed

/- The tables that the index operations lead to, and their dumps. -/
namespace SmmVariable

open Lib VariableEntry

/-- The size of the record in front of the data, if it is complete. -/
def recordSize? (data : Bytes) : Option Nat :=
  if data.length < sizeofVariableMetadata + 1 then none
  else if data.getD sizeofVariableMetadata 0 = 0 then some (sizeofVariableMetadata + 1)
  else if data.length < sizeofVariableMetadata + 1 + sizeofVariableConstraints then none
  else some (sizeofVariableMetadata + 1 + sizeofVariableConstraints)

/-- The bytes behind the first complete records, at most `count` of them. An incomplete record
ends the data. -/
def behindRecords : Nat → Bytes → Bytes
  | 0, data => data
  | count + 1, data =>
    ((recordSize? data).map fun size => behindRecords count (data.drop size)).getD []

/-- The number of complete records in front of the data, at most `count`. -/
def completeRecords : Nat → Bytes → Nat
  | 0, _ => 0
  | count + 1, data =>
    ((recordSize? data).map fun size => completeRecords count (data.drop size) + 1).getD 0

/-- What the data in front of it leaves in an entry. -/
structure LoadedFrom (data : Bytes) (entry loaded : VariableEntry) : Prop where
  metadata : loaded.info.metadata = entry.info.metadata ∨ sizeofVariableMetadata ≤ data.length ∧
    loaded.info.metadata = .ofBytes (data.take sizeofVariableMetadata)
  inUse : loaded.inUse = if (recordSize? data).isSome then true else entry.inUse

/-- One round of the restore: a complete record puts its entry in use and the loop goes on behind
it, and otherwise it ends. -/
theorem restoreLoop_cons (entry : VariableEntry) (table : List VariableEntry) (data : Bytes) :
    ∃ loaded bytes, LoadedFrom data entry loaded ∧
      restoreLoop (entry :: table) data =
        match recordSize? data with
        | none => ⟨loaded :: table, bytes, false⟩
        | some size =>
          let next := restoreLoop table (data.drop size)
          ⟨loaded :: next.entries, size + next.bytesLoaded, next.overrun⟩ := by
  rw [restoreLoop]
  by_cases short : data.length < sizeofVariableMetadata
  · have none : recordSize? data = none := if_pos (by omega)
    rw [if_pos short, none]
    exact ⟨entry, 0, ⟨.inl rfl, by rw [none]; rfl⟩, rfl⟩
  · rw [if_neg short]
    have long : sizeofVariableMetadata ≤ data.length := by omega
    split
    · rename_i ended
      have exactly : data.length ≤ sizeofVariableMetadata := List.drop_eq_nil_iff.mp ended
      have none : recordSize? data = none := if_pos (by omega)
      rw [none]
      exact ⟨_, _, ⟨.inr ⟨long, rfl⟩, by rw [none]; rfl⟩, rfl⟩
    · rename_i flag rest found
      have size : data.length = sizeofVariableMetadata + 1 + rest.length := by
        have := congrArg List.length found
        rw [List.length_drop, List.length_cons] at this
        omega
      have position : data.getD sizeofVariableMetadata 0 = flag := by
        rw [List.getD_eq_getElem?_getD, ← Nat.add_zero sizeofVariableMetadata, ← List.getElem?_drop,
          found]
        rfl
      have behind : ∀ offset, data.drop (sizeofVariableMetadata + 1 + offset) = rest.drop offset := by
        intro offset
        rw [Nat.add_assoc, ← List.drop_drop, found, Nat.add_comm 1 offset, List.drop_succ_cons]
      by_cases unset : flag = 0
      · have complete : recordSize? data = some (sizeofVariableMetadata + 1) := by
          rw [recordSize?, if_neg (by omega), position, if_pos unset]
        rw [complete, unset, if_neg (by decide)]
        dsimp only
        rw [show data.drop (sizeofVariableMetadata + 1) = rest from behind 0]
        exact ⟨_, 0, ⟨.inr ⟨long, rfl⟩, by rw [complete]; rfl⟩, rfl⟩
      · have set : (flag != 0) = true := by simpa using unset
        simp only [set, ↓reduceIte]
        by_cases cut : rest.length < sizeofVariableConstraints
        · have none : recordSize? data = none := by
            rw [recordSize?, if_neg (by omega), position, if_neg unset, if_pos (by omega)]
          rw [if_pos cut, none]
          exact ⟨_, _, ⟨.inr ⟨long, rfl⟩, by rw [none]; rfl⟩, rfl⟩
        · have complete : recordSize? data =
              some (sizeofVariableMetadata + 1 + sizeofVariableConstraints) := by
            rw [recordSize?, if_neg (by omega), position, if_neg unset, if_neg (by omega)]
          rw [if_neg cut, complete]
          dsimp only
          rw [behind]
          exact ⟨_, 0, ⟨.inr ⟨long, rfl⟩, by rw [complete]; rfl⟩, rfl⟩

/-- A restore writes behind the table if and only if another record starts behind as many
complete ones as the table has entries. -/
theorem restoreLoop_overrun_iff (table : List VariableEntry) (data : Bytes) :
    (restoreLoop table data).overrun = false ↔
      (behindRecords table.length data).length < sizeofVariableMetadata := by
  induction table generalizing data with
  | nil =>
    show decide (sizeofVariableMetadata ≤ data.length) = false ↔ data.length < sizeofVariableMetadata
    rw [decide_eq_false_iff_not]
    omega
  | cons entry table ih =>
    obtain ⟨loaded, bytes, _, round⟩ := restoreLoop_cons entry table data
    rw [round, List.length_cons, behindRecords]
    cases recordSize? data with
    | none => exact ⟨fun _ => Nat.zero_lt_succ _, fun _ => rfl⟩
    | some size => exact ih (data.drop size)

/-- An entry is in use if a complete record was loaded into it or if it was before. -/
theorem restoreLoop_inUse (table : List VariableEntry) (data : Bytes) (pos : Nat) :
    ((restoreLoop table data).entries[pos]?.map (·.inUse)) =
      if pos < completeRecords table.length data then some true else table[pos]?.map (·.inUse) := by
  induction table generalizing data pos with
  | nil => rfl
  | cons entry table ih =>
    obtain ⟨loaded, bytes, from_, round⟩ := restoreLoop_cons entry table data
    have inUse := from_.inUse
    rw [round, List.length_cons, completeRecords]
    cases found : recordSize? data with
    | none =>
      rw [found] at inUse
      cases pos with
      | zero => exact congrArg some inUse
      | succ pos => rfl
    | some size =>
      rw [found] at inUse
      cases pos with
      | zero => exact congrArg some inUse
      | succ pos =>
        have rest := ih (data.drop size) pos
        simp only [List.getElem?_cons_succ, Option.map_some, Option.getD_some,
          Nat.add_lt_add_iff_right] at rest ⊢
        exact rest

/-- The bytes that hold the records of a dump. -/
def recordBytes (data : Bytes) : Bytes := if 4 ≤ data.length then data.drop 4 else data

/-- What a restore into a fresh table of `limit` entries must do: write inside of the table
only, and leave what is behind the last complete record unused. -/
structure RestoresInside (limit : Nat) (data : Bytes) : Prop where
  inside : (variableIndexRestore (variableIndexInit limit) data).2.overrun = false
  unused : ∀ pos, completeRecords limit (recordBytes data) ≤ pos →
    ((variableIndexRestore (variableIndexInit limit) data).1.entry pos).inUse = false

/-- Any bytes, also more than start-up loads, are restored inside of the table if and only if no
further record starts behind as many complete ones as the table has entries. -/
theorem restoresInside_iff (limit : Nat) (data : Bytes) :
    RestoresInside limit data ↔
      (behindRecords limit (recordBytes data)).length < sizeofVariableMetadata := by
  have size : (variableIndexInit limit).entries.length = limit := List.length_replicate
  have overrun := restoreLoop_overrun_iff (variableIndexInit limit).entries (recordBytes data)
  rw [size] at overrun
  constructor
  · exact fun restores => overrun.mp restores.inside
  · intro few
    refine ⟨overrun.mpr few, ?_⟩
    intro pos behind
    have inUse := restoreLoop_inUse (variableIndexInit limit).entries (recordBytes data) pos
    rw [size, if_neg (by omega)] at inUse
    show (((restoreLoop (variableIndexInit limit).entries
      (recordBytes data)).entries.getD pos .zero).inUse) = false
    rw [List.getD_eq_getElem?_getD]
    cases found : (restoreLoop (variableIndexInit limit).entries
        (recordBytes data)).entries[pos]? with
    | none => rfl
    | some entry =>
      rw [found] at inUse
      obtain ⟨old, isOld, same⟩ := Option.map_eq_some_iff.mp inUse.symm
      have unused : old.inUse = false := by
        rw [List.eq_of_mem_replicate (List.mem_of_getElem? isOld)]
        rfl
      exact same.symm.trans unused

/-- Nine records without constraints leave room for the metadata of a tenth. -/
theorem tenRecords_overrun : ∃ data : Bytes,
    data.length = variableIndexMaxDumpSize (variableIndexInit 9) ∧ ¬ RestoresInside 9 data := by
  refine ⟨List.replicate 2173 0, List.length_replicate, ?_⟩
  intro restores
  have inside := restores.inside
  revert inside
  decide +kernel

theorem VariableMetadata.held_ofBytes {image : Bytes} (whole : sizeofVariableMetadata ≤ image.length) :
    (VariableMetadata.ofBytes (image.take sizeofVariableMetadata)).Held := by
  have size : (image.take sizeofVariableMetadata).length = 216 := by
    rw [List.length_take, Nat.min_eq_left whole]
    rfl
  have word : ∀ offset, offset + 8 ≤ 216 →
      leNat (slice (image.take sizeofVariableMetadata) offset 8) < 2 ^ 64 := by
    intro offset inside
    have bound := leNat_lt (slice (image.take sizeofVariableMetadata) offset 8)
    rwa [length_slice _ _ _ (by omega)] at bound
  constructor
  · show (List.take _ (slice _ 72 128)).length = _
    rw [List.length_take, length_slice _ _ _ (by omega)]
    rfl
  · exact word 64 (by omega)
  · exact word 208 (by omega)

/-- Every entry of a table, in use or not, has metadata that fits its image. -/
def TableHeld (entries : List VariableEntry) : Prop :=
  ∀ entry ∈ entries, entry.info.metadata.Held

theorem VariableMetadata.held_zero : VariableMetadata.zero.Held := ⟨rfl, by decide, by decide⟩

theorem TableHeld.restoreLoop {table : List VariableEntry} (held : TableHeld table) (data : Bytes) :
    TableHeld (restoreLoop table data).entries ∧
      (restoreLoop table data).entries.length = table.length := by
  induction table generalizing data with
  | nil => exact ⟨nofun, rfl⟩
  | cons entry table ih =>
    obtain ⟨first, others⟩ := List.forall_mem_cons.mp held
    obtain ⟨loaded, bytes, from_, round⟩ := restoreLoop_cons entry table data
    have loadedHeld : loaded.info.metadata.Held := by
      rcases from_.metadata with same | ⟨whole, same⟩
      · rw [same]
        exact first
      · rw [same]
        exact VariableMetadata.held_ofBytes whole
    rw [round]
    cases recordSize? data with
    | none => exact ⟨List.forall_mem_cons.mpr ⟨loadedHeld, others⟩, rfl⟩
    | some size =>
      obtain ⟨restHeld, same⟩ := ih others (data.drop size)
      exact ⟨List.forall_mem_cons.mpr ⟨loadedHeld, restHeld⟩, congrArg (· + 1) same⟩

theorem info_dumpLoop (bufferSize : Nat) (dumped : Bytes) (anyDirty : Bool)
    (entries : List VariableEntry) :
    (dumpLoop bufferSize dumped anyDirty entries).entries.map (·.info) = entries.map (·.info) := by
  induction entries generalizing dumped anyDirty with
  | nil => rfl
  | cons entry rest ih =>
    rw [dumpLoop]
    split
    · rfl
    · exact congrArg (entry.info :: ·) (ih _ _)

theorem TableHeld.of_info {before after : List VariableEntry} (held : TableHeld before)
    (same : after.map (·.info) = before.map (·.info)) : TableHeld after := by
  intro entry member
  have info : entry.info ∈ before.map (·.info) := same ▸ List.mem_map_of_mem member
  obtain ⟨old, inTable, sameInfo⟩ := List.mem_map.mp info
  rw [← sameInfo]
  exact held old inTable

theorem TableHeld.modify {index : VariableIndex} (held : TableHeld index.entries) (pos : Nat)
    {change : VariableEntry → VariableEntry}
    (kept : ∀ entry, entry.info.metadata.Held → (change entry).info.metadata.Held) :
    TableHeld (index.modify pos change).entries := by
  intro entry member
  obtain ⟨at_, found⟩ := List.mem_iff_getElem?.mp member
  rw [VariableIndex.modify, List.getElem?_modify] at found
  obtain ⟨old, isOld, same⟩ := Option.map_eq_some_iff.mp found
  have oldHeld := held old (List.mem_of_getElem? isOld)
  rw [← same]
  split
  · exact kept old oldHeld
  · exact oldHeld

theorem metadata_markDirty (entry : VariableEntry) : (markDirty entry).info = entry.info := by
  unfold markDirty
  split <;> rfl

/-- The calls a user of an index makes. The timestamp and the fingerprint of an entry are written
directly. -/
inductive IndexOperation
  | addEntry (guid : EfiGuid) (name : Bytes)
  | setVariable (pos : Nat) (attributes : Attributes)
  | clearVariable (pos : Nat)
  | setConstraints (pos : Nat) (constraints : VariableConstraints)
  | writeAuthentication (pos : Nat) (timestamp : EfiTime) (fingerprint : BitVec 256)
  | removeUnusedEntry (pos : Nat)
  | dump (bufferSize : Nat)
  | confirmWrite
  | restore (data : Bytes)

namespace VariableIndex

def operate (index : VariableIndex) : IndexOperation → VariableIndex
  | .addEntry guid name => (variableIndexAddEntry index guid name).1
  | .setVariable pos attributes => variableIndexSetVariable index pos attributes
  | .clearVariable pos => variableIndexClearVariable index pos
  | .setConstraints pos constraints => variableIndexSetConstraints index pos constraints
  | .writeAuthentication pos timestamp fingerprint =>
    index.modify pos fun entry => entry.withAuthentication timestamp fingerprint
  | .removeUnusedEntry pos => variableIndexRemoveUnusedEntry index pos
  | .dump bufferSize => { index with entries := (variableIndexDump index bufferSize).entries }
  | .confirmWrite => variableIndexConfirmWrite index
  | .restore data => (variableIndexRestore index data).1

/-- The tables that the operations lead to. A restore may get any bytes that fit the table. -/
def OperatedTo (limit : Nat) : VariableIndex → Prop :=
  Reached operate (variableIndexInit limit) fun index operation =>
    ∀ data, operation = .restore data → (variableIndexRestore index data).2.overrun = false

variable {index : VariableIndex} {limit : Nat}

theorem held_addEntry (held : TableHeld index.entries) (few : index.maxVariables < 2 ^ 64)
    (guid : EfiGuid) (name : Bytes) : TableHeld (variableIndexAddEntry index guid name).1.entries := by
  unfold variableIndexAddEntry addEntry
  split_ifs with fits
  · split
    · dsimp only
      split_ifs with generated
      · refine held.modify _ fun entry entryHeld => ⟨entryHeld.name, entryHeld.nameSize, ?_⟩
        show generateUid index < 2 ^ 64
        omega
      · obtain ⟨_, bounded, _⟩ := generateUid_fresh index generated
        refine held.modify _ fun entry _ => ⟨(Nat.min_eq_left fits).symm, ?_, ?_⟩
        · show name.length < 2 ^ 64
          unfold variableIndexMaxNameBytes at fits
          omega
        · show generateUid index < 2 ^ 64
          omega
    · exact held
  · exact held

theorem maxVariables_addEntry (guid : EfiGuid) (name : Bytes) :
    (variableIndexAddEntry index guid name).1.maxVariables = index.maxVariables := by
  unfold variableIndexAddEntry addEntry
  split
  · split
    · dsimp only
      split <;> exact index.modify_length _ _
    · rfl
  · rfl

theorem held_operate (held : TableHeld index.entries) (few : index.maxVariables < 2 ^ 64)
    (operation : IndexOperation) :
    TableHeld (index.operate operation).entries ∧
      (index.operate operation).maxVariables = index.maxVariables := by
  cases operation with
  | addEntry guid name => exact ⟨held_addEntry held few guid name, maxVariables_addEntry guid name⟩
  | setVariable pos attributes =>
    refine ⟨held.modify pos fun entry entryHeld => ?_, index.modify_length _ _⟩
    rw [withVariable, metadata_markDirty]
    exact ⟨entryHeld.name, entryHeld.nameSize, entryHeld.uid⟩
  | clearVariable pos =>
    refine ⟨held.modify pos fun entry entryHeld => ?_, index.modify_length _ _⟩
    rw [withoutVariable, metadata_markDirty]
    exact entryHeld
  | setConstraints pos constraints =>
    refine ⟨held.modify pos fun entry entryHeld => ?_, index.modify_length _ _⟩
    rw [withConstraints, metadata_markDirty]
    exact entryHeld
  | writeAuthentication pos timestamp fingerprint =>
    exact ⟨held.modify pos fun entry entryHeld =>
      ⟨entryHeld.name, entryHeld.nameSize, entryHeld.uid⟩, index.modify_length _ _⟩
  | removeUnusedEntry pos =>
    refine ⟨held.modify pos fun entry entryHeld => ?_, index.modify_length _ _⟩
    rw [withoutUnused]
    split
    · exact VariableMetadata.held_zero
    · exact entryHeld
  | dump bufferSize =>
    have same := info_dumpLoop bufferSize (leBytes 4 (index.counter + 1).toNat) false index.entries
    refine ⟨held.of_info same, ?_⟩
    have length := congrArg List.length same
    rwa [List.length_map, List.length_map] at length
  | confirmWrite => exact ⟨held, rfl⟩
  | restore data => exact held.restoreLoop _

/-- Every operation keeps the size of the table and metadata that fits its image. -/
theorem OperatedTo.held (few : limit < 2 ^ 64) (reached : OperatedTo limit index) :
    TableHeld index.entries ∧ index.maxVariables = limit := by
  refine Reached.invariant
    (fun index => TableHeld index.entries ∧ index.maxVariables = limit) ?_ ?_ reached
  · refine ⟨fun entry member => ?_, List.length_replicate⟩
    rw [List.eq_of_mem_replicate member]
    exact VariableMetadata.held_zero
  · rintro index operation _ ⟨held, rfl⟩ _
    exact held_operate held few operation

/-- A dump of any table that the operations lead to has room in a buffer of the maximal size, and
restores the entries that were in use, set and non-volatile, in their order. -/
theorem dump_restored (limit : Nat)
    (few : variableIndexMaxDumpSize (variableIndexInit limit) < 2 ^ 64)
    (index : VariableIndex) (reached : OperatedTo limit index) (bufferSize : Nat)
    (room : variableIndexMaxDumpSize index ≤ bufferSize) :
    let dump := variableIndexDump index bufferSize
    let restored := variableIndexRestore (variableIndexInit limit) dump.data
    let kept := index.entries.filter isDumped
    dump.status = .success ∧ dump.data.length ≤ variableIndexMaxDumpSize index ∧
      restored.2.bytesLoaded = dump.data.length ∧ restored.2.overrun = false ∧
      restored.1 = ⟨index.counter + 1, kept.map VariableEntry.restored ++
        List.replicate (limit - kept.length) .zero⟩ := by
  have tableSize : (variableIndexInit limit).maxVariables = limit := List.length_replicate
  obtain ⟨held, rfl⟩ := reached.held (by
    rw [variableIndexMaxDumpSize, tableSize, sizeofVariableMetadata, sizeofVariableConstraints]
      at few
    omega)
  have records := restoreLoop_records (index.entries.filter isDumped)
    (fun entry member => held entry (List.mem_of_mem_filter member)) index.maxVariables []
    (List.length_filter_le _ _)
  rw [List.append_nil, restoreLoop_nil] at records
  have fresh : restoreLoop (variableIndexInit index.maxVariables).entries
      (dumpRecords index.entries) = _ := records
  have long : 4 ≤ (leBytes 4 (index.counter + 1).toNat ++ dumpRecords index.entries).length := by
    rw [List.length_append, length_leBytes]
    omega
  have behind : recordBytes (leBytes 4 (index.counter + 1).toNat ++ dumpRecords index.entries) =
      dumpRecords index.entries := by
    exact List.drop_left' (length_leBytes _ _)
  have bound := length_dumpRecords_le index.entries
  rw [variableIndexDump_eq index bufferSize room]
  refine ⟨rfl, ?_, ?_, ?_, ?_⟩
  · rw [List.length_append, length_leBytes, variableIndexMaxDumpSize, sizeofVariableMetadata,
      sizeofVariableConstraints, VariableIndex.maxVariables]
    omega
  · show (if 4 ≤ _ then 4 else 0) + (restoreLoop _ (recordBytes _)).bytesLoaded = _
    rw [behind, fresh, if_pos long, List.length_append, length_leBytes]
    rfl
  · show (restoreLoop _ (recordBytes _)).overrun = false
    rw [behind, fresh]
  · rw [variableIndexRestore_counted, fresh]

/-- A volatile variable, and behind it a non-volatile one with constraints. -/
def twoVariables : VariableIndex :=
  [IndexOperation.addEntry .zero [0x41, 0, 0, 0], .setVariable 0 0x6#32,
    .addEntry .zero [0x42, 0, 0, 0], .setVariable 1 0x7#32,
    .setConstraints 1 ⟨1, 0, 0, 1, 8⟩].foldl operate (variableIndexInit 2)

theorem twoVariables_dump_restored : OperatedTo 2 twoVariables ∧
    (variableIndexRestore (variableIndexInit 2) (variableIndexDump twoVariables 486).data).1 =
      ⟨1, [(twoVariables.entry 1).restored, .zero]⟩ := by
  have reached : OperatedTo 2 twoVariables := by
    refine reached_foldl _ ?_ .start
    simp only [List.forall_mem_cons]
    exact ⟨nofun, nofun, nofun, nofun, nofun, nofun⟩
  obtain ⟨_, _, _, _, restored⟩ := dump_restored 2 (by decide) twoVariables reached 486
    (by decide +kernel)
  refine ⟨reached, restored.trans ?_⟩
  rfl

end VariableIndex

end SmmVariable

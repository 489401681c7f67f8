import TrustedServices.SmmVariable.CrashConsistency
import TrustedServices.SmmVariable.Outcomes

/- The entries in use name different variables and have different UIDs. -/
namespace SmmVariable

open Lib VariableEntry ObjectStore

namespace VariableEntry

/-- Two entries in use name different variables and have different UIDs. -/
def Apart (left right : VariableEntry) : Prop :=
  left.inUse = true → right.inUse = true →
    ¬ (left.guid = right.guid ∧
      left.name = right.name) ∧
    left.uid ≠ right.uid

/-- What an entry in use holds. All names satisfy `names`. -/
structure WellFormed (names : Bytes → Prop) (limit : Nat) (entry : VariableEntry) : Prop where
  size : entry.inUse = true → entry.nameSize = entry.name.length
  fits : entry.inUse = true → entry.name.length ≤ variableIndexMaxNameBytes
  named : entry.inUse = true → names entry.name
  uidRange : entry.inUse = true →
    1 ≤ entry.uid ∧ entry.uid ≤ limit
  idle : entry.inUse = false → entry.isVariableSet = false

/-- A change that keeps the variable an entry names, or gives the entry up. -/
structure Follows (before after : VariableEntry) : Prop where
  inUse : after.inUse = true → before.inUse = true
  guid : after.inUse = true → after.guid = before.guid
  nameSize : after.inUse = true → after.nameSize = before.nameSize
  name : after.inUse = true → after.name = before.name
  uid : after.inUse = true → after.uid = before.uid
  idle : (before.inUse = false → before.isVariableSet = false) → after.inUse = false →
    after.isVariableSet = false

theorem Follows.refl (entry : VariableEntry) : Follows entry entry :=
  ⟨id, fun _ => rfl, fun _ => rfl, fun _ => rfl, fun _ => rfl, id⟩

theorem Follows.trans {first second third : VariableEntry} (before : Follows first second)
    (after : Follows second third) : Follows first third where
  inUse used := before.inUse (after.inUse used)
  guid used := (after.guid used).trans (before.guid (after.inUse used))
  nameSize used := (after.nameSize used).trans (before.nameSize (after.inUse used))
  name used := (after.name used).trans (before.name (after.inUse used))
  uid used := (after.uid used).trans (before.uid (after.inUse used))
  idle unset := after.idle (before.idle unset)

theorem Follows.wellFormed {names : Bytes → Prop} {limit : Nat} {before after : VariableEntry}
    (follows : Follows before after) (valid : WellFormed names limit before) :
    WellFormed names limit after where
  size used := by
    rw [follows.nameSize used, follows.name used, valid.size (follows.inUse used)]
  fits used := by
    rw [follows.name used]
    exact valid.fits (follows.inUse used)
  named used := by
    rw [follows.name used]
    exact valid.named (follows.inUse used)
  uidRange used := by
    rw [follows.uid used]
    exact valid.uidRange (follows.inUse used)
  idle := follows.idle valid.idle

theorem Follows.apart {left left' right right' : VariableEntry} (first : Follows left left')
    (second : Follows right right') (apart : Apart left right) : Apart left' right' := by
  intro usedLeft usedRight
  rw [first.guid usedLeft, first.name usedLeft, first.uid usedLeft, second.guid usedRight,
    second.name usedRight, second.uid usedRight]
  exact apart (first.inUse usedLeft) (second.inUse usedRight)

section

variable (entry : VariableEntry)

include entry

theorem follows_withoutUnused : Follows entry entry.withoutUnused := by
  rw [withoutUnused]
  split
  · exact ⟨nofun, nofun, nofun, nofun, nofun, fun _ _ => rfl⟩
  · exact .refl entry

theorem follows_markDirty : Follows entry (markDirty entry) := by
  rw [markDirty]
  split
  · exact ⟨id, fun _ => rfl, fun _ => rfl, fun _ => rfl, fun _ => rfl, id⟩
  · exact .refl entry

theorem follows_withoutVariable : Follows entry entry.withoutVariable := by
  have marked := follows_markDirty entry
  exact ⟨marked.inUse, marked.guid, marked.nameSize, marked.name, marked.uid, fun _ _ => rfl⟩

theorem follows_withVariable (attributes : Attributes)
    (used : entry.inUse = true) : Follows entry (entry.withVariable attributes) := by
  have changed : Follows entry
      { entry with attributes := attributes, isVariableSet := true } :=
    ⟨id, fun _ => rfl, fun _ => rfl, fun _ => rfl, fun _ => rfl,
      fun _ unused => absurd used (Bool.eq_false_iff.mp unused)⟩
  exact changed.trans (follows_markDirty _)

theorem follows_withConstraints (constraints : VariableConstraints) :
    Follows entry (entry.withConstraints constraints) := by
  have changed : Follows entry
      { entry with checkConstraints := constraints, isConstraintsSet := true } :=
    ⟨id, fun _ => rfl, fun _ => rfl, fun _ => rfl, fun _ => rfl, id⟩
  exact changed.trans (follows_markDirty _)

theorem follows_withAuthentication (timestamp : EfiTime)
    (fingerprint : BitVec 256) : Follows entry (entry.withAuthentication timestamp fingerprint) :=
  ⟨id, fun _ => rfl, fun _ => rfl, fun _ => rfl, fun _ => rfl, id⟩

theorem follows_clean : Follows entry entry.clean :=
  ⟨id, fun _ => rfl, fun _ => rfl, fun _ => rfl, fun _ => rfl, id⟩

end

variable {left right : VariableEntry}

theorem apart_comm (apart : Apart left right) : Apart right left := by
  intro usedRight usedLeft
  obtain ⟨keys, uids⟩ := apart usedLeft usedRight
  exact ⟨fun same => keys ⟨same.1.symm, same.2.symm⟩, fun same => uids same.symm⟩

theorem apart_of_idle (unused : right.inUse = false) : Apart left right := by
  intro _ used
  rw [unused] at used
  cases used

end VariableEntry

namespace VariableIndex

structure WellFormed (names : Bytes → Prop) (index : VariableIndex) : Prop where
  entries : ∀ pos, (index.entry pos).WellFormed names index.maxVariables
  apart : ∀ pos other, pos ≠ other → (index.entry pos).Apart (index.entry other)

/-- Entry by entry the variables named stay the same or are given up. -/
structure Follows (before after : VariableIndex) : Prop where
  size : after.maxVariables = before.maxVariables
  entry : ∀ pos, (before.entry pos).Follows (after.entry pos)

theorem Follows.refl (index : VariableIndex) : Follows index index := ⟨rfl, fun _ => .refl _⟩

theorem Follows.trans {first second third : VariableIndex} (before : Follows first second)
    (after : Follows second third) : Follows first third :=
  ⟨after.size.trans before.size, fun pos => (before.entry pos).trans (after.entry pos)⟩

theorem Follows.wellFormed {names : Bytes → Prop} {before after : VariableIndex}
    (follows : Follows before after) (valid : WellFormed names before) : WellFormed names after where
  entries pos := by
    rw [follows.size]
    exact (follows.entry pos).wellFormed (valid.entries pos)
  apart pos other distinct :=
    (follows.entry pos).apart (follows.entry other) (valid.apart pos other distinct)

section

variable (index : VariableIndex)

include index

theorem follows_modify (pos : Nat) (change : VariableEntry → VariableEntry)
    (follows : (index.entry pos).Follows (change (index.entry pos))) :
    Follows index (index.modify pos change) :=
  ⟨by simp [maxVariables], entry_modify_rel .refl follows⟩

@[simp] theorem entry_clean (pos : Nat) : index.clean.entry pos = (index.entry pos).clean := by
  by_cases inside : pos < index.entries.length
  · simp [clean, entry, inside]
  · rw [entry_outside _ _ (by simpa [clean] using inside), entry_outside _ _ (by simpa using inside)]
    rfl

theorem follows_clean : Follows index index.clean :=
  ⟨by simp [maxVariables, clean], fun pos => by
    rw [entry_clean]
    exact (index.entry pos).follows_clean⟩

theorem follows_confirmWrite : Follows index (variableIndexConfirmWrite index) :=
  ⟨rfl, fun _ => .refl _⟩

end

variable {index : VariableIndex}

theorem entry_mem {pos : Nat} (inside : pos < index.entries.length) :
    index.entry pos ∈ index.entries := by
  rw [entry_inside _ _ inside]
  exact List.getElem_mem inside

theorem entry_of_mem {member : VariableEntry}
    (inTable : member ∈ index.entries) : ∃ pos, index.entry pos = member := by
  obtain ⟨pos, inside, rfl⟩ := List.getElem_of_mem inTable
  exact ⟨pos, entry_inside _ _ inside⟩

theorem pairwise_apart_iff (index : VariableIndex) :
    index.entries.Pairwise VariableEntry.Apart ↔
      ∀ pos other, pos ≠ other → (index.entry pos).Apart (index.entry other) := by
  rw [List.pairwise_iff_getElem]
  constructor
  · intro apart pos other distinct
    by_cases inside : pos < index.entries.length ∧ other < index.entries.length
    · rw [entry_inside _ _ inside.1, entry_inside _ _ inside.2]
      rcases Nat.lt_or_gt_of_ne distinct with less | more
      · exact apart pos other inside.1 inside.2 less
      · exact VariableEntry.apart_comm (apart other pos inside.2 inside.1 more)
    · rcases not_and_or.mp inside with outside | outside
      · rw [entry_outside index pos (by omega)]
        exact VariableEntry.apart_comm (VariableEntry.apart_of_idle rfl)
      · rw [entry_outside index other (by omega)]
        exact VariableEntry.apart_of_idle rfl
  · intro apart pos other insidePos insideOther less
    have distinct := apart pos other (by omega)
    rwa [entry_inside _ _ insidePos, entry_inside _ _ insideOther] at distinct

end VariableIndex

section

variable {names : Bytes → Prop} {index : VariableIndex} {guid : EfiGuid} {name : Bytes} {pos : Nat}

theorem isMatchingEntry_iff (metadata : VariableMetadata) :
    isMatchingEntry guid name metadata = true ↔
      guid = metadata.guid ∧ name.length = metadata.nameSize ∧ name = metadata.name := by
  simp only [isMatchingEntry, Bool.and_eq_true, compareGuid_iff, beq_iff_eq, and_assoc]

def VariableEntry.Names (entry : VariableEntry) (guid : EfiGuid) (name : Bytes) : Prop :=
  entry.inUse = true ∧ entry.guid = guid ∧ entry.name = name

theorem names_of_findVariable (found : findVariable index guid name = some pos) :
    (index.entry pos).Names guid name := by
  rw [findVariable, List.findIdx?_eq_some_iff_getElem] at found
  obtain ⟨inside, accepted, _⟩ := found
  rw [Bool.and_eq_true, isMatchingEntry_iff] at accepted
  rw [index.entry_inside _ inside]
  exact ⟨accepted.1, accepted.2.1.symm, accepted.2.2.2.symm⟩

theorem findVariable_of_names (valid : index.WellFormed names)
    (named : (index.entry pos).Names guid name) : findVariable index guid name = some pos := by
  obtain ⟨used, rfl, rfl⟩ := named
  have inside := VariableIndex.inside_of_inUse used
  rw [findVariable, List.findIdx?_eq_some_iff_getElem]
  refine ⟨inside, ?_, ?_⟩
  · rw [← index.entry_inside _ inside, used, Bool.true_and, isMatchingEntry_iff]
    exact ⟨rfl, ((valid.entries pos).size used).symm, rfl⟩
  · intro other before accepted
    rw [Bool.and_eq_true, isMatchingEntry_iff, ← index.entry_inside _ (by omega)] at accepted
    exact (valid.apart other pos (by omega) accepted.1 used).1
      ⟨accepted.2.1.symm, accepted.2.2.2.symm⟩

theorem findVariable_none (valid : index.WellFormed names) :
    findVariable index guid name = none ↔ ∀ pos, ¬ (index.entry pos).Names guid name := by
  constructor
  · intro absent pos named
    rw [findVariable_of_names valid named] at absent
    cases absent
  · intro unnamed
    cases found : findVariable index guid name with
    | none => rfl
    | some pos => exact absurd (names_of_findVariable found) (unnamed pos)

end

variable {index : VariableIndex} {pos : Nat} {guid : EfiGuid} {name : Bytes} {names : Bytes → Prop}

theorem findFree_some (free : findFree index = some pos) :
    pos < index.entries.length ∧ (index.entry pos).inUse = false := by
  rw [findFree, List.findIdx?_eq_some_iff_getElem] at free
  obtain ⟨inside, unused, _⟩ := free
  rw [index.entry_inside _ inside]
  exact ⟨inside, by simpa using unused⟩

/-- A UID other than zero is new and in range. -/
theorem generateUid_fresh (index : VariableIndex) (generated : generateUid index ≠ 0) :
    1 ≤ generateUid index ∧ generateUid index ≤ index.maxVariables ∧
      ∀ pos, (index.entry pos).inUse = true →
        (index.entry pos).uid ≠ generateUid index := by
  rw [generateUid] at generated ⊢
  cases found : ((List.range index.maxVariables).map (· + 1)).find? fun candidate =>
      !index.entries.any fun entry => entry.inUse && entry.uid == candidate with
  | none =>
    rw [found] at generated
    exact absurd rfl generated
  | some candidate =>
    rw [Option.getD_some]
    have member := List.mem_of_find?_eq_some found
    have free := List.find?_some found
    simp only [List.mem_map, List.mem_range] at member
    obtain ⟨number, inside, rfl⟩ := member
    refine ⟨by omega, by omega, ?_⟩
    intro pos used same
    have taken : (index.entries.any fun entry =>
        entry.inUse && entry.uid == number + 1) = true := by
      rw [List.any_eq_true]
      exact ⟨index.entry pos, VariableIndex.entry_mem (VariableIndex.inside_of_inUse used),
        by simp [used, same]⟩
    rw [taken] at free
    cases free

/-- A new entry takes a free slot and a new UID. -/
theorem addEntry_some (added : (addEntry index guid name).2 = some pos) :
    name.length ≤ variableIndexMaxNameBytes ∧ pos < index.entries.length ∧
      (index.entry pos).inUse = false ∧ generateUid index ≠ 0 ∧
      (addEntry index guid name).1 =
        index.modify pos fun entry => entry.initialized guid name (generateUid index) := by
  rw [addEntry] at added ⊢
  split_ifs at added ⊢ with fits
  split at added
  · rename_i slot free
    dsimp only at added
    split_ifs at added ⊢ with generated
    obtain rfl : slot = pos := Option.some.inj added
    obtain ⟨inside, unused⟩ := findFree_some free
    refine ⟨fits, inside, unused, generated, ?_⟩
    exact congrArg Prod.fst (if_neg generated)
  · cases added

/-- An entry that is not added may have lost its identifier. -/
theorem addEntry_none (refused : (addEntry index guid name).2 = none) :
    (addEntry index guid name).1 = index ∨ ∃ slot, findFree index = some slot ∧
      (addEntry index guid name).1 =
        index.modify slot fun entry => { entry with uid := generateUid index } := by
  rw [addEntry] at refused ⊢
  split_ifs with fits
  · rw [if_pos fits] at refused
    split
    · rename_i slot free
      rw [free] at refused
      dsimp only at refused ⊢
      split_ifs with generated
      · exact .inr ⟨slot, free, rfl⟩
      · rw [if_neg generated] at refused
        cases refused
    · exact .inl rfl
  · exact .inl rfl

theorem addEntry_follows (refused : (addEntry index guid name).2 = none) :
    index.Follows (addEntry index guid name).1 := by
  obtain same | ⟨slot, free, modified⟩ := addEntry_none refused
  · rw [same]
    exact .refl _
  · rw [modified]
    have unused := (findFree_some free).2
    exact index.follows_modify slot _ ⟨id, fun _ => rfl, fun _ => rfl, fun _ => rfl,
      fun used => absurd used (Bool.eq_false_iff.mp unused), id⟩

theorem addEntry_wellFormed (valid : index.WellFormed names) (named : names name)
    (absent : findVariable index guid name = none)
    (added : (addEntry index guid name).2 = some pos) :
    (addEntry index guid name).1.WellFormed names := by
  obtain ⟨fits, inside, unused, generated, result⟩ := addEntry_some added
  obtain ⟨positive, bounded, fresh⟩ := generateUid_fresh index generated
  rw [findVariable_none valid] at absent
  have apartFromNew : ∀ other, other ≠ pos → (index.entry other).Apart
      ((index.entry pos).initialized guid name (generateUid index)) := by
    intro other _ used _
    exact ⟨fun same => absent other ⟨used, same.1, same.2⟩, fresh other used⟩
  rw [result]
  constructor
  · intro other
    rw [show (index.modify pos fun entry => entry.initialized guid name
      (generateUid index)).maxVariables = index.maxVariables by simp [VariableIndex.maxVariables]]
    by_cases same : other = pos
    · subst same
      rw [index.entry_modify_self _ _ inside]
      exact ⟨fun _ => rfl, fun _ => fits, fun _ => named, fun _ => ⟨positive, bounded⟩, by rintro ⟨⟩⟩
    · rw [index.entry_modify_other _ _ _ same]
      exact valid.entries other
  · intro first second distinct
    by_cases isFirst : first = pos
    · subst isFirst
      rw [index.entry_modify_self _ _ inside, index.entry_modify_other _ _ _ distinct.symm]
      exact VariableEntry.apart_comm (apartFromNew second distinct.symm)
    · rw [index.entry_modify_other _ _ _ isFirst]
      by_cases isSecond : second = pos
      · subst isSecond
        rw [index.entry_modify_self _ _ inside]
        exact apartFromNew first distinct
      · rw [index.entry_modify_other _ _ _ isSecond]
        exact valid.apart first second distinct

/-- The bytes of a stored copy: nothing, or a dump that may be cut behind its
counter. -/
def IndexImage (names : Bytes → Prop) (limit : Nat) (data : Bytes) : Prop :=
  data = [] ∨ ∃ (index : VariableIndex) (kept : Nat), index.WellFormed names ∧
    index.maxVariables = limit ∧ 4 ≤ kept ∧ data = index.dump.take kept

def CopiesWellFormed (names : Bytes → Prop) (limit : Nat) (objects : ObjectStore) : Prop :=
  ∀ uid, isIndexUid uid → ∀ object, objects uid = some object →
    IndexImage names limit object.data

section

variable {names : Bytes → Prop} {limit : Nat} {objects after : ObjectStore}

section

variable (valid : CopiesWellFormed names limit objects)

include valid

theorem CopiesWellFormed.congr
    (same : ∀ uid, isIndexUid uid → after uid = objects uid ∨ after uid = none) :
    CopiesWellFormed names limit after := by
  intro uid isIndex object present
  rcases same uid isIndex with unchanged | gone
  · exact valid uid isIndex object (by rw [← unchanged, present])
  · rw [gone] at present
    cases present

theorem CopiesWellFormed.insert (uid : Nat)
    {object : Object} (image : IndexImage names limit object.data) :
    CopiesWellFormed names limit (objects.insert uid object) := by
  intro other isIndex found present
  by_cases same : other = uid
  · rw [same, insert_self, Option.some.injEq] at present
    rw [← present]
    exact image
  · rw [insert_other _ _ _ _ same] at present
    exact valid other isIndex found present

theorem CopiesWellFormed.cutCopy {config : BuildConfig} {uid : Nat}
    (wellFormed : index.WellFormed names) (size : index.maxVariables = limit)
    (cut : CutCopy config uid index.dump objects after) :
    CopiesWellFormed names limit after := by
  have chunk := config.sharedMemoryHoldsCounter
  rcases cut with rfl | rfl | ⟨kept, _, rfl | reached, rfl⟩
  · exact valid
  · refine valid.congr fun other _ => ?_
    by_cases same : other = uid
    · exact .inr (by rw [same, erase_self])
    · exact .inl (erase_other _ _ _ same)
  · exact valid.insert uid (.inl (by simp [writtenCopy]))
  · exact valid.insert uid (.inr ⟨index, kept, wellFormed, size, by omega, rfl⟩)

end

end

theorem VariableIndex.WellFormed.stored
    (valid : index.WellFormed names) (few : index.maxVariables < 2 ^ 31) : index.Stored := by
  intro entry member dumped
  obtain ⟨pos, rfl⟩ := VariableIndex.entry_of_mem member
  have used : (index.entry pos).inUse = true := by
    simp only [isDumped, Bool.and_eq_true] at dumped
    exact dumped.1.1
  have wellFormed := valid.entries pos
  have range := wellFormed.uidRange used
  exact ⟨wellFormed.size used, wellFormed.fits used, by omega⟩

/-- A table restored from an image is well formed. -/
theorem restored_wellFormed (valid : index.WellFormed names) {front rest : List VariableEntry}
    (isFront : front <+: index.entries.filter isDumped)
    (idle : ∀ entry ∈ rest, entry.inUse = false ∧ entry.isVariableSet = false)
    (size : front.length + rest.length = index.maxVariables) (counter : BitVec 32) :
    VariableIndex.WellFormed names ⟨counter, front.map VariableEntry.restored ++ rest⟩ := by
  have fromTable : ∀ entry ∈ front, entry ∈ index.entries ∧ entry.inUse = true := by
    intro entry member
    obtain ⟨inTable, dumped⟩ := List.mem_filter.mp (isFront.subset member)
    simp only [isDumped, Bool.and_eq_true] at dumped
    exact ⟨inTable, dumped.1.1⟩
  have sameSize : VariableIndex.maxVariables ⟨counter, front.map VariableEntry.restored ++ rest⟩ =
      index.maxVariables := by
    simp only [VariableIndex.maxVariables, List.length_append, List.length_map]
    exact size
  constructor
  · intro pos
    rw [sameSize]
    by_cases inside : pos < (front.map VariableEntry.restored ++ rest).length
    · have member : VariableIndex.entry ⟨counter, front.map VariableEntry.restored ++ rest⟩ pos ∈
          front.map VariableEntry.restored ++ rest := VariableIndex.entry_mem inside
      rcases List.mem_append.mp member with restored | unused
      · obtain ⟨entry, inFront, same⟩ := List.mem_map.mp restored
        obtain ⟨inTable, used⟩ := fromTable entry inFront
        obtain ⟨origin, rfl⟩ := VariableIndex.entry_of_mem inTable
        have wellFormed := valid.entries origin
        rw [← same]
        exact ⟨fun _ => wellFormed.size used, fun _ => wellFormed.fits used,
          fun _ => wellFormed.named used, fun _ => wellFormed.uidRange used, by rintro ⟨⟩⟩
      · obtain ⟨unused, unset⟩ := idle _ unused
        refine ⟨?_, ?_, ?_, ?_, fun _ => unset⟩ <;>
          exact fun used => absurd used (Bool.eq_false_iff.mp unused)
    · rw [VariableIndex.entry_outside _ _ (by simpa using inside)]
      exact ⟨by rintro ⟨⟩, by rintro ⟨⟩, by rintro ⟨⟩, by rintro ⟨⟩, fun _ => rfl⟩
  · rw [← VariableIndex.pairwise_apart_iff]
    rw [List.pairwise_append, List.pairwise_map]
    refine ⟨?_, ?_, ?_⟩
    · have table := (VariableIndex.pairwise_apart_iff index).mpr valid.apart
      refine (table.sublist (isFront.sublist.trans List.filter_sublist)).imp_of_mem ?_
      intro left right inLeft inRight apart _ _
      exact apart (fromTable left inLeft).2 (fromTable right inRight).2
    · rw [List.pairwise_iff_forall_sublist]
      intro left right sublist
      exact VariableEntry.apart_of_idle (idle right (sublist.subset (by simp))).1
    · intro left _ right member
      exact VariableEntry.apart_of_idle (idle right member).1

end SmmVariable

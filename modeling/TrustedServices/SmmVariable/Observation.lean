import TrustedServices.SmmVariable.Enumeration
import TrustedServices.SmmVariable.ReplayProtection

/- What the callers of a store can observe of it. -/
namespace SmmVariable

open Lib VariableEntry VariableIndex

/-- The answers to GetVariable and GetNextVariableName, the recorded timestamps and fingerprints
and the slots in use are the same. -/
structure SameObservations (before after : UefiVariableStore) : Prop where
  getVariable : ∀ env : Env, env.Reads → ∀ guid name dataSize maxDataLen,
    (uefiVariableStoreGetVariable env after guid name dataSize maxDataLen).1 =
      (uefiVariableStoreGetVariable env before guid name dataSize maxDataLen).1
  getNextVariableName : ∀ guid buffer,
    uefiVariableStoreGetNextVariableName after guid buffer =
      uefiVariableStoreGetNextVariableName before guid buffer
  authentication : ∀ key, after.view.authentication key = before.view.authentication key
  inUse : ∀ pos, (after.entry pos).inUse = (before.entry pos).inUse

/-- A step that keeps the slot at a position, its variable and the data of the variable. -/
structure StoreView.UnchangedAt (before after : StoreView) (pos : Nat) : Prop where
  follows : (before.entry pos).Follows (after.entry pos)
  inUse : (after.entry pos).inUse = (before.entry pos).inUse
  same : (before.entry pos).SameVariable (after.entry pos)
  data : (before.entry pos).isSet = true →
    after.objects (isNonVolatile (before.entry pos).attributes)
        (before.entry pos).uid =
      before.objects (isNonVolatile (before.entry pos).attributes) (before.entry pos).uid

structure StoreView.Unchanged (before after : StoreView) : Prop where
  phase : after.isBootService = before.isBootService
  size : after.maxVariables = before.maxVariables
  at_ : ∀ pos, before.UnchangedAt after pos

theorem StoreView.Unchanged.refl (view : StoreView) : view.Unchanged view :=
  ⟨rfl, rfl, fun _ => ⟨.refl _, rfl, .refl _, fun _ => rfl⟩⟩

/-- What is said of the entries position by position holds of the tables. -/
theorem VariableIndex.map_entries_eq {α : Type} {before after : VariableIndex}
    (size : after.maxVariables = before.maxVariables) (read : VariableEntry → α)
    (same : ∀ pos, read (after.entry pos) = read (before.entry pos)) :
    after.entries.map read = before.entries.map read := by
  unfold maxVariables at size
  apply List.ext_getElem
  · simpa using size
  · intro pos inAfter inBefore
    rw [List.length_map] at inAfter inBefore
    have here := same pos
    rw [after.entry_inside _ inAfter, before.entry_inside _ inBefore] at here
    simpa using here

section

variable {before after : StoreView} (unchanged : before.Unchanged after)

include unchanged in
theorem StoreView.Unchanged.findVariable_eq (guid : EfiGuid) (name : Bytes) :
    findVariable after.variableIndex guid name = findVariable before.variableIndex guid name := by
  have same := map_entries_eq unchanged.size
    (fun entry => entry.inUse && isMatchingEntry guid name entry.info.metadata) (by
      intro pos
      rw [← (unchanged.at_ pos).inUse]
      cases used : (after.entry pos).inUse with
      | false => rfl
      | true =>
        have follows := (unchanged.at_ pos).follows
        unfold isMatchingEntry
        rw [follows.guid used, follows.nameSize used, follows.name used])
  have found := congrArg (List.findIdx? id) same
  rw [List.findIdx?_map, List.findIdx?_map] at found
  exact found

include unchanged in
theorem StoreView.Unchanged.nextSet_eq (start : Nat) :
    nextSet after.variableIndex start = nextSet before.variableIndex start := by
  have same := map_entries_eq unchanged.size VariableEntry.isSet
    fun pos => (unchanged.at_ pos).same.isSet
  have found := congrArg (fun flags => List.findIdx? id (flags.drop start)) same
  rw [← List.map_drop, ← List.map_drop, List.findIdx?_map, List.findIdx?_map] at found
  exact congrArg (Option.map (· + start)) found

include unchanged in
theorem StoreView.Unchanged.isVariableSet_eq {guid : EfiGuid} {name : Bytes} {pos : Nat}
    (found : findVariable before.variableIndex guid name = some pos) :
    (after.entry pos).isVariableSet = (before.entry pos).isVariableSet := by
  have isSet := (unchanged.at_ pos).same.isSet
  unfold VariableEntry.isSet at isSet
  rw [(unchanged.at_ pos).inUse, (names_of_findVariable found).1] at isSet
  simpa using isSet

include unchanged in
theorem StoreView.Unchanged.lookup_eq (guid : EfiGuid) (name : Bytes) :
    after.lookup guid name = before.lookup guid name := by
  unfold StoreView.lookup
  rw [unchanged.findVariable_eq]
  cases found : findVariable before.variableIndex guid name with
  | none => rfl
  | some pos =>
    rw [Option.bind_some, Option.bind_some, unchanged.isVariableSet_eq found]
    split_ifs with isSet
    · have set : (before.entry pos).isSet = true :=
        (isSet_iff _).mpr ⟨(names_of_findVariable found).1, isSet⟩
      unfold StoreView.contents
      rw [(unchanged.at_ pos).same.metadata set, (unchanged.at_ pos).data set]
    · rfl

include unchanged in
theorem StoreView.Unchanged.authentication_eq (key : EfiGuid × Bytes) :
    after.authentication key = before.authentication key := by
  unfold StoreView.authentication
  rw [unchanged.findVariable_eq]
  cases found : findVariable before.variableIndex key.1 key.2 with
  | none => rfl
  | some pos =>
    rw [Option.bind_some, Option.bind_some, unchanged.isVariableSet_eq found]
    split_ifs with isSet
    · have set : (before.entry pos).isSet = true :=
        (isSet_iff _).mpr ⟨(names_of_findVariable found).1, isSet⟩
      rw [(unchanged.at_ pos).same.metadata set]
    · rfl

include unchanged in
theorem StoreView.Unchanged.findNext_eq (guid : EfiGuid) (name : Bytes) :
    variableIndexFindNext after.variableIndex guid name =
      variableIndexFindNext before.variableIndex guid name := by
  unfold variableIndexFindNext findNextFrom
  rw [unchanged.findVariable_eq]
  simp only [unchanged.nextSet_eq]

end

variable {index : VariableIndex}

theorem findNextFrom_isSet {start pos : Nat}
    (next : findNextFrom index start = (.success, some pos)) : (index.entry pos).isSet = true := by
  unfold findNextFrom at next
  split at next
  · rename_i found
    obtain ⟨_, same⟩ := Prod.mk.inj next
    rw [← Option.some.inj same]
    exact (nextSet_some found).2.2.1
  · cases next

theorem variableIndexFindNext_isSet {guid : EfiGuid} {name : Bytes}
    {pos : Nat} (next : variableIndexFindNext index guid name = (.success, some pos)) :
    (index.entry pos).isSet = true := by
  unfold variableIndexFindNext at next
  split at next
  · split at next
    · split at next
      · exact findNextFrom_isSet next
      · cases next
    · exact findNextFrom_isSet next
  · cases next

variable {before after : UefiVariableStore} (unchanged : before.view.Unchanged after.view)

include unchanged in
theorem getNextLoop_unchanged (fuel : Nat) (guid : EfiGuid) (nameSize : Nat) (buffer : Bytes) :
    getNextLoop after fuel guid nameSize buffer = getNextLoop before fuel guid nameSize buffer := by
  induction fuel generalizing guid nameSize buffer with
  | zero => rfl
  | succ fuel ih =>
    have next : variableIndexFindNext after.variableIndex guid (buffer.take nameSize) =
        variableIndexFindNext before.variableIndex guid (buffer.take nameSize) :=
      unchanged.findNext_eq guid (buffer.take nameSize)
    rw [getNextLoop, getNextLoop, next]
    split
    · rename_i pos found
      have isSet := variableIndexFindNext_isSet found
      have metadata : (after.entry pos).info.metadata =
          (before.entry pos).info.metadata := (unchanged.at_ pos).same.metadata isSet
      have set := ((isSet_iff _).mp isSet).2
      have setAfter : (after.entry pos).isVariableSet = true :=
        ((isSet_iff _).mp ((unchanged.at_ pos).same.isSet.trans isSet)).2
      have phase : after.isBootService = before.isBootService := unchanged.phase
      have permitted : checkAccessPermitted after (after.entry pos).info =
          checkAccessPermitted before (before.entry pos).info := by
        rw [checkAccessPermitted_eq after setAfter, checkAccessPermitted_eq before set, metadata,
          phase]
      dsimp only
      rw [metadata, permitted, ih]
    · rfl

include unchanged in
/-- Callers do not notice a step that keeps the variables. -/
theorem StoreView.Unchanged.observations : SameObservations before after where
  getVariable env reads guid name dataSize maxDataLen := by
    have phase : after.isBootService = before.isBootService := unchanged.phase
    rw [getVariable_answer reads, getVariable_answer reads, unchanged.lookup_eq, phase]
  getNextVariableName guid buffer := by
    have size : after.maxVariables = before.maxVariables := unchanged.size
    unfold uefiVariableStoreGetNextVariableName
    dsimp only
    rw [size, getNextLoop_unchanged unchanged]
  authentication := unchanged.authentication_eq
  inUse pos := (unchanged.at_ pos).inUse

end SmmVariable

import TrustedServices.SmmVariable.Enumeration
import TrustedServices.SmmVariable.Reading

/- What is revealed at run time about variables that only boot services may access. -/
namespace SmmVariable

open Lib VariableEntry VariableIndex

def isBootOnly (attributes : Attributes) : Bool :=
  hasAny attributes efiVariableBootserviceAccess && !hasAny attributes efiVariableRuntimeAccess

theorem accessible_runtime (attributes : Attributes) :
    accessible false attributes = !isBootOnly attributes := by
  unfold accessible isBootOnly
  rw [hasAny_or, if_neg Bool.false_ne_true]
  cases hasAny attributes efiVariableBootserviceAccess <;>
    cases hasAny attributes efiVariableRuntimeAccess <;> rfl

variable {entry : VariableEntry}

theorem VariableEntry.inUse_of_isSet (isSet : entry.isSet = true) :
    entry.inUse = true :=
  (Bool.and_eq_true _ _ ▸ isSet : _ ∧ _).1

variable {index : VariableIndex}

theorem of_mem_setFrom {start : Nat}
    (member : entry ∈ setFrom index start) :
    ∃ pos, index.entry pos = entry ∧ entry ∈ index.entries ∧ entry.isSet = true := by
  obtain ⟨dropped, isSet⟩ := List.mem_filter.mp member
  have inTable := List.mem_of_mem_drop dropped
  obtain ⟨pos, rfl⟩ := entry_of_mem inTable
  exact ⟨pos, rfl, inTable, isSet⟩

variable {pos : Nat}

theorem entry_mem_setFrom
    (isSet : (index.entry pos).isSet = true) : index.entry pos ∈ setFrom index 0 :=
  List.mem_filter.mpr ⟨entry_mem (inside_of_inUse (inUse_of_isSet isSet)), isSet⟩

/-- The variables that are not for boot services only, in index order. -/
def UefiVariableStore.runtimeVariables (store : UefiVariableStore) :
    List (EfiGuid × Bytes × StoredVariable) :=
  ((setFrom store.variableIndex 0).filter fun entry =>
    !isBootOnly entry.attributes).map fun entry =>
      (entry.guid, entry.name, store.view.contents entry.info)

section

variable {store : UefiVariableStore} (runtime : store.isBootService = false)

include runtime in
theorem permits_runtime (isSet : entry.isSet = true) :
    store.permits entry = !isBootOnly entry.attributes := by
  unfold UefiVariableStore.permits
  rw [checkAccessPermitted_eq store (Bool.and_eq_true _ _ ▸ isSet : _ ∧ _).2, runtime,
    accessible_runtime]
  cases isBootOnly entry.attributes <;> simp

include runtime in
theorem visible_runtime :
    store.visible = store.runtimeVariables.map fun variable_ => (variable_.1, variable_.2.1) := by
  unfold UefiVariableStore.visible UefiVariableStore.runtimeVariables
  rw [List.map_map]
  have same : (setFrom store.variableIndex 0).filter store.permits =
      (setFrom store.variableIndex 0).filter fun entry =>
        !isBootOnly entry.attributes := by
    apply List.filter_congr
    intro entry member
    exact permits_runtime runtime (List.mem_filter.mp member).2
  rw [same]
  rfl

variable {names : Bytes → Prop} (valid : store.variableIndex.WellFormed names)

def variableIn (list : List (EfiGuid × Bytes × StoredVariable)) (guid : EfiGuid) (name : Bytes) :
    Option StoredVariable :=
  (list.find? fun variable_ => variable_.1 = guid ∧ variable_.2.1 = name).map fun variable_ =>
    variable_.2.2

include valid in
theorem variableIn_runtimeVariables (guid : EfiGuid) (name : Bytes) :
    variableIn store.runtimeVariables guid name =
      (store.view.lookup guid name).filter fun variable_ => !isBootOnly variable_.attributes := by
  have members : ∀ found, store.runtimeVariables.find? (fun variable_ =>
        variable_.1 = guid ∧ variable_.2.1 = name) = some found →
      ∃ pos, (store.entry pos).Names guid name ∧
        (store.info pos).isVariableSet = true ∧
        isBootOnly (store.info pos).metadata.attributes = false ∧
        found.2.2 = store.view.contents (store.info pos) := by
    intro found isFound
    have named := List.find?_some isFound
    obtain ⟨entry, inList, rfl⟩ := List.mem_map.mp (List.mem_of_find?_eq_some isFound)
    obtain ⟨inSet, runtime⟩ := List.mem_filter.mp inList
    obtain ⟨pos, rfl, _, isSet⟩ := of_mem_setFrom inSet
    obtain ⟨used, set⟩ := (Bool.and_eq_true _ _ ▸ isSet : _ ∧ _)
    simp only [decide_eq_true_eq] at named
    have shown : isBootOnly (store.entry pos).attributes = false := by
      simpa using runtime
    exact ⟨pos, ⟨used, named⟩, set, shown, rfl⟩
  have lookup : store.view.lookup guid name =
      (findVariable store.variableIndex guid name).bind fun pos =>
        if (store.info pos).isVariableSet then
          some (store.view.contents (store.info pos))
        else none := rfl
  have attributes : ∀ info, (store.view.contents info).attributes = info.attributes := fun _ => rfl
  unfold variableIn
  rw [lookup]
  cases inList : store.runtimeVariables.find? (fun variable_ =>
      variable_.1 = guid ∧ variable_.2.1 = name) with
  | some found =>
    obtain ⟨pos, named, isSet, shown, contents⟩ := members found inList
    rw [findVariable_of_names valid named]
    simp [isSet, Option.filter_some, attributes, shown, contents]
  | none =>
    cases found : findVariable store.variableIndex guid name with
    | none => rfl
    | some pos =>
      have named := names_of_findVariable found
      by_cases isSet : (store.info pos).isVariableSet = true
      · have hidden : isBootOnly (store.info pos).metadata.attributes = true := by
          by_contra shown
          have member : ((store.entry pos).guid,
              (store.entry pos).name,
              store.view.contents (store.entry pos).info) ∈ store.runtimeVariables := by
            apply List.mem_map_of_mem
            refine List.mem_filter.mpr ⟨entry_mem_setFrom ?_, ?_⟩
            · exact Bool.and_eq_true _ _ ▸ ⟨named.1, isSet⟩
            · simpa using shown
          have unfound := List.find?_eq_none.mp inList _ member
          simp [named.2.1, named.2.2] at unfound
        simp [isSet, Option.filter_some, attributes, hidden]
      · simp [isSet]

/-- Hidden variables are answered like missing ones. -/
theorem readAnswer_filter (nameSize dataSize maxDataLen : Nat) (found : Option StoredVariable) :
    readAnswer false nameSize dataSize maxDataLen
        (found.filter fun variable_ => !isBootOnly variable_.attributes) =
      readAnswer false nameSize dataSize maxDataLen found := by
  cases found with
  | none => rfl
  | some variable_ =>
    by_cases hidden : isBootOnly variable_.attributes = true
    · rw [Option.filter_some, hidden]
      simp only [readAnswer, accessible_runtime, hidden]
      rfl
    · rw [Option.filter_some, Bool.eq_false_iff.mpr hidden]
      rfl

end

/-- The search passes the hidden variables on its way without a trace: they have
names, and names that fit the buffer or that are as long as the name of the next
variable that may be seen. -/
def Unnoticed (permits : VariableEntry → Bool) (room : Nat) : List VariableEntry → Prop
  | [] => True
  | entry :: rest =>
    permits entry = true ∨
      (entry.nameSize ≤ room ∧ int16At entry.name 0 ≠ 0 ∧
        Unnoticed permits room rest) ∨
      (room < entry.nameSize ∧
        (rest.filter permits).head?.map (fun next => next.nameSize) = some entry.nameSize)

/-- The answer with the first variable of a list, in a buffer of `room` bytes. -/
def firstAnswer (room : Nat) : List (EfiGuid × Bytes) → GetNextResult
  | [] => ⟨.notFound, .zero, 0, [], some smmVariableCommunicateGetNextVariableNameNameOffset⟩
  | (guid, name) :: _ =>
    if name.length ≤ room then
      ⟨.success, guid, name.length, name,
        some (smmVariableCommunicateGetNextVariableNameNameOffset + name.length)⟩
    else
      ⟨.bufferTooSmall, .zero, name.length, List.replicate room 0,
        some smmVariableCommunicateGetNextVariableNameNameOffset⟩

section

variable {permits : VariableEntry → Bool} {room : Nat} {entries : List VariableEntry}
  (sized : ∀ entry ∈ entries, entry.nameSize = entry.name.length)

include sized in
/-- A search that nobody notices ends with the first variable that may be seen. -/
theorem search_of_unnoticed (unnoticed : Unnoticed permits room entries) :
    search permits room entries ≠ .startsOver ∧
      (search permits room entries).answer room =
        some (firstAnswer room ((entries.filter permits).map VariableEntry.key)) := by
  induction entries with
  | nil => exact ⟨by rintro ⟨⟩, rfl⟩
  | cons entry rest ih =>
    have size := sized entry (List.mem_cons_self ..)
    have sizes : ∀ other ∈ rest,
        other.nameSize = other.name.length :=
      fun other member => sized other (List.mem_cons_of_mem _ member)
    unfold search
    rw [List.filter_cons]
    by_cases permitted : permits entry = true
    · rw [if_pos permitted, if_pos permitted]
      by_cases fits : entry.name.length ≤ room <;>
        simp [Search.answer, firstAnswer, VariableEntry.key, fits, size]
    · rw [if_neg permitted]
      rcases unnoticed with shown | ⟨fits, nonempty, later⟩ | ⟨large, next⟩
      · exact absurd shown permitted
      · rw [if_pos fits, if_neg permitted, if_neg nonempty]
        exact ih sizes later
      · rw [if_neg (Nat.not_le.mpr large)]
        refine ⟨by rintro ⟨⟩, ?_⟩
        cases visible : rest.filter permits with
        | nil =>
          rw [visible] at next
          cases next
        | cons first others =>
          rw [visible] at next
          have same : first.nameSize = entry.nameSize := Option.some.inj next
          have member : first ∈ rest := (List.mem_filter.mp (visible ▸ List.mem_cons_self ..)).1
          rw [sizes first member] at same
          rw [← same] at large ⊢
          simp [Search.answer, firstAnswer, VariableEntry.key, permitted, Nat.not_le.mpr large]

include sized in
/-- Without empty names, what looks like a search among the variables that may
be seen passes the others unnoticed. -/
theorem unnoticed_of_search
    (nonempty : ∀ entry ∈ entries, permits entry = false → int16At entry.name 0 ≠ 0)
    (answer : (search permits room entries).answer room =
      some (firstAnswer room ((entries.filter permits).map VariableEntry.key))) :
    Unnoticed permits room entries := by
  induction entries with
  | nil => trivial
  | cons entry rest ih =>
    have sizes : ∀ other ∈ rest,
        other.nameSize = other.name.length :=
      fun other member => sized other (List.mem_cons_of_mem _ member)
    by_cases permitted : permits entry = true
    · exact .inl permitted
    · have named := nonempty entry (List.mem_cons_self ..) (Bool.eq_false_iff.mpr permitted)
      rw [search, List.filter_cons, if_neg permitted, if_neg permitted, if_neg named] at answer
      by_cases fits : entry.nameSize ≤ room
      · rw [if_pos fits] at answer
        exact .inr (.inl ⟨fits, named, ih sizes
          (fun other member => nonempty other (List.mem_cons_of_mem _ member)) answer⟩)
      · rw [if_neg fits] at answer
        refine .inr (.inr ⟨Nat.not_le.mp fits, ?_⟩)
        have same := Option.some.inj answer
        cases visible : rest.filter permits with
        | nil =>
          rw [visible] at same
          cases congrArg GetNextResult.status same
        | cons first others =>
          rw [visible, List.map_cons, VariableEntry.key, firstAnswer] at same
          have member : first ∈ rest := (List.mem_filter.mp (visible ▸ List.mem_cons_self ..)).1
          split at same
          · cases congrArg GetNextResult.status same
          · have sizeSame : entry.nameSize = first.name.length :=
              congrArg GetNextResult.nameSize same
            rw [List.head?_cons, Option.map_some, sizes first member, sizeSame]

omit sized in
theorem search_advances
    (nonempty : ∀ entry ∈ entries, permits entry = false → int16At entry.name 0 ≠ 0) :
    search permits room entries ≠ .startsOver := by
  induction entries with
  | nil => rintro ⟨⟩
  | cons entry rest ih =>
    have later := ih fun other member => nonempty other (List.mem_cons_of_mem _ member)
    unfold search
    by_cases permitted : permits entry = true
    · split <;> rintro ⟨⟩
    · rw [if_neg permitted,
        if_neg (nonempty entry (List.mem_cons_self ..) (Bool.eq_false_iff.mpr permitted))]
      split
      · exact later
      · rintro ⟨⟩

omit sized in
/-- A search never answers that its cursor is unknown. -/
theorem search_answer_status (outcome : Search) (result : GetNextResult)
    (answer : outcome.answer room = some result) : result.status ≠ .invalidParameter := by
  cases outcome with
  | startsOver => cases answer
  | _ =>
    rw [← Option.some.inj answer]
    exact nofun

end

/-- What stands behind one variable of a list. -/
def behind (key : EfiGuid × Bytes) (visible : List (EfiGuid × Bytes)) : List (EfiGuid × Bytes) :=
  (visible.dropWhile (· != key)).tail

/-- The answer of GetNextVariableName if there were only the variables of a list. -/
def nextVisible (visible : List (EfiGuid × Bytes)) (guid : EfiGuid) (buffer : Bytes) :
    GetNextResult :=
  if checkNameTerminator (cursorName buffer) ≠ .success then
    ⟨checkNameTerminator (cursorName buffer), guid, usedNameSize buffer, cursorName buffer, none⟩
  else if int16At (cursorName buffer) 0 = 0 then firstAnswer buffer.length visible
  else if (guid, cursorName buffer) ∈ visible then
    firstAnswer buffer.length (behind (guid, cursorName buffer) visible)
  else
    ⟨.invalidParameter, .zero, 0, [], some smmVariableCommunicateGetNextVariableNameNameOffset⟩

/-- A request that does not come across hidden variables: it does not name one,
nor an entry without a variable, and passes those on its way unnoticed. -/
structure Unrevealing (store : UefiVariableStore) (guid : EfiGuid) (buffer : Bytes) : Prop where
  cursor : ∀ pos, int16At (cursorName buffer) 0 ≠ 0 →
    (store.entry pos).Names guid (cursorName buffer) →
    (store.entry pos).isSet = true ∧
      store.permits (store.entry pos) = true
  fromStart : checkNameTerminator (cursorName buffer) = .success →
    int16At (cursorName buffer) 0 = 0 →
    Unnoticed store.permits buffer.length (setFrom store.variableIndex 0)
  fromCursor : ∀ pos, int16At (cursorName buffer) 0 ≠ 0 →
    (store.entry pos).Names guid (cursorName buffer) →
    Unnoticed store.permits buffer.length (setFrom store.variableIndex (pos + 1))

theorem behind_append {key : EfiGuid × Bytes} {front rest : List (EfiGuid × Bytes)}
    (new : key ∉ front) : behind key (front ++ key :: rest) = rest := by
  unfold behind
  rw [List.dropWhile_append_of_pos, List.dropWhile_cons_of_neg (by simp), List.tail_cons]
  intro other member
  simp only [bne_iff_ne, ne_eq]
  rintro rfl
  exact new member

theorem setFrom_split (isSet : (index.entry pos).isSet = true) :
    setFrom index 0 = (index.entries.take pos).filter VariableEntry.isSet ++
      index.entry pos :: setFrom index (pos + 1) := by
  have inside := inside_of_inUse (inUse_of_isSet isSet)
  have split := List.take_append_drop pos index.entries
  rw [List.drop_eq_getElem_cons inside, ← index.entry_inside _ inside] at split
  unfold setFrom
  rw [List.drop_zero]
  nth_rewrite 1 [← split]
  rw [List.filter_append, List.filter_cons, if_pos isSet]

/-- The variables behind a visible one in the list are those behind its entry. -/
theorem behind_visible {store : UefiVariableStore} {names : Bytes → Prop}
    (valid : store.variableIndex.WellFormed names)
    (isSet : (store.entry pos).isSet = true)
    (permitted : store.permits (store.entry pos) = true) :
    behind (store.entry pos).key store.visible =
      ((setFrom store.variableIndex (pos + 1)).filter store.permits).map VariableEntry.key := by
  have once := nodup_visible valid
  have split : store.visible =
      (((store.entries.take pos).filter VariableEntry.isSet).filter
        store.permits).map VariableEntry.key ++
      (store.entry pos).key ::
        ((setFrom store.variableIndex (pos + 1)).filter store.permits).map VariableEntry.key := by
    unfold UefiVariableStore.visible
    rw [setFrom_split isSet, List.filter_append, List.filter_cons, if_pos permitted,
      List.map_append, List.map_cons]
    rfl
  rw [split] at once ⊢
  apply behind_append
  intro member
  exact (List.nodup_append.mp once).2.2 _ member _ (List.mem_cons_self ..) rfl

section

variable {store : UefiVariableStore}
  (valid : store.variableIndex.WellFormed Terminated) {guid : EfiGuid}
  {buffer : Bytes}

include valid in
theorem sized_setFrom (start : Nat) : ∀ entry ∈ setFrom store.variableIndex start,
    entry.nameSize = entry.name.length := by
  intro entry member
  obtain ⟨pos, rfl, _, isSet⟩ := of_mem_setFrom member
  exact (valid.entries pos).size (inUse_of_isSet isSet)

include valid in
/-- A cursor that is a name of the index stands at the entry of that name. -/
theorem findNext_named (nonempty : int16At (cursorName buffer) 0 ≠ 0)
    (named : (store.entry pos).Names guid (cursorName buffer)) :
    variableIndexFindNext store.variableIndex guid (cursorName buffer) =
      findNextFrom store.variableIndex (pos + 1) := by
  obtain ⟨used, sameGuid, sameName⟩ := named
  have long := two_le_of_terminated ((valid.entries pos).named used)
  rw [← sameName] at nonempty
  rw [← sameGuid, ← sameName]
  exact variableIndexFindNext_entry valid used long nonempty

section

variable (terminated : checkNameTerminator (cursorName buffer) = .success)

include terminated

theorem findNext_start (empty : int16At (cursorName buffer) 0 = 0) :
    variableIndexFindNext store.variableIndex guid (cursorName buffer) =
      findNextFrom store.variableIndex 0 := by
  unfold variableIndexFindNext
  rw [if_pos (two_le_of_terminated terminated), if_neg (not_not.mpr empty)]

theorem getNext_unnamed (nonempty : int16At (cursorName buffer) 0 ≠ 0)
    (unnamed : findVariable store.variableIndex guid (cursorName buffer) = none) :
    (uefiVariableStoreGetNextVariableName store guid buffer).map GetNextResult.answer =
      some ⟨.invalidParameter, .zero, 0, [],
        some smmVariableCommunicateGetNextVariableNameNameOffset⟩ := by
  have next : variableIndexFindNext store.variableIndex guid (cursorName buffer) =
      (.invalidParameter, none) := by
    unfold variableIndexFindNext
    rw [if_pos (two_le_of_terminated terminated), if_pos nonempty, unnamed]
  unfold cursorName at next
  rw [getNextVariableName_loop terminated, getNextLoop, next]
  simp [GetNextResult.answer]

end

theorem mem_visible_iff : (guid, cursorName buffer) ∈ store.visible ↔
    ∃ pos, (store.entry pos).Names guid (cursorName buffer) ∧
      (store.entry pos).isSet = true ∧
      store.permits (store.entry pos) = true := by
  unfold UefiVariableStore.visible
  rw [List.mem_map]
  constructor
  · rintro ⟨entry, member, key⟩
    obtain ⟨inSet, permitted⟩ := List.mem_filter.mp member
    obtain ⟨pos, rfl, _, isSet⟩ := of_mem_setFrom inSet
    exact ⟨pos, ⟨inUse_of_isSet isSet, Prod.mk.inj key⟩, isSet, permitted⟩
  · rintro ⟨pos, ⟨used, sameGuid, sameName⟩, isSet, permitted⟩
    exact ⟨store.entry pos, List.mem_filter.mpr ⟨entry_mem_setFrom isSet, permitted⟩,
      by rw [sameGuid, sameName]⟩

omit valid in
theorem nextVisible_start (terminated : checkNameTerminator (cursorName buffer) = .success)
    (empty : int16At (cursorName buffer) 0 = 0) :
    nextVisible store.visible guid buffer = firstAnswer buffer.length
      (((setFrom store.variableIndex 0).filter store.permits).map VariableEntry.key) := by
  rw [nextVisible, if_neg (not_not.mpr terminated), if_pos empty]
  rfl

include valid in
theorem nextVisible_named (nonempty : int16At (cursorName buffer) 0 ≠ 0)
    (named : (store.entry pos).Names guid (cursorName buffer))
    (terminated : checkNameTerminator (cursorName buffer) = .success)
    (isSet : (store.entry pos).isSet = true)
    (permitted : store.permits (store.entry pos) = true) :
    nextVisible store.visible guid buffer = firstAnswer buffer.length
      (((setFrom store.variableIndex (pos + 1)).filter store.permits).map VariableEntry.key) := by
  have key : (guid, cursorName buffer) = (store.entry pos).key := by
    unfold VariableEntry.key
    rw [named.2.1, named.2.2]
  rw [nextVisible, if_neg (not_not.mpr terminated), if_neg nonempty,
    if_pos (mem_visible_iff.mpr ⟨pos, named, isSet, permitted⟩), key,
    behind_visible valid isSet permitted]

include valid in
/-- A request that does not come across hidden variables is answered as if they
did not exist. -/
theorem getNext_of_unrevealing (unrevealing : Unrevealing store guid buffer) :
    (uefiVariableStoreGetNextVariableName store guid buffer).map GetNextResult.answer =
      some (nextVisible store.visible guid buffer) := by
  by_cases terminated : checkNameTerminator (cursorName buffer) = .success
  · by_cases empty : int16At (cursorName buffer) 0 = 0
    · obtain ⟨advances, answer⟩ := search_of_unnoticed (sized_setFrom valid 0)
        (unrevealing.fromStart terminated empty)
      rw [getNextVariableName_search valid terminated (findNext_start terminated empty) advances,
        answer, nextVisible_start terminated empty]
    · cases found : findVariable store.variableIndex guid (cursorName buffer) with
      | none =>
        have unseen : (guid, cursorName buffer) ∉ store.visible := by
          rw [mem_visible_iff]
          rintro ⟨pos, named, _⟩
          exact (findVariable_none valid).mp found pos named
        rw [getNext_unnamed terminated empty found, nextVisible,
          if_neg (not_not.mpr terminated), if_neg empty, if_neg unseen]
      | some pos =>
        have named := names_of_findVariable found
        obtain ⟨isSet, permitted⟩ := unrevealing.cursor pos empty named
        obtain ⟨advances, answer⟩ := search_of_unnoticed (sized_setFrom valid (pos + 1))
          (unrevealing.fromCursor pos empty named)
        rw [getNextVariableName_search valid terminated (findNext_named valid empty named) advances,
          answer, nextVisible_named valid empty named terminated isSet permitted]
  · rw [nextVisible, if_pos terminated]
    unfold uefiVariableStoreGetNextVariableName
    unfold cursorName at terminated ⊢
    rw [if_pos terminated]
    rfl

include valid in
/-- Unless a hidden name is empty, only such requests are answered so. -/
theorem unrevealing_of_getNext (named : ∀ entry ∈ store.entries, entry.isSet = true →
      int16At entry.name 0 ≠ 0)
    (answer : (uefiVariableStoreGetNextVariableName store guid buffer).map GetNextResult.answer =
      some (nextVisible store.visible guid buffer)) :
    Unrevealing store guid buffer := by
  have nonempty : ∀ start, ∀ entry ∈ setFrom store.variableIndex start,
      store.permits entry = false → int16At entry.name 0 ≠ 0 := by
    intro start entry member _
    obtain ⟨_, _, inTable, isSet⟩ := of_mem_setFrom member
    exact named entry inTable isSet
  have advances : ∀ start,
      search store.permits buffer.length (setFrom store.variableIndex start) ≠ .startsOver :=
    fun start => search_advances (nonempty start)
  have terminated_of_named : ∀ pos,
      (store.entry pos).Names guid (cursorName buffer) →
      checkNameTerminator (cursorName buffer) = .success := by
    rintro pos ⟨used, _, sameName⟩
    rw [← sameName]
    exact (valid.entries pos).named used
  have cursor : ∀ pos, int16At (cursorName buffer) 0 ≠ 0 →
      (store.entry pos).Names guid (cursorName buffer) →
      (store.entry pos).isSet = true ∧
        store.permits (store.entry pos) = true := by
    intro pos filled isNamed
    have terminated := terminated_of_named pos isNamed
    by_contra unseen
    have absent : (guid, cursorName buffer) ∉ store.visible := by
      rw [mem_visible_iff]
      rintro ⟨other, otherNamed, seen⟩
      have same := (findVariable_of_names valid isNamed).symm.trans
        (findVariable_of_names valid otherNamed)
      rw [Option.some.inj same] at unseen
      exact unseen seen
    rw [getNextVariableName_search valid terminated (findNext_named valid filled isNamed)
      (advances _), nextVisible, if_neg (not_not.mpr terminated), if_neg filled,
      if_neg absent] at answer
    exact search_answer_status _ _ answer rfl
  refine ⟨cursor, ?_, ?_⟩
  · intro terminated empty
    rw [getNextVariableName_search valid terminated (findNext_start terminated empty) (advances _),
      nextVisible_start terminated empty] at answer
    exact unnoticed_of_search (sized_setFrom valid 0) (nonempty 0) answer
  · intro pos filled isNamed
    have terminated := terminated_of_named pos isNamed
    obtain ⟨isSet, permitted⟩ := cursor pos filled isNamed
    rw [getNextVariableName_search valid terminated (findNext_named valid filled isNamed)
      (advances _), nextVisible_named valid filled isNamed terminated isSet permitted] at answer
    exact unnoticed_of_search (sized_setFrom valid _) (nonempty _) answer

end

structure UefiVariableStore.AtRuntime (store : UefiVariableStore) : Prop where
  index : store.variableIndex.WellFormed Terminated
  phase : store.isBootService = false

theorem Reachable.atRuntime {config : BuildConfig} {limit : Nat}
    (few : limit < 2 ^ 31) {store : UefiVariableStore}
    (reachable : Reachable config limit (.running store))
    (phase : store.isBootService = false) : store.AtRuntime := by
  have wellFormed : store.view.WellFormed Terminated limit := reachable.wellFormed few
  exact ⟨wellFormed.index, phase⟩

/-- The same store with nothing but the variables that may be seen. -/
def UefiVariableStore.withoutHidden (store : UefiVariableStore) : UefiVariableStore :=
  { store with
    variableIndex.entries := store.entries.map fun entry =>
      if entry.isSet && store.permits entry then entry else .zero }

section

variable (store : UefiVariableStore)

theorem entry_withoutHidden (pos : Nat) :
    store.withoutHidden.entry pos =
      if (store.entry pos).isSet && store.permits (store.entry pos) then
        store.entry pos
      else .zero := by
  by_cases inside : pos < store.entries.length
  · have mapped : pos < store.withoutHidden.entries.length := by
      simpa [UefiVariableStore.withoutHidden] using inside
    rw [entry_inside _ _ mapped, store.variableIndex.entry_inside _ inside]
    simp only [UefiVariableStore.withoutHidden, List.getElem_map]
  · have mapped : store.withoutHidden.entries.length ≤ pos := by
      simpa [UefiVariableStore.withoutHidden] using inside
    rw [entry_outside _ _ mapped, store.variableIndex.entry_outside _ (Nat.not_lt.mp inside)]
    split <;> rfl

variable {store}

theorem atRuntime_withoutHidden (state : store.AtRuntime) : store.withoutHidden.AtRuntime := by
  have follows : store.variableIndex.Follows store.withoutHidden.variableIndex := by
    constructor
    · simp [UefiVariableStore.withoutHidden, VariableIndex.maxVariables]
    · intro pos
      rw [entry_withoutHidden]
      split
      · exact .refl _
      · exact ⟨by rintro ⟨⟩, by rintro ⟨⟩, by rintro ⟨⟩, by rintro ⟨⟩, by rintro ⟨⟩, fun _ _ => rfl⟩
  exact ⟨follows.wellFormed state.index, state.phase⟩

theorem mem_setFrom_withoutHidden {start : Nat}
    (member : entry ∈ setFrom store.withoutHidden.variableIndex start) :
    store.permits entry = true := by
  obtain ⟨pos, rfl, _, isSet⟩ := of_mem_setFrom member
  rw [entry_withoutHidden] at isSet ⊢
  split_ifs at isSet ⊢ with seen
  · exact (Bool.and_eq_true _ _ ▸ seen : _ ∧ _).2
  · cases isSet

theorem runtimeVariables_withoutHidden (state : store.AtRuntime) :
    store.withoutHidden.runtimeVariables = store.runtimeVariables := by
  have kept : ∀ entries : List VariableEntry,
      ((entries.map fun entry => if entry.isSet && store.permits entry then entry else .zero).filter
        VariableEntry.isSet).filter (fun entry => !isBootOnly entry.attributes) =
      (entries.filter VariableEntry.isSet).filter fun entry => !isBootOnly entry.attributes := by
    intro entries
    induction entries with
    | nil => rfl
    | cons entry rest ih =>
      have zero : VariableEntry.zero.isSet = false := rfl
      by_cases isSet : entry.isSet = true
      · have permitted := permits_runtime state.phase isSet
        cases hidden : isBootOnly entry.attributes <;>
          simpa [isSet, permitted, hidden, zero] using ih
      · simpa [isSet, zero] using ih
  unfold UefiVariableStore.runtimeVariables setFrom
  rw [List.drop_zero, List.drop_zero, ← kept store.entries]
  rfl

theorem unrevealing_withoutHidden (guid : EfiGuid) (buffer : Bytes) :
    Unrevealing store.withoutHidden guid buffer := by
  have unnoticed : ∀ start, Unnoticed store.withoutHidden.permits buffer.length
      (setFrom store.withoutHidden.variableIndex start) := by
    intro start
    cases entries : setFrom store.withoutHidden.variableIndex start with
    | nil => trivial
    | cons entry rest =>
      have member : entry ∈ setFrom store.withoutHidden.variableIndex start :=
        entries ▸ List.mem_cons_self ..
      have permitted : store.permits entry = true := mem_setFrom_withoutHidden member
      exact .inl permitted
  refine ⟨?_, fun _ _ => unnoticed 0, fun pos _ _ => unnoticed (pos + 1)⟩
  rintro pos _ ⟨used, _⟩
  rw [entry_withoutHidden] at used ⊢
  split_ifs at used ⊢ with seen
  · exact (Bool.and_eq_true _ _ ▸ seen : _ ∧ _)
  · cases used

end

/-- Two states after `exit_boot_service` with the same run time variables answer
every GetVariable request alike, and every GetNextVariableName request that comes
across hidden variables in neither. A request that does come across some is
answered otherwise than in another such state, if no name is empty. -/
theorem runtime_requests_conceal {left : UefiVariableStore} (state : left.AtRuntime) :
    (∀ right : UefiVariableStore, right.AtRuntime →
      right.runtimeVariables = left.runtimeVariables →
      (∀ env : Env, env.ErrorFree → ∀ guid name dataSize maxDataLen,
        (uefiVariableStoreGetVariable env left guid name dataSize maxDataLen).1 =
          (uefiVariableStoreGetVariable env right guid name dataSize maxDataLen).1) ∧
      ∀ guid buffer, Unrevealing left guid buffer → Unrevealing right guid buffer →
        (uefiVariableStoreGetNextVariableName left guid buffer).map GetNextResult.answer =
          (uefiVariableStoreGetNextVariableName right guid buffer).map GetNextResult.answer) ∧
    ((∀ entry ∈ left.entries, entry.isSet = true →
        int16At entry.name 0 ≠ 0) →
      ∀ guid buffer,
        (∀ right : UefiVariableStore, right.AtRuntime →
          right.runtimeVariables = left.runtimeVariables → Unrevealing right guid buffer →
          (uefiVariableStoreGetNextVariableName left guid buffer).map GetNextResult.answer =
            (uefiVariableStoreGetNextVariableName right guid buffer).map GetNextResult.answer) →
        Unrevealing left guid buffer) := by
  constructor
  · intro right rightState agree
    constructor
    · intro env errorFree guid name dataSize maxDataLen
      have lookups := (variableIn_runtimeVariables state.index guid name).symm.trans
        ((congrArg (variableIn · guid name) agree.symm).trans
          (variableIn_runtimeVariables rightState.index guid name))
      rw [getVariable_answer (Env.reads_of_works errorFree.calls),
        getVariable_answer (Env.reads_of_works errorFree.calls), state.phase,
        rightState.phase, ← readAnswer_filter, lookups, readAnswer_filter]
    · intro guid buffer leftQuiet rightQuiet
      rw [getNext_of_unrevealing state.index leftQuiet,
        getNext_of_unrevealing rightState.index rightQuiet, visible_runtime state.phase,
        visible_runtime rightState.phase, agree]
  · intro named guid buffer alike
    have bare := atRuntime_withoutHidden state
    have agree := runtimeVariables_withoutHidden state
    have same := alike left.withoutHidden bare agree (unrevealing_withoutHidden guid buffer)
    rw [getNext_of_unrevealing bare.index (unrevealing_withoutHidden guid buffer),
      visible_runtime bare.phase, agree, ← visible_runtime state.phase] at same
    exact unrevealing_of_getNext state.index named same

/-- `A` is for run time, `B` for boot services only. -/
def secretRun : List Event :=
  namesRun [([0x41, 0, 0, 0], 6#32), ([0x42, 0, 0, 0], 2#32)]

def plainRun : List Event :=
  namesRun [([0x41, 0, 0, 0], 6#32)]

/-- Both runs end with the same run time variable, which an enumeration comes to first. -/
theorem letters_store {events : List Event} (isRun : events = secretRun ∨ events = plainRun) :
    ∃ store ∈ (Device.run (.standard false) 3 events).store?,
      store.isBootService = false ∧
      store.runtimeVariables = [(.zero, [0x41, 0, 0, 0], ⟨6#32, some [1]⟩)] ∧
      Unrevealing store .zero [0, 0, 0, 0] := by
  obtain ⟨store, running, phase, held, first⟩ :
      ∃ store ∈ (Device.run (.standard false) 3 events).store?, store.isBootService = false ∧
        store.runtimeVariables = [(.zero, [0x41, 0, 0, 0], ⟨6#32, some [1]⟩)] ∧
        (setFrom store.variableIndex 0).head?.map store.permits = some true := by
    rcases isRun with rfl | rfl <;> decide +kernel
  refine ⟨store, running, phase, held, ⟨?_, fun _ _ => ?_, ?_⟩⟩
  · exact fun _ filled => absurd rfl filled
  · obtain ⟨entry, isFirst, permitted⟩ := Option.map_eq_some_iff.mp first
    obtain ⟨rest, entries⟩ := List.head?_eq_some_iff.mp isFirst
    rw [entries]
    exact .inl permitted
  · exact fun _ filled => absurd rfl filled

/-- GetVariable answers alike with and without `B`, and so does the start of an enumeration. -/
theorem runtime_requests_conceal_letters :
    ∃ secret plain : UefiVariableStore,
      Reachable (.standard false) 3 (.running secret) ∧
      Reachable (.standard false) 3 (.running plain) ∧
      secret.runtimeVariables = plain.runtimeVariables ∧ secret.runtimeVariables ≠ [] ∧
      (∀ guid name dataSize maxDataLen,
        (uefiVariableStoreGetVariable .calm secret guid name dataSize maxDataLen).1 =
          (uefiVariableStoreGetVariable .calm plain guid name dataSize maxDataLen).1) ∧
      (uefiVariableStoreGetNextVariableName secret .zero [0, 0, 0, 0]).map GetNextResult.answer =
        (uefiVariableStoreGetNextVariableName plain .zero [0, 0, 0, 0]).map
          GetNextResult.answer := by
  obtain ⟨secret, secretRuns, phase, secretVariables, secretStart⟩ := letters_store (.inl rfl)
  obtain ⟨plain, plainRuns, plainPhase, plainVariables, plainStart⟩ := letters_store (.inr rfl)
  have secretReachable := reachable_run secretRuns
  have plainReachable := reachable_run plainRuns
  have secretState := secretReachable.atRuntime (by decide) phase
  have plainState := plainReachable.atRuntime (by decide) plainPhase
  have conceal := (runtime_requests_conceal secretState).1 plain plainState
    (plainVariables.trans secretVariables.symm)
  refine ⟨secret, plain, secretReachable, plainReachable,
    secretVariables.trans plainVariables.symm, ?_, conceal.1 .calm Env.calm_errorFree,
    conceal.2 _ _ secretStart plainStart⟩
  rw [secretVariables]
  exact nofun

/-- Passing the name `B` tells whether there is such a variable. -/
theorem getNextVariableName_reveals_hidden :
    ∃ secret plain : UefiVariableStore,
      Reachable (.standard false) 3 (.running secret) ∧
      Reachable (.standard false) 3 (.running plain) ∧
      secret.isBootService = false ∧ plain.isBootService = false ∧
      secret.runtimeVariables = plain.runtimeVariables ∧
      (uefiVariableStoreGetNextVariableName secret .zero [0x42, 0, 0, 0]).map GetNextResult.status =
        some .notFound ∧
      (uefiVariableStoreGetNextVariableName plain .zero [0x42, 0, 0, 0]).map GetNextResult.status =
        some .invalidParameter := by
  obtain ⟨secret, secretRuns, phase, secretVariables, _⟩ := letters_store (.inl rfl)
  obtain ⟨plain, plainRuns, plainPhase, plainVariables, _⟩ := letters_store (.inr rfl)
  have found : ((Device.run (.standard false) 3 secretRun).store?.bind fun store =>
      (uefiVariableStoreGetNextVariableName store .zero [0x42, 0, 0, 0]).map
        GetNextResult.status) = some .notFound := by
    decide +kernel
  have unknown : ((Device.run (.standard false) 3 plainRun).store?.bind fun store =>
      (uefiVariableStoreGetNextVariableName store .zero [0x42, 0, 0, 0]).map
        GetNextResult.status) = some .invalidParameter := by
    decide +kernel
  rw [Option.mem_def.mp secretRuns] at found
  rw [Option.mem_def.mp plainRuns] at unknown
  exact ⟨secret, plain, reachable_run secretRuns, reachable_run plainRuns, phase, plainPhase,
    secretVariables.trans plainVariables.symm, found, unknown⟩

end SmmVariable

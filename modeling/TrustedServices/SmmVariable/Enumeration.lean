import TrustedServices.SmmVariable.Run

/- GetNextVariableName. The cursor is the name itself, and an empty name starts over. -/
namespace SmmVariable

open Lib VariableIndex

/-- Whether the caller may see the variable of a set entry in the current phase. -/
def UefiVariableStore.permits (store : UefiVariableStore) (entry : VariableEntry) : Bool :=
  checkAccessPermitted store entry.info = .success

def setFrom (index : VariableIndex) (start : Nat) : List VariableEntry :=
  (index.entries.drop start).filter VariableEntry.isSet

/-- How the search for the next variable ends. -/
inductive Search
  | found (entry : VariableEntry)
  | tooSmall (nameSize : Nat)
  | ended
  /-- A hidden variable has an empty name, which sends the search back to the start. -/
  | startsOver

/-- The search over the variables behind the cursor, with `room` bytes for a name. -/
def search (permits : VariableEntry → Bool) (room : Nat) : List VariableEntry → Search
  | [] => .ended
  | entry :: rest =>
    if entry.nameSize ≤ room then
      if permits entry then .found entry
      else if int16At entry.name 0 = 0 then .startsOver
      else search permits room rest
    else .tooSmall entry.nameSize

/-- What the caller takes from the buffer: the name of the returned size. -/
def GetNextResult.answer (result : GetNextResult) : GetNextResult :=
  { result with name := result.name.take result.nameSize }

def Search.answer (room : Nat) : Search → Option GetNextResult
  | .found entry =>
    some ⟨.success, entry.guid, entry.nameSize,
      entry.name, some (smmVariableCommunicateGetNextVariableNameNameOffset + entry.nameSize)⟩
  | .tooSmall nameSize =>
    some ⟨.bufferTooSmall, .zero, nameSize, List.replicate room 0,
      some smmVariableCommunicateGetNextVariableNameNameOffset⟩
  | .ended =>
    some ⟨.notFound, .zero, 0, [], some smmVariableCommunicateGetNextVariableNameNameOffset⟩
  | .startsOver => none

section

variable {index : VariableIndex} {start pos : Nat}

theorem setFrom_of_nextSet_none (none_ : nextSet index start = none) : setFrom index start = [] := by
  unfold nextSet at none_
  rw [Option.map_eq_none_iff, List.findIdx?_eq_none_iff] at none_
  unfold setFrom
  rw [List.filter_eq_nil_iff]
  intro entry member
  simp [none_ entry member]

theorem nextSet_some (next : nextSet index start = some pos) :
    start ≤ pos ∧ pos < index.entries.length ∧ (index.entry pos).isSet = true ∧
      setFrom index start = index.entry pos :: setFrom index (pos + 1) := by
  unfold nextSet at next
  rw [Option.map_eq_some_iff] at next
  obtain ⟨offset, found, rfl⟩ := next
  rw [List.findIdx?_eq_some_iff_getElem] at found
  obtain ⟨inside, isSet, before⟩ := found
  rw [List.length_drop] at inside
  have bound : offset + start < index.entries.length := by omega
  have entry : index.entry (offset + start) = (index.entries.drop start)[offset] := by
    rw [index.entry_inside _ bound, List.getElem_drop]
    congr 1
    omega
  refine ⟨by omega, bound, by rw [entry]; exact isSet, ?_⟩
  have split := List.take_append_drop offset (index.entries.drop start)
  have skipped : ((index.entries.drop start).take offset).filter VariableEntry.isSet = [] := by
    rw [List.filter_eq_nil_iff]
    intro member inFront
    obtain ⟨at_, early, rfl⟩ := List.getElem_of_mem inFront
    rw [List.length_take] at early
    rw [List.getElem_take]
    exact before at_ (by omega)
  unfold setFrom
  rw [← split, List.filter_append, skipped, List.nil_append, List.drop_drop,
    List.drop_eq_getElem_cons (by omega : start + offset < index.entries.length), List.filter_cons]
  have here : index.entries[start + offset] = index.entry (offset + start) := by
    rw [index.entry_inside _ bound]
    congr 1
    omega
  rw [here, entry, if_pos isSet]
  congr 3
  omega

end

theorem two_le_of_terminated {name : Bytes} (terminated : checkNameTerminator name = .success) :
    2 ≤ name.length := by
  unfold checkNameTerminator at terminated
  split_ifs at terminated ⊢
  omega

variable {index : VariableIndex} {names : Bytes → Prop} {guid : EfiGuid}

/-- A name in the index that is not empty leads on to the entries behind its own. -/
theorem variableIndexFindNext_entry {pos : Nat}
    (valid : index.WellFormed names) (used : (index.entry pos).inUse = true)
    (long : 2 ≤ (index.entry pos).name.length)
    (nonempty : int16At (index.entry pos).name 0 ≠ 0) :
    variableIndexFindNext index (index.entry pos).guid
      (index.entry pos).name = findNextFrom index (pos + 1) := by
  have found := findVariable_of_names valid ⟨used, rfl, rfl⟩
  rw [variableIndexFindNext, if_pos long, if_pos nonempty, found]

section

variable {store : UefiVariableStore} (valid : store.variableIndex.WellFormed Terminated)

include valid in
/-- The loop ends as the search over the variables behind the cursor does. The
fuel covers the entries that are left. -/
theorem getNextLoop_search (fuel start nameSize : Nat) (guid : EfiGuid) (buffer : Bytes)
    (cursor : variableIndexFindNext store.variableIndex guid (buffer.take nameSize) =
      findNextFrom store.variableIndex start)
    (enough : store.maxVariables - start < fuel)
    (advances : search store.permits buffer.length (setFrom store.variableIndex start) ≠ .startsOver) :
    (getNextLoop store fuel guid nameSize buffer).map GetNextResult.answer =
      (search store.permits buffer.length (setFrom store.variableIndex start)).answer
        buffer.length := by
  induction fuel generalizing start nameSize guid buffer with
  | zero => omega
  | succ fuel ih =>
    rw [getNextLoop, cursor, findNextFrom]
    cases next : nextSet store.variableIndex start with
    | none =>
      rw [setFrom_of_nextSet_none next]
      simp [GetNextResult.answer, search, Search.answer]
    | some pos =>
      obtain ⟨later, inside, isSet, split⟩ := nextSet_some next
      have used : (store.entry pos).inUse = true := by
        exact (Bool.and_eq_true _ _ ▸ isSet).1
      have wellFormed := valid.entries pos
      have size := wellFormed.size used
      rw [split] at advances ⊢
      by_cases fits : (store.entry pos).nameSize ≤ buffer.length
      · have copied : ((store.entry pos).name ++
            buffer.drop (store.entry pos).nameSize).take
            (store.entry pos).nameSize = (store.entry pos).name := by
          rw [size]
          exact List.take_left
        by_cases allowed : checkAccessPermitted store (store.entry pos).info = .success
        · simp [search, info, fits, UefiVariableStore.permits, allowed,
            GetNextResult.answer, Search.answer, copied]
        · have nonempty : int16At (store.entry pos).name 0 ≠ 0 := by
            intro empty
            simp [search, fits, UefiVariableStore.permits, allowed, empty] at advances
          have kept : ((store.entry pos).name ++
              buffer.drop (store.entry pos).nameSize).length = buffer.length := by
            rw [List.length_append, List.length_drop]
            omega
          simp only [search, info, fits, UefiVariableStore.permits, allowed,
            decide_false, Bool.false_eq_true, nonempty, ↓reduceIte] at advances ⊢
          rw [← kept] at advances ⊢
          apply ih (pos + 1)
          · rw [copied]
            exact variableIndexFindNext_entry valid used
              (two_le_of_terminated (wellFormed.named used)) nonempty
          · unfold VariableIndex.maxVariables at enough ⊢
            omega
          · exact advances
      · have whole : (List.replicate buffer.length (0 : UInt8)).take
            (store.entry pos).nameSize = List.replicate buffer.length 0 := by
          apply List.take_of_length_le
          rw [List.length_replicate]
          omega
        simp only [search, info, fits, ↓reduceIte, Option.map_some,
          GetNextResult.answer, Search.answer, whole]

end

/-- A name as `SetVariable` expects it: at least one character, all of two bytes,
and no NUL before the last character. -/
structure CanonicalName (name : Bytes) : Prop where
  even : name.length % 2 = 0
  nonempty : 4 ≤ name.length
  terminated : int16At name (name.length / 2 - 1) = 0
  unbroken : ∀ index, index < name.length / 2 - 1 → int16At name index ≠ 0

instance (name : Bytes) : Decidable (CanonicalName name) :=
  decidable_of_iff
    (name.length % 2 = 0 ∧ 4 ≤ name.length ∧ int16At name (name.length / 2 - 1) = 0 ∧
      ∀ index, index < name.length / 2 - 1 → int16At name index ≠ 0)
    ⟨fun ⟨even, nonempty, terminated, unbroken⟩ => ⟨even, nonempty, terminated, unbroken⟩,
      fun ⟨even, nonempty, terminated, unbroken⟩ => ⟨even, nonempty, terminated, unbroken⟩⟩

theorem int16At_of_isPrefix {name buffer : Bytes} (isFront : name <+: buffer) (index : Nat)
    (inside : 2 * index + 2 ≤ name.length) : int16At buffer index = int16At name index := by
  obtain ⟨rest, rfl⟩ := isFront
  unfold int16At
  rw [slice_append_inside _ _ _ _ inside]

variable {buffer : Bytes}

theorem usedNameSize_eq (last : Nat) (inside : last < buffer.length / 2)
    (zero : int16At buffer last = 0) (before : ∀ index, index < last → int16At buffer index ≠ 0) :
    usedNameSize buffer = 2 * (last + 1) := by
  have found : (List.range (buffer.length / 2)).find? (fun index => int16At buffer index == 0) =
      some last := by
    rw [List.find?_range_eq_some]
    refine ⟨by simp [zero], by simpa using inside, ?_⟩
    intro index early
    simpa using before index early
  unfold usedNameSize
  rw [found]

def cursorName (buffer : Bytes) : Bytes :=
  buffer.take (usedNameSize buffer)

/-- A cursor that the next call takes to `start`, in any buffer that begins with it. -/
structure CursorAt (store : UefiVariableStore) (guid : EfiGuid) (name : Bytes) (start : Nat) :
    Prop where
  used : ∀ buffer, name <+: buffer → usedNameSize buffer = name.length
  terminated : checkNameTerminator name = .success
  next : variableIndexFindNext store.variableIndex guid name = findNextFrom store.variableIndex start

theorem CursorAt.cursorName_eq {store : UefiVariableStore} {name buffer : Bytes}
    {start : Nat} (cursor : CursorAt store guid name start) (isFront : name <+: buffer) :
    cursorName buffer = name := by
  unfold cursorName
  rw [cursor.used buffer isFront]
  exact (List.prefix_iff_eq_take.mp isFront).symm

theorem cursorAt_start (store : UefiVariableStore) (guid : EfiGuid) :
    CursorAt store guid [0, 0] 0 where
  used buffer isFront := by
    have long := isFront.length_le
    simp only [List.length_cons, List.length_nil] at long
    apply usedNameSize_eq 0
    · omega
    · rw [int16At_of_isPrefix isFront 0 (by simp)]
      rfl
    · intro index early
      omega
  terminated := by decide
  next := by
    rw [variableIndexFindNext, if_pos (by simp), if_neg (not_not.mpr (by rfl))]

theorem cursorAt_entry {store : UefiVariableStore}
    (valid : store.variableIndex.WellFormed names) {pos : Nat}
    (used : (store.entry pos).inUse = true)
    (canonical : CanonicalName (store.entry pos).name) :
    CursorAt store (store.entry pos).guid (store.entry pos).name (pos + 1) := by
  obtain ⟨even, nonempty, terminated, unbroken⟩ := canonical
  constructor
  · intro buffer isFront
    have long := isFront.length_le
    rw [usedNameSize_eq ((store.entry pos).name.length / 2 - 1)]
    · omega
    · omega
    · rw [int16At_of_isPrefix isFront _ (by omega), terminated]
    · intro index early
      rw [int16At_of_isPrefix isFront _ (by omega)]
      exact unbroken index early
  · rw [checkNameTerminator, if_neg]
    rintro (short | open_)
    · omega
    · exact open_ terminated
  · apply variableIndexFindNext_entry valid used (by omega)
    exact unbroken 0 (by omega)

/-- What a call answers, in every name buffer of the largest size or more. -/
def AnswersNext (store : UefiVariableStore) (guid : EfiGuid) (name : Bytes)
    (next : Option (EfiGuid × Bytes)) : Prop :=
  ∀ buffer, variableIndexMaxNameBytes ≤ buffer.length → name <+: buffer →
    ∃ result, uefiVariableStoreGetNextVariableName store guid buffer = some result ∧
      match next with
      | none => result.status = .notFound
      | some (nextGuid, nextName) =>
        result.status = .success ∧ result.guid = nextGuid ∧
          result.name.take result.nameSize = nextName

/-- Calls that pass on the GUID and name of the call before return the variables
of the list one after the other, and then nothing. -/
def Enumerates (store : UefiVariableStore) : EfiGuid → Bytes → List (EfiGuid × Bytes) → Prop
  | guid, name, [] => AnswersNext store guid name none
  | guid, name, next :: rest =>
    AnswersNext store guid name (some next) ∧ Enumerates store next.1 next.2 rest

/-- The set variables that are accessible in the current phase, in index order. -/
def UefiVariableStore.visible (store : UefiVariableStore) : List (EfiGuid × Bytes) :=
  ((setFrom store.variableIndex 0).filter store.permits).map fun entry =>
    (entry.guid, entry.name)

/-- With room for every name, and no empty ones, the search finds the first
variable that the caller may see. -/
theorem search_find (permits : VariableEntry → Bool) (room : Nat) (entries : List VariableEntry)
    (fits : ∀ entry ∈ entries, entry.nameSize ≤ room)
    (nonempty : ∀ entry ∈ entries, int16At entry.name 0 ≠ 0) :
    search permits room entries =
      match entries.filter permits with
      | [] => .ended
      | entry :: _ => .found entry := by
  induction entries with
  | nil => rfl
  | cons entry rest ih =>
    have here := fits entry (List.mem_cons_self ..)
    have named := nonempty entry (List.mem_cons_self ..)
    have next := ih (fun other member => fits other (List.mem_cons_of_mem _ member))
      (fun other member => nonempty other (List.mem_cons_of_mem _ member))
    rw [search, if_pos here, List.filter_cons]
    by_cases permitted : permits entry = true
    · rw [if_pos permitted, if_pos permitted]
    · rw [if_neg permitted, if_neg permitted, if_neg named, next]

theorem filter_setFrom_cons {permits : VariableEntry → Bool} {start : Nat}
    {entry : VariableEntry} {rest : List VariableEntry}
    (visible : (setFrom index start).filter permits = entry :: rest) :
    ∃ pos, index.entry pos = entry ∧ entry.isSet = true ∧
      rest = (setFrom index (pos + 1)).filter permits := by
  obtain ⟨count, left⟩ : ∃ count, index.entries.length - start ≤ count := ⟨_, le_rfl⟩
  induction count generalizing start with
  | zero =>
    rw [setFrom, List.drop_eq_nil_of_le (by omega)] at visible
    cases visible
  | succ count ih =>
    cases next : nextSet index start with
    | none =>
      rw [setFrom_of_nextSet_none next] at visible
      cases visible
    | some pos =>
      obtain ⟨later, inside, isSet, split⟩ := nextSet_some next
      rw [split, List.filter_cons] at visible
      by_cases permitted : permits (index.entry pos) = true
      · rw [if_pos permitted] at visible
        obtain ⟨rfl, rfl⟩ := List.cons.inj visible
        exact ⟨pos, rfl, isSet, rfl⟩
      · rw [if_neg permitted] at visible
        exact ih visible (by omega)

theorem getNextVariableName_loop {store : UefiVariableStore}
    (terminated : checkNameTerminator (cursorName buffer) = .success) :
    uefiVariableStoreGetNextVariableName store guid buffer =
      getNextLoop store (store.maxVariables + 1) guid (usedNameSize buffer) buffer :=
  if_neg (not_not.mpr terminated)

section

variable {store : UefiVariableStore}
  (valid : store.variableIndex.WellFormed Terminated) {guid : EfiGuid}
  {name : Bytes}

include valid in
theorem getNextVariableName_search {start : Nat}
    (terminated : checkNameTerminator (cursorName buffer) = .success)
    (cursor : variableIndexFindNext store.variableIndex guid (cursorName buffer) =
      findNextFrom store.variableIndex start)
    (advances : search store.permits buffer.length (setFrom store.variableIndex start) ≠ .startsOver) :
    (uefiVariableStoreGetNextVariableName store guid buffer).map GetNextResult.answer =
      (search store.permits buffer.length (setFrom store.variableIndex start)).answer
        buffer.length := by
  rw [getNextVariableName_loop terminated]
  apply getNextLoop_search valid _ start
  · exact cursor
  · omega
  · exact advances

include valid in
/-- With canonical names a call answers with the first visible variable behind
its cursor. -/
theorem answersNext_of_cursorAt
    (canonical : ∀ entry ∈ store.entries, entry.isSet = true →
      CanonicalName entry.name)
    {start : Nat} (cursor : CursorAt store guid name start) :
    AnswersNext store guid name
      (((setFrom store.variableIndex start).filter store.permits).head?.map fun entry =>
        (entry.guid, entry.name)) := by
  intro buffer room isFront
  have members : ∀ entry ∈ setFrom store.variableIndex start,
      entry ∈ store.entries ∧ entry.isSet = true := by
    intro entry member
    obtain ⟨dropped, isSet⟩ := List.mem_filter.mp member
    exact ⟨List.mem_of_mem_drop dropped, isSet⟩
  have found := search_find store.permits buffer.length (setFrom store.variableIndex start)
    (by
      intro entry member
      obtain ⟨inTable, isSet⟩ := members entry member
      obtain ⟨pos, rfl⟩ := entry_of_mem inTable
      have used := (Bool.and_eq_true _ _ ▸ isSet : _ ∧ _).1
      rw [(valid.entries pos).size used]
      exact le_trans ((valid.entries pos).fits used) room)
    (by
      intro entry member
      obtain ⟨inTable, isSet⟩ := members entry member
      have name := canonical entry inTable isSet
      apply name.unbroken 0
      have long := name.nonempty
      omega)
  have name_eq := cursor.cursorName_eq isFront
  have answer := getNextVariableName_search valid (name_eq ▸ cursor.terminated)
    (name_eq ▸ cursor.next) (by
      rw [found]
      split <;> exact nofun)
  rw [found] at answer
  cases visible : (setFrom store.variableIndex start).filter store.permits with
  | nil =>
    rw [visible] at answer
    obtain ⟨result, called, same⟩ := Option.map_eq_some_iff.mp answer
    exact ⟨result, called, congrArg GetNextResult.status same⟩
  | cons entry rest =>
    rw [visible] at answer
    obtain ⟨result, called, same⟩ := Option.map_eq_some_iff.mp answer
    exact ⟨result, called, congrArg GetNextResult.status same, congrArg GetNextResult.guid same,
      congrArg GetNextResult.name same⟩

include valid in
theorem enumerates_of_cursorAt
    (canonical : ∀ entry ∈ store.entries, entry.isSet = true →
      CanonicalName entry.name)
    {start : Nat} (cursor : CursorAt store guid name start) :
    Enumerates store guid name (((setFrom store.variableIndex start).filter store.permits).map
      fun entry => (entry.guid, entry.name)) := by
  -- By induction on what is left to return: the variable returned becomes the cursor.
  generalize left : (setFrom store.variableIndex start).filter store.permits = visible
  induction visible generalizing guid name start with
  | nil =>
    have next := answersNext_of_cursorAt valid canonical cursor
    rw [left] at next
    exact next
  | cons entry rest ih =>
    have next := answersNext_of_cursorAt valid canonical cursor
    rw [left] at next
    obtain ⟨pos, rfl, isSet, remaining⟩ := filter_setFrom_cons left
    have used := (Bool.and_eq_true _ _ ▸ isSet : _ ∧ _).1
    have later := cursorAt_entry valid used (canonical _ (entry_mem (inside_of_inUse used)) isSet)
    exact ⟨next, ih later remaining.symm⟩

end

theorem nodup_visible {store : UefiVariableStore}
    (valid : store.variableIndex.WellFormed names) : store.visible.Nodup := by
  have apart := (store.variableIndex.pairwise_apart_iff).mpr valid.apart
  have kept := apart.sublist ((List.filter_sublist (p := store.permits)).trans
    (List.filter_sublist (p := VariableEntry.isSet)))
  unfold UefiVariableStore.visible setFrom
  rw [List.drop_zero, List.nodup_iff_pairwise_ne, List.pairwise_map]
  apply List.Pairwise.imp_of_mem _ kept
  intro left right isLeft isRight apart same
  have isSet : ∀ entry, entry ∈ (store.entries.filter VariableEntry.isSet).filter
      store.permits → entry.inUse = true := by
    intro entry member
    have isSet := (List.mem_filter.mp (List.mem_filter.mp member).1).2
    exact (Bool.and_eq_true _ _ ▸ isSet : _ ∧ _).1
  exact (apart (isSet left isLeft) (isSet right isRight)).1 (Prod.mk.inj same)

/-- While every set variable has a canonical name, GetNextVariableName returns
each variable that is accessible exactly once, in index order, and then nothing. -/
theorem getNextVariableName_enumerates {config : BuildConfig} {limit : Nat}
    (few : limit < 2 ^ 31) {store : UefiVariableStore}
    (reachable : Reachable config limit (.running store))
    (canonical : ∀ entry ∈ store.entries, entry.isSet = true →
      CanonicalName entry.name) (guid : EfiGuid) :
    Enumerates store guid [0, 0] store.visible ∧ store.visible.Nodup := by
  have wellFormed : store.view.WellFormed Terminated limit := reachable.wellFormed few
  exact ⟨enumerates_of_cursorAt wellFormed.index canonical (cursorAt_start store guid),
    nodup_visible wellFormed.index⟩

/-- Power on, set the volatile variables of the given names, and leave the boot phase. -/
def namesRun (names : List (Bytes × Attributes)) : List Event :=
  .powerOn .calm :: names.map (fun (name, attributes) =>
      .request .calm (.setVariable ⟨.zero, attributes, name, [1]⟩)) ++
    [.request .calm .exitBootService]

/-- Of the variables `A`, `B` and `C` the second is hidden at run time. -/
theorem getNextVariableName_enumerates_letters :
    ∃ store, Reachable (.standard false) 3 (.running store) ∧
      Enumerates store .zero [0, 0] [(.zero, [0x41, 0, 0, 0]), (.zero, [0x43, 0, 0, 0])] := by
  obtain ⟨store, reachable, canonical, visible⟩ :
      ∃ store, Reachable (.standard false) 3 (.running store) ∧
        (∀ entry ∈ store.entries, entry.isSet = true → CanonicalName entry.name) ∧
        store.visible = [(.zero, [0x41, 0, 0, 0]), (.zero, [0x43, 0, 0, 0])] :=
    exists_reachable (namesRun [([0x41, 0, 0, 0], 6#32), ([0x42, 0, 0, 0], 2#32),
      ([0x43, 0, 0, 0], 6#32)]) (by decide +kernel)
  have enumerates := getNextVariableName_enumerates (by decide) reachable canonical .zero
  rw [visible] at enumerates
  exact ⟨store, reachable, enumerates.1⟩

/-- A name that its client has padded with a second NUL is set, but the call that
passes it on fails. -/
theorem getNextVariableName_padded_name :
    ∃ store, Reachable (.standard false) 3 (.running store) ∧
      store.visible = [(.zero, [0x41, 0, 0, 0, 0, 0]), (.zero, [0x42, 0, 0, 0])] ∧
      ¬ Enumerates store .zero [0, 0] store.visible := by
  obtain ⟨store, reachable, visible, failed⟩ :
      ∃ store, Reachable (.standard false) 3 (.running store) ∧
        store.visible = [(.zero, [0x41, 0, 0, 0, 0, 0]), (.zero, [0x42, 0, 0, 0])] ∧
        (uefiVariableStoreGetNextVariableName store .zero
          ([0x41, 0, 0, 0, 0, 0] ++ List.replicate 122 0)).map GetNextResult.status =
            some .invalidParameter :=
    exists_reachable (namesRun [([0x41, 0, 0, 0, 0, 0], 6#32), ([0x42, 0, 0, 0], 6#32)])
      (by decide +kernel)
  refine ⟨store, reachable, visible, ?_⟩
  rw [visible]
  rintro ⟨_, next, _⟩
  obtain ⟨result, called, success, _⟩ := next ([0x41, 0, 0, 0, 0, 0] ++ List.replicate 122 0)
    (by simp [variableIndexMaxNameBytes]) (List.prefix_append _ _)
  rw [called, Option.map_some, success] at failed
  cases failed

end SmmVariable

import TrustedServices.SmmVariable.Run
import TrustedServices.SmmVariable.Values

/- The copy of the index that is restored next, compared with the index in memory. -/
namespace SmmVariable

open Lib VariableEntry VariableIndex StoreView

/-- What says which variable a record is about and where its data is. -/
def VariableMetadata.identity (metadata : VariableMetadata) :
    (EfiGuid × Bytes) × Attributes × Nat :=
  ((metadata.guid, metadata.name), metadata.attributes, metadata.uid)

/-- A saved record of a variable. For the names in `current` it is up to date. -/
structure Records (current : EfiGuid × Bytes → Prop) (metadata saved : VariableMetadata) : Prop where
  identity : saved.identity = metadata.identity
  timestamp : current (metadata.guid, metadata.name) → saved.timestamp = metadata.timestamp
  fingerprint : current (metadata.guid, metadata.name) → saved.fingerprint = metadata.fingerprint

/-- A change of an entry that its saved record survives. -/
structure VariableEntry.KeepsRecord (current : EfiGuid × Bytes → Prop)
    (before after : VariableEntry) : Prop where
  isDumped : after.isDumped = before.isDumped
  records : before.isDumped = true → Records current after.info.metadata before.info.metadata

section

variable {current : EfiGuid × Bytes → Prop} {first second third : VariableMetadata}
  {before after : VariableEntry}

theorem Records.refl (metadata : VariableMetadata) : Records current metadata metadata :=
  ⟨rfl, fun _ => rfl, fun _ => rfl⟩

theorem Records.trans (later : Records current first second) (earlier : Records current second third) :
    Records current first third := by
  have key : (second.guid, second.name) = (first.guid, first.name) :=
    congrArg Prod.fst later.identity
  refine ⟨earlier.identity.trans later.identity, fun isCurrent => ?_, fun isCurrent => ?_⟩
  · rw [earlier.timestamp (by rw [key]; exact isCurrent), later.timestamp isCurrent]
  · rw [earlier.fingerprint (by rw [key]; exact isCurrent), later.fingerprint isCurrent]

theorem VariableEntry.isDumped_iff (entry : VariableEntry) :
    entry.isDumped = true ↔ entry.isSet = true ∧
      isNonVolatile entry.attributes = true :=
  Bool.and_eq_true_iff

theorem VariableEntry.isDumped_restored (dumped : before.isDumped = true) :
    before.restored.isDumped = true :=
  (isDumped_iff _).mpr ⟨rfl, ((isDumped_iff _).mp dumped).2⟩

theorem VariableEntry.keepsRecord_of_unsaved (unsavedBefore : before.isDumped = false)
    (unsavedAfter : after.isDumped = false) : before.KeepsRecord current after := by
  refine ⟨unsavedAfter.trans unsavedBefore.symm, fun dumped => ?_⟩
  rw [unsavedBefore] at dumped
  cases dumped

theorem VariableEntry.keepsRecord_of_info (inUse : after.inUse = before.inUse)
    (info : after.info = before.info) : before.KeepsRecord current after := by
  refine ⟨?_, fun _ => ?_⟩
  · unfold VariableEntry.isDumped
    rw [inUse, info]
  · rw [info]
    exact .refl _

theorem VariableEntry.keepsRecord_withoutUnused (entry : VariableEntry) :
    entry.KeepsRecord current entry.withoutUnused := by
  cases isSet : entry.isVariableSet with
  | true =>
    rw [withoutUnused_of_set isSet]
    exact keepsRecord_of_info rfl rfl
  | false =>
    apply keepsRecord_of_unsaved
    · unfold VariableEntry.isDumped
      rw [isSet, Bool.and_false, Bool.false_and]
    · unfold VariableEntry.isDumped
      rw [unset_withoutUnused isSet, Bool.and_false, Bool.false_and]

theorem VariableEntry.keepsRecord_withConstraints (entry : VariableEntry)
    (constraints : VariableConstraints) :
    entry.KeepsRecord current (entry.withConstraints constraints) := by
  unfold withConstraints markDirty
  split <;> exact ⟨rfl, fun _ => .refl _⟩

theorem VariableEntry.keepsRecord_withAuthentication (entry : VariableEntry) (timestamp : EfiTime)
    (fingerprint : BitVec 256) (outdated : ¬ current (entry.guid, entry.name)) :
    entry.KeepsRecord current (entry.withAuthentication timestamp fingerprint) :=
  ⟨rfl, fun _ => ⟨rfl, fun isCurrent => absurd isCurrent outdated,
    fun isCurrent => absurd isCurrent outdated⟩⟩

end

section

variable {limit active : Nat} {objects after : ObjectStore} {index : VariableIndex}

section

variable (loads : LoadsIndex limit objects active index)

include loads

theorem LoadsIndex.congr (same : ∀ uid, isIndexUid uid → after uid = objects uid) :
    LoadsIndex limit after active index := by
  have current : currentIndex after = currentIndex objects := by
    unfold currentIndex
    rw [same _ (.inl rfl), same _ (.inr rfl)]
  cases loads with
  | fresh missing => exact .fresh (current.trans missing)
  | stored chosen present fits =>
    exact .stored (current.trans chosen) ((same _ (currentIndex_ok chosen).1).trans present) fits

theorem LoadsIndex.drops
    (drops : DropsEmptyCopies objects after) : LoadsIndex limit after active index := by
  have current : currentIndex after = currentIndex objects := by
    unfold currentIndex
    rw [drops.probe, drops.probe]
  cases loads with
  | fresh missing => exact .fresh (current.trans missing)
  | stored chosen present fits =>
    obtain ⟨object, same, nonempty, _⟩ := probeOf_found (currentIndex_ok chosen).2
    rw [present, Option.some.injEq] at same
    subst same
    exact .stored (current.trans chosen) (drops.keeps present nonempty) fits

end

/-- What start-up restores is well formed, and all of it is non-volatile. -/
theorem LoadsIndex.wellFormed {names : Bytes → Prop} (few : limit < 2 ^ 31)
    (loads : LoadsIndex limit objects active index)
    (copies : CopiesWellFormed names limit objects) :
    index.WellFormed names ∧ ∀ pos, (index.entry pos).isSet = true →
      (index.entry pos).isDumped = true := by
  cases loads with
  | fresh missing =>
    refine ⟨variableIndexInit_wellFormed 0, fun pos isSet => ?_⟩
    have zero := entry_variableIndexInit 0 limit pos
    unfold variableIndexInit at zero isSet
    rw [zero] at isSet
    cases isSet
  | @stored _ counter object chosen present fits =>
    obtain ⟨isIndex, found⟩ := currentIndex_ok chosen
    obtain ⟨_, same, nonempty, _⟩ := probeOf_found found
    rw [present, Option.some.injEq] at same
    subst same
    have image := copies active isIndex object present
    refine ⟨(variableIndexRestore_wellFormed few counter nonempty image).1, fun pos isSet => ?_⟩
    rcases image with empty | ⟨source, kept, valid, rfl, counted, data⟩
    · exact absurd empty nonempty
    · rw [data] at isSet ⊢
      obtain ⟨_, front, rest, isFront, entries, idle, _⟩ :=
        variableIndexRestore_take source (valid.stored few) counter kept counted
      have used := ((isSet_iff _).mp isSet).1
      have member := entry_mem (inside_of_inUse used)
      rw [entries] at member
      rcases List.mem_append.mp member with restored | unused
      · obtain ⟨entry, inFront, same⟩ := List.mem_map.mp restored
        have dumped := (List.mem_filter.mp (isFront.subset inFront)).2
        rw [← same]
        exact isDumped_restored dumped
      · rw [(idle _ unused).1] at used
        cases used

theorem VariableIndex.exists_saved {pos : Nat} (dumped : (index.entry pos).isDumped = true) :
    ∃ at_, index.saved.entry at_ = (index.entry pos).restored := by
  have used : (index.entry pos).inUse = true := ((isSet_iff _).mp ((isDumped_iff _).mp dumped).1).1
  have member : (index.entry pos).restored ∈ index.saved.entries := by
    apply List.mem_append_left
    exact List.mem_map_of_mem (List.mem_filter.mpr ⟨entry_mem (inside_of_inUse used), dumped⟩)
  obtain ⟨at_, same⟩ := entry_of_mem member
  exact ⟨at_, same⟩

theorem VariableIndex.exists_of_saved {at_ : Nat} (dumped : (index.saved.entry at_).isDumped = true) :
    ∃ pos, (index.entry pos).isDumped = true ∧
      index.saved.entry at_ = (index.entry pos).restored := by
  have used : (index.saved.entry at_).inUse = true :=
    ((isSet_iff _).mp ((isDumped_iff _).mp dumped).1).1
  have member : index.saved.entry at_ ∈
      (index.entries.filter VariableEntry.isDumped).map VariableEntry.restored ++
        List.replicate _ VariableEntry.zero :=
    entry_mem (inside_of_inUse used)
  rcases List.mem_append.mp member with restored | unused
  · obtain ⟨entry, kept, same⟩ := List.mem_map.mp restored
    obtain ⟨inTable, isDumped⟩ := List.mem_filter.mp kept
    obtain ⟨pos, rfl⟩ := entry_of_mem inTable
    exact ⟨pos, isDumped, same.symm⟩
  · rw [(List.mem_replicate.mp unused).2] at used
    cases used

end

/-- The index in memory and the one that start-up would restore. A record whose variable is
gone has no data. -/
structure StoreView.SavedAs (limit : Nat) (current : EfiGuid × Bytes → Prop)
    (view : StoreView) (loaded : VariableIndex) : Prop where
  loads : LoadsIndex limit (view.objects true) view.activeVariableIndexUid loaded
  counter : loaded.counter = view.counter
  kept : ∀ pos, (view.entry pos).isDumped = true →
    ∃ at_, (loaded.entry at_).isDumped = true ∧
      Records current (view.entry pos).info.metadata (loaded.entry at_).info.metadata
  stale : ∀ at_, (loaded.entry at_).isDumped = true →
    view.objects true (loaded.entry at_).uid ≠ none →
    ∃ pos, (view.entry pos).isDumped = true ∧
      (loaded.entry at_).info.metadata.identity = (view.entry pos).info.metadata.identity

/-- Start-up would restore the variables in memory. Which records have to be up to date may
depend on the counter of the index. -/
def StoreView.Saved (limit : Nat) (current : BitVec 32 → EfiGuid × Bytes → Prop)
    (view : StoreView) : Prop :=
  ∃ loaded, view.SavedAs limit (current view.counter) loaded

/-- Start-up would restore some index, and the next sync writes a new one. -/
structure StoreView.AwaitsSync (limit : Nat) (view : StoreView) : Prop where
  loads : ∃ loaded, LoadsIndex limit (view.objects true) view.activeVariableIndexUid loaded ∧
    loaded.counter = view.counter
  dirty : view.entries.any (·.dirty) = true

variable {config : BuildConfig} {fault : Fault BackendCall} {names : Bytes → Prop}
  {limit pos : Nat} {current : BitVec 32 → EfiGuid × Bytes → Prop} {view after : StoreView}
  {status : EfiStatus}

section

variable (saved : view.Saved limit current)

include saved

theorem StoreView.Saved.mono {fewer : BitVec 32 → EfiGuid × Bytes → Prop}
    (subset : ∀ key, fewer view.counter key → current view.counter key) :
    view.Saved limit fewer := by
  obtain ⟨loaded, savedAs⟩ := saved
  refine ⟨loaded, savedAs.loads, savedAs.counter, fun pos dumped => ?_, savedAs.stale⟩
  obtain ⟨at_, isDumped, records⟩ := savedAs.kept pos dumped
  exact ⟨at_, isDumped, records.identity, fun isFresh => records.timestamp (subset _ isFresh),
    fun isFresh => records.fingerprint (subset _ isFresh)⟩

theorem StoreView.Saved.congr (objects : after.objects true = view.objects true)
    (active : after.activeVariableIndexUid = view.activeVariableIndexUid)
    (counter : after.counter = view.counter)
    (entries : ∀ pos, (view.entry pos).KeepsRecord (current view.counter) (after.entry pos)) :
    after.Saved limit current := by
  obtain ⟨loaded, savedAs⟩ := saved
  refine ⟨loaded, ?_, ?_, ?_, ?_⟩
  · rw [objects, active]
    exact savedAs.loads
  · rw [counter]
    exact savedAs.counter
  · intro pos dumped
    rw [(entries pos).isDumped] at dumped
    obtain ⟨at_, isDumped, records⟩ := savedAs.kept pos dumped
    rw [counter]
    exact ⟨at_, isDumped, ((entries pos).records dumped).trans records⟩
  · intro at_ dumped present
    rw [objects] at present
    obtain ⟨pos, isDumped, same⟩ := savedAs.stale at_ dumped present
    exact ⟨pos, (entries pos).isDumped.trans isDumped,
      same.trans ((entries pos).records isDumped).identity⟩

theorem StoreView.Saved.modifyEntry (change : VariableEntry → VariableEntry)
    (keeps : (view.entry pos).KeepsRecord (current view.counter) (change (view.entry pos))) :
    (view.modifyEntry pos change).Saved limit current :=
  saved.congr rfl rfl rfl (entry_modify_rel (fun _ => keepsRecord_of_info rfl rfl) keeps)

theorem StoreView.Saved.loads :
    ∃ loaded, LoadsIndex limit (view.objects true) view.activeVariableIndexUid loaded ∧
      loaded.counter = view.counter := by
  obtain ⟨loaded, savedAs⟩ := saved
  exact ⟨loaded, savedAs.loads, savedAs.counter⟩

end

/-- A sync whose calls work saves what there is to save. -/
theorem SyncOutcome.saved (sync : SyncOutcome config fault view status after)
    (works : IndexCallsWork fault) (valid : view.WellFormed names limit)
    (ready : view.Saved limit current ∨ view.AwaitsSync limit) :
    status = .success ∧ after.Saved limit current := by
  have loadable : ∃ loaded, LoadsIndex limit (view.objects true)
      view.activeVariableIndexUid loaded ∧ loaded.counter = view.counter := by
    rcases ready with saved | awaits
    · exact saved.loads
    · exact awaits.loads
  have entries := sync.entry_eq
  cases sync with
  | unwritten clean =>
    refine ⟨rfl, ?_⟩
    rcases ready with saved | awaits
    · refine saved.congr rfl rfl rfl fun pos => ?_
      rw [entries]
      exact keepsRecord_of_info rfl rfl
    · rw [awaits.dirty] at clean
      cases clean
  | written dirty =>
    refine ⟨rfl, view.variableIndex.saved, ?_, rfl, ?_, ?_⟩
    · obtain ⟨loaded, loads, counted⟩ := loadable
      have size := valid.size
      subst size
      have written := loads.of_writtenCopy counted view.dump.length (by
        rw [length_dump]
        omega)
      rw [List.take_length, variableIndexRestore_dump _ (valid.index.stored valid.few)] at written
      simpa [withObjects] using written
    · intro pos dumped
      rw [entries] at dumped ⊢
      obtain ⟨at_, same⟩ := exists_saved dumped
      refine ⟨at_, ?_, ?_⟩
      · rw [same]
        exact isDumped_restored dumped
      · rw [same]
        exact .refl _
    · intro at_ dumped _
      obtain ⟨pos, isDumped, same⟩ := exists_of_saved dumped
      refine ⟨pos, ?_, ?_⟩
      · rw [entries]
        exact isDumped
      · rw [entries, same]
        rfl
  | failed _ injected _ _ =>
    obtain ⟨count, op, error, fails⟩ := injected
    rw [works count _ (isIndexUid_nextIndexUid _)] at fails
    cases fails

theorem StoreView.SavedAs.records_of_uid {loaded : VariableIndex} {fresh : EfiGuid × Bytes → Prop}
    (saved : view.SavedAs limit fresh loaded) (valid : view.WellFormed names limit)
    (dumped : (view.entry pos).isDumped = true)
    {at_ : Nat} (isDumped : (loaded.entry at_).isDumped = true)
    (uid : (loaded.entry at_).uid = (view.entry pos).uid) :
    Records fresh (view.entry pos).info.metadata (loaded.entry at_).info.metadata := by
  obtain ⟨own, ownDumped, records⟩ := saved.kept pos dumped
  have ownUid : (loaded.entry own).uid =
      (view.entry pos).uid :=
    congrArg (fun identity => identity.2.2) records.identity
  have used : ∀ {other}, (loaded.entry other).isDumped = true → (loaded.entry other).inUse = true :=
    fun holds => ((isSet_iff _).mp ((isDumped_iff _).mp holds).1).1
  have same : at_ = own := by
    by_contra distinct
    have apart := (saved.loads.wellFormed valid.few valid.copies).1.apart at_ own distinct
      (used isDumped) (used ownDumped)
    exact apart.2 (uid.trans ownUid.symm)
  rw [same]
  exact records

/-- Data of a variable that is saved, or on the volatile side. -/
theorem StoreView.Saved.put (saved : view.Saved limit current)
    (valid : view.WellFormed names limit) (isNv : Bool)
    (isSaved : isNv = true → (view.entry pos).isDumped = true)
    (data : ¬ isIndexUid (view.entry pos).uid) (value : Option Object) :
    (view.withObjects isNv ((view.objects isNv).put
      (view.entry pos).uid value)).Saved limit current := by
  cases isNv with
  | false =>
    refine saved.congr ?_ rfl rfl fun _ => keepsRecord_of_info rfl rfl
    simp [withObjects]
  | true =>
    obtain ⟨loaded, savedAs⟩ := saved
    refine ⟨loaded, ?_, savedAs.counter, savedAs.kept, ?_⟩
    · refine savedAs.loads.congr fun uid isIndex => ?_
      have apart : uid ≠ (view.entry pos).uid := fun same => data (same ▸ isIndex)
      simp [withObjects, apart]
    · intro at_ dumped present
      by_cases own : (loaded.entry at_).uid = (view.entry pos).uid
      · exact ⟨pos, isSaved rfl, (savedAs.records_of_uid valid (isSaved rfl) dumped own).identity⟩
      · simp only [withObjects, Function.update_self, ne_eq,
          ObjectStore.put_other _ _ _ _ own] at present
        exact savedAs.stale at_ dumped present

/-- The record of a variable that is deleted stays without its data. -/
theorem StoreView.Saved.delete (saved : view.Saved limit current)
    (inside : pos < view.entries.length)
    (data : ¬ isIndexUid (view.entry pos).uid) :
    ((view.withObjects true ((view.objects true).put
      (view.entry pos).uid none)).modifyEntry pos withoutVariable).Saved limit current := by
  obtain ⟨loaded, savedAs⟩ := saved
  have others : ∀ other, other ≠ pos →
      (view.variableIndex.modify pos withoutVariable).entry other =
        view.entry other :=
    fun other distinct => entry_modify_other _ _ _ _ distinct
  refine ⟨loaded, ?_, savedAs.counter, ?_, ?_⟩
  · refine savedAs.loads.congr fun uid isIndex => ?_
    have apart : uid ≠ (view.entry pos).uid := fun same => data (same ▸ isIndex)
    simp [withObjects, StoreView.modifyEntry, withIndex, apart]
  · intro other dumped
    by_cases here : other = pos
    · subst here
      have entry : ((view.withObjects true ((view.objects true).put
          (view.entry other).uid none)).modifyEntry other
            withoutVariable).entry other =
          (view.entry other).withoutVariable :=
        entry_modify_self _ _ _ inside
      rw [entry, isDumped_iff, isSet_iff, info_withoutVariable] at dumped
      cases dumped.1.2
    · have entry : ((view.withObjects true ((view.objects true).put
          (view.entry pos).uid none)).modifyEntry pos
            withoutVariable).entry other =
          view.entry other := others other here
      rw [entry] at dumped ⊢
      exact savedAs.kept other dumped
  · intro at_ dumped present
    have apart : (loaded.entry at_).uid ≠ (view.entry pos).uid := by
      intro same
      rw [same] at present
      simp [withObjects, StoreView.modifyEntry, withIndex] at present
    simp only [withObjects, StoreView.modifyEntry, withIndex,
      Function.update_self, ne_eq, ObjectStore.put_other _ _ _ _ apart] at present
    obtain ⟨owner, isDumped, same⟩ := savedAs.stale at_ dumped present
    have distinct : owner ≠ pos := by
      rintro rfl
      exact apart (congrArg (fun identity => identity.2.2) same)
    have entry : ((view.withObjects true ((view.objects true).put
        (view.entry pos).uid none)).modifyEntry pos
          withoutVariable).entry owner =
        view.entry owner := others owner distinct
    refine ⟨owner, ?_, ?_⟩
    · rw [entry]
      exact isDumped
    · rw [entry]
      exact same

end SmmVariable

import TrustedServices.SmmVariable.Run

/- The names and UIDs of the variables in an index. -/
namespace SmmVariable

open Lib VariableIndex

variable {index : VariableIndex} {guid : EfiGuid} {name : Bytes} {pos : Nat}

/-- With a free slot fewer than `max_variables` UIDs are taken, so one of them is left. -/
theorem generateUid_of_free (inside : pos < index.maxVariables)
    (unused : (index.entry pos).inUse = false) : generateUid index ≠ 0 := by
  intro none
  have taken : ((List.range index.maxVariables).map (· + 1)) ⊆
      (index.entries.filter VariableEntry.inUse).map (·.info.metadata.uid) := by
    intro candidate member
    rw [generateUid] at none
    cases found : ((List.range index.maxVariables).map (· + 1)).find? fun candidate =>
        !index.entries.any fun entry => entry.inUse && entry.uid == candidate with
    | some uid =>
      rw [found, Option.getD_some] at none
      obtain ⟨number, _, rfl⟩ := List.mem_map.mp (List.mem_of_find?_eq_some found)
      exact absurd none (Nat.succ_ne_zero number)
    | none =>
      have isTaken := List.find?_eq_none.mp found candidate member
      rw [Bool.not_eq_true', Bool.not_eq_false, List.any_eq_true] at isTaken
      obtain ⟨entry, inTable, same⟩ := isTaken
      rw [Bool.and_eq_true, beq_iff_eq] at same
      exact List.mem_map.mpr ⟨entry, List.mem_filter.mpr ⟨inTable, same.1⟩, same.2⟩
  have distinct : ((List.range index.maxVariables).map (· + 1)).Nodup :=
    List.Nodup.map (fun _ _ same => Nat.succ.inj same) List.nodup_range
  have many := (List.subperm_of_subset distinct taken).length_le
  have few : (index.entries.filter VariableEntry.inUse).length < index.entries.length := by
    rw [List.length_filter_lt_length_iff_exists]
    exact ⟨index.entry pos, entry_mem inside, Bool.eq_false_iff.mp unused⟩
  rw [List.length_map, List.length_range, List.length_map] at many
  exact absurd many (Nat.not_le.mpr few)

/-- An entry is added whenever the name fits and a slot is free. -/
theorem variableIndexAddEntry_none_iff (fits : name.length ≤ variableIndexMaxNameBytes) :
    (variableIndexAddEntry index guid name).2 = none ↔
      ∀ pos < index.maxVariables, (index.entry pos).inUse = true := by
  constructor
  · intro refused pos inside
    by_contra unused
    rw [Bool.not_eq_true] at unused
    rw [variableIndexAddEntry, addEntry, if_pos fits] at refused
    cases free : findFree index with
    | none =>
      rw [findFree, List.findIdx?_eq_none_iff] at free
      have used := free (index.entry pos) (entry_mem inside)
      rw [unused] at used
      cases used
    | some slot =>
      rw [free] at refused
      dsimp only at refused
      rw [if_neg (generateUid_of_free inside unused)] at refused
      cases refused
  · intro full
    cases added : (variableIndexAddEntry index guid name).2 with
    | none => rfl
    | some slot =>
      obtain ⟨_, inside, unused, _⟩ := addEntry_some added
      rw [full slot inside] at unused
      cases unused

/-- In every state of every run the entries in use have names and UIDs of their own. A new name is
refused only if the table is full, and its UID is that of no other variable and of no copy of the
index. -/
theorem index_identities {config : BuildConfig} {limit : Nat} {store : UefiVariableStore}
    (few : limit < 2 ^ 31) (reachable : Reachable config limit (.running store)) :
    (∀ pos other, pos ≠ other →
      (store.entry pos).Apart (store.entry other)) ∧
    (∀ pos, (store.entry pos).inUse = true →
      1 ≤ (store.entry pos).uid ∧
        (store.entry pos).uid ≤ limit) ∧
    ∀ guid name, findVariable store.variableIndex guid name = none →
      name.length ≤ variableIndexMaxNameBytes →
      let added := variableIndexAddEntry store.variableIndex guid name
      (added.2 = none ↔ ∀ pos < limit, (store.entry pos).inUse = true) ∧
      ∀ pos, added.2 = some pos → ¬ isIndexUid (added.1.entry pos).uid ∧
        ∀ other, other ≠ pos → (added.1.entry other).inUse = true →
          (added.1.entry other).uid ≠ (added.1.entry pos).uid := by
  have valid : store.view.WellFormed _ limit := reachable.wellFormed few
  have index : store.variableIndex.WellFormed _ := valid.index
  have size : store.maxVariables = limit := valid.size
  refine ⟨index.apart, fun pos used => size ▸ (index.entries pos).uidRange used, ?_⟩
  intro guid name _ fits
  refine ⟨size ▸ variableIndexAddEntry_none_iff fits, ?_⟩
  intro pos added
  obtain ⟨_, inside, _, generated, result⟩ := addEntry_some added
  obtain ⟨_, bounded, fresh⟩ := generateUid_fresh store.variableIndex generated
  rw [variableIndexAddEntry, result, entry_modify_self _ _ _ inside]
  refine ⟨not_isIndexUid_of_le few (size ▸ bounded), ?_⟩
  intro other apart used
  rw [entry_modify_other _ _ _ _ apart] at used ⊢
  exact fresh other used

/-- A store with one variable has a place for another one. -/
theorem index_identities_letter : ∃ store, Reachable (.standard false) 2 (.running store) ∧
    (variableIndexAddEntry store.variableIndex .zero [0x42, 0, 0, 0]).2 ≠ none := by
  obtain ⟨store, reachable, absent, unused⟩ :
      ∃ store, Reachable (.standard false) 2 (.running store) ∧
        findVariable store.variableIndex .zero [0x42, 0, 0, 0] = none ∧
        (store.entry 1).inUse = false :=
    exists_reachable [.powerOn .calm,
      .request .calm (.setVariable ⟨.zero, 0x7#32, [0x41, 0, 0, 0], [1]⟩)] (by decide +kernel)
  obtain ⟨_, _, adds⟩ := index_identities (by decide) reachable
  refine ⟨store, reachable, fun refused => ?_⟩
  have used := (adds .zero [0x42, 0, 0, 0] absent (by decide)).1.mp refused 1 (by decide)
  rw [unused] at used
  cases used

end SmmVariable

import TrustedServices.Lib.Confinement

/- Responses over OpenAMP, with physical addresses that are translated. -/
namespace PsaComms.Openamp

open Lib Accessing

section

/-- The memory that the end of a call uses: the shared payload region, what a pointer that is not
translated leads to, the caller's array of output vectors and the buffers of these. -/
inductive AmpBuffer
  | shared
  | null
  | outVecs
  | output (vector : Nat)
  deriving DecidableEq, Repr

abbrev AmpProgram := Accessing AmpBuffer

/-- The payload region, with the translation of physical addresses by libmetal. -/
structure PayloadRegion where
  size : Nat
  physToVirt : Nat → AmpBuffer × Nat

variable (region : PayloadRegion)

/-- Every physical address is translated to one of the region or to a null pointer. -/
def PayloadRegion.Translates : Prop :=
  ∀ addr, (region.physToVirt addr).1 = .shared ∨ (region.physToVirt addr).1 = .null

/-- The offsets of the fields of `s_openamp_msg` and of `psa_outvec`, and the size of the latter. -/
def replyOffset : Nat := 4
def paramsOutVecOffset : Nat := 8
def paramsOutLenOffset : Nat := 12
def outvecBaseOffset : Nat := 0
def outvecLenOffset : Nat := 4
def outvecSize : Nat := 8

def psaErrorCommunicationFailure : Nat := 2 ^ 32 - 145

/-- The loop over a number of output vectors from one on, with the lengths that are stored. The
vectors of the response are at a pointer. -/
def copyOutVecs (table : AmpBuffer × Nat) : Nat → Nat → AmpProgram (List Nat)
  | _, 0 => return []
  | vector, count + 1 => do
      let len ← loadWord table.1 (table.2 + outvecSize * vector + outvecLenOffset) 4
      store .outVecs (outvecSize * vector + outvecLenOffset) (leBytes 4 len)
      let base ← loadWord table.1 (table.2 + outvecSize * vector + outvecBaseOffset) 4
      let source := region.physToVirt base
      let payload ← load source.1 source.2 len
      store (.output vector) 0 payload
      let lens ← copyOutVecs table (vector + 1) count
      return len :: lens

/-- The status of a call, and the lengths of the output vectors that were copied. -/
structure AmpOutcome where
  status : Nat
  copied : List Nat
  deriving DecidableEq, Repr

/-- What a call with `outLen` output vectors does with its response, which is at an offset of the
payload region or missing. -/
def endPsaCall (outLen : Nat) : Option Nat → AmpProgram AmpOutcome
  | none => return ⟨psaErrorCommunicationFailure, []⟩
  | some response => do
      let reply ← loadWord .shared (response + replyOffset) 4
      if outLen = 0 ∨ reply ≠ 0 then return ⟨reply, []⟩
      else
        let outVec ← loadWord .shared (response + paramsOutVecOffset) 4
        let count ← loadWord .shared (response + paramsOutLenOffset) 4
        let copied ← copyOutVecs region (region.physToVirt outVec) 0 count
        return ⟨reply, copied⟩

def psaErrorGenericError : Nat := 2 ^ 32 - 132
def psaErrorInvalidArgument : Nat := 2 ^ 32 - 135

/-- How far a call gets: its handle, whether a request buffer is obtained and the request invoked,
and the response, if there is one. -/
structure Exchange where
  handle : Int32
  begun : Bool
  invoked : Bool
  response : Option Nat

def psaCall (outLen : Nat) (exchange : Exchange) : AmpProgram AmpOutcome :=
  if exchange.handle = 0 then return ⟨psaErrorInvalidArgument, []⟩
  else if exchange.begun = false ∨ exchange.invoked = false then return ⟨psaErrorGenericError, []⟩
  else endPsaCall region outLen exchange.response

variable (outLens : List Nat)

/-- What the end of a call may touch. -/
def AmpArea : AmpBuffer → Nat → Prop
  | .shared, position => position < region.size
  | .null, _ => False
  | .outVecs, position => position < outvecSize * outLens.length
  | .output vector, position => position < outLens.getD vector 0

def AmpOutcome.len (outcome : AmpOutcome) (vector : Nat) : Nat :=
  outcome.copied.getD vector (outLens.getD vector 0)

def responseTable (shared : Nat → UInt8) (response : Nat) : AmpBuffer × Nat :=
  region.physToVirt (wordAt shared (response + paramsOutVecOffset) 4)

/-- A buffer holds the payload of an output vector, which is at an offset of the region. -/
def HoldsPayload (shared : Nat → UInt8) (table vector : Nat) (buffer : Nat → UInt8) : Prop :=
  ∀ offset, region.physToVirt (wordAt shared (table + outvecSize * vector + outvecBaseOffset) 4) =
      (.shared, offset) →
    ∀ position < wordAt shared (table + outvecSize * vector + outvecLenOffset) 4,
      buffer position = shared (offset + position)

/-- A call touches only what it may, leaves no length larger, and succeeds only if every output
buffer has the length and the payload of its vector in the response. -/
structure CallConfined (response : Option Nat) (call : AmpProgram AmpOutcome)
    (memory : Memory AmpBuffer) : Prop where
  touches : TouchesOnly (AmpArea region outLens) call memory
  lens : ∀ vector < outLens.length,
    (call memory).value.len outLens vector ≤ outLens.getD vector 0
  filled : (call memory).value.status = 0 → ∀ vector < outLens.length,
    ∃ start ∈ response, vector < wordAt (memory .shared) (start + paramsOutLenOffset) 4 ∧
      ∃ table, responseTable region (memory .shared) start = (.shared, table) ∧
        (call memory).value.len outLens vector =
          wordAt (memory .shared) (table + outvecSize * vector + outvecLenOffset) 4 ∧
        HoldsPayload region (memory .shared) table vector ((call memory).memory (.output vector))

/-- An output vector of the response is in the region with its payload, and fits its buffer. -/
structure VectorFits (shared : Nat → UInt8) (table vector : Nat) : Prop where
  inside : table + outvecSize * vector + outvecSize ≤ region.size
  known : vector < outLens.length
  fits : wordAt shared (table + outvecSize * vector + outvecLenOffset) 4 ≤ outLens.getD vector 0
  payload : wordAt shared (table + outvecSize * vector + outvecLenOffset) 4 = 0 ∨
    ∃ offset, region.physToVirt
        (wordAt shared (table + outvecSize * vector + outvecBaseOffset) 4) = (.shared, offset) ∧
      offset + wordAt shared (table + outvecSize * vector + outvecLenOffset) 4 ≤ region.size

/-- A response with outputs has as many as the call, and each of them fits. -/
structure OutputsFit (shared : Nat → UInt8) (response : Nat) : Prop where
  inside : response + paramsOutLenOffset + 4 ≤ region.size
  count : wordAt shared (response + paramsOutLenOffset) 4 = outLens.length
  table : ∃ offset, responseTable region shared response = (.shared, offset) ∧
    ∀ vector < outLens.length, VectorFits region outLens shared offset vector

def ResponseFits (shared : Nat → UInt8) : Option Nat → Prop
  | none => True
  | some response =>
    response + replyOffset + 4 ≤ region.size ∧
      (outLens.length ≠ 0 → wordAt shared (response + replyOffset) 4 = 0 →
        OutputsFit region outLens shared response)

end

variable {region : PayloadRegion} {outLens : List Nat} {memory : Memory AmpBuffer}
  {shared : Nat → UInt8}

@[simp] theorem store_outVecs_shared (offset : Nat) (bytes : Bytes) :
    (store .outVecs offset bytes memory).memory .shared = memory .shared :=
  store_other AmpBuffer.noConfusion offset bytes

@[simp] theorem store_output_shared (vector offset : Nat) (bytes : Bytes) :
    (store (.output vector) offset bytes memory).memory .shared = memory .shared :=
  store_other AmpBuffer.noConfusion offset bytes

theorem load_payload_iff (source : AmpBuffer × Nat)
    (translated : source.1 = .shared ∨ source.1 = .null) (len : Nat) :
    (∀ position, source.2 ≤ position → position < source.2 + len →
        AmpArea region outLens source.1 position) ↔
      len = 0 ∨ ∃ offset, source = (.shared, offset) ∧ offset + len ≤ region.size := by
  obtain ⟨buffer, start⟩ := source
  rcases translated with isShared | isNull
  · subst isShared
    simp only [AmpArea, below_iff, Prod.mk.injEq, true_and, exists_eq_left']
  · subst isNull
    constructor
    · intro touches
      by_contra beyond
      exact touches start (Nat.le_refl _) (by omega)
    · rintro (empty | ⟨offset, same, _⟩) position lower upper
      · omega
      · cases same

theorem copyOutVecs_touches_iff (translates : region.Translates) (same : memory .shared = shared)
    (table vector count : Nat) :
    TouchesOnly (AmpArea region outLens) (copyOutVecs region (.shared, table) vector count)
        memory ↔
      ∀ other, vector ≤ other → other < vector + count →
        VectorFits region outLens shared table other := by
  induction count generalizing vector memory with
  | zero =>
    refine iff_of_true ((touchesOnly_pure _).mpr trivial) ?_
    intro other from_ below
    omega
  | succ count ih =>
    unfold copyOutVecs
    simp only [touchesOnly_bind, touchesOnly_loadWord, touchesOnly_load, touchesOnly_store,
      touchesOnly_pure, and_true, memory_loadWord, memory_load, loadWord_value, length_load,
      store_outVecs_shared, same, length_leBytes]
    rw [ih (by rw [store_output_shared, store_outVecs_shared, same]),
      load_payload_iff _ (translates _)]
    simp only [AmpArea, below_iff]
    constructor
    · rintro ⟨lenInside, known, _, payload, fits, later⟩ other from_ below
      by_cases first : other = vector
      · subst first
        refine ⟨?_, ?_, by omega, payload⟩
        · clear payload
          unfold outvecLenOffset at lenInside
          unfold outvecSize at lenInside ⊢
          omega
        · clear payload
          unfold outvecLenOffset outvecSize at known
          omega
      · exact later other (by omega) (by omega)
    · intro all
      obtain ⟨inside, known, fits, payload⟩ := all vector (Nat.le_refl _) (by omega)
      unfold outvecSize at inside
      refine ⟨Or.inr ?_, Or.inr ?_, Or.inr ?_, payload, Or.inr (by rwa [Nat.zero_add]), ?_⟩
      · unfold outvecLenOffset outvecSize
        omega
      · unfold outvecLenOffset outvecSize
        omega
      · clear payload
        unfold outvecBaseOffset outvecSize
        omega
      · intro other from_ below
        exact all other (by omega) (by omega)

theorem copyOutVecs_frame (table : AmpBuffer × Nat) {vector other : Nat} (count : Nat)
    (before : other < vector) :
    (copyOutVecs region table vector count memory).memory (.output other) =
      memory (.output other) := by
  induction count generalizing vector memory with
  | zero => rfl
  | succ count ih =>
    unfold copyOutVecs
    simp only [memory_bind, memory_pure, memory_loadWord, memory_load]
    rw [ih (Nat.lt_succ_of_lt before), store_other, store_other AmpBuffer.noConfusion]
    rintro ⟨⟩
    exact Nat.lt_irrefl _ before

/-- Each output buffer holds the payload of its vector in the end. -/
theorem copyOutVecs_holds (same : memory .shared = shared) (table vector count index : Nat)
    (inside : index < count) :
    HoldsPayload region shared table (vector + index)
      ((copyOutVecs region (.shared, table) vector count memory).memory
        (.output (vector + index))) := by
  induction count generalizing vector memory index with
  | zero => omega
  | succ count ih =>
    unfold copyOutVecs
    simp only [memory_bind, memory_pure, memory_loadWord, memory_load, loadWord_value, same]
    cases index with
    | zero =>
      rw [Nat.add_zero]
      intro offset located position below
      rw [copyOutVecs_frame _ count (Nat.lt_succ_self vector)]
      simp [store, load, located, below, same]
    | succ index =>
      rw [show vector + (index + 1) = vector + 1 + index by omega]
      exact ih (by rw [store_output_shared, store_outVecs_shared, same]) _ _ (by omega)

theorem copyOutVecs_lens (same : memory .shared = shared) (table vector count index fallback : Nat)
    (inside : index < count) :
    (copyOutVecs region (.shared, table) vector count memory).value.getD index fallback =
      wordAt shared (table + outvecSize * (vector + index) + outvecLenOffset) 4 := by
  induction count generalizing vector memory index with
  | zero => omega
  | succ count ih =>
    unfold copyOutVecs
    simp only [value_bind, value_pure, memory_loadWord, memory_load, loadWord_value, same]
    cases index with
    | zero => rw [List.getD_cons_zero, Nat.add_zero]
    | succ index =>
      rw [List.getD_cons_succ,
        ih (by rw [store_output_shared, store_outVecs_shared, same]) _ _ (by omega),
        show vector + 1 + index = vector + (index + 1) by omega]

variable {response : Nat}

theorem touchesOnly_loadShared (offset : Nat) :
    TouchesOnly (AmpArea region outLens) (loadWord .shared offset 4) memory ↔
      offset + 4 ≤ region.size := by
  rw [touchesOnly_loadWord]
  simp only [AmpArea, below_iff]
  omega

variable (region) in
theorem endPsaCall_plain
    (plain : outLens.length = 0 ∨ wordAt (memory .shared) (response + replyOffset) 4 ≠ 0) :
    (TouchesOnly (AmpArea region outLens) (endPsaCall region outLens.length (some response))
        memory ↔ response + replyOffset + 4 ≤ region.size) ∧
      (endPsaCall region outLens.length (some response) memory).value =
        ⟨wordAt (memory .shared) (response + replyOffset) 4, []⟩ := by
  unfold endPsaCall
  rw [touchesOnly_bind, touchesOnly_loadShared, value_bind, loadWord_value, if_pos plain,
    touchesOnly_pure, and_true]
  exact ⟨Iff.rfl, rfl⟩

variable (region) in
theorem endPsaCall_outputs
    (outputs : ¬ (outLens.length = 0 ∨ wordAt (memory .shared) (response + replyOffset) 4 ≠ 0)) :
    (TouchesOnly (AmpArea region outLens) (endPsaCall region outLens.length (some response))
        memory ↔
      response + replyOffset + 4 ≤ region.size ∧ response + paramsOutLenOffset + 4 ≤ region.size ∧
        TouchesOnly (AmpArea region outLens)
          (copyOutVecs region (responseTable region (memory .shared) response) 0
            (wordAt (memory .shared) (response + paramsOutLenOffset) 4)) memory) ∧
      (endPsaCall region outLens.length (some response) memory).value =
        ⟨wordAt (memory .shared) (response + replyOffset) 4,
          (copyOutVecs region (responseTable region (memory .shared) response) 0
            (wordAt (memory .shared) (response + paramsOutLenOffset) 4) memory).value⟩ ∧
      (endPsaCall region outLens.length (some response) memory).memory =
        (copyOutVecs region (responseTable region (memory .shared) response) 0
          (wordAt (memory .shared) (response + paramsOutLenOffset) 4) memory).memory := by
  unfold endPsaCall
  rw [touchesOnly_bind, touchesOnly_loadShared, value_bind, memory_bind, loadWord_value,
    if_neg outputs]
  simp only [touchesOnly_bind, touchesOnly_loadShared, touchesOnly_pure, and_true,
    memory_loadWord, loadWord_value]
  refine ⟨?_, rfl, rfl⟩
  constructor
  · rintro ⟨reply, _, len, copies⟩
    exact ⟨reply, len, copies⟩
  · rintro ⟨reply, len, copies⟩
    refine ⟨reply, ?_, len, copies⟩
    unfold paramsOutLenOffset at len
    unfold paramsOutVecOffset
    omega

section

variable (translates : region.Translates)

include translates

theorem outputsFit_of_confined (nonempty : outLens.length ≠ 0)
    (succeeded : wordAt (memory .shared) (response + replyOffset) 4 = 0)
    (confined : CallConfined region outLens (some response)
      (endPsaCall region outLens.length (some response)) memory) :
    OutputsFit region outLens (memory .shared) response := by
  have outputs :
      ¬ (outLens.length = 0 ∨ wordAt (memory .shared) (response + replyOffset) 4 ≠ 0) := by
    rintro (empty | failed)
    · exact nonempty empty
    · exact failed succeeded
  obtain ⟨touchesIff, value, _⟩ := endPsaCall_outputs region outputs
  obtain ⟨_, lenInside, copies⟩ := touchesIff.mp confined.touches
  obtain ⟨_, ⟨⟩, last, offset, isTable, _⟩ :=
    confined.filled (by rw [value]; exact succeeded) (outLens.length - 1) (by omega)
  rw [isTable, copyOutVecs_touches_iff translates rfl, Nat.zero_add] at copies
  refine ⟨lenInside, ?_, offset, isTable, ?_⟩
  · -- a vector behind those of the call would not be one of them
    by_contra different
    have known := (copies outLens.length (Nat.zero_le _) (by omega)).known
    omega
  · intro vector below
    exact copies vector (Nat.zero_le _) (by omega)

theorem confined_of_outputsFit
    (outputs : ¬ (outLens.length = 0 ∨ wordAt (memory .shared) (response + replyOffset) 4 ≠ 0))
    (inside : response + replyOffset + 4 ≤ region.size)
    (fits : OutputsFit region outLens (memory .shared) response) :
    CallConfined region outLens (some response) (endPsaCall region outLens.length (some response))
      memory := by
  obtain ⟨touchesIff, value, final⟩ := endPsaCall_outputs region outputs
  obtain ⟨lenInside, count, offset, isTable, vectors⟩ := fits
  rw [isTable, count] at touchesIff value final
  have len : ∀ vector < outLens.length,
      (endPsaCall region outLens.length (some response) memory).value.len outLens vector =
        wordAt (memory .shared) (offset + outvecSize * vector + outvecLenOffset) 4 := by
    intro vector below
    rw [value, AmpOutcome.len, copyOutVecs_lens rfl offset 0 _ vector _ below, Nat.zero_add]
  refine ⟨touchesIff.mpr ⟨inside, lenInside, ?_⟩, ?_, ?_⟩
  · rw [copyOutVecs_touches_iff translates rfl, Nat.zero_add]
    intro vector _ below
    exact vectors vector below
  · intro vector below
    rw [len vector below]
    exact (vectors vector below).fits
  · intro _ vector below
    have holds : HoldsPayload region (memory .shared) offset (0 + vector) _ :=
      copyOutVecs_holds rfl offset 0 outLens.length vector below
    rw [Nat.zero_add, ← final] at holds
    exact ⟨response, rfl, count.symm ▸ below, offset, isTable, len vector below, holds⟩

omit translates in
theorem callConfined_failed {status : Nat} (failed : status ≠ 0) (response : Option Nat) :
    CallConfined region outLens response (pure ⟨status, []⟩) memory := by
  refine ⟨(touchesOnly_pure _).mpr trivial, ?_, ?_⟩
  · intro vector _
    exact Nat.le_refl _
  · intro succeeded
    exact absurd succeeded failed

theorem endPsaCall_confined_iff (response : Option Nat) :
    CallConfined region outLens response (endPsaCall region outLens.length response) memory ↔
      ResponseFits region outLens (memory .shared) response := by
  cases response with
  | none =>
    exact iff_of_true
      (callConfined_failed (show psaErrorCommunicationFailure ≠ 0 by decide) none) trivial
  | some response =>
    by_cases plain : outLens.length = 0 ∨ wordAt (memory .shared) (response + replyOffset) 4 ≠ 0
    · obtain ⟨touchesIff, value⟩ := endPsaCall_plain region plain
      constructor
      · intro confined
        refine ⟨touchesIff.mp confined.touches, fun nonempty succeeded => ?_⟩
        exact absurd succeeded (plain.resolve_left nonempty)
      · rintro ⟨inside, _⟩
        refine ⟨touchesIff.mpr inside, ?_, ?_⟩
        · intro vector _
          rw [value]
          exact Nat.le_refl _
        · intro succeeded vector below
          rw [value] at succeeded
          rcases plain with empty | failed
          · omega
          · exact absurd succeeded failed
    · have nonempty : outLens.length ≠ 0 := fun empty => plain (Or.inl empty)
      have succeeded : wordAt (memory .shared) (response + replyOffset) 4 = 0 := by
        by_contra failed
        exact plain (Or.inr failed)
      constructor
      · intro confined
        have outputs := outputsFit_of_confined translates nonempty succeeded confined
        exact ⟨((endPsaCall_outputs region plain).1.mp confined.touches).1, fun _ _ => outputs⟩
      · rintro ⟨inside, outputs⟩
        exact confined_of_outputsFit translates plain inside (outputs nonempty succeeded)

end

/-- A call is confined exactly if the response that it gets fits it. -/
theorem openampCall_confined_iff (region : PayloadRegion) (translates : region.Translates)
    (outLens : List Nat) (exchange : Exchange) (memory : Memory AmpBuffer) :
    CallConfined region outLens exchange.response (psaCall region outLens.length exchange) memory ↔
      (exchange.handle ≠ 0 → exchange.begun = true → exchange.invoked = true →
        ResponseFits region outLens (memory .shared) exchange.response) := by
  unfold psaCall
  by_cases noHandle : exchange.handle = 0
  · rw [if_pos noHandle]
    exact iff_of_true (callConfined_failed (show psaErrorInvalidArgument ≠ 0 by decide) _)
      fun handle => absurd noHandle handle
  rw [if_neg noHandle]
  by_cases unanswered : exchange.begun = false ∨ exchange.invoked = false
  · rw [if_pos unanswered]
    refine iff_of_true (callConfined_failed (show psaErrorGenericError ≠ 0 by decide) _) ?_
    intro _ begun invoked
    rw [begun, invoked] at unanswered
    simp only [Bool.true_eq_false, or_self] at unanswered
  · rw [if_neg unanswered, endPsaCall_confined_iff translates]
    rw [not_or, Bool.not_eq_false, Bool.not_eq_false] at unanswered
    exact ⟨fun fits _ _ _ => fits, fun fits => fits noHandle unanswered.1 unanswered.2⟩

/-- A region of 64 bytes at address 0. -/
def lowRegion : PayloadRegion := ⟨64, fun addr => if addr < 64 then (.shared, addr) else (.null, 0)⟩

/-- A response at the start of the region that claims success for one output vector, which is at
offset 16 and of a given length. -/
def outputResponse (length : UInt8) : Memory AmpBuffer := fun buffer position =>
  if buffer = .shared then
    [0, 0, 0, 0, 0, 0, 0, 0, 16, 0, 0, 0, 1, 0, 0, 0, 24, 0, 0, 0, length, 0, 0, 0].getD position 0
  else 0

theorem openampCall_confined_fourBytes :
    lowRegion.Translates ∧
      CallConfined lowRegion [4] (some 0) (psaCall lowRegion 1 ⟨1, true, true, some 0⟩)
        (outputResponse 4) := by
  have translates : lowRegion.Translates := fun addr => by
    unfold lowRegion
    dsimp only
    split
    · exact .inl rfl
    · exact .inr rfl
  refine ⟨translates, (openampCall_confined_iff lowRegion translates [4] ⟨1, true, true, some 0⟩
    _).mpr fun _ _ _ => ⟨by decide, fun _ _ => ⟨by decide, by decide, 16, by decide, ?_⟩⟩⟩
  intro vector below
  obtain rfl : vector = 0 := Nat.lt_one_iff.mp below
  exact ⟨by decide, by decide, by decide, .inr ⟨24, by decide, by decide⟩⟩

/-- 32 bytes are written to an output buffer of four. -/
theorem longOutput_overruns :
    let outLens := [4]
    let ended := psaCall lowRegion outLens.length ⟨1, true, true, some 0⟩ (outputResponse 32)
    ⟨.output 0, 0, 32⟩ ∈ ended.accesses ∧ ended.value = ⟨0, [32]⟩ ∧ outLens.getD 0 0 < 32 := by
  decide +kernel

end PsaComms.Openamp

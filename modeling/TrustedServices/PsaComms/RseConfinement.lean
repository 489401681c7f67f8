import TrustedServices.PsaComms.RseReply

/- Decoding is confined exactly if the reply fits the request that it answers. -/
namespace PsaComms

open Lib Accessing

variable {request : RseRequest} {replySize : Nat} {reply : Nat → UInt8} {memory : Memory RseBuffer}

theorem embedOffset_le {first second : Nat} (order : first ≤ second) :
    embedOffset reply first ≤ embedOffset reply second := by
  induction order with
  | refl => exact Nat.le_refl _
  | step _ ih => exact Nat.le_trans ih (Nat.le_add_right _ _)

theorem EmbedDecoded.of_le {first second : Nat} (order : first ≤ second)
    (decoded : EmbedDecoded replySize reply second) : EmbedDecoded replySize reply first := by
  have ordered := @embedOffset_le reply _ _ order
  unfold EmbedDecoded at decoded ⊢
  omega

section

variable {len vector : Nat} {rest : List Nat} (isRest : request.outLens.drop vector = len :: rest)

include isRest

theorem lt_length_of_drop_cons : vector < request.outLens.length := by
  by_contra beyond
  rw [List.drop_eq_nil_iff.mpr (by omega)] at isRest
  cases isRest

theorem drop_succ_of_drop_cons : request.outLens.drop (vector + 1) = rest := by
  rw [← List.tail_drop, isRest, List.tail_cons]

theorem outLen_of_drop_cons : request.outLen vector = len := by
  have head := congrArg (fun list => list.getD 0 0) isRest
  simpa only [RseRequest.outLen, List.getD_eq_getElem?_getD, List.getElem?_drop, Nat.add_zero,
    List.getElem?_cons_zero, Option.getD_some] using head

end

theorem embedRound_touches_iff {vector : Nat} :
    ((headerSize + 4 + 2 * vector + 2 ≤ replySize) ∧
      (embedOutSize reply vector = 0 ∨
        headerSize + embedReplySize + embedOffset reply vector + embedOutSize reply vector ≤
          replySize) ∧
      (embedOutSize reply vector = 0 ∨ 0 + embedOutSize reply vector ≤ request.outLen vector)) ↔
      EmbedVectorFits request replySize reply vector := by
  constructor
  · rintro ⟨sizeInside, inside, fits⟩
    exact ⟨sizeInside, by omega, inside⟩
  · rintro ⟨sizeInside, fits, inside⟩
    exact ⟨sizeInside, inside, by omega⟩

section

variable (same : memory .reply = reply) {rest : List Nat} {vector : Nat}
  (isRest : request.outLens.drop vector = rest)

include same isRest

theorem embedCopy_touches_iff : TouchesOnly (RseArea request replySize)
        (embedCopy replySize vector (embedOffset reply vector) rest) memory ↔
      ∀ other, vector ≤ other → other < request.outLens.length →
        EmbedDecoded replySize reply other → EmbedVectorFits request replySize reply other := by
  induction rest generalizing vector memory with
  | nil =>
    have short := List.drop_eq_nil_iff.mp isRest
    refine iff_of_true ((touchesOnly_pure _).mpr trivial) ?_
    intro other from_ below
    omega
  | cons len rest ih =>
    have inside := lt_length_of_drop_cons isRest
    unfold embedCopy
    split
    case isTrue beyond =>
      refine iff_of_true ((touchesOnly_pure _).mpr trivial) ?_
      intro other from_ _ decoded
      have first := decoded.of_le from_
      unfold EmbedDecoded at first
      omega
    case isFalse decoded =>
      simp only [touchesOnly_bind, touchesOnly_loadWord, touchesOnly_load, touchesOnly_store,
        touchesOnly_pure, and_true, memory_loadWord, memory_load, loadWord_value, length_load,
        RseArea, below_iff, same]
      change (2 = 0 ∨ headerSize + 4 + 2 * vector + 2 ≤ replySize) ∧ (_ ∨ _) ∧ (_ ∨ _) ∧
        TouchesOnly _ (embedCopy replySize (vector + 1) (embedOffset reply (vector + 1)) rest) _ ↔
        _
      rw [ih (by rw [store_other RseBuffer.noConfusion, same]) (drop_succ_of_drop_cons isRest)]
      constructor
      · rintro ⟨sizeInside, inReply, fits, later⟩ other from_ below otherDecoded
        by_cases first : other = vector
        · subst first
          exact embedRound_touches_iff.mp ⟨sizeInside.resolve_left (by decide), inReply, fits⟩
        · exact later other (by omega) below otherDecoded
      · intro all
        have first := embedRound_touches_iff.mpr
          (all vector (Nat.le_refl _) inside (by unfold EmbedDecoded; omega))
        refine ⟨Or.inr first.1, first.2.1, first.2.2, ?_⟩
        intro other from_ below otherDecoded
        exact all other (by omega) below otherDecoded

/-- The loop goes to its end exactly if every output vector is decoded. -/
theorem embedCopy_done_iff :
    (embedCopy replySize vector (embedOffset reply vector) rest memory).value.1 = true ↔
      ∀ other, vector ≤ other → other < request.outLens.length →
        EmbedDecoded replySize reply other := by
  induction rest generalizing vector memory with
  | nil =>
    have short := List.drop_eq_nil_iff.mp isRest
    refine iff_of_true rfl ?_
    intro other from_ below
    omega
  | cons len rest ih =>
    have inside := lt_length_of_drop_cons isRest
    unfold embedCopy
    split
    case isTrue beyond =>
      refine iff_of_false Bool.false_ne_true ?_
      intro all
      have first := all vector (Nat.le_refl _) inside
      unfold EmbedDecoded at first
      omega
    case isFalse decoded =>
      simp only [value_bind, value_pure, memory_loadWord, memory_load, loadWord_value, same]
      change (embedCopy replySize (vector + 1) (embedOffset reply (vector + 1)) rest
        _).value.1 = true ↔ _
      rw [ih (by rw [store_other RseBuffer.noConfusion, same]) (drop_succ_of_drop_cons isRest)]
      constructor
      · intro later other from_ below
        by_cases first : other = vector
        · subst first
          unfold EmbedDecoded
          omega
        · exact later other (by omega) below
      · intro all other from_ below
        exact all other (by omega) below

/-- The lengths that the loop leaves are not larger than before if all that is decoded fits. -/
theorem embedCopy_lens (fits : ∀ other, vector ≤ other → other < request.outLens.length →
      EmbedDecoded replySize reply other → EmbedVectorFits request replySize reply other)
    (index : Nat) :
    (embedCopy replySize vector (embedOffset reply vector) rest memory).value.2.getD index 0 ≤
      rest.getD index 0 := by
  induction rest generalizing vector memory index with
  | nil => exact Nat.le_refl _
  | cons len rest ih =>
    have inside := lt_length_of_drop_cons isRest
    unfold embedCopy
    split
    case isTrue beyond => exact Nat.le_refl _
    case isFalse decoded =>
      simp only [value_bind, value_pure, memory_loadWord, memory_load, loadWord_value, same]
      cases index with
      | zero =>
        have vectorFits := fits vector (Nat.le_refl _) inside (by unfold EmbedDecoded; omega)
        have bound := vectorFits.fits
        rw [outLen_of_drop_cons isRest] at bound
        exact bound
      | succ index =>
        exact ih (by rw [store_other RseBuffer.noConfusion, same]) (drop_succ_of_drop_cons isRest)
          (fun other from_ => fits other (by omega)) index

end

theorem embedDeserializeReply_touches_iff (same : memory .reply = reply) :
    TouchesOnly (RseArea request replySize)
        (rseProtocolEmbedDeserializeReply request.outLens replySize) memory ↔
      EmbedFits request replySize reply := by
  unfold rseProtocolEmbedDeserializeReply
  have copy := @embedCopy_touches_iff request replySize reply memory same _ 0 rfl
  have done := @embedCopy_done_iff request replySize reply memory same _ 0 rfl
  simp only [embedOffset, List.drop_zero] at copy done
  rw [touchesOnly_bind, copy]
  split
  case isTrue ended =>
    simp only [loadReturnVal, touchesOnly_bind, touchesOnly_loadWord, touchesOnly_pure, and_true,
      RseArea, below_iff]
    rw [done] at ended
    constructor
    · rintro ⟨vectors, returnVal⟩
      exact ⟨fun vector => vectors vector (Nat.zero_le _),
        fun _ => returnVal.resolve_left (by decide)⟩
    · rintro ⟨vectors, returnVal⟩
      exact ⟨fun vector _ => vectors vector,
        Or.inr (returnVal fun vector => ended vector (Nat.zero_le _))⟩
  case isFalse stopped =>
    rw [touchesOnly_pure, and_true]
    constructor
    · intro vectors
      refine ⟨fun vector => vectors vector (Nat.zero_le _), fun all => ?_⟩
      exact absurd (done.mpr fun vector _ => all vector) stopped
    · rintro ⟨vectors, _⟩ vector _
      exact vectors vector

theorem embedDeserializeReply_lens (same : memory .reply = reply)
    (fits : EmbedFits request replySize reply) (vector : Nat) :
    (rseProtocolEmbedDeserializeReply request.outLens replySize memory).value.lens.getD vector 0 ≤
      request.outLen vector := by
  have lens := @embedCopy_lens request replySize reply memory same _ 0 rfl
    (fun other _ => fits.vectors other) vector
  unfold rseProtocolEmbedDeserializeReply
  rw [value_bind]
  split
  · exact lens
  · exact lens

theorem embedDeserializeReply_protocol :
    (rseProtocolEmbedDeserializeReply request.outLens replySize memory).value.protocol =
      some .embed := by
  unfold rseProtocolEmbedDeserializeReply
  rw [value_bind]
  split
  · rfl
  · rfl

variable {carveoutSize : Nat}

@[simp] theorem memory_loadOutSize (vector : Nat) :
    (loadOutSize vector memory).memory = memory := rfl

theorem sumOutSizes_memory (vector count : Nat) :
    (sumOutSizes vector count memory).memory = memory := by
  induction count generalizing vector with
  | zero => rfl
  | succ count ih =>
    unfold sumOutSizes
    simp only [memory_bind, memory_pure, memory_loadOutSize, ih]

theorem sumOutSizes_value (same : memory .reply = reply) (vector count : Nat) :
    (sumOutSizes vector count memory).value = outSizes reply vector count := by
  induction count generalizing vector with
  | zero => rfl
  | succ count ih =>
    unfold sumOutSizes outSizes outSize
    simp only [value_bind, value_pure, memory_loadOutSize, ih]
    rw [← same]
    rfl

theorem touchesOnly_loadOutSize (vector : Nat) :
    TouchesOnly (RseArea request replySize) (loadOutSize vector) memory ↔
      headerSize + 4 + 4 * vector + 4 ≤ replySize := by
  unfold loadOutSize
  rw [touchesOnly_loadWord]
  simp only [RseArea, below_iff]
  omega

theorem sumOutSizes_touches_iff (vector count : Nat) :
    TouchesOnly (RseArea request replySize) (sumOutSizes vector count) memory ↔
      (count ≠ 0 → headerSize + 4 + 4 * (vector + count) ≤ replySize) := by
  induction count generalizing vector with
  | zero => exact iff_of_true ((touchesOnly_pure _).mpr trivial) (fun absent => absurd rfl absent)
  | succ count ih =>
    unfold sumOutSizes
    rw [touchesOnly_bind, touchesOnly_loadOutSize, memory_loadOutSize, touchesOnly_bind, ih,
      touchesOnly_pure, and_true]
    constructor
    · rintro ⟨own, others⟩ _
      by_cases last : count = 0
      · omega
      · omega
    · intro inside
      exact ⟨by omega, fun _ => by omega⟩

variable {msg : PointerAccessMsg}

/-- The copies are confined exactly if the sizes fit, given that they can be read. -/
theorem pointerAccessCopy_touches_iff (same : memory .reply = reply)
    (offsets : msg.outOffset = request.outOffset) (vector count : Nat) :
    TouchesOnly (RseArea request replySize) (pointerAccessCopy msg vector count) memory ↔
      (count ≠ 0 → headerSize + 4 + 4 * (vector + count) ≤ replySize) ∧
        ∀ other, vector ≤ other → other < vector + count →
          outSize reply other ≤ request.outLen other := by
  induction count generalizing vector memory with
  | zero =>
    refine iff_of_true ((touchesOnly_pure _).mpr trivial) ⟨fun absent => absurd rfl absent, ?_⟩
    intro other from_ below
    omega
  | succ count ih =>
    have size : (loadOutSize vector memory).value = outSize reply vector := by
      rw [← same]
      rfl
    unfold pointerAccessCopy
    simp only [touchesOnly_bind, touchesOnly_loadOutSize, memory_loadOutSize, touchesOnly_load,
      memory_load, touchesOnly_store, length_load, touchesOnly_pure, and_true, size, offsets]
    rw [ih (by rw [store_other RseBuffer.noConfusion, same])]
    simp only [RseArea, below_iff]
    constructor
    · rintro ⟨own, _, fits, others, later⟩
      refine ⟨fun _ => ?_, ?_⟩
      · by_cases last : count = 0
        · omega
        · omega
      · intro other from_ below
        by_cases first : other = vector
        · subst first
          omega
        · exact later other (by omega) (by omega)
    · rintro ⟨inside, all⟩
      have first := all vector (Nat.le_refl _) (by omega)
      refine ⟨by omega, fun position lower upper => ⟨lower, by omega⟩, by omega,
        fun _ => by omega, ?_⟩
      intro other from_ below
      exact all other (by omega) (by omega)

theorem pointerAccessCopy_lens (same : memory .reply = reply) (vector count index : Nat) :
    (pointerAccessCopy msg vector count memory).value.getD index 0 =
      if index < count then outSize reply (vector + index) else 0 := by
  induction count generalizing vector memory index with
  | zero => rfl
  | succ count ih =>
    unfold pointerAccessCopy
    simp only [value_bind, value_pure, memory_loadOutSize, memory_load]
    cases index with
    | zero =>
      rw [if_pos (by omega), ← same]
      rfl
    | succ index =>
      rw [List.getD_cons_succ, ih (by rw [store_other RseBuffer.noConfusion, same]),
        Nat.add_right_comm, Nat.add_assoc]
      simp only [Nat.add_lt_add_iff_right]

variable {foreign : PointerAccessMsg}

theorem pointerAccessDeserializeReply_touches_iff (same : memory .reply = reply)
    (isPointerAccess : request.protocol = .pointerAccess) :
    TouchesOnly (RseArea request replySize)
        (rseProtocolPointerAccessDeserializeReply (request.pointerAccessMsg foreign) carveoutSize
          request.outLens) memory ↔
      PointerAccessFits request replySize reply carveoutSize := by
  have msg : request.pointerAccessMsg foreign = ⟨request.inLens.sum, request.outOffset⟩ := by
    unfold RseRequest.pointerAccessMsg
    rw [isPointerAccess]
  have returnVal : (loadReturnVal memory).value = wordAt reply headerSize 4 := by
    rw [← same]
    rfl
  unfold rseProtocolPointerAccessDeserializeReply
  rw [msg, touchesOnly_bind, sumOutSizes_touches_iff, sumOutSizes_memory, sumOutSizes_value same]
  dsimp only
  split
  case isTrue beyond =>
    rw [touchesOnly_pure, and_true]
    constructor
    · intro sizes
      exact ⟨by simpa only [Nat.zero_add] using sizes, fun small => by omega, fun small => by omega⟩
    · intro fits
      simpa only [Nat.zero_add] using fits.sizes
  case isFalse within =>
    have header : TouchesOnly (RseArea request replySize) loadReturnVal memory ↔
        headerSize + 4 ≤ replySize := by
      simp only [loadReturnVal, touchesOnly_loadWord, RseArea, below_iff]
      omega
    rw [touchesOnly_bind, header, returnVal]
    split
    case isTrue succeeded =>
      rw [touchesOnly_bind, pointerAccessCopy_touches_iff (by exact same) rfl, touchesOnly_pure,
        and_true, Nat.zero_add]
      constructor
      · rintro ⟨sizes, headerInside, _, fits⟩
        exact ⟨sizes, fun _ => headerInside, fun _ _ vector => fits vector (Nat.zero_le _)⟩
      · rintro ⟨sizes, headerInside, fits⟩
        exact ⟨sizes, headerInside (by omega), sizes,
          fun vector _ => fits (by omega) succeeded vector⟩
    case isFalse failed =>
      rw [touchesOnly_pure, and_true, Nat.zero_add]
      constructor
      · rintro ⟨sizes, headerInside⟩
        exact ⟨sizes, fun _ => headerInside, fun _ succeeded => absurd succeeded failed⟩
      · rintro ⟨sizes, headerInside, _⟩
        exact ⟨sizes, headerInside (by omega)⟩

theorem pointerAccessDeserializeReply_lens (same : memory .reply = reply)
    (inSize : msg.inSize = request.inLens.sum)
    (fits : PointerAccessFits request replySize reply carveoutSize) (vector : Nat) :
    (rseProtocolPointerAccessDeserializeReply msg carveoutSize request.outLens
      memory).value.lens.getD vector 0 ≤ request.outLen vector := by
  unfold rseProtocolPointerAccessDeserializeReply
  rw [value_bind, sumOutSizes_memory, sumOutSizes_value same, inSize]
  split
  case isTrue beyond => exact Nat.le_refl _
  case isFalse within =>
    rw [value_bind]
    split
    case isTrue succeeded =>
      change (pointerAccessCopy msg 0 request.outLens.length memory).value.getD vector 0 ≤ _
      rw [pointerAccessCopy_lens same, Nat.zero_add]
      split
      case isTrue inside =>
        refine fits.fits (by omega) ?_ vector inside
        rw [← same]
        exact succeeded
      case isFalse => exact Nat.zero_le _
    case isFalse failed => exact Nat.le_refl _

theorem pointerAccessDeserializeReply_protocol (msg : PointerAccessMsg) :
    (rseProtocolPointerAccessDeserializeReply msg carveoutSize request.outLens
      memory).value.protocol = some .pointerAccess := by
  unfold rseProtocolPointerAccessDeserializeReply
  rw [value_bind]
  split
  · rfl
  · rw [value_bind]
    split
    · rfl
    · rfl

theorem deserializeReply_touches_iff :
    TouchesOnly (RseArea request replySize)
        (rseProtocolDeserializeReply request foreign carveoutSize replySize) memory ↔
      1 ≤ replySize ∧ TouchesOnly (RseArea request replySize)
        (if wordAt (memory .reply) 0 1 = 0 then
          rseProtocolEmbedDeserializeReply request.outLens replySize
        else if wordAt (memory .reply) 0 1 = 1 then
          rseProtocolPointerAccessDeserializeReply (request.pointerAccessMsg foreign) carveoutSize
            request.outLens
        else return ⟨psaErrorNotSupported, none, request.outLens, none⟩) memory := by
  unfold rseProtocolDeserializeReply
  rw [touchesOnly_bind, touchesOnly_loadWord]
  simp only [RseArea, below_iff]
  constructor
  · rintro ⟨header, rest⟩
    exact ⟨by omega, rest⟩
  · rintro ⟨header, rest⟩
    exact ⟨by omega, rest⟩

theorem deserializeReply_embed (version : wordAt (memory .reply) 0 1 = 0) :
    (rseProtocolDeserializeReply request foreign carveoutSize replySize memory).value =
      (rseProtocolEmbedDeserializeReply request.outLens replySize memory).value := by
  unfold rseProtocolDeserializeReply
  rw [value_bind, loadWord_value, if_pos version]
  rfl

theorem deserializeReply_pointerAccess (version : wordAt (memory .reply) 0 1 = 1) :
    (rseProtocolDeserializeReply request foreign carveoutSize replySize memory).value =
      (rseProtocolPointerAccessDeserializeReply (request.pointerAccessMsg foreign) carveoutSize
        request.outLens memory).value := by
  unfold rseProtocolDeserializeReply
  rw [value_bind, loadWord_value, if_neg (by omega), if_pos version]
  rfl

/-- Decoding a reply is confined exactly if the reply fits the request. -/
theorem rseReply_confined_iff (request : RseRequest) (foreign : PointerAccessMsg)
    (carveoutSize replySize : Nat) (memory : Memory RseBuffer) :
    ReplyConfined request replySize foreign carveoutSize memory ↔
      ReplyFits request replySize (memory .reply) carveoutSize := by
  constructor
  · rintro ⟨touches, lens, protocol⟩
    obtain ⟨header, touches⟩ := deserializeReply_touches_iff.mp touches
    refine ⟨header, ?_, ?_⟩
    · intro version
      rw [deserializeReply_embed version, embedDeserializeReply_protocol] at protocol
      rw [if_pos version] at touches
      exact ⟨(protocol _ rfl).symm, (embedDeserializeReply_touches_iff rfl).mp touches⟩
    · intro version
      rw [deserializeReply_pointerAccess version, pointerAccessDeserializeReply_protocol]
        at protocol
      rw [if_neg (by omega), if_pos version] at touches
      have isPointerAccess := (protocol _ rfl).symm
      exact ⟨isPointerAccess,
        (pointerAccessDeserializeReply_touches_iff rfl isPointerAccess).mp touches⟩
  · rintro ⟨header, embed, pointerAccess⟩
    by_cases version : wordAt (memory .reply) 0 1 = 0
    · obtain ⟨isEmbed, fits⟩ := embed version
      refine ⟨?_, ?_, ?_⟩
      · rw [deserializeReply_touches_iff, if_pos version]
        exact ⟨header, (embedDeserializeReply_touches_iff rfl).mpr fits⟩
      · intro vector
        rw [deserializeReply_embed version]
        exact embedDeserializeReply_lens rfl fits vector
      · intro used isUsed
        rw [deserializeReply_embed version, embedDeserializeReply_protocol] at isUsed
        rw [isEmbed]
        exact (Option.some.inj isUsed).symm
    by_cases otherVersion : wordAt (memory .reply) 0 1 = 1
    · obtain ⟨isPointerAccess, fits⟩ := pointerAccess otherVersion
      have inSize : (request.pointerAccessMsg foreign).inSize = request.inLens.sum := by
        unfold RseRequest.pointerAccessMsg
        rw [isPointerAccess]
      refine ⟨?_, ?_, ?_⟩
      · rw [deserializeReply_touches_iff, if_neg version, if_pos otherVersion]
        exact ⟨header, (pointerAccessDeserializeReply_touches_iff rfl isPointerAccess).mpr fits⟩
      · intro vector
        rw [deserializeReply_pointerAccess otherVersion]
        exact pointerAccessDeserializeReply_lens rfl inSize fits vector
      · intro used isUsed
        rw [deserializeReply_pointerAccess otherVersion, pointerAccessDeserializeReply_protocol]
          at isUsed
        rw [isPointerAccess]
        exact (Option.some.inj isUsed).symm
    · have unknown : (rseProtocolDeserializeReply request foreign carveoutSize replySize
          memory).value = ⟨psaErrorNotSupported, none, request.outLens, none⟩ := by
        unfold rseProtocolDeserializeReply
        rw [value_bind, loadWord_value, if_neg version, if_neg otherVersion]
        rfl
      refine ⟨?_, ?_, ?_⟩
      · rw [deserializeReply_touches_iff, if_neg version, if_neg otherVersion]
        exact ⟨header, (touchesOnly_pure _).mpr trivial⟩
      · intro vector
        rw [unknown]
        exact Nat.le_refl _
      · intro used isUsed
        rw [unknown] at isUsed
        cases isUsed

def fourByteRequest : RseRequest := ⟨[], [4], by decide⟩

/-- An embedded reply that declares 64 bytes of output. -/
def sixtyFourByteReply : Memory RseBuffer := fun buffer position =>
  if buffer = .reply ∧ position = 8 then 64 else 0

/-- A reply of 16 bytes makes the decoder read 64 bytes behind it and write 64 bytes to a buffer of
four. -/
theorem declaredSize_overruns :
    let decoding := rseProtocolDeserializeReply fourByteRequest ⟨0, fun _ => 0⟩ 0 16
      sixtyFourByteReply
    ⟨.reply, 16, 64⟩ ∈ decoding.accesses ∧ ⟨.output 0, 0, 64⟩ ∈ decoding.accesses ∧
      decoding.value.lens = [64] := by
  decide +kernel

end PsaComms

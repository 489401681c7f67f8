import TrustedServices.Rpmb.EmulatedDevice

/- Data frames in memory, and what the emulated device answers to them as values. -/
namespace Rpmb

open Lib

section

namespace DataFrame

variable (frame : DataFrame) (memory : Memory) {start address i : Nat}

theorem load_byte {width offset : Nat} (inside : offset < width) :
    (Field.load memory start width).byte offset = memory (start + offset) := by
  unfold Field.byte
  rw [dif_pos inside]
  rfl

theorem byte_load (inside : i < frameSize) : (load memory start).byte i = memory (start + i) := by
  have bound : i < 512 := inside
  have at_offset (base width : Nat) (above : base ≤ i) (below : i - base < width) :
      (Field.load memory (start + base) width).byte (i - base) = memory (start + i) := by
    rw [load_byte memory below, Nat.add_assoc, Nat.add_sub_cancel' above]
  unfold byte
  split
  · exact load_byte memory ‹_›
  split
  · exact at_offset 196 32 (by omega) (by omega)
  split
  · exact at_offset 228 256 (by omega) (by omega)
  split
  · exact at_offset 484 16 (by omega) (by omega)
  split
  · exact at_offset 500 4 (by omega) (by omega)
  split
  · exact at_offset 504 2 (by omega) (by omega)
  split
  · exact at_offset 506 2 (by omega) (by omega)
  split
  · exact at_offset 508 2 (by omega) (by omega)
  · exact at_offset 510 2 (by omega) (by omega)

theorem load_eq (holds : ∀ i < frameSize, memory (start + i) = frame.byte i) :
    load memory start = frame := by
  have field {width : Nat} (base : Nat) (part : Field width) (fits : base + width ≤ 512)
      (part_byte : ∀ i < width, frame.byte (base + i) = part.byte i) :
      Field.load memory (start + base) width = part := by
    funext i
    show memory (start + base + i) = part i
    rw [Nat.add_assoc, holds (base + i) (by unfold frameSize; omega), part_byte i i.isLt,
      Field.byte_val]
  cases frame with
  | mk stuffBytes keyMac data nonce writeCounter address blockCount opResult msgType =>
    unfold load
    congr
    · exact field 0 stuffBytes (by omega) fun i inside => by grind [byte]
    · exact field 196 keyMac (by omega) fun i inside => by grind [byte]
    · exact field 228 data (by omega) fun i inside => by grind [byte]
    · exact field 484 nonce (by omega) fun i inside => by grind [byte]
    · exact field 500 writeCounter (by omega) fun i inside => by grind [byte]
    · exact field 504 address (by omega) fun i inside => by grind [byte]
    · exact field 506 blockCount (by omega) fun i inside => by grind [byte]
    · exact field 508 opResult (by omega) fun i inside => by grind [byte]
    · exact field 510 msgType (by omega) fun i inside => by grind [byte]

theorem store_outside (outside : address < start ∨ start + frameSize ≤ address) :
    store memory start frame address = memory address :=
  if_neg (by omega)

theorem store_inside (above : start ≤ address) (below : address < start + frameSize) :
    store memory start frame address = frame.byte (address - start) :=
  if_pos ⟨above, below⟩

theorem load_store : load (store memory start frame) start = frame := by
  apply load_eq
  intro i inside
  rw [store_inside frame memory (Nat.le_add_right _ _) (by omega), Nat.add_sub_cancel_left]

theorem load_congr {later : Memory}
    (same : ∀ i < frameSize, memory (start + i) = later (start + i)) :
    load memory start = load later start := by
  apply load_eq
  intro i inside
  rw [same i inside, byte_load later inside]

def setMac (mac : Field 32) : DataFrame := { frame with keyMac := mac }

theorem byte_setMac (mac : Field 32) (i : Nat) :
    (frame.setMac mac).byte i =
      if 196 ≤ i ∧ i < 228 then mac.byte (i - 196) else frame.byte i := by
  by_cases inMac : 196 ≤ i ∧ i < 228
  · rw [if_pos inMac]
    unfold byte setMac
    rw [if_neg (by omega), if_pos inMac.2]
  · rw [if_neg inMac]
    unfold byte setMac
    by_cases before : i < 196
    · rw [if_pos before, if_pos before]
    · have behind : ¬ i < 228 := by omega
      simp only [if_neg before, if_neg behind]

end DataFrame

def storeAll (memory : Memory) (start : Nat) (frames : List DataFrame) : Memory :=
  fun address =>
    if start ≤ address then
      match frames[(address - start) / frameSize]? with
      | some frame => frame.byte ((address - start) % frameSize)
      | none => memory address
    else memory address

def loadAll (memory : Memory) (start count : Nat) : List DataFrame :=
  (List.range count).map fun i => DataFrame.load memory (start + frameSize * i)

variable {memory later : Memory} {start address count i : Nat} {frames more : List DataFrame}

theorem storeAll_outside (outside : address < start ∨ start + frameSize * frames.length ≤ address) :
    storeAll memory start frames address = memory address := by
  unfold storeAll frameSize at *
  split
  · rw [List.getElem?_eq_none (by omega)]
  · rfl

theorem storeAll_inside {offset : Nat} (present : i < frames.length) (inside : offset < frameSize) :
    storeAll memory start frames (start + frameSize * i + offset) = frames[i].byte offset := by
  unfold storeAll frameSize at *
  rw [if_pos (by omega), show (start + 512 * i + offset - start) / 512 = i by omega,
    show (start + 512 * i + offset - start) % 512 = offset by omega,
    List.getElem?_eq_getElem present]

@[simp] theorem storeAll_nil : storeAll memory start [] = memory := by
  funext address
  apply storeAll_outside
  rw [List.length_nil]
  omega

theorem address_cases (start address length : Nat) :
    (address < start ∨ start + frameSize * length ≤ address) ∨
      ∃ i offset, i < length ∧ offset < frameSize ∧ address = start + frameSize * i + offset := by
  unfold frameSize
  by_cases inside : start ≤ address ∧ address < start + 512 * length
  · right
    exact ⟨(address - start) / 512, (address - start) % 512, by omega, by omega, by omega⟩
  · left
    omega

theorem storeAll_append :
    storeAll (storeAll memory start frames) (start + frameSize * frames.length) more =
      storeAll memory start (frames ++ more) := by
  funext address
  obtain outside | ⟨i, offset, present, inside, rfl⟩ :=
    address_cases start address (frames ++ more).length
  · rw [storeAll_outside outside]
    rw [List.length_append] at outside
    unfold frameSize at outside
    rw [storeAll_outside (by unfold frameSize; omega), storeAll_outside (by unfold frameSize; omega)]
  · rw [storeAll_inside present inside]
    by_cases first : i < frames.length
    · rw [List.getElem_append_left first, storeAll_outside (by unfold frameSize at *; omega),
        storeAll_inside first inside]
    · rw [List.length_append] at present
      rw [List.getElem_append_right (Nat.le_of_not_lt first),
        show start + frameSize * i + offset =
          start + frameSize * frames.length + frameSize * (i - frames.length) + offset by
            unfold frameSize
            omega,
        storeAll_inside (by omega) inside]

theorem storeAll_concat (frame : DataFrame) :
    storeAll memory start (frames ++ [frame]) =
      DataFrame.store (storeAll memory start frames) (start + frameSize * frames.length)
        frame := by
  rw [← storeAll_append]
  funext address
  obtain outside | ⟨i, offset, present, inside, rfl⟩ :=
    address_cases (start + frameSize * frames.length) address [frame].length
  · rw [storeAll_outside outside, DataFrame.store_outside _ _ (by
      rw [List.length_singleton] at outside
      omega)]
  · rw [storeAll_inside present inside]
    obtain rfl : i = 0 := by
      rw [List.length_singleton] at present
      omega
    rw [DataFrame.store_inside _ _ (by omega) (by omega)]
    congr 1
    omega

theorem storeAll_singleton (frame : DataFrame) :
    storeAll memory start [frame] = DataFrame.store memory start frame := by
  show storeAll memory start ([] ++ [frame]) = _
  rw [storeAll_concat, storeAll_nil, List.length_nil, Nat.mul_zero, Nat.add_zero]

theorem load_storeAll (present : i < frames.length) :
    DataFrame.load (storeAll memory start frames) (start + frameSize * i) = frames[i] := by
  apply DataFrame.load_eq
  intro offset inside
  exact storeAll_inside present inside

@[simp] theorem length_loadAll : (loadAll memory start count).length = count := by
  unfold loadAll
  rw [List.length_map, List.length_range]

theorem getElem_loadAll (present : i < (loadAll memory start count).length) :
    (loadAll memory start count)[i] = DataFrame.load memory (start + frameSize * i) := by
  simp only [loadAll, List.getElem_map, List.getElem_range]

theorem loadAll_storeAll : loadAll (storeAll memory start frames) start frames.length = frames := by
  apply List.ext_getElem length_loadAll
  intro i _ present
  rw [getElem_loadAll, load_storeAll present]

theorem loadAll_congr (same : ∀ address, start ≤ address → address < start + frameSize * count →
    memory address = later address) : loadAll memory start count = loadAll later start count := by
  apply List.ext_getElem (by rw [length_loadAll, length_loadAll])
  intro i present _
  rw [length_loadAll] at present
  rw [getElem_loadAll, getElem_loadAll]
  apply DataFrame.load_congr
  intro offset inside
  apply same
  · omega
  · unfold frameSize at *
    omega

theorem loadAll_storeAll_apart {other : Nat} (apart : other + frameSize * frames.length ≤ start ∨
    start + frameSize * count ≤ other) :
    loadAll (storeAll memory other frames) start count = loadAll memory start count := by
  apply loadAll_congr
  intro address above below
  apply storeAll_outside
  omega

theorem loadAll_succ : loadAll memory start (count + 1) =
    DataFrame.load memory start :: loadAll memory (start + frameSize) count := by
  unfold loadAll
  rw [List.range_succ_eq_map, List.map_cons, List.map_map]
  congr 1
  apply List.map_congr_left
  intro i _
  show DataFrame.load memory (start + frameSize * (i + 1)) =
    DataFrame.load memory (start + frameSize + frameSize * i)
  rw [Nat.mul_add, Nat.mul_one, Nat.add_comm (frameSize * i), Nat.add_assoc]

theorem storeAll_setMac (mac : Field 32) (present : i < frames.length) :
    Field.store (storeAll memory start frames) (start + frameSize * i + 196) mac =
      storeAll memory start (frames.modify i fun frame => frame.setMac mac) := by
  have sameLength : (frames.modify i fun frame => frame.setMac mac).length =
      frames.length := List.length_modify ..
  funext address
  obtain outside | ⟨j, offset, other, inside, rfl⟩ := address_cases start address frames.length
  · rw [storeAll_outside (by rwa [sameLength]), Field.store_outside _ (by
      unfold frameSize at *
      omega), storeAll_outside outside]
  · rw [storeAll_inside (by rwa [sameLength]) inside, List.getElem_modify]
    unfold Field.store
    rw [storeAll_inside other inside]
    by_cases same : i = j
    · subst same
      rw [if_pos rfl, DataFrame.byte_setMac]
      by_cases inMac : 196 ≤ offset ∧ offset < 228
      · rw [if_pos inMac, if_pos (by omega),
          show start + frameSize * i + offset - (start + frameSize * i + 196) = offset - 196 by
            omega]
      · rw [if_neg inMac, if_neg (by omega)]
    · rw [if_neg same, if_neg (by unfold frameSize at *; omega)]

end

section

variable (digest : Bytes → Field 32) (device : EmulatedDevice)

def readBlocks (request : DataFrame) : List DataFrame :=
  (List.range (u16FromRpmbField request.blockCount)).map
    (dataReadBlock device (u16FromRpmbField request.address * rpmbDataSize) request)

/-- The response frames of an accepted read: its blocks, the last with a MAC of them all. -/
def readResponses (request : DataFrame) : List DataFrame :=
  let blocks := readBlocks device request
  blocks.modify (blocks.length - 1) fun frame =>
    frame.setMac (calculateMac digest device.key blocks)

def answerRead (room : Nat) (request : DataFrame) : Except PsaStatus (List DataFrame) :=
  if device.keyProgrammed then
    if checkReadRequest device request = resOk then
      if u16FromRpmbField request.blockCount > room then .error psaErrorBufferTooSmall
      else .ok (readResponses digest device request)
    else .ok []
  else .ok [dataReadUnprogrammed]

/-- The device and the response frames after one request frame. -/
def answer (room : Nat) (request : DataFrame) :
    Except PsaStatus (EmulatedDevice × List DataFrame) :=
  match requestTypeOf (u16FromRpmbField request.msgType) with
  | some .authenticationKeyWrite => .ok (authenticationKeyWrite device request, [])
  | some .readWriteCounter =>
    if 0 < room then .ok (device, [readWriteCounter digest device request])
    else .error psaErrorBufferTooSmall
  | some .authenticatedDataWrite => .ok (authenticatedDataWrite digest device request, [])
  | some .authenticatedDataRead =>
    if 0 < room then (answerRead digest device room request).map (device, ·)
    else .error psaErrorBufferTooSmall
  | some .resultRead =>
    if 0 < room then .ok (device, [device.result]) else .error psaErrorBufferTooSmall
  | none => .error psaErrorInvalidArgument

/-- The status, the device and the response frames after a list of request frames. -/
structure Exchanged where
  status : PsaStatus
  device : EmulatedDevice
  responses : List DataFrame

def exchange : List DataFrame → Nat → EmulatedDevice → Exchanged
  | [], _, device => ⟨psaSuccess, device, []⟩
  | request :: rest, room, device =>
    match answer digest device room request with
    | .error status => ⟨status, device, []⟩
    | .ok (device, responses) =>
      let later := exchange rest (room - responses.length) device
      { later with responses := responses ++ later.responses }

end

variable {digest : Bytes → Field 32} {device : EmulatedDevice} {memory : Memory}
  {address request response room count : Nat}

/-- The responses before the last of a number of them lie apart from the nonce, the address and
the block count of a request. -/
def Apart (request response count : Nat) : Prop :=
  response + frameSize * count ≤ request + 484 + frameSize ∨ request + 508 ≤ response

theorem dataReadLoop_succ : dataReadLoop device address request response (count + 1) memory =
    DataFrame.store (dataReadLoop device address request response count memory)
      (response + frameSize * count) (dataReadBlock device address
        (DataFrame.load (dataReadLoop device address request response count memory) request)
        count) := by
  unfold dataReadLoop
  rw [List.range_succ, List.foldl_append]
  rfl

/-- A block of a read is made of three fields of the request. -/
theorem dataReadBlock_congr {first second : DataFrame} (nonce : first.nonce = second.nonce)
    (place : first.address = second.address) (blocks : first.blockCount = second.blockCount)
    (i : Nat) :
    dataReadBlock device address first i = dataReadBlock device address second i := by
  unfold dataReadBlock
  rw [nonce, place, blocks]

/-- While the request is not written over, the blocks are those of the request. -/
theorem dataReadLoop_eq (apart : Apart request response count) :
    dataReadLoop device address request response count memory =
      storeAll memory response ((List.range count).map
        (dataReadBlock device address (DataFrame.load memory request))) := by
  induction count with
  | zero => exact storeAll_nil.symm
  | succ count ih =>
    have earlier : Apart request response count := by
      unfold Apart at *
      rw [Nat.mul_succ] at apart
      omega
    rw [dataReadLoop_succ, ih earlier, List.range_succ, List.map_append, List.map_singleton,
      storeAll_concat, List.length_map, List.length_range]
    congr 1
    -- The fields that are read lie outside of what the blocks before have been written to.
    have kept {width : Nat} (offset : Nat) (above : 484 ≤ offset) (below : offset + width ≤ 508) :
        Field.load (storeAll memory response ((List.range count).map
          (dataReadBlock device address (DataFrame.load memory request))))
          (request + offset) width = Field.load memory (request + offset) width := by
      apply Field.load_congr
      intro place inside before
      apply storeAll_outside
      rw [List.length_map, List.length_range]
      unfold Apart at apart
      rw [Nat.mul_succ] at apart
      omega
    exact dataReadBlock_congr (kept 484 (by omega) (by omega)) (kept 504 (by omega) (by omega))
      (kept 506 (by omega) (by omega)) count

theorem blockCount_pos_of_check {frame : DataFrame}
    (checked : checkReadRequest device frame = resOk) : 0 < u16FromRpmbField frame.blockCount := by
  by_contra none
  have zero : u16FromRpmbField frame.blockCount = 0 := by omega
  simp only [checkReadRequest, zero, if_true] at checked
  split at checked
  · cases checked
  · cases checked

@[simp] theorem length_readBlocks (frame : DataFrame) :
    (readBlocks device frame).length = u16FromRpmbField frame.blockCount := by
  unfold readBlocks
  rw [List.length_map, List.length_range]

@[simp] theorem length_readResponses (frame : DataFrame) :
    (readResponses digest device frame).length = u16FromRpmbField frame.blockCount := by
  unfold readResponses
  rw [List.length_modify, length_readBlocks]

theorem storeReadMac_eq {frame : DataFrame} (checked : checkReadRequest device frame = resOk) :
    storeReadMac digest device response (u16FromRpmbField frame.blockCount)
        (storeAll memory response (readBlocks device frame)) =
      storeAll memory response (readResponses digest device frame) := by
  have loaded : loadAll (storeAll memory response (readBlocks device frame)) response
      (readBlocks device frame).length = readBlocks device frame := loadAll_storeAll
  have positive := blockCount_pos_of_check checked
  have length : (readBlocks device frame).length = u16FromRpmbField frame.blockCount :=
    length_readBlocks frame
  rw [← length] at positive ⊢
  show Field.store _ _ (calculateMac digest device.key (loadAll _ response _)) = _
  rw [loaded]
  exact storeAll_setMac _ (by omega)

/-- A read whose own request is left alone gives the responses to the request. -/
theorem authenticatedDataRead_eq
    (apart : ∀ answers,
      answerRead digest device room (DataFrame.load memory request) = .ok answers →
        Apart request response answers.length) :
    authenticatedDataRead digest device memory request response room =
      (answerRead digest device room (DataFrame.load memory request)).map fun answers =>
        (storeAll memory response answers, answers.length) := by
  unfold authenticatedDataRead
  unfold answerRead at apart ⊢
  dsimp only
  split_ifs at apart ⊢ with programmed checked large
  · rfl
  · have fits := apart _ rfl
    rw [length_readResponses] at fits
    rw [dataReadLoop_eq fits, Except.map, length_readResponses]
    exact congrArg (fun stored => Except.ok (stored, _)) (storeReadMac_eq checked)
  · rw [Except.map, storeAll_nil]
    rfl
  · rw [Except.map, storeAll_singleton]
    rfl

variable {after : EmulatedDevice} {responses : Nat} {answers : List DataFrame} {respIndex : Nat}

section

variable {frame : DataFrame} (answered : answer digest device room frame = .ok (after, answers))

include answered

theorem answer_ok : answers = [] ∨ (0 < room ∧ ∃ response, answers = [response]) ∨
      requestTypeOf (u16FromRpmbField frame.msgType) = some .authenticatedDataRead ∧
        device.keyProgrammed = true ∧ checkReadRequest device frame = resOk ∧
        u16FromRpmbField frame.blockCount ≤ room ∧ after = device ∧
        answers = readResponses digest device frame := by
  unfold answer answerRead at answered
  split at answered
  case h_4 type =>
    split_ifs at answered with positive programmed checked large <;> cases answered
    · exact .inr (.inr ⟨type, programmed, checked, by omega, rfl, rfl⟩)
    · exact .inl rfl
    · exact .inr (.inl ⟨positive, _, rfl⟩)
  case h_6 => cases answered
  case h_1 | h_3 =>
    cases answered
    exact .inl rfl
  case h_2 | h_5 =>
    split_ifs at answered with positive
    cases answered
    exact .inr (.inl ⟨positive, _, rfl⟩)

theorem answer_length : answers.length ≤ room := by
  rcases answer_ok answered with rfl | ⟨positive, response, rfl⟩ | ⟨_, _, _, fits, _, rfl⟩
  · exact Nat.zero_le room
  · exact positive
  · rw [length_readResponses]
    exact fits

end

theorem respond_eq (frame : DataFrame) :
    Serving.respond ⟨device, memory, respIndex⟩ responses room frame =
      if 0 < room - respIndex then
        .ok ⟨device, storeAll memory (responses + frameSize * respIndex) [frame], respIndex + 1⟩
      else .error psaErrorBufferTooSmall := by
  unfold Serving.respond
  by_cases fits : respIndex < room
  · rw [if_pos fits, if_pos (by omega), storeAll_singleton]
  · rw [if_neg fits, if_neg (by omega)]

/-- A request that is not written over by its own responses is answered as if it were apart. -/
theorem serveFrame_eq
    (apart : ∀ after answers,
      answer digest device (room - respIndex) (DataFrame.load memory request) =
        .ok (after, answers) →
      Apart request (responses + frameSize * respIndex) answers.length) :
    serveFrame digest responses room request ⟨device, memory, respIndex⟩ =
      (answer digest device (room - respIndex) (DataFrame.load memory request)).map fun answered =>
        ⟨answered.1, storeAll memory (responses + frameSize * respIndex) answered.2,
          respIndex + answered.2.length⟩ := by
  unfold serveFrame
  unfold answer at apart ⊢
  dsimp only
  generalize requestTypeOf (u16FromRpmbField (DataFrame.load memory request).msgType) = type
    at apart ⊢
  match type, apart with
  | some .authenticationKeyWrite, _ | some .authenticatedDataWrite, _ =>
    rw [Except.map, storeAll_nil]
    rfl
  | some .readWriteCounter, _ | some .resultRead, _ =>
    dsimp only
    rw [respond_eq]
    split <;> rfl
  | some .authenticatedDataRead, apart =>
    by_cases left : 0 < room - respIndex
    · simp only [left, ↓reduceIte] at apart ⊢
      rw [if_pos (by omega), authenticatedDataRead_eq fun answers read =>
        apart device answers (by rw [read]; rfl)]
      cases answerRead digest device (room - respIndex) (DataFrame.load memory request) <;> rfl
    · dsimp only
      rw [if_neg left, if_neg (by omega)]
      rfl
  | none, _ => rfl

theorem serveFrame_ok
    (answered : answer digest device (room - respIndex) (DataFrame.load memory request) =
      .ok (after, answers))
    (apart : Apart request (responses + frameSize * respIndex) answers.length) :
    serveFrame digest responses room request ⟨device, memory, respIndex⟩ =
      .ok ⟨after, storeAll memory (responses + frameSize * respIndex) answers,
        respIndex + answers.length⟩ := by
  rw [serveFrame_eq (by rw [answered]; rintro _ _ ⟨⟩; exact apart), answered]
  rfl

/-- No response is written over a request that is still to be read. -/
def Undisturbed (digest : Bytes → Field 32) :
    List DataFrame → Nat → EmulatedDevice → Nat → Nat → Prop
  | [], _, _, _, _ => True
  | frame :: rest, room, device, request, response =>
    match answer digest device room frame with
    | .error _ => True
    | .ok (after, answers) =>
      Apart request response answers.length ∧
      (response + frameSize * answers.length ≤ request + frameSize ∨
        request + frameSize + frameSize * rest.length ≤ response) ∧
      Undisturbed digest rest (room - answers.length) after (request + frameSize)
        (response + frameSize * answers.length)

/-- Requests that are not disturbed are answered as a function of the frames. -/
theorem serveFrames_eq {frames : List DataFrame}
    (holds : loadAll memory request frames.length = frames)
    (undisturbed : Undisturbed digest frames (room - respIndex) device request
      (responses + frameSize * respIndex)) :
    serveFrames digest responses room frames.length request ⟨device, memory, respIndex⟩ =
      ((exchange digest frames (room - respIndex) device).status,
        ⟨(exchange digest frames (room - respIndex) device).device,
          storeAll memory (responses + frameSize * respIndex)
            (exchange digest frames (room - respIndex) device).responses,
          respIndex + (exchange digest frames (room - respIndex) device).responses.length⟩) := by
  induction frames generalizing request respIndex memory device with
  | nil =>
    show (psaSuccess, Serving.mk device memory respIndex) =
      (psaSuccess, ⟨device, storeAll memory _ [], respIndex⟩)
    rw [storeAll_nil]
  | cons frame rest ih =>
    rw [List.length_cons, loadAll_succ] at holds
    obtain ⟨head, tail⟩ := List.cons.inj holds
    rw [List.length_cons, serveFrames, exchange]
    unfold Undisturbed at undisturbed
    cases answered : answer digest device (room - respIndex) frame with
    | error status =>
      rw [← head] at answered
      rw [serveFrame_eq (by simp [answered]), answered]
      show (status, Serving.mk device memory respIndex) =
        (status, ⟨device, storeAll memory _ [], respIndex⟩)
      rw [storeAll_nil]
    | ok pair =>
      obtain ⟨after, answers⟩ := pair
      rw [answered] at undisturbed
      obtain ⟨apart, clear, later⟩ := undisturbed
      rw [← head] at answered
      rw [serveFrame_ok answered apart]
      have left := Nat.sub_sub room respIndex answers.length
      have place : responses + frameSize * respIndex + frameSize * answers.length =
          responses + frameSize * (respIndex + answers.length) := by
        rw [Nat.mul_add, Nat.add_assoc]
      have kept := (loadAll_storeAll_apart clear).trans tail
      dsimp only
      rw [left, place] at later
      rw [ih kept later, left, ← place, storeAll_append, List.length_append, Nat.add_assoc]

end Rpmb

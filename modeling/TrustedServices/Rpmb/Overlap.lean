import TrustedServices.Rpmb.Exchange

/- Responses in one buffer with the requests, eight bytes before them. -/
namespace Rpmb

open Lib DataFrame

variable {digest : Bytes → Field 32} {device : EmulatedDevice} {memory : Memory}
  {address request response responses room count place : Nat}

theorem dataReadLoop_keeps {first : Nat} (less : first ≤ count)
    (below : place < response + frameSize * first) :
    dataReadLoop device address request response count memory place =
      dataReadLoop device address request response first memory place := by
  induction count with
  | zero =>
    obtain rfl : first = 0 := by omega
    rfl
  | succ count ih =>
    by_cases last : first = count + 1
    · rw [last]
    · have within : first ≤ count := by omega
      have bound := Nat.mul_le_mul_left frameSize within
      rw [dataReadLoop_succ, store_outside _ _ (by omega), ih within]

theorem storeReadMac_keeps (below : place < response) :
    storeReadMac digest device response count memory place = memory place := by
  exact Field.store_outside _ (by omega)

/-- What a read leaves behind: its responses fit the room, and nothing before them changes. -/
theorem authenticatedDataRead_extends {next : Memory}
    (read : authenticatedDataRead digest device memory request response room = .ok (next, count))
    (positive : 0 < room) :
    count ≤ room ∧ ∀ place < response, next place = memory place := by
  unfold authenticatedDataRead at read
  dsimp only at read
  split at read
  · split at read
    · split_ifs at read ⊢
      obtain ⟨rfl, rfl⟩ := Prod.mk.inj (Except.ok.inj read)
      refine ⟨by omega, ?_⟩
      intro place below
      rw [storeReadMac_keeps below, dataReadLoop_keeps (Nat.zero_le _) (by omega)]
      rfl
    · obtain ⟨rfl, rfl⟩ := Prod.mk.inj (Except.ok.inj read)
      exact ⟨Nat.zero_le room, fun place _ => rfl⟩
  · obtain ⟨rfl, rfl⟩ := Prod.mk.inj (Except.ok.inj read)
    exact ⟨positive, fun place below => store_outside _ _ (by omega)⟩

/-- The service goes on behind the responses it has written. -/
structure Serving.Extends (responses room : Nat) (serving next : Serving) : Prop where
  more : serving.respIndex ≤ next.respIndex
  within : next.respIndex ≤ room
  keeps : ∀ place < responses + frameSize * serving.respIndex,
    next.memory place = serving.memory place

variable {frame : DataFrame}

theorem respond_extends {serving next : Serving}
    (responded : serving.respond responses room frame = .ok next) :
    serving.Extends responses room next := by
  unfold Serving.respond at responded
  split_ifs at responded ⊢
  obtain rfl := Except.ok.inj responded
  refine ⟨Nat.le_succ _, by assumption, ?_⟩
  intro place below
  exact store_outside _ _ (by omega)

theorem serveFrame_extends {serving next : Serving} (within : serving.respIndex ≤ room)
    (served : serveFrame digest responses room request serving = .ok next) :
    serving.Extends responses room next := by
  unfold serveFrame at served
  dsimp only at served
  split at served
  · obtain rfl := Except.ok.inj served
    exact ⟨Nat.le_refl _, within, fun place _ => rfl⟩
  · exact respond_extends served
  · obtain rfl := Except.ok.inj served
    exact ⟨Nat.le_refl _, within, fun place _ => rfl⟩
  · split_ifs at served ⊢
    cases read : authenticatedDataRead digest serving.device serving.memory request
        (responses + frameSize * serving.respIndex) (room - serving.respIndex) with
    | error status =>
      rw [read] at served
      cases served
    | ok pair =>
      rw [read] at served
      obtain rfl := Except.ok.inj served
      obtain ⟨fits, keeps⟩ := authenticatedDataRead_extends read (by omega)
      exact ⟨Nat.le_add_right _ _, by dsimp only; omega, keeps⟩
  · exact respond_extends served
  · cases served

variable {serving : Serving}

theorem serveFrames_extends (within : serving.respIndex ≤ room) :
    serving.Extends responses room (serveFrames digest responses room count request serving).2 := by
  induction count generalizing request serving with
  | zero => exact ⟨Nat.le_refl _, within, fun place _ => rfl⟩
  | succ count ih =>
    rw [serveFrames]
    cases served : serveFrame digest responses room request serving with
    | error status => exact ⟨Nat.le_refl _, within, fun place _ => rfl⟩
    | ok next =>
      have first := serveFrame_extends within served
      have later : next.Extends responses room
          (serveFrames digest responses room count (request + frameSize) next).2 :=
        ih first.within
      refine ⟨first.more.trans later.more, later.within, ?_⟩
      intro place below
      have bound := Nat.mul_le_mul_left frameSize first.more
      exact (later.keeps place (by omega)).trans (first.keeps place below)

theorem serveFrames_load {i : Nat} (within : serving.respIndex ≤ room)
    (written : i < serving.respIndex) :
    DataFrame.load (serveFrames digest responses room count request serving).2.memory
        (responses + frameSize * i) =
      DataFrame.load serving.memory (responses + frameSize * i) := by
  have bound := Nat.mul_le_mul_left frameSize (Nat.succ_le_of_lt written)
  rw [Nat.mul_succ] at bound
  apply load_congr
  intro offset inside
  exact (serveFrames_extends within).keeps _ (by omega)

/-- The first request with whose responses there are more response frames than requests have been
read, from the number of requests that have been read beyond the responses. -/
def firstAhead (digest : Bytes → Field 32) :
    List DataFrame → Nat → Nat → EmulatedDevice → Option DataFrame
  | [], _, _, _ => none
  | frame :: rest, room, slack, device =>
    match answer digest device room frame with
    | .error _ => none
    | .ok (after, answers) =>
      if answers.length ≤ slack + 1 then
        firstAhead digest rest (room - answers.length) (slack + 1 - answers.length) after
      else some frame

variable {frames : List DataFrame}

/-- Responses that never get ahead of the requests do not disturb them. -/
theorem undisturbed_of_firstAhead {slack : Nat}
    (never : firstAhead digest frames room slack device = none)
    (geometry : request = response + 8 + frameSize * slack) :
    Undisturbed digest frames room device request response := by
  induction frames generalizing room device request response slack with
  | nil => trivial
  | cons frame rest ih =>
    unfold firstAhead at never
    unfold Undisturbed
    cases answered : answer digest device room frame with
    | error status => trivial
    | ok pair =>
      rw [answered] at never
      dsimp only at never ⊢
      split_ifs at never ⊢ with behind
      have bound := Nat.mul_le_mul_left frameSize behind
      rw [Nat.mul_succ] at bound
      refine ⟨Or.inl (by omega), Or.inl (by omega), ih never ?_⟩
      rw [Nat.mul_sub, Nat.mul_succ]
      omega

/-- The nonce of a request after the first response of its own has been written over it, eight
bytes before the request. -/
def shiftedNonce (frame : DataFrame) : Field 16 := fun i =>
  if i.val < 8 then frame.nonce.byte (i.val + 8)
  else if i.val < 12 then 0
  else if i.val < 14 then frame.address.byte (i.val - 12)
  else frame.blockCount.byte (i.val - 14)

theorem byte_dataReadBlock (frame : DataFrame) (address block : Nat) (i : Fin 16) :
    (dataReadBlock device address frame block).byte (492 + i.val) = shiftedNonce frame i := by
  have inside := i.isLt
  unfold shiftedNonce
  split_ifs <;> grind [dataReadBlock, DataFrame.zero, DataFrame.byte, Field.byte]

/-- The response that is written over the request is the last one to carry its nonce. -/
theorem dataReadLoop_shifted {slack : Nat}
    (geometry : request = response + 8 + frameSize * slack) (beyond : slack + 1 < count) :
    (DataFrame.load (dataReadLoop device address request response count memory)
      (response + frameSize * (slack + 1))).nonce =
      shiftedNonce (DataFrame.load memory request) := by
  have before : Apart request response (slack + 1) := by
    left
    rw [Nat.mul_succ]
    omega
  have written : DataFrame.load (dataReadLoop device address request response count memory)
      (response + frameSize * (slack + 1)) =
      dataReadBlock device address (DataFrame.load
        (dataReadLoop device address request response (slack + 1) memory) request)
        (slack + 1) := by
    rw [← load_store (dataReadBlock device address (DataFrame.load
        (dataReadLoop device address request response (slack + 1) memory) request)
        (slack + 1)) (dataReadLoop device address request response (slack + 1) memory),
      ← dataReadLoop_succ]
    apply load_congr
    intro i inside
    apply dataReadLoop_keeps (by omega)
    rw [Nat.mul_succ frameSize (slack + 1)]
    omega
  rw [written, dataReadLoop_eq before]
  funext i
  show storeAll memory response _ (request + 484 + i.val) = _
  rw [geometry, show response + 8 + frameSize * slack + 484 + i.val =
      response + frameSize * slack + (492 + i.val) by omega,
    storeAll_inside (by rw [List.length_map, List.length_range]; omega) (by
      unfold frameSize
      omega), List.getElem_map, byte_dataReadBlock]

theorem storeReadMac_nonce {i : Nat} :
    (DataFrame.load (storeReadMac digest device response count memory)
      (response + frameSize * i)).nonce =
      (DataFrame.load memory (response + frameSize * i)).nonce := by
  apply Field.load_store_apart
  unfold frameSize
  omega

theorem nonce_readResponses {i : Nat}
    (present : i < (readResponses digest device frame).length) :
    (readResponses digest device frame)[i].nonce = frame.nonce := by
  simp only [readResponses, readBlocks, List.getElem_modify, List.getElem_map]
  split
  · rfl
  · rfl

section

variable {respIndex slack : Nat}
  (geometry : request = responses + frameSize * respIndex + 8 + frameSize * slack)
  (within : respIndex ≤ room)

include geometry within

/-- A read that gets ahead is answered with its nonce, and writes it shifted. -/
theorem serveFrame_ahead {after : EmulatedDevice} {answers : List DataFrame}
    (answered : answer digest device (room - respIndex) (DataFrame.load memory request) =
      .ok (after, answers)) (ahead : slack + 1 < answers.length) :
    ∃ reply, answers[slack + 1]? = some reply ∧
      reply.nonce = (DataFrame.load memory request).nonce ∧
      (DataFrame.load
        (serveFrames digest responses room (count + 1) request ⟨device, memory, respIndex⟩).2.memory
        (responses + frameSize * (respIndex + (slack + 1)))).nonce =
          shiftedNonce (DataFrame.load memory request) := by
  obtain rfl | ⟨_, _, rfl⟩ | ⟨type, programmed, checked, room_left, rfl, rfl⟩ := answer_ok answered
  · exact absurd ahead (Nat.not_lt_zero _)
  · exact absurd (Nat.lt_of_succ_lt_succ ahead) (Nat.not_lt_zero _)
  refine ⟨_, List.getElem?_eq_getElem ahead, nonce_readResponses ahead, ?_⟩
  rw [length_readResponses] at ahead
  have positive := blockCount_pos_of_check checked
  unfold serveFrames serveFrame authenticatedDataRead
  dsimp only
  rw [type]
  rw [if_pos (by omega), if_pos programmed, if_pos checked, if_neg (by omega)]
  -- The frames that follow are served behind all the responses of the read.
  rw [serveFrames_load (by dsimp only; omega) (by dsimp only; omega)]
  rw [Nat.mul_add frameSize respIndex, ← Nat.add_assoc, storeReadMac_nonce,
    dataReadLoop_shifted geometry (by omega)]

/-- Once the responses get ahead, one of them carries the shifted nonce. -/
theorem serveFrames_ahead (holds : loadAll memory request frames.length = frames)
    (ahead : firstAhead digest frames (room - respIndex) slack device = some frame) :
    ∃ i answered, (exchange digest frames (room - respIndex) device).responses[i]? =
        some answered ∧
      answered.nonce = frame.nonce ∧
      (DataFrame.load
        (serveFrames digest responses room frames.length request ⟨device, memory, respIndex⟩).2.memory
        (responses + frameSize * (respIndex + i))).nonce = shiftedNonce frame := by
  induction frames generalizing request respIndex memory device slack with
  | nil => cases ahead
  | cons head rest ih =>
    rw [List.length_cons, loadAll_succ] at holds
    obtain ⟨rfl, tail⟩ := List.cons.inj holds
    unfold firstAhead at ahead
    rw [List.length_cons, serveFrames, exchange]
    cases answered : answer digest device (room - respIndex) (DataFrame.load memory request) with
    | error status =>
      rw [answered] at ahead
      cases ahead
    | ok pair =>
      obtain ⟨after, answers⟩ := pair
      rw [answered] at ahead
      dsimp only at ahead ⊢
      have fits := answer_length answered
      by_cases behind : answers.length ≤ slack + 1
      · rw [if_pos behind] at ahead
        have bound := Nat.mul_le_mul_left frameSize behind
        rw [Nat.mul_succ] at bound
        have apart : Apart request (responses + frameSize * respIndex) answers.length :=
          Or.inl (by omega)
        rw [serveFrame_ok answered apart]
        have clear : responses + frameSize * respIndex + frameSize * answers.length ≤
            request + frameSize := by omega
        have kept := (loadAll_storeAll_apart (.inl clear)).trans tail
        have left := Nat.sub_sub room respIndex answers.length
        rw [left] at ahead
        have place : request + frameSize = responses + frameSize * (respIndex + answers.length)
            + 8 + frameSize * (slack + 1 - answers.length) := by
          rw [Nat.mul_sub, Nat.mul_succ, Nat.mul_add]
          omega
        obtain ⟨i, answer, found, same, shifted⟩ := ih place (by omega) kept ahead
        refine ⟨answers.length + i, answer, ?_, same, ?_⟩
        · rw [left, List.getElem?_append_right (Nat.le_add_right _ _), Nat.add_sub_cancel_left]
          exact found
        · rw [← Nat.add_assoc respIndex]
          exact shifted
      · rw [if_neg behind] at ahead
        obtain rfl := Option.some.inj ahead
        obtain ⟨reply, found, same, shifted⟩ :=
          serveFrame_ahead geometry within answered (Nat.lt_of_not_le behind)
        refine ⟨slack + 1, reply, ?_, same, shifted⟩
        rw [List.getElem?_append_left (Nat.lt_of_not_le behind)]
        exact found

end

end Rpmb

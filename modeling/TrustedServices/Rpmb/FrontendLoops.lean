import TrustedServices.Rpmb.EmulatedDevice

/- The frame loops of the RPMB frontend, whose counter has 16 bits. -/
namespace Rpmb

def psaErrorInsufficientData : PsaStatus := -143
def psaErrorInvalidSignature : PsaStatus := -149

/-- The range check, with the number of blocks that a size multiplier stands for. -/
def InRange (rpmbSizeMult : BitVec 8) (blockIndex : BitVec 16) (blockCount : Nat) : Prop :=
  blockIndex.toNat < rpmbSizeMult.toNat * 512 ∧ blockIndex.toNat + blockCount < 2 ^ 64 ∧
    blockIndex.toNat + blockCount ≤ rpmbSizeMult.toNat * 512

/-- A `for` loop over `blockCount` frames, if it ends within the fuel: the status and the number of
rounds that were completed. -/
def frameLoop {σ : Type} (round : σ → BitVec 16 → Except PsaStatus σ) (blockCount : Nat) :
    Nat → σ → BitVec 16 → Nat → Option (PsaStatus × Nat)
  | 0, _, _, _ => none
  | fuel + 1, state, i, rounds =>
    if i.toNat < blockCount then
      match round state i with
      | .error status => some (status, rounds)
      | .ok state => frameLoop round blockCount fuel state (i + 1) (rounds + 1)
    else some (psaSuccess, rounds)

/-- What a round of a write gets: the statuses of the MAC over the request, of the backend with the
number of frames and of the MAC over the response, and the response. -/
structure WriteAnswer where
  macStatus : PsaStatus
  status : PsaStatus
  responseCount : Nat
  checkStatus : PsaStatus
  authentic : Bool
  writeCounter : BitVec 32
  address : BitVec 16
  opResult : BitVec 16
  msgType : BitVec 16

/-- A round of `rpmb_frontend_write`. The device answers to a write counter and a 16-bit address,
and the address in its answer is compared with the sum before it was cut to 16 bits. -/
def writeRound (device : BitVec 32 → BitVec 16 → WriteAnswer) (blockIndex : BitVec 16)
    (writeCounter : BitVec 32) (i : BitVec 16) : Except PsaStatus (BitVec 32) :=
  let answer := device writeCounter (blockIndex + i)
  if answer.macStatus ≠ psaSuccess then .error answer.macStatus
  else if answer.status ≠ psaSuccess then .error answer.status
  else if answer.responseCount ≠ 1 then .error psaErrorInsufficientData
  else if answer.checkStatus ≠ psaSuccess then .error answer.checkStatus
  else if answer.authentic = false then .error psaErrorInvalidSignature
  else if answer.writeCounter ≠ writeCounter + 1 then .error psaErrorInvalidArgument
  else if answer.address.toNat ≠ blockIndex.toNat + i.toNat then .error psaErrorInvalidArgument
  else if answer.opResult ≠ resOk then .error psaErrorInvalidArgument
  else if answer.msgType ≠ respAuthenticatedDataWrite then .error psaErrorInvalidArgument
  else .ok answer.writeCounter

structure ReadFrame where
  sameNonce : Bool
  address : BitVec 16
  blockCount : BitVec 16
  opResult : BitVec 16
  msgType : BitVec 16

/-- A round of `rpmb_frontend_read`. -/
def readRound (frames : BitVec 16 → ReadFrame) (blockIndex : BitVec 16) (blockCount : Nat)
    (_ : Unit) (i : BitVec 16) : Except PsaStatus Unit :=
  if (frames i).sameNonce = false then .error psaErrorInvalidSignature
  else if (frames i).address ≠ blockIndex ∨ (frames i).blockCount.toNat ≠ blockCount ∨
      (frames i).opResult ≠ resOk ∨ (frames i).msgType ≠ respAuthenticatedDataRead then
    .error psaErrorInvalidArgument
  else .ok ()

/-- The answers of a device that serves what it is asked for. -/
def servedWrite (writeCounter : BitVec 32) (address : BitVec 16) : WriteAnswer :=
  ⟨psaSuccess, psaSuccess, 1, psaSuccess, true, writeCounter + 1, address, resOk,
    respAuthenticatedDataWrite⟩

def servedRead (blockIndex : BitVec 16) (blockCount : Nat) (_ : BitVec 16) : ReadFrame :=
  ⟨true, blockIndex, BitVec.ofNat 16 blockCount, resOk, respAuthenticatedDataRead⟩

/-- What a loop is to do: it ends for every device, and for one that serves its requests with a
round for each block. -/
def Completes {δ σ : Type} (round : δ → σ → BitVec 16 → Except PsaStatus σ) (serving : δ)
    (blockCount : Nat) : Prop :=
  ∀ state, (∀ device, ∃ fuel ended,
      frameLoop (round device) blockCount fuel state 0 0 = some ended) ∧
    ∃ fuel, frameLoop (round serving) blockCount fuel state 0 0 = some (psaSuccess, blockCount)

def LoopsComplete (rpmbSizeMult : BitVec 8) (blockIndex : BitVec 16) (blockCount : Nat) : Prop :=
  InRange rpmbSizeMult blockIndex blockCount →
    Completes (writeRound · blockIndex) servedWrite blockCount ∧
      Completes (readRound · blockIndex blockCount) (servedRead blockIndex blockCount) blockCount

variable {blockCount : Nat}

theorem frameLoop_ends {σ : Type} {round : σ → BitVec 16 → Except PsaStatus σ}
    {state : σ} {i : BitVec 16} {rounds left : Nat} (rest : i.toNat + left = blockCount)
    (narrow : blockCount < 2 ^ 16) :
    ∃ ended, frameLoop round blockCount (left + 1) state i rounds = some ended ∧
      ((∀ state i, i.toNat < blockCount → ∃ next, round state i = .ok next) →
        ended = (psaSuccess, rounds + left)) := by
  induction left generalizing state i rounds with
  | zero => simp [frameLoop, show ¬ i.toNat < blockCount by omega]
  | succ left ih =>
    rw [frameLoop, if_pos (by omega)]
    cases outcome : round state i with
    | error status =>
      refine ⟨_, rfl, fun serves => ?_⟩
      obtain ⟨next, served⟩ := serves state i (by omega)
      rw [outcome] at served
      cases served
    | ok next =>
      have later : (i + 1).toNat + left = blockCount := by
        rw [BitVec.toNat_add_of_lt] <;> simp <;> omega
      obtain ⟨ended, ends, counts⟩ := @ih next (i + 1) (rounds + 1) later
      exact ⟨ended, ends, fun serves => (counts serves).trans (by simp; omega)⟩

theorem completes_of_serves {δ σ : Type} {round : δ → σ → BitVec 16 → Except PsaStatus σ}
    {serving : δ} (narrow : blockCount < 2 ^ 16)
    (serves : ∀ state i, i.toNat < blockCount → ∃ next, round serving state i = .ok next) :
    Completes round serving blockCount := by
  intro state
  have ends := fun device => @frameLoop_ends _ σ (round device) state 0 0 _ (Nat.zero_add _) narrow
  obtain ⟨_, ended, counts⟩ := ends serving
  rw [counts serves, Nat.zero_add] at ended
  exact ⟨fun device => ⟨_, (ends device).imp fun _ => And.left⟩, _, ended⟩

theorem writeRound_error {device blockIndex writeCounter i status}
    (failed : writeRound device blockIndex writeCounter i = .error status) :
    status ≠ psaSuccess := by
  simp only [writeRound] at failed
  split_ifs at failed <;> cases failed <;> first | assumption | decide

theorem writeRound_ok {device blockIndex writeCounter i next}
    (passed : writeRound device blockIndex writeCounter i = .ok next) :
    blockIndex.toNat + i.toNat < 2 ^ 16 := by
  simp only [writeRound] at passed
  split_ifs at passed with _ _ _ _ _ _ address
  have narrow := (device writeCounter (blockIndex + i)).address.isLt
  omega

/-- The counter of a write that is too wide stays below the number of blocks. -/
theorem writeLoop_stuck {device blockIndex blockCount fuel writeCounter i rounds}
    (wide : ¬ (blockCount < 2 ^ 16 ∧ blockIndex.toNat + blockCount ≤ 2 ^ 16))
    (inside : blockIndex.toNat + i.toNat ≤ 2 ^ 16) (done : Nat) :
    frameLoop (writeRound device blockIndex) blockCount fuel writeCounter i rounds ≠
      some (psaSuccess, done) := by
  induction fuel generalizing writeCounter i rounds with
  | zero => simp [frameLoop]
  | succ fuel ih =>
    have narrow := i.isLt
    rw [frameLoop, if_pos (by omega)]
    cases outcome : writeRound device blockIndex writeCounter i with
    | error status => simp [writeRound_error outcome]
    | ok next =>
      have passed := writeRound_ok outcome
      apply ih
      rw [BitVec.toNat_add, show BitVec.toNat (1 : BitVec 16) = 1 from rfl]
      omega

/-- The frames of a read have a block count of 16 bits. -/
theorem readRound_refused {frames blockIndex blockCount} (wide : ¬ blockCount < 2 ^ 16)
    (i : BitVec 16) :
    ∃ status ≠ psaSuccess, readRound frames blockIndex blockCount () i = .error status := by
  have narrow := (frames i).blockCount.isLt
  unfold readRound
  split_ifs with _ accepted
  · exact ⟨_, by decide, rfl⟩
  · exact ⟨_, by decide, rfl⟩
  · exact absurd (.inr (.inl (by omega))) accepted

theorem writeRound_served {blockIndex i : BitVec 16} (writeCounter : BitVec 32)
    (inside : blockIndex.toNat + i.toNat < 2 ^ 16) :
    writeRound servedWrite blockIndex writeCounter i = .ok (writeCounter + 1) := by
  simp [writeRound, servedWrite, BitVec.toNat_add_of_lt inside]

theorem readRound_served {blockIndex : BitVec 16} (i : BitVec 16)
    (narrow : blockCount < 2 ^ 16) :
    readRound (servedRead blockIndex blockCount) blockIndex blockCount () i = .ok () := by
  have whole : (BitVec.ofNat 16 blockCount).toNat = blockCount := Nat.mod_eq_of_lt narrow
  simp only [readRound, servedRead, whole, ne_eq, not_true_eq_false, or_self, ↓reduceIte,
    reduceCtorEq]

theorem readLoop_completes_iff (blockIndex : BitVec 16) (blockCount : Nat) :
    Completes (readRound · blockIndex blockCount) (servedRead blockIndex blockCount) blockCount ↔
      blockCount < 2 ^ 16 := by
  constructor
  · intro complete
    by_contra wide
    obtain ⟨_ | fuel, ended⟩ := (complete ()).2
    · cases ended
    · obtain ⟨status, failed, refused⟩ := readRound_refused wide 0
      rw [frameLoop, if_pos (by simp; omega)] at ended
      dsimp only at ended
      rw [refused] at ended
      cases ended
      exact failed rfl
  · intro narrow
    apply completes_of_serves narrow
    intro _ i _
    exact ⟨_, readRound_served i narrow⟩

/-- The loops do so for the ranges that a 16-bit counter and a 16-bit address can get through, and
the loop of a read for those of a 16-bit count. -/
theorem loopsComplete_iff (rpmbSizeMult : BitVec 8) (blockIndex : BitVec 16) (blockCount : Nat) :
    (LoopsComplete rpmbSizeMult blockIndex blockCount ↔
      (InRange rpmbSizeMult blockIndex blockCount →
        blockCount < 2 ^ 16 ∧ blockIndex.toNat + blockCount ≤ 2 ^ 16)) ∧
    (Completes (readRound · blockIndex blockCount) (servedRead blockIndex blockCount) blockCount ↔
      blockCount < 2 ^ 16) := by
  refine ⟨imp_congr_right fun _ => ?_, readLoop_completes_iff ..⟩
  rw [readLoop_completes_iff]
  constructor
  · rintro ⟨written, _⟩
    by_contra wide
    obtain ⟨fuel, ended⟩ := (written 0).2
    exact writeLoop_stuck wide (i := 0) blockIndex.isLt.le _ ended
  · rintro ⟨narrow, inside⟩
    refine ⟨completes_of_serves narrow ?_, narrow⟩
    intro writeCounter i below
    exact ⟨_, writeRound_served writeCounter (by omega)⟩

/-- A device of the largest size that the standard has is not written as a whole. -/
theorem wholeDevice_endless : ¬ LoopsComplete 128 0 65536 := by
  intro complete
  obtain ⟨fuel, ended⟩ := ((complete ⟨by decide, by decide, by decide⟩).1 0).2
  exact writeLoop_stuck (by decide) (by decide) _ ended

end Rpmb

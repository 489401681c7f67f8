import TrustedServices.Lib.Transition
import TrustedServices.PsaComms.Channels
import TrustedServices.PsaComms.OpenampResponse

/- The calls after which a channel is idle again and holds no buffer. -/
namespace PsaComms.Channels

open Lib Handling

section

variable {transport : AmpTransport} {messenger : AmpMessenger}

def AmpMessenger.Ready (messenger : AmpMessenger) : Prop :=
  ∀ (transport : AmpTransport) (reqLen size : Nat), ValidLength reqLen →
    transport.txBuffer = some size → reqLen ≤ size →
    (openampMessengerCallBegin transport reqLen messenger).value = true

/-- The messenger is idle, every buffer is settled and the next call can begin. -/
structure AmpConcluded (done : Handled AmpMessenger AmpBuffer Int32) : Prop where
  idle : done.state.status = .idle
  settled : Settled done.trace
  ready : done.state.Ready

theorem ampIdle_ready (idle : messenger.status = .idle) : messenger.Ready := by
  intro transport reqLen size valid obtained fits
  simp [openampMessengerCallBegin, openampVirtioCallBegin, valid, idle, obtained, fits]

theorem ampConcluded_iff {done : Handled AmpMessenger AmpBuffer Int32} :
    AmpConcluded done ↔ done.state.status = .idle ∧ Settled done.trace := by
  constructor
  · intro concluded
    exact ⟨concluded.idle, concluded.settled⟩
  · rintro ⟨idle, settled⟩
    exact ⟨idle, settled, ampIdle_ready idle⟩

def deliveries : Nat → Nat → CustodyTrace AmpBuffer
  | _, 0 => []
  | index, count + 1 => (.acquire, .response index) :: deliveries (index + 1) count

def lastResponse (leftover : Option AmpBuffer) : Nat → Nat → Option AmpBuffer
  | _, 0 => leftover
  | index, count + 1 => lastResponse (some (.response index)) (index + 1) count

theorem deliver_run (index count : Nat) :
    deliver index count messenger =
      ⟨(), { messenger with respBuf := lastResponse messenger.respBuf index count },
        deliveries index count⟩ := by
  induction count generalizing index messenger with
  | zero => rfl
  | succ count ih =>
    unfold deliver
    simp only [bind_run, note_run, getState_run, setState_run, ih]
    rfl

/-- How the clients end a call whose request was invoked: with a number of reads of the response,
its release and, for some of them, one more read. -/
def finishTrace (reads : Nat) (readsLate : Bool) : Option AmpBuffer → CustodyTrace AmpBuffer
  | none => []
  | some buffer =>
    List.replicate reads (.read, buffer) ++
      (.release, buffer) :: if readsLate then [(.read, buffer)] else []

/-- All that a call whose request was invoked does with buffers. -/
def callTrace (leftover : Option AmpBuffer) (delivered reads : Nat) (readsLate : Bool) :
    CustodyTrace AmpBuffer :=
  [(.acquire, .request), (.release, .request)] ++ deliveries 0 delivered ++
    finishTrace reads readsLate (lastResponse leftover 0 delivered)

theorem history_deliveries_before {buffer : AmpBuffer} {index : Nat}
    (other : ∀ later, index ≤ later → buffer ≠ .response later) (count : Nat) :
    history buffer (deliveries index count) = [] := by
  induction count generalizing index with
  | zero => rfl
  | succ count ih =>
    have different := other index (Nat.le_refl _)
    unfold deliveries
    rw [history_cons, if_neg fun same => different same.symm]
    exact ih fun later from_ => other later (by omega)

theorem lastResponse_succ (leftover : Option AmpBuffer) (index count : Nat) :
    lastResponse leftover index (count + 1) = some (.response (index + count)) := by
  induction count generalizing leftover index with
  | zero => rfl
  | succ count ih =>
    unfold lastResponse
    rw [ih, show index + 1 + count = index + (count + 1) by omega]

theorem history_finishTrace_other {buffer other : AmpBuffer} (different : other ≠ buffer)
    (reads : Nat) (readsLate : Bool) :
    history buffer (finishTrace reads readsLate (some other)) = [] := by
  have replicated : history buffer (List.replicate reads (Custody.read, other)) = [] := by
    induction reads with
    | zero => rfl
    | succ reads ih => rw [List.replicate_succ, history_cons, if_neg different, ih]
  cases readsLate <;> simp [finishTrace, replicated, different]

theorem history_finishTrace (buffer : AmpBuffer) (reads : Nat) (readsLate : Bool) :
    history buffer (finishTrace reads readsLate (some buffer)) =
      List.replicate reads .read ++ .release :: if readsLate then [.read] else [] := by
  have replicated : history buffer (List.replicate reads (Custody.read, buffer)) =
      List.replicate reads .read := by
    induction reads with
    | zero => rfl
    | succ reads ih => rw [List.replicate_succ, history_cons, if_pos rfl, ih, List.replicate_succ]
  cases readsLate <;> simp [finishTrace, replicated]

theorem closes_replicate (reads : Nat) (behind : List Custody) :
    Custody.closes (List.replicate reads .read ++ behind) = Custody.closes behind := by
  induction reads with
  | zero => rfl
  | succ reads ih =>
    rw [List.replicate_succ, List.cons_append, Custody.closes, ih]

theorem not_orderly_finish (reads : Nat) (behind : List Custody) :
    Custody.orderly (List.replicate reads .read ++ .release :: behind) = false := by
  cases reads with
  | zero => rfl
  | succ reads => rfl

/-- A call settles its buffers exactly if there is no response to release, or one that is not read
after its release. -/
theorem callTrace_settled_iff {leftover : Option AmpBuffer}
    (unset : leftover = none ∨ leftover = some .stray) (delivered reads : Nat) (readsLate : Bool) :
    Settled (callTrace leftover delivered reads readsLate) ↔
      delivered = 0 ∧ leftover = none ∨ delivered = 1 ∧ readsLate = false := by
  match delivered with
  | 0 =>
    rcases unset with rfl | rfl
    · refine iff_of_true ?_ (Or.inl ⟨rfl, rfl⟩)
      intro buffer
      by_cases isRequest : AmpBuffer.request = buffer
      · simp [callTrace, deliveries, lastResponse, finishTrace, isRequest, Custody.orderly,
          Custody.closes]
      · simp [callTrace, deliveries, lastResponse, finishTrace, isRequest, Custody.orderly]
    · refine iff_of_false ?_ (by simp)
      intro settled
      have stray := settled .stray
      simp [callTrace, deliveries, lastResponse, history_finishTrace, not_orderly_finish] at stray
  | 1 =>
    simp only [Nat.one_ne_zero, false_and, true_and, false_or]
    constructor
    · intro settled
      have response := settled (.response 0)
      cases readsLate with
      | false => rfl
      | true =>
        simp [callTrace, deliveries, lastResponse, history_finishTrace, Custody.orderly,
          closes_replicate, Custody.closes] at response
    · rintro rfl buffer
      by_cases isResponse : AmpBuffer.response 0 = buffer
      · subst isResponse
        simp [callTrace, deliveries, lastResponse, history_finishTrace, Custody.orderly,
          closes_replicate, Custody.closes]
      by_cases isRequest : AmpBuffer.request = buffer
      · simp [callTrace, deliveries, lastResponse, history_finishTrace_other isResponse,
          isRequest, isResponse, Custody.orderly, Custody.closes]
      · simp [callTrace, deliveries, lastResponse, history_finishTrace_other isResponse,
          isRequest, isResponse, Custody.orderly]
  | delivered + 2 =>
    refine iff_of_false ?_ (by omega)
    intro settled
    -- the first response is never released
    have first := settled (.response 0)
    have later : history (.response 0) (deliveries 2 delivered) = [] := by
      apply history_deliveries_before
      intro later from_ same
      cases same
      omega
    have last : AmpBuffer.response (delivered + 1) ≠ .response 0 := by simp
    rw [callTrace, lastResponse_succ, Nat.zero_add] at first
    simp [deliveries, later, history_finishTrace_other last, Custody.orderly,
      Custody.closes] at first

/-- What the three clients share: a request is begun and invoked, and the call finished. -/
def client (transport : AmpTransport) (reqLen : Nat) (notBegun notInvoked : Int32)
    (finish : Option AmpBuffer → AmpProgram Int32) : AmpProgram Int32 := do
  let begun ← openampMessengerCallBegin transport reqLen
  if begun then
    let invoked ← openampMessengerCallInvoke transport
    match invoked with
    | none => return notInvoked
    | some response => finish response
  else return notBegun

/-- A call that obtains no buffer, or whose request is invoked and whose response is settled. -/
def ClientUndisturbed (transport : AmpTransport) (reqLen : Nat) (leftover : Option AmpBuffer)
    (readsLate : Bool) : Prop :=
  ¬ ValidLength reqLen ∨ transport.txBuffer = none ∨ ∃ size, transport.txBuffer = some size ∧
    reqLen ≤ size ∧ transport.sent = some size ∧ transport.received = true ∧
    (transport.delivered = 0 ∧ leftover = none ∨ transport.delivered = 1 ∧ readsLate = false)

structure Finishes (finish : Option AmpBuffer → AmpProgram Int32) (reads : Nat)
    (readsLate : Bool) : Prop where
  state : ∀ response, (finish response ⟨.invoked, response⟩).state = ⟨.idle, none⟩
  trace : ∀ response, (finish response ⟨.invoked, response⟩).trace =
    finishTrace reads readsLate response

section

variable {reqLen reads : Nat} {notBegun notInvoked : Int32} {readsLate : Bool}
  {finish : Option AmpBuffer → AmpProgram Int32} {leftover : Option AmpBuffer}

/-- The four ways that a client's call ends: without a buffer, with one that is too small, stuck
in its transaction, or finished. -/
theorem client_outcomes (finishes : Finishes finish reads readsLate) :
    let done := client transport reqLen notBegun notInvoked finish ⟨.idle, leftover⟩
    (¬ ValidLength reqLen ∨ transport.txBuffer = none) ∧
        done = ⟨notBegun, ⟨.idle, leftover⟩, []⟩ ∨
      (∃ size, ValidLength reqLen ∧ transport.txBuffer = some size ∧ ¬ reqLen ≤ size ∧
        done = ⟨notBegun, ⟨.idle, leftover⟩, [(.acquire, .request)]⟩) ∨
      (∃ size, ValidLength reqLen ∧ transport.txBuffer = some size ∧
        ¬ (transport.sent = some size ∧ transport.received = true) ∧
        done.state.status = .inProgress) ∨
      ∃ size, ValidLength reqLen ∧ transport.txBuffer = some size ∧ reqLen ≤ size ∧
        transport.sent = some size ∧ transport.received = true ∧ done.state = ⟨.idle, none⟩ ∧
        done.trace = callTrace leftover transport.delivered reads readsLate := by
  by_cases valid : ValidLength reqLen
  case neg =>
    left
    exact ⟨Or.inl valid, by simp [client, openampMessengerCallBegin, valid]⟩
  cases obtained : transport.txBuffer with
  | none =>
    left
    exact ⟨Or.inr rfl, by
      simp [client, openampMessengerCallBegin, openampVirtioCallBegin, valid, obtained]⟩
  | some size =>
    right
    by_cases fits : reqLen ≤ size
    case neg =>
      left
      refine ⟨size, valid, rfl, fits, ?_⟩
      simp [client, openampMessengerCallBegin, openampVirtioCallBegin, valid, obtained, fits]
    right
    unfold client openampMessengerCallBegin openampVirtioCallBegin openampMessengerCallInvoke
      openampVirtioCallInvoke
    cases sent : transport.sent with
    | none =>
      left
      refine ⟨size, valid, rfl, by simp, ?_⟩
      simp [valid, obtained, fits]
    | some count =>
      by_cases exchanged : some count = some size ∧ transport.received = true
      · right
        refine ⟨size, valid, rfl, fits, exchanged.1, exchanged.2, ?_, ?_⟩
        · simp [valid, obtained, fits, exchanged, deliver_run, finishes.state]
        · simp [valid, obtained, fits, exchanged, deliver_run, finishes.trace, callTrace]
      · left
        refine ⟨size, valid, rfl, exchanged, ?_⟩
        by_cases whole : count = size
        · have silent : transport.received = false := by simpa [whole] using exchanged
          simp [valid, obtained, fits, whole, silent]
        · simp [valid, obtained, fits, whole]

theorem not_settled_request : ¬ Settled ([(.acquire, .request)] : CustodyTrace AmpBuffer) := by
  intro settled
  have request := settled .request
  revert request
  decide

/-- A client concludes its call exactly if nothing disturbs it. -/
theorem client_concluded_iff (finishes : Finishes finish reads readsLate)
    (unset : leftover = none ∨ leftover = some .stray) :
    AmpConcluded (client transport reqLen notBegun notInvoked finish ⟨.idle, leftover⟩) ↔
      ClientUndisturbed transport reqLen leftover readsLate := by
  rw [ampConcluded_iff]
  unfold ClientUndisturbed
  rcases @client_outcomes transport reqLen reads notBegun notInvoked readsLate finish leftover
    finishes with ⟨absent, done⟩ | ⟨size, valid, obtained, small, done⟩ |
      ⟨size, valid, obtained, stopped, stuck⟩ |
      ⟨size, valid, obtained, fits, sent, received, state, trace⟩
  · rw [done]
    refine iff_of_true ⟨rfl, settled_nil⟩ ?_
    rcases absent with invalid | noBuffer
    · exact Or.inl invalid
    · exact Or.inr (Or.inl noBuffer)
  · rw [done]
    refine iff_of_false (fun concluded => not_settled_request concluded.2) ?_
    simp [valid, obtained, small]
  · refine iff_of_false ?_ ?_
    · rintro ⟨idle, _⟩
      rw [stuck] at idle
      cases idle
    · simp only [valid, obtained, not_true_eq_false, reduceCtorEq, false_or]
      rintro ⟨other, same, _, sent, received, _⟩
      cases same
      exact stopped ⟨sent, received⟩
  · rw [state, trace, callTrace_settled_iff unset]
    simp [valid, obtained, fits, sent, received]

/-- A call that leaves the messenger idle leaves no response behind that was not there before. -/
theorem client_state (finishes : Finishes finish reads readsLate)
    (idle : (client transport reqLen notBegun notInvoked finish
      ⟨.idle, leftover⟩).state.status = .idle) :
    (client transport reqLen notBegun notInvoked finish ⟨.idle, leftover⟩).state =
        ⟨.idle, leftover⟩ ∨
      (client transport reqLen notBegun notInvoked finish ⟨.idle, leftover⟩).state =
        ⟨.idle, none⟩ := by
  rcases @client_outcomes transport reqLen reads notBegun notInvoked readsLate finish leftover
    finishes with ⟨_, done⟩ | ⟨_, _, _, _, done⟩ | ⟨_, _, _, _, stuck⟩ |
      ⟨_, _, _, _, _, _, state, _⟩
  · exact Or.inl (congrArg Handled.state done)
  · exact Or.inl (congrArg Handled.state done)
  · rw [stuck] at idle
    cases idle
  · exact Or.inr state

end

def AmpRequest.NullHandle : AmpRequest → Prop
  | .connect => False
  | .call handle _ _ => handle = psaNullHandle
  | .close handle => handle = psaNullHandle

/-- Connecting and calling read the reply after its release. -/
def AmpRequest.readsLate : AmpRequest → Bool
  | .connect => true
  | .call _ _ _ => true
  | .close _ => false

/-- A call that nothing disturbs: it does not get to a buffer, or it is exchanged and leaves no
response that is lost or read after its release. -/
def AmpUndisturbed (messenger : AmpMessenger) (call : AmpCall) : Prop :=
  call.request.NullHandle ∨ ClientUndisturbed call.transport call.request.length
    messenger.respBuf call.request.readsLate

/-- The messenger between calls. The pointer to the response is not set before the first. -/
structure AmpMessenger.Resting (messenger : AmpMessenger) : Prop where
  idle : messenger.status = .idle
  unset : messenger.respBuf = none ∨ messenger.respBuf = some .stray

/-- How each client finishes its call. -/
def finishCall (call : AmpCall) (response : Option AmpBuffer) : AmpProgram Int32 :=
  match call.request with
  | .connect => do
      openampMessengerCallEnd
      match response with
      | some buffer =>
        note .read buffer
        return call.transport.reply
      | none => return psaNullHandle
  | .call _ _ outLen =>
    match response with
    | some buffer => do
        readOutputs call.transport outLen buffer
        openampMessengerCallEnd
        note .read buffer
        return call.transport.reply
    | none => do
        openampMessengerCallEnd
        return psaErrorCommunicationFailure
  | .close _ => do
      openampMessengerCallEnd
      return 0

def AmpCall.reads (call : AmpCall) : Nat :=
  match call.request with
  | .call _ _ outLen =>
    if outLen = 0 then 0 else if call.transport.reply = psaSuccess then 2 else 1
  | _ => 0

theorem readOutputs_run (outLen : Nat) (buffer : AmpBuffer) :
    readOutputs transport outLen buffer messenger =
      ⟨(), messenger, List.replicate
        (if outLen = 0 then 0 else if transport.reply = psaSuccess then 2 else 1)
        (.read, buffer)⟩ := by
  unfold readOutputs
  split
  · rfl
  · by_cases succeeded : transport.reply = psaSuccess
    · simp [succeeded]
    · simp [succeeded]

theorem finishCall_finishes (call : AmpCall) :
    Finishes (finishCall call) call.reads call.request.readsLate := by
  obtain ⟨request, transport⟩ := call
  cases request with
  | connect =>
    constructor
    · rintro (_ | buffer) <;> rfl
    · rintro (_ | buffer) <;> rfl
  | call handle inLens outLen =>
    constructor
    · rintro (_ | buffer)
      · rfl
      · simp [finishCall, readOutputs_run, openampMessengerCallEnd]
    · rintro (_ | buffer)
      · rfl
      · simp [finishCall, readOutputs_run, openampMessengerCallEnd, openampVirtioCallEnd,
          finishTrace, AmpCall.reads, AmpRequest.readsLate]
  | close handle =>
    constructor
    · rintro (_ | buffer) <;> rfl
    · rintro (_ | buffer) <;> rfl

variable {call : AmpCall}

theorem performAmp_client (given : ¬ call.request.NullHandle) :
    ∃ notBegun notInvoked, performAmp call messenger =
      client call.transport call.request.length notBegun notInvoked (finishCall call) messenger := by
  obtain ⟨request, transport⟩ := call
  cases request with
  | connect => exact ⟨psaErrorGenericError, psaNullHandle, rfl⟩
  | call handle inLens outLen =>
    refine ⟨psaErrorGenericError, psaErrorGenericError, ?_⟩
    have present : ¬ handle = psaNullHandle := given
    simp only [performAmp, psaCall, client, present, ↓reduceIte, bind_run]
    generalize openampMessengerCallBegin transport _ messenger = begun
    obtain ⟨value, state, trace⟩ := begun
    cases value with
    | false => rfl
    | true =>
      simp only [↓reduceIte, bind_run]
      generalize openampMessengerCallInvoke transport state = invoked
      obtain ⟨_ | _ | buffer, state, trace⟩ := invoked
      · rfl
      · rfl
      · rfl
  | close handle =>
    refine ⟨0, 0, ?_⟩
    have present : ¬ handle = psaNullHandle := given
    simp only [performAmp, psaClose, client, present, AmpRequest.length, ↓reduceIte, bind_run,
      pure_run, List.append_nil]
    generalize openampMessengerCallBegin transport nsOpenampMsgSize messenger = begun
    obtain ⟨value, state, trace⟩ := begun
    cases value with
    | false => rfl
    | true =>
      simp only [↓reduceIte, bind_run]
      generalize openampMessengerCallInvoke transport state = invoked
      obtain ⟨_ | response, state, trace⟩ := invoked
      · rfl
      · simp only [finishCall, bind_run, pure_run, List.append_nil]

theorem performAmp_nullHandle (null : call.request.NullHandle) :
    (performAmp call messenger).state = messenger ∧ (performAmp call messenger).trace = [] := by
  obtain ⟨request, transport⟩ := call
  cases request with
  | connect => exact absurd null id
  | call handle inLens outLen =>
    have isNull : handle = psaNullHandle := null
    simp [performAmp, psaCall, isNull]
  | close handle =>
    have isNull : handle = psaNullHandle := null
    simp [performAmp, psaClose, isNull]

/-- From a resting messenger, a call concludes exactly if nothing disturbs it. -/
theorem performAmp_concluded_iff (resting : messenger.Resting) (call : AmpCall) :
    AmpConcluded (performAmp call messenger) ↔ AmpUndisturbed messenger call := by
  obtain ⟨status, leftover⟩ := messenger
  obtain ⟨idle, unset⟩ := resting
  subst idle
  by_cases null : call.request.NullHandle
  · obtain ⟨state, trace⟩ := @performAmp_nullHandle ⟨.idle, leftover⟩ call null
    refine iff_of_true ?_ (Or.inl null)
    rw [ampConcluded_iff, state, trace]
    exact ⟨rfl, settled_nil⟩
  · obtain ⟨notBegun, notInvoked, isClient⟩ := @performAmp_client ⟨.idle, leftover⟩ call null
    rw [isClient, client_concluded_iff (finishCall_finishes call) unset]
    simp only [AmpUndisturbed, null, false_or]

theorem performAmp_resting (resting : messenger.Resting)
    (concluded : AmpConcluded (performAmp call messenger)) :
    (performAmp call messenger).state.Resting := by
  obtain ⟨status, leftover⟩ := messenger
  have idle := resting.idle
  subst idle
  by_cases null : call.request.NullHandle
  · rw [(performAmp_nullHandle null).1]
    exact resting
  · have ended := concluded.idle
    obtain ⟨notBegun, notInvoked, isClient⟩ := @performAmp_client ⟨.idle, leftover⟩ call null
    rw [isClient] at ended ⊢
    rcases client_state (finishCall_finishes call) ended with same | cleared
    · rw [same]
      exact resting
    · rw [cleared]
      exact ⟨rfl, Or.inl rfl⟩

/-- How far a call gets, with the last response at an offset of the payload region. -/
def AmpTransport.exchange (transport : AmpTransport) (handle : Int32) (reqLen response : Nat) :
    Openamp.Exchange where
  handle := handle
  begun := decide (ValidLength reqLen) && transport.txBuffer.any (reqLen ≤ ·)
  invoked := transport.sent.isSome && transport.sent == transport.txBuffer && transport.received
  response := if transport.delivered = 0 then none else some response

theorem endPsaCall_status (region : Openamp.PayloadRegion) (outLen response : Nat)
    (memory : Memory Openamp.AmpBuffer) :
    (Openamp.endPsaCall region outLen (some response) memory).value.status =
      Accessing.wordAt (memory .shared) (response + Openamp.replyOffset) 4 := by
  unfold Openamp.endPsaCall
  rw [Accessing.value_bind, Accessing.loadWord_value]
  split_ifs
  · rfl
  · rfl

/-- A call on an idle messenger returns the status of its response in the payload region. -/
theorem psaCall_status (handle : Int32) (reqLen outLen : Nat)
    {response : Nat} (region : Openamp.PayloadRegion) {memory : Memory Openamp.AmpBuffer}
    (reply : transport.reply =
      .ofNat (Accessing.wordAt (memory .shared) (response + Openamp.replyOffset) 4)) :
    (psaCall transport handle reqLen outLen ⟨.idle, none⟩).value = .ofNat (Openamp.psaCall region
      outLen (transport.exchange handle reqLen response) memory).value.status := by
  by_cases null : handle = psaNullHandle
  · subst null
    rfl
  have present : handle ≠ 0 := null
  have generic : .ofNat Openamp.psaErrorGenericError = psaErrorGenericError := rfl
  have failure : .ofNat Openamp.psaErrorCommunicationFailure = psaErrorCommunicationFailure := rfl
  obtain ⟨txBuffer, sent, received, delivered, status⟩ := transport
  simp only [psaCall, Openamp.psaCall, AmpTransport.exchange, openampMessengerCallBegin,
    openampVirtioCallBegin, openampMessengerCallInvoke, openampVirtioCallInvoke, null, present,
    ↓reduceIte, bind_run]
  by_cases valid : ValidLength reqLen
  case neg => simp [valid, generic]
  rcases txBuffer with _ | size
  · simp [valid, generic]
  by_cases fits : reqLen ≤ size
  case neg => simp [valid, fits, generic]
  rcases sent with _ | count
  · simp [valid, fits, generic]
  by_cases whole : count = size
  case neg => simp [valid, fits, whole, generic]
  cases received with
  | false => simp [valid, fits, whole, generic]
  | true =>
    cases delivered with
    | zero => simp [valid, fits, whole, deliver_run, lastResponse, Openamp.endPsaCall, failure]
    | succ delivered =>
      simpa [valid, fits, whole, deliver_run, lastResponse_succ, endPsaCall_status] using reply

end

section

structure RseMessenger.Ready (messenger : RseMessenger) : Prop where
  begins : ∀ transport reqLen, ValidLength reqLen → transport.reqCalloc = true →
    (rseCommsMessengerCallBegin transport reqLen messenger).value = true

/-- The messenger is idle, every buffer is settled and the next call can begin. -/
structure RseConcluded (done : Handled RseMessenger RseBuffer Int32) : Prop where
  idle : done.state = ⟨false, false⟩
  settled : Settled done.trace
  ready : done.state.Ready

/-- There is memory for the response, and it is received. -/
def RseTransport.Exchanged (transport : RseTransport) : Prop :=
  transport.respCalloc = true ∧
    (transport.send && transport.waitData && transport.receive) = true

/-- A call that does not begin, or that gets through to its end. -/
def RseUndisturbed (call : RseCall) : Prop :=
  ¬ ValidLength call.reqLen ∨ call.transport.reqCalloc = false ∨
    call.transport.serialized = psaSuccess ∧ call.transport.Exchanged ∧
      call.transport.decoded.status = psaSuccess

theorem rseIdle_ready : RseMessenger.Ready ⟨false, false⟩ where
  begins := by
    intro transport reqLen valid allocated
    simp [rseCommsMessengerCallBegin, valid, allocated]

variable {done : Handled RseMessenger RseBuffer Int32}

theorem rseConcluded_idle
    (idle : done.state = ⟨false, false⟩) (settled : Settled done.trace) : RseConcluded done :=
  ⟨idle, settled, by rw [idle]; exact rseIdle_ready⟩

theorem not_rseConcluded_held (kept : done.state.reqBuf = true) : ¬ RseConcluded done := by
  intro concluded
  rw [concluded.idle] at kept
  cases kept

theorem rseCommsMessengerCallInvoke_cases (transport : RseTransport) :
    let invoked := rseCommsMessengerCallInvoke transport ⟨true, false⟩
    transport.Exchanged ∧
        invoked = ⟨true, ⟨true, true⟩, [(.acquire, .response), (.read, .request)]⟩ ∨
      ¬ transport.Exchanged ∧ invoked.value = false ∧ invoked.state = ⟨true, false⟩ := by
  unfold RseTransport.Exchanged rseCommsMessengerCallInvoke rseCommsPlatformInvoke
  by_cases allocated : transport.respCalloc = true
  · by_cases exchanged : (transport.send && transport.waitData && transport.receive) = true
    · left
      simp [allocated, exchanged]
    · right
      simp [allocated, exchanged]
  · right
    simp [allocated]

theorem rseProtocolDeserializeReply_run (decoded : Decoded) (messenger : RseMessenger) :
    rseProtocolDeserializeReply decoded messenger =
      ⟨decoded.status, messenger, (.read, .response) ::
        if decoded.protocol = some .pointerAccess then [(.read, .request)] else []⟩ := by
  unfold rseProtocolDeserializeReply
  by_cases pointers : decoded.protocol = some .pointerAccess
  · simp [pointers]
  · simp [pointers]

theorem rsePsaCall_begun_iff {call : RseCall} (valid : ValidLength call.reqLen)
    (allocated : call.transport.reqCalloc = true) :
    RseConcluded (rsePsaCall call ⟨false, false⟩) ↔
      call.transport.serialized = psaSuccess ∧ call.transport.Exchanged ∧
        call.transport.decoded.status = psaSuccess := by
  have begun : rseCommsMessengerCallBegin call.transport call.reqLen ⟨false, false⟩ =
      ⟨true, ⟨true, false⟩, [(.acquire, .request)]⟩ := by
    simp [rseCommsMessengerCallBegin, valid, allocated]
  unfold rsePsaCall
  simp only [bind_run, begun, ↓reduceIte]
  by_cases serialized : call.transport.serialized = psaSuccess
  case neg =>
    simp only [serialized, ↓reduceIte, pure_run, false_and, iff_false]
    exact not_rseConcluded_held rfl
  simp only [serialized, ↓reduceIte, bind_run, true_and]
  rcases rseCommsMessengerCallInvoke_cases call.transport with
    ⟨exchanged, invoked⟩ | ⟨stopped, value, state⟩
  case inr =>
    simp only [stopped, value, state, Bool.false_eq_true, ↓reduceIte, pure_run, false_and,
      iff_false]
    exact not_rseConcluded_held rfl
  have ended : rseCommsMessengerCallEnd ⟨true, true⟩ =
      ⟨(), ⟨false, false⟩, [(.release, .request), (.release, .response)]⟩ := rfl
  simp only [invoked, exchanged, ↓reduceIte, true_and, bind_run, rseProtocolDeserializeReply_run]
  by_cases deserialized : call.transport.decoded.status = psaSuccess
  · simp only [deserialized, ↓reduceIte, iff_true, bind_run, ended, pure_run]
    refine rseConcluded_idle rfl ?_
    intro buffer
    by_cases pointers : call.transport.decoded.protocol = some .pointerAccess
    · cases buffer <;> simp [pointers, Custody.orderly, Custody.closes]
    · cases buffer <;> simp [pointers, Custody.orderly, Custody.closes]
  · simp only [deserialized, ↓reduceIte, iff_false, pure_run]
    exact not_rseConcluded_held rfl

theorem rsePsaCall_concluded_iff (call : RseCall) :
    RseConcluded (rsePsaCall call ⟨false, false⟩) ↔ RseUndisturbed call := by
  unfold RseUndisturbed
  by_cases valid : ValidLength call.reqLen
  case neg =>
    have refused : rsePsaCall call ⟨false, false⟩ = ⟨psaErrorGenericError, ⟨false, false⟩, []⟩ := by
      simp [rsePsaCall, rseCommsMessengerCallBegin, valid]
    rw [refused]
    exact iff_of_true (rseConcluded_idle rfl settled_nil) (Or.inl valid)
  by_cases allocated : call.transport.reqCalloc = true
  case neg =>
    have refused : rsePsaCall call ⟨false, false⟩ = ⟨psaErrorGenericError, ⟨false, false⟩, []⟩ := by
      simp [rsePsaCall, rseCommsMessengerCallBegin, valid, allocated]
    rw [refused]
    exact iff_of_true (rseConcluded_idle rfl settled_nil)
      (Or.inr (Or.inl (Bool.eq_false_iff.mpr allocated)))
  rw [rsePsaCall_begun_iff valid allocated]
  simp only [valid, allocated, not_true_eq_false, Bool.true_eq_false, false_or]

end

def rseStep (messenger : RseMessenger) (call : RseCall) : RseMessenger :=
  (rsePsaCall call messenger).state

def ampStep (messenger : AmpMessenger) (call : AmpCall) : AmpMessenger :=
  (performAmp call messenger).state

/-- The messenger before its first call. The pointer to the response is not initialized: it may be
null or not. -/
def ampInitial (stray : Bool) : AmpMessenger := ⟨.idle, if stray then some .stray else none⟩

theorem ampInitial_resting (stray : Bool) : (ampInitial stray).Resting := by
  refine ⟨rfl, ?_⟩
  cases stray with
  | false => exact Or.inl rfl
  | true => exact Or.inr rfl

/-- Both channels recover from every call of a sequence exactly if nothing disturbs any of them. -/
theorem channels_recover_iff (rseCalls : List RseCall) (stray : Bool) (ampCalls : List AmpCall) :
    (Admitted rseStep (fun messenger call => RseConcluded (rsePsaCall call messenger))
        ⟨false, false⟩ rseCalls ↔
      Admitted rseStep (fun _ call => RseUndisturbed call) ⟨false, false⟩ rseCalls) ∧
    (Admitted ampStep (fun messenger call => AmpConcluded (performAmp call messenger))
        (ampInitial stray) ampCalls ↔
      Admitted ampStep AmpUndisturbed (ampInitial stray) ampCalls) := by
  constructor
  · apply admitted_congr (fun messenger => messenger = ⟨false, false⟩)
    · rintro _ call rfl
      exact rsePsaCall_concluded_iff call
    · intro messenger call _ concluded
      exact concluded.idle
    · rfl
  · apply admitted_congr AmpMessenger.Resting
    · intro messenger call resting
      exact performAmp_concluded_iff resting call
    · intro messenger call resting concluded
      exact performAmp_resting resting concluded
    · exact ampInitial_resting stray

/-- Everything succeeds, or everything but the sending of the request. -/
def rseTransport (send : Bool) : RseTransport :=
  ⟨true, psaSuccess, true, send, true, true, ⟨psaSuccess, some 0, [], some .embed⟩⟩

/-- After a request could not be sent, the next call cannot begin; and a connection that succeeds
reads its response after it has been released. -/
theorem failedSend_wedges :
    let failed := rsePsaCall ⟨24, rseTransport false⟩ ⟨false, false⟩
    let next := rsePsaCall ⟨24, rseTransport true⟩ failed.state
    let connected := performAmp ⟨.connect, ⟨some 496, some 496, true, 1, 1⟩⟩ (ampInitial false)
    failed.state.reqBuf = true ∧ next.value = psaErrorGenericError ∧
      connected.value = 1 ∧
      history (.response 0) connected.trace = [.acquire, .release, .read] := by
  decide

end PsaComms.Channels

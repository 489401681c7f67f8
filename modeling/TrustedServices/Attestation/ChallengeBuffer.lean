import TrustedServices.Attestation.TokenClaims
import TrustedServices.Common.Tlv
import TrustedServices.Rpc.Request

/- The challenge on its way from a request to what produces a token. -/
namespace Attestation.Report

open Lib Common Rpc

inductive Token
  | eat (token : EatToken)
  | remote (token : Bytes)

/-- A challenge as it is handed on: a length, and what is read with it from the start of the
buffer. -/
structure HandedChallenge where
  length : Nat
  bytes : Bytes
  deriving DecidableEq

/-- The reporters that a deployment chooses from. That over PSA IPC calls a remote service, which
answers with a status and what is in the token buffer. -/
inductive Reporter
  | localReporter (platform : Platform) (register : ClaimsRegister)
  | psaIpcReporter (remote : HandedChallenge → PsaStatus × Bytes)

/-- The result of `attest_report_create`, and the challenge that what produces the token was given. -/
structure Created where
  handed : Option HandedChallenge
  status : PsaStatus
  report : Option Token

/-- The challenge is the first `length` bytes of a memory. -/
def Reporter.create (reporter : Reporter) (clientId : Int32) (memory : Bytes) (length : Nat) :
    Created :=
  let handed : HandedChallenge := ⟨length, memory.take length⟩
  match reporter with
  | .localReporter platform register =>
    if validateChallenge handed.length then
      let created := createReport platform register clientId handed.bytes
      ⟨some handed, created.1, created.2.map .eat⟩
    else ⟨none, psaErrorInvalidArgument, none⟩
  | .psaIpcReporter remote =>
    let answer := remote handed
    ⟨some handed, answer.1, if answer.1 = psaSuccess then some (.remote answer.2) else none⟩

def psaInitialAttestChallengeSize64 : Nat := 64

/-- The challenge buffer of a handler and what lies behind it. -/
structure HandlerStack where
  challenge : Bytes
  behind : Bytes
  size : challenge.length = psaInitialAttestChallengeSize64

/-- The statuses of a request, the report that was created, and the challenge that was handed on. -/
structure Handled where
  rpcStatus : RpcStatus
  serviceStatus : PsaStatus
  report : Option Token
  handed : Option HandedChallenge

def tsAttestationGetTokenInTagAuthChallenge : BitVec 16 := 1

/-- The challenge buffer with the challenge of the request, and its length. -/
def deserializeGetTokenReq (body challenge : Bytes) : Option (Bytes × Nat) :=
  match tlvFindDecode body tsAttestationGetTokenInTagAuthChallenge with
  | none => none
  | some (record, _) =>
    if record.length.toNat ≤ challenge.length then
      some (record.value ++ challenge.drop record.length.toNat, record.length.toNat)
    else none

def deserializeGetTokenSizeReq (body : Bytes) : Option Nat :=
  if 4 ≤ body.length then some (leNat (body.take 4)) else none

variable (reporter : Reporter) (clientId : Int32) (stack : HandlerStack) (serializes : Bool)

/-- What both handlers do with the challenge. The response is serialized only for a report. -/
def reportChallenge (challenge : Bytes) (length : Nat) : Handled :=
  let created := reporter.create clientId (challenge ++ stack.behind) length
  { rpcStatus :=
      if created.status = psaSuccess then
        if serializes then .success else .errorInternal
      else .success
    serviceStatus := created.status
    report := created.report
    handed := created.handed }

def invalidRequestBody : Handled := ⟨.errorInvalidRequestBody, psaSuccess, none, none⟩

def getTokenHandler (body : Bytes) : Handled :=
  match deserializeGetTokenReq body stack.challenge with
  | some (challenge, length) => reportChallenge reporter clientId stack serializes challenge length
  | none => invalidRequestBody

def getTokenSizeHandler (body : Bytes) : Handled :=
  match deserializeGetTokenSizeReq body with
  | some length =>
    reportChallenge reporter clientId stack serializes
      (List.replicate psaInitialAttestChallengeSize64 0) length
  | none => invalidRequestBody

inductive TokenRequest
  | getToken (body : Bytes)
  | getTokenSize (body : Bytes)

def handleRequest : TokenRequest → Handled
  | .getToken body => getTokenHandler reporter clientId stack serializes body
  | .getTokenSize body => getTokenSizeHandler reporter clientId stack serializes body

/-- The length of the challenge that a request states. -/
def TokenRequest.challengeLength : TokenRequest → Option Nat
  | .getToken body =>
    (tlvFindDecode body tsAttestationGetTokenInTagAuthChallenge).map (·.1.length.toNat)
  | .getTokenSize body => deserializeGetTokenSizeReq body

structure ChallengeKept (request : TokenRequest) (handled : Handled) : Prop where
  inside : ∀ handed ∈ handled.handed,
    handed.length ≤ psaInitialAttestChallengeSize64 ∧ handed.bytes.length = handed.length
  exactly : ∀ body, request = .getToken body → ∀ handed ∈ handled.handed, ∃ record behind,
    tlvFindDecode body tsAttestationGetTokenInTagAuthChallenge = some (record, behind) ∧
      handed.bytes = record.value
  refused : (∀ length, request.challengeLength = some length → validateChallenge length = false) →
    (handled.rpcStatus ≠ .success ∨ handled.serviceStatus ≠ psaSuccess) ∧ handled.report = none

/-- The local reporter checks the length itself. Over PSA IPC the request has to state a length
that is defined or, within the buffer, one that the remote service refuses. -/
def LengthChecked : Reporter → TokenRequest → Prop
  | .localReporter _ _, _ => True
  | .psaIpcReporter remote, .getToken body => ∀ record behind,
      tlvFindDecode body tsAttestationGetTokenInTagAuthChallenge = some (record, behind) →
      record.length.toNat ≤ psaInitialAttestChallengeSize64 →
      validateChallenge record.length.toNat = true ∨
        (remote ⟨record.length.toNat, record.value⟩).1 ≠ psaSuccess
  | .psaIpcReporter remote, .getTokenSize body => ∀ length,
      deserializeGetTokenSizeReq body = some length →
      validateChallenge length = true ∨
        length ≤ psaInitialAttestChallengeSize64 ∧
          (remote ⟨length, List.replicate length 0⟩).1 ≠ psaSuccess

theorem validateChallenge_le {length : Nat} (valid : validateChallenge length = true) :
    length ≤ psaInitialAttestChallengeSize64 := by
  simp only [validateChallenge, Bool.decide_or, Bool.or_eq_true, decide_eq_true_eq] at valid
  unfold psaInitialAttestChallengeSize64
  omega

theorem invalidRequestBody_kept (request : TokenRequest) :
    ChallengeKept request invalidRequestBody where
  inside := by rintro handed ⟨⟩
  exactly := by rintro body _ handed ⟨⟩
  refused := by
    intro _
    exact ⟨Or.inl (by decide), rfl⟩

theorem Reporter.create_handed {reporter : Reporter} {clientId : Int32} {memory : Bytes}
    {length : Nat} {handed : HandedChallenge}
    (given : handed ∈ (reporter.create clientId memory length).handed) :
    handed = ⟨length, memory.take length⟩ ∧
      (validateChallenge length = true ∨ ∃ remote, reporter = .psaIpcReporter remote) := by
  unfold Reporter.create at given
  cases reporter with
  | localReporter platform register =>
    dsimp only at given
    split at given
    · exact ⟨(Option.some.inj given).symm, .inl (by assumption)⟩
    · cases given
  | psaIpcReporter remote => exact ⟨(Option.some.inj given).symm, .inr ⟨remote, rfl⟩⟩

variable {challenge : Bytes} {request : TokenRequest} {length : Nat}
  (stated : request.challengeLength = some length)
  (size : challenge.length = psaInitialAttestChallengeSize64)
  (exactly : ∀ body, request = .getToken body → ∃ record behind,
    tlvFindDecode body tsAttestationGetTokenInTagAuthChallenge = some (record, behind) ∧
      (challenge ++ stack.behind).take length = record.value)

include stated size exactly

theorem reportChallenge_kept
    (inside : validateChallenge length = true ∨ (∃ remote, reporter = .psaIpcReporter remote) →
      length ≤ psaInitialAttestChallengeSize64)
    (refused : validateChallenge length = false →
      (reporter.create clientId (challenge ++ stack.behind) length).status ≠ psaSuccess ∧
        (reporter.create clientId (challenge ++ stack.behind) length).report = none) :
    ChallengeKept request
      (reportChallenge reporter clientId stack serializes challenge length) where
  inside := by
    intro handed given
    obtain ⟨rfl, reached⟩ := Reporter.create_handed given
    have fits := inside reached
    refine ⟨fits, List.length_take_of_le ?_⟩
    rw [List.length_append, size]
    exact Nat.le_add_right_of_le fits
  exactly := by
    intro body same handed given
    obtain ⟨rfl, _⟩ := Reporter.create_handed given
    exact exactly body same
  refused := by
    intro undefined
    obtain ⟨failure, noReport⟩ := refused (undefined length stated)
    exact ⟨Or.inr failure, noReport⟩

theorem reportChallenge_local_kept (platform : Platform) (register : ClaimsRegister) :
    ChallengeKept request (reportChallenge (.localReporter platform register) clientId stack serializes
      challenge length) := by
  apply reportChallenge_kept _ _ _ _ stated size exactly
  · rintro (valid | ⟨_, ⟨⟩⟩)
    exact validateChallenge_le valid
  · intro undefined
    simp only [Reporter.create, undefined, Bool.false_eq_true, ↓reduceIte]
    exact ⟨by decide, trivial⟩

theorem reportChallenge_psaIpc_kept_iff (remote : HandedChallenge → PsaStatus × Bytes) :
    ChallengeKept request
        (reportChallenge (.psaIpcReporter remote) clientId stack serializes challenge length) ↔
      length ≤ psaInitialAttestChallengeSize64 ∧ (validateChallenge length = true ∨
        (remote ⟨length, (challenge ++ stack.behind).take length⟩).1 ≠ psaSuccess) := by
  constructor
  · intro kept
    refine ⟨(kept.inside ⟨length, _⟩ rfl).1, ?_⟩
    cases valid : validateChallenge length with
    | true => exact Or.inl rfl
    | false =>
      -- a remote success leaves a report
      refine .inr fun succeeded => ?_
      obtain ⟨_, noReport⟩ := kept.refused fun other same => by
        rw [stated] at same
        cases same
        exact valid
      simp only [reportChallenge, Reporter.create, succeeded, ↓reduceIte] at noReport
      cases noReport
  · intro ⟨inside, checked⟩
    apply reportChallenge_kept _ _ _ _ stated size exactly fun _ => inside
    intro undefined
    rw [undefined] at checked
    have failure := checked.resolve_left nofun
    simp only [Reporter.create, failure, ↓reduceIte]
    exact ⟨failure, trivial⟩

omit stated size exactly

/-- The buffer that a challenge was copied to starts with it. -/
theorem deserializeGetTokenReq_some {body filled : Bytes}
    (parsed : deserializeGetTokenReq body challenge = some (filled, length)) :
    ∃ record behind,
      tlvFindDecode body tsAttestationGetTokenInTagAuthChallenge = some (record, behind) ∧
      length = record.length.toNat ∧ length ≤ challenge.length ∧
      filled.length = challenge.length ∧
      ∀ more, (filled ++ more).take length = record.value := by
  unfold deserializeGetTokenReq at parsed
  split at parsed
  · cases parsed
  · rename_i record behind found
    split_ifs at parsed ⊢ with fits
    cases parsed
    have whole := tlvFindDecode_length found
    refine ⟨record, behind, found, rfl, fits, ?_, ?_⟩
    · rw [List.length_append, List.length_drop]
      omega
    · intro more
      rw [List.append_assoc, ← whole, List.take_left]

theorem take_replicate_zero (behind : Bytes)
    (inside : length ≤ psaInitialAttestChallengeSize64) :
    (List.replicate psaInitialAttestChallengeSize64 (0 : UInt8) ++ behind).take length =
      List.replicate length 0 := by
  rw [List.take_append_of_le_length (by rw [List.length_replicate]; exact inside),
    List.take_replicate, Nat.min_eq_left inside]

theorem getTokenHandler_kept_iff (body : Bytes) :
    ChallengeKept (.getToken body) (getTokenHandler reporter clientId stack serializes body) ↔
      LengthChecked reporter (.getToken body) := by
  unfold getTokenHandler
  cases parsed : deserializeGetTokenReq body stack.challenge with
  | none =>
    refine iff_of_true (invalidRequestBody_kept _) ?_
    cases reporter with
    | localReporter => trivial
    | psaIpcReporter remote =>
      intro record behind found fits
      unfold deserializeGetTokenReq at parsed
      rw [found] at parsed
      simp only [stack.size, fits, ↓reduceIte] at parsed
      cases parsed
  | some copied =>
    obtain ⟨filled, length⟩ := copied
    obtain ⟨record, behind, found, same, fits, size, starts⟩ := deserializeGetTokenReq_some parsed
    rw [stack.size] at fits size
    have stated : (TokenRequest.getToken body).challengeLength = some length := by
      simp only [TokenRequest.challengeLength, found, Option.map_some, same]
    have exactly : ∀ other, TokenRequest.getToken body = .getToken other → ∃ record behind,
        tlvFindDecode other tsAttestationGetTokenInTagAuthChallenge = some (record, behind) ∧
        (filled ++ stack.behind).take length = record.value := by
      intro other isBody
      cases isBody
      exact ⟨record, behind, found, starts _⟩
    cases reporter with
    | localReporter platform register =>
      exact iff_of_true (reportChallenge_local_kept clientId stack serializes stated size exactly
        platform register) trivial
    | psaIpcReporter remote =>
      rw [reportChallenge_psaIpc_kept_iff clientId stack serializes stated size exactly remote,
        starts]
      constructor
      · intro ⟨_, checked⟩ other after otherFound _
        rw [found] at otherFound
        cases otherFound
        rwa [← same]
      · intro checked
        have ofRecord := checked record behind found (by rwa [← same])
        rw [← same] at ofRecord
        exact ⟨fits, ofRecord⟩

theorem getTokenSizeHandler_kept_iff (body : Bytes) :
    ChallengeKept (.getTokenSize body)
        (getTokenSizeHandler reporter clientId stack serializes body) ↔
      LengthChecked reporter (.getTokenSize body) := by
  unfold getTokenSizeHandler
  cases parsed : deserializeGetTokenSizeReq body with
  | none =>
    refine iff_of_true (invalidRequestBody_kept _) ?_
    cases reporter with
    | localReporter => trivial
    | psaIpcReporter remote =>
      intro length stated
      rw [parsed] at stated
      cases stated
  | some length =>
    have stated : (TokenRequest.getTokenSize body).challengeLength = some length := parsed
    have size : (List.replicate psaInitialAttestChallengeSize64 (0 : UInt8)).length =
        psaInitialAttestChallengeSize64 := List.length_replicate
    have exactly : ∀ other, TokenRequest.getTokenSize body = .getToken other →
        ∃ record behind,
          tlvFindDecode other tsAttestationGetTokenInTagAuthChallenge = some (record, behind) ∧
          (List.replicate psaInitialAttestChallengeSize64 0 ++ stack.behind).take length =
            record.value := by
      intro other isBody
      cases isBody
    cases reporter with
    | localReporter platform register =>
      exact iff_of_true (reportChallenge_local_kept clientId stack serializes stated size exactly
        platform register) trivial
    | psaIpcReporter remote =>
      rw [reportChallenge_psaIpc_kept_iff clientId stack serializes stated size exactly remote]
      constructor
      · intro ⟨inside, checked⟩ other otherStated
        rw [parsed] at otherStated
        cases otherStated
        rw [take_replicate_zero stack.behind inside] at checked
        exact checked.imp_right fun failure => ⟨inside, failure⟩
      · intro checked
        rcases checked length parsed with valid | ⟨inside, failure⟩
        · exact ⟨validateChallenge_le valid, Or.inl valid⟩
        · rw [take_replicate_zero stack.behind inside]
          exact ⟨inside, Or.inr failure⟩

/-- The challenge stays in its buffer and an undefined length is refused exactly if the length is
checked behind the handler. -/
theorem handleRequest_challengeKept_iff (reporter : Reporter) (clientId : Int32)
    (stack : HandlerStack) (serializes : Bool) (request : TokenRequest) :
    ChallengeKept request (handleRequest reporter clientId stack serializes request) ↔
      LengthChecked reporter request := by
  cases request with
  | getToken body => exact getTokenHandler_kept_iff reporter clientId stack serializes body
  | getTokenSize body => exact getTokenSizeHandler_kept_iff reporter clientId stack serializes body

/-- A size request for a challenge of 4096 bytes hands on 4096 bytes from the 64 byte buffer. -/
theorem oversizedChallenge_handedOn :
    let stack : HandlerStack := ⟨List.replicate 64 0xAA, List.replicate 4032 0xBB, rfl⟩
    let handled := handleRequest (.psaIpcReporter fun _ => (psaErrorInvalidArgument, [])) 0 stack true
      (.getTokenSize [0x00, 0x10, 0x00, 0x00])
    handled.handed.map (fun handed => (handed.length, handed.bytes.getD 64 0)) =
      some (4096, 0xBB) := by
  decide +kernel

end Attestation.Report

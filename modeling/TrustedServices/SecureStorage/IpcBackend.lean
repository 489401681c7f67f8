import TrustedServices.SecureStorage.Honesty

/- A storage backend that hands its calls on to a remote PSA service. -/
namespace SecureStorage

open Lib

def psaErrorProgrammerError : PsaStatus := -129
def psaErrorNotSupported : PsaStatus := -134

inductive StorageCall
  | request (request : StorageRequest)
  | getSupport
  deriving DecidableEq, Repr

/-- A call of the backend's interface. The last field tells whether `p_data_length` is given. -/
structure BackendCall where
  clientId : BitVec 32
  call : StorageCall
  hasLength : Bool

def StorageCall.room : StorageCall → Nat
  | .request (.get _ _ dataSize) => dataSize
  | .request (.getInfo _) => 12
  | .getSupport => 4
  | _ => 0

/-- The status of the remote service, and what it writes to the output vector. -/
structure PsaReply where
  status : PsaStatus
  output : Bytes

structure RemoteStorage (State : Type) where
  perform : State → BitVec 32 → StorageCall → PsaReply × State
  fits : ∀ state clientId call, (perform state clientId call).1.output.length ≤ call.room

/-- An input vector, with the bytes that its base points to. -/
structure PsaInvec where
  base : Bytes
  len : BitVec 32

def PsaInvec.bytes (vec : PsaInvec) : Bytes := vec.base.take vec.len.toNat

/-- What the remote service finds in the vectors of a message. -/
def decodeMessage (type : Nat) (inVec : List PsaInvec) (outLen : List (BitVec 32)) :
    Option StorageCall :=
  match type, inVec.map PsaInvec.bytes, outLen with
  | 1001, [uid, data, flags], [] =>
    some (.request (.set (word64 uid 0) data (word32 flags 0)))
  | 1002, [uid, offset], [len] =>
    some (.request (.get (word64 uid 0) ((word32 offset 0).setWidth 64) len.toNat))
  | 1003, [uid], [_] => some (.request (.getInfo (word64 uid 0)))
  | 1004, [uid], [] => some (.request (.remove (word64 uid 0)))
  | 1005, [_], [_] => some .getSupport
  | _, _, _ => none

/-- What a function of the interface gives back: a status with the output and, if it was written,
the length of the data, or a map of features. -/
inductive Returned
  | status (status : PsaStatus) (output : Bytes) (dataLength : Option Nat)
  | features (map : BitVec 32)
  deriving DecidableEq, Repr

/-- What the caller gets, and what the remote service did. -/
structure IpcOutcome (State : Type) where
  returned : Returned
  performed : Option StorageCall
  state : State

section

variable {State : Type} (remote : RemoteStorage State) (state : State) (clientId : BitVec 32)

def IpcOutcome.refused (status : PsaStatus) : IpcOutcome State :=
  ⟨.status status [] none, none, state⟩

def psaCallClientId (type : Nat) (inVec : List PsaInvec) (outLen : List (BitVec 32))
    (returned : PsaReply → Returned) : IpcOutcome State :=
  match decodeMessage type inVec outLen with
  | none => ⟨returned ⟨psaErrorProgrammerError, []⟩, none, state⟩
  | some call =>
    let (reply, after) := remote.perform state clientId call
    ⟨returned reply, some call, after⟩

def uidVec (uid : BitVec 64) : PsaInvec := ⟨leBytes 8 uid.toNat, 8⟩

def wordVec (word : BitVec 32) : PsaInvec := ⟨leBytes 4 word.toNat, 4⟩

def secureStorageIpcSet (uid : BitVec 64) (data : Bytes) (createFlags : BitVec 32) :
    IpcOutcome State :=
  psaCallClientId remote state clientId 1001
    [uidVec uid, ⟨data, BitVec.ofNat 32 data.length⟩, wordVec createFlags] []
    fun reply => .status reply.status reply.output none

def secureStorageIpcGet (uid dataOffset : BitVec 64) (dataSize : Nat) (hasLength : Bool) :
    IpcOutcome State :=
  if hasLength then
    psaCallClientId remote state clientId 1002
      [uidVec uid, wordVec (dataOffset.setWidth 32)] [BitVec.ofNat 32 dataSize] fun reply =>
        .status reply.status reply.output <| if reply.status = psaSuccess then
          some (BitVec.ofNat 32 reply.output.length).toNat else none
  else .refused state psaErrorInvalidArgument

def secureStorageIpcGetInfo (uid : BitVec 64) : IpcOutcome State :=
  psaCallClientId remote state clientId 1003 [uidVec uid] [12]
    fun reply => .status reply.status reply.output none

def secureStorageIpcRemove (uid : BitVec 64) : IpcOutcome State :=
  psaCallClientId remote state clientId 1004 [uidVec uid] []
    fun reply => .status reply.status reply.output none

/-- The flags in the output vector are not looked at. -/
def secureStorageGetSupport : IpcOutcome State :=
  psaCallClientId remote state clientId 1005 [wordVec 0] [4]
    fun reply => .features reply.status.toBitVec

end

section

variable {State : Type} (remote : RemoteStorage State) (state : State)

def secureStorageIpc (call : BackendCall) : IpcOutcome State :=
  match call.call with
  | .request (.set uid data createFlags) =>
    secureStorageIpcSet remote state call.clientId uid data createFlags
  | .request (.get uid dataOffset dataSize) =>
    secureStorageIpcGet remote state call.clientId uid dataOffset dataSize call.hasLength
  | .request (.getInfo uid) => secureStorageIpcGetInfo remote state call.clientId uid
  | .request (.remove uid) => secureStorageIpcRemove remote state call.clientId uid
  | .request (.create ..) | .request (.setExtended ..) => .refused state psaErrorNotSupported
  | .getSupport => secureStorageGetSupport remote state call.clientId

/-- What the interface defines for a reply of the remote service. -/
def StorageCall.returned (reply : PsaReply) : StorageCall → Returned
  | .getSupport => .features (word32 reply.output 0)
  | .request (.get ..) => .status reply.status reply.output
      (if reply.status = psaSuccess then some reply.output.length else none)
  | .request _ => .status reply.status reply.output none

/-- The call is refused, or the remote service performs it and its reply is returned. -/
def IpcOutcome.Conveys (outcome : IpcOutcome State) (clientId : BitVec 32) (call : StorageCall) :
    Prop :=
  (∃ status < 0, outcome = .refused state status) ∨
    let (reply, after) := remote.perform state clientId call
    outcome = ⟨call.returned reply, some call, after⟩

def Transparent (call : BackendCall) : Prop :=
  (secureStorageIpc remote state call).Conveys remote state call.clientId call.call

/-- The arguments fit into words of 32 bits, and flags are returned that equal the status. -/
def Representable (call : BackendCall) : Prop :=
  match call.call with
  | .request (.set _ data _) => data.length < 2 ^ 32
  | .request (.get _ dataOffset dataSize) =>
    call.hasLength = true → dataOffset.toNat < 2 ^ 32 ∧ dataSize < 2 ^ 32
  | .getSupport =>
    let reply := (remote.perform state call.clientId .getSupport).1
    reply.status.toBitVec = word32 reply.output 0
  | _ => True

/-- What holds of every call of a sequence, in the state that it finds. -/
def EachCall (holds : State → BackendCall → Prop) : List BackendCall → State → Prop
  | [], _ => True
  | call :: rest, state =>
    holds state call ∧ EachCall holds rest (secureStorageIpc remote state call).state

end

@[simp] theorem word64_uidVec (uid : BitVec 64) : word64 (uidVec uid).bytes 0 = uid :=
  word64_last uid

@[simp] theorem word32_wordVec (word : BitVec 32) : word32 (wordVec word).bytes 0 = word :=
  word32_last word

section

variable {State : Type} {remote : RemoteStorage State} {state : State} {clientId : BitVec 32}
  {type : Nat} {inVec : List PsaInvec} {outLen : List (BitVec 32)} {returned : PsaReply → Returned}
  {call performed : StorageCall}

/-- A message conveys the call that it decodes to, if what is returned for the reply is what the
interface defines. -/
theorem psaCallClientId_conveys_iff
    (decoded : decodeMessage type inVec outLen = some performed) :
    (psaCallClientId remote state clientId type inVec outLen returned).Conveys remote state clientId
        call ↔
      performed = call ∧ let reply := (remote.perform state clientId call).1
        returned reply = call.returned reply := by
  unfold IpcOutcome.Conveys psaCallClientId
  rw [decoded]
  constructor
  · rintro (⟨_, _, refused⟩ | performs)
    · cases congrArg IpcOutcome.performed refused
    · obtain rfl : performed = call := Option.some.inj (congrArg IpcOutcome.performed performs)
      exact ⟨rfl, congrArg IpcOutcome.returned performs⟩
  · rintro ⟨rfl, same⟩
    exact .inr (congrArg (IpcOutcome.mk · _ _) same)

theorem refused_conveys {status : PsaStatus} (failure : status < 0) :
    (IpcOutcome.refused state status).Conveys remote state clientId call :=
  .inl ⟨status, failure, rfl⟩

theorem secureStorageIpc_conveys_iff (remote : RemoteStorage State) (state : State)
    (call : BackendCall) :
    Transparent remote state call ↔ Representable remote state call := by
  obtain ⟨clientId, call, hasLength⟩ := call
  unfold Transparent secureStorageIpc
  match call with
  | .request (.set uid data createFlags) =>
    have whole : PsaInvec.bytes ⟨data, BitVec.ofNat 32 data.length⟩ = data ↔
        data.length < 2 ^ 32 := by
      rw [PsaInvec.bytes, List.take_eq_self_iff, BitVec.toNat_ofNat]
      dsimp only
      omega
    refine Iff.trans (psaCallClientId_conveys_iff rfl) ?_
    simp [Representable, StorageCall.returned, whole]
  | .request (.get uid dataOffset dataSize) =>
    cases hasLength with
    | false => exact iff_of_true (refused_conveys (by decide)) nofun
    | true =>
      dsimp only [secureStorageIpcGet]
      rw [if_pos rfl]
      refine Iff.trans (psaCallClientId_conveys_iff rfl) ?_
      have offset : (dataOffset.setWidth 32).setWidth 64 = dataOffset ↔
          dataOffset.toNat < 2 ^ 32 := by
        rw [← BitVec.toNat_inj, BitVec.toNat_setWidth, BitVec.toNat_setWidth]
        omega
      have size : (BitVec.ofNat 32 dataSize).toNat = dataSize ↔ dataSize < 2 ^ 32 := by
        rw [BitVec.toNat_ofNat]
        omega
      have room := remote.fits state clientId (.request (.get uid dataOffset dataSize))
      have length (fits : dataSize < 2 ^ 32) : (BitVec.ofNat 32 (remote.perform state clientId
          (.request (.get uid dataOffset dataSize))).1.output.length).toNat = _ :=
        (BitVec.toNat_ofNat _ _).trans (Nat.mod_eq_of_lt (Nat.lt_of_le_of_lt room fits))
      simp only [word64_uidVec, word32_wordVec, StorageCall.request.injEq,
        StorageRequest.get.injEq, true_and, offset, size, Representable, forall_const]
      refine and_iff_left_of_imp fun fits => ?_
      rw [length fits.2]
      rfl
  | .request (.getInfo uid) | .request (.remove uid) =>
    refine Iff.trans (psaCallClientId_conveys_iff rfl) ?_
    simp [Representable, StorageCall.returned]
  | .request (.create ..) | .request (.setExtended ..) =>
    exact iff_of_true (refused_conveys (by decide)) trivial
  | .getSupport =>
    refine Iff.trans (psaCallClientId_conveys_iff rfl) ?_
    simp [Representable, StorageCall.returned]

end

/-- Every call of a sequence is transparent exactly if its arguments are conveyed. -/
theorem secureStorageIpc_transparent_iff {State : Type} (remote : RemoteStorage State)
    (calls : List BackendCall) (state : State) :
    EachCall remote (Transparent remote) calls state ↔
      EachCall remote (Representable remote) calls state := by
  induction calls generalizing state with
  | nil => rfl
  | cons call rest ih => exact and_congr (secureStorageIpc_conveys_iff remote state call) (ih _)

/-- A remote service with the optional functions. -/
def fullStorage : RemoteStorage Unit where
  perform _ _ call := (⟨psaSuccess, leBytes call.room 1⟩, ())
  fits _ _ _ := Nat.le_of_eq (length_leBytes _ _)

/-- The features are lost: the status of the call is returned in their place. -/
theorem getSupport_returnsStatus :
    (secureStorageIpc fullStorage () ⟨1, .getSupport, false⟩).returned = .features 0 ∧
      StorageCall.returned (fullStorage.perform () 1 .getSupport).1 .getSupport = .features 1 := by
  decide

end SecureStorage

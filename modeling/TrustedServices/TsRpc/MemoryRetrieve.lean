import TrustedServices.TsRpc.MemoryIsolation

/- How an endpoint retrieves memory. It asks for one region and asserts that it gets it. -/
namespace TsRpc

open Rpc

/-- A share of a client, as far as the endpoint has to do with it. -/
structure MemShare where
  tag : BitVec 64
  ranges : List Region

/-- A response to a retrieve request, in the RX buffer. -/
structure RetrieveResp where
  totalLength : Nat
  fragmentLength : Nat
  tag : BitVec 64
  memAccessDescCount : Nat
  compositeOffset : Nat
  ranges : List Region

/-- The FF-A layer during a request, with the sizes of its RX buffer and transaction descriptors.
Without a response there is an error before memory is retrieved. -/
structure FfaLayer where
  rxLength : Nat
  headerSize : Nat
  response : Option RetrieveResp
  releasesRx : Bool

/-- The region of a response, for a request with tag 0 and one region. `none` is a failed
assertion. -/
def parseDescriptors (ffa : FfaLayer) (resp : RetrieveResp) : Option Region :=
  if resp.tag ≠ 0 ∨ resp.memAccessDescCount ≠ 1 ∨ ffa.rxLength < ffa.headerSize + 16 ∨
      ffa.rxLength < resp.compositeOffset + 16 + 16 * resp.ranges.length ∨
      1 < resp.ranges.length then none
  else some (resp.ranges.headD ⟨none, 0⟩)

/-- Here too `none` is a failed assertion. -/
def spMemoryRetrieve (ffa : FfaLayer) : Option Retrieval :=
  match ffa.response with
  | none => some (.failed false)
  | some resp =>
    if resp.totalLength ≠ resp.fragmentLength then some (.failed true)
    else
      (parseDescriptors ffa resp).map fun region =>
        if ffa.releasesRx then .retrieved region else .failed true

variable {count : Nat} (ffa : FfaLayer) (share : MemShare) (endpoint : EndpointSp count)
  (sourceId : BitVec 16) (handle : BitVec 64)

/-- `handle_memory_retrieve` over `sp_memory_retrieve`, which is called only if there is a slot. -/
def retrieveShare : Option (RpcStatus × EndpointSp count × List EndpointCall) :=
  match findFreeSharedMemory endpoint with
  | none => some (.errorNotFound, endpoint, [])
  | some _ =>
    (spMemoryRetrieve ffa).map fun outcome =>
      handleMemoryRetrieve (fun _ _ => outcome) endpoint sourceId handle

/-- There is a status, and without a success no slot is filled and no memory stays retrieved. -/
def Withstands : Prop :=
  match retrieveShare ffa endpoint sourceId handle with
  | none => False
  | some (status, after, made) =>
    status ≠ .success → after = endpoint ∧ ∀ spmc, made.foldl Spmc.note spmc = spmc

/-- What is assumed of the answers to requests for a share. An answer has the tag of the request,
which is 0 and must be that of the share, the access descriptor of the endpoint and the ranges of
the share, as far as there is room. -/
structure FfaLayer.Answers : Prop where
  rxPage : 4096 ≤ ffa.rxLength
  smallHeader : ffa.headerSize ≤ 48
  tag : ∀ resp ∈ ffa.response, share.tag = 0 ∧ resp.tag = 0
  access : ∀ resp ∈ ffa.response, resp.memAccessDescCount = 1 ∧
    resp.compositeOffset = ffa.headerSize + 16
  ranges : ∀ resp ∈ ffa.response, resp.ranges = share.ranges
  lengths : ∀ resp ∈ ffa.response,
    resp.totalLength = ffa.headerSize + 32 + 16 * share.ranges.length ∧
      resp.fragmentLength = min resp.totalLength ffa.rxLength

/-- The memory is not retrieved, or it is one range and the RX buffer is released. -/
def Harmless : Prop :=
  findFreeSharedMemory endpoint = none ∨ ffa.response = none ∨
    share.ranges.length ≤ 1 ∧ ffa.releasesRx = true

variable {ffa share} {resp : RetrieveResp}

/-- One range fits into the RX buffer. -/
theorem spMemoryRetrieve_one (answers : ffa.Answers share) (answer : ffa.response = some resp)
    (one : share.ranges.length ≤ 1) :
    spMemoryRetrieve ffa =
      some (if ffa.releasesRx then .retrieved (share.ranges.headD ⟨none, 0⟩) else .failed true) := by
  have page := answers.rxPage
  have small := answers.smallHeader
  obtain ⟨descriptors, offset⟩ := answers.access resp answer
  obtain ⟨total, fragment⟩ := answers.lengths resp answer
  have whole : resp.totalLength = resp.fragmentLength := by omega
  have parsed : parseDescriptors ffa resp = some (share.ranges.headD ⟨none, 0⟩) := by
    rw [parseDescriptors, if_neg, answers.ranges resp answer]
    simp only [(answers.tag resp answer).2, descriptors, offset, answers.ranges resp answer, ne_eq,
      not_true_eq_false, false_or]
    omega
  simp [spMemoryRetrieve, answer, whole, parsed]

theorem spMemoryRetrieve_many (answers : ffa.Answers share) (answer : ffa.response = some resp)
    (many : 1 < share.ranges.length) :
    spMemoryRetrieve ffa = none ∨ spMemoryRetrieve ffa = some (.failed true) := by
  have unparsed : parseDescriptors ffa resp = none := by
    simp [parseDescriptors, answers.ranges resp answer, many]
  rw [spMemoryRetrieve, answer]
  dsimp only
  rw [unparsed]
  split
  · exact .inr rfl
  · exact .inl rfl

/-- A retrieval that fails when it is carried out leaves the memory retrieved. -/
theorem note_failed (outcome : Bool) :
    (∀ spmc : Spmc, spmc.note (.retrieve sourceId handle (.failed outcome)) = spmc) ↔
      outcome = false := by
  cases outcome with
  | false => exact ⟨fun _ => rfl, fun _ _ => rfl⟩
  | true =>
    refine ⟨fun kept => ?_, nofun⟩
    have count := congrFun (congrArg Spmc.retrieved (kept ⟨fun _ => none, fun _ => 0⟩)) handle
    simp [Spmc.note] at count

/-- An endpoint withstands exactly the requests that are harmless. -/
theorem withstands_iff (ffa : FfaLayer) (share : MemShare) (endpoint : EndpointSp count)
    (sourceId : BitVec 16) (handle : BitVec 64) (answers : ffa.Answers share) :
    Withstands ffa endpoint sourceId handle ↔ Harmless ffa share endpoint := by
  unfold Withstands Harmless retrieveShare
  cases free : findFreeSharedMemory endpoint with
  | none => simp
  | some slot =>
    cases answer : ffa.response with
    | none => simp [spMemoryRetrieve, answer, handleMemoryRetrieve, free, note_failed]
    | some resp =>
      by_cases one : share.ranges.length ≤ 1
      · rw [spMemoryRetrieve_one answers answer one]
        cases ffa.releasesRx <;> simp [handleMemoryRetrieve, free, one, note_failed]
      · rcases spMemoryRetrieve_many answers answer (not_le.mp one) with outcome | outcome <;>
          simp [outcome, handleMemoryRetrieve, free, one, note_failed]

/-- The answer to a request for one page or two that are apart. -/
def answeredRequest (ranges : List Region) : FfaLayer :=
  ⟨4096, 48, some ⟨80 + 16 * ranges.length, 80 + 16 * ranges.length, 0, 1, 64, ranges⟩, true⟩

theorem answeredRequest_answers {ranges : List Region} (few : ranges.length ≤ 2) :
    (answeredRequest ranges).Answers ⟨0, ranges⟩ := by
  constructor <;> simp [answeredRequest]
  omega

theorem withstands_page :
    Withstands (answeredRequest [⟨some 0, 1⟩]) (⟨[], fun _ => zeroSlot⟩ : EndpointSp 1) 1 2 :=
  (withstands_iff _ _ _ _ _ (answeredRequest_answers (by decide))).mpr (.inr (.inr ⟨by decide, rfl⟩))

/-- Two ranges end an endpoint with a free slot. -/
theorem scatteredShare_asserts :
    (answeredRequest [⟨some 0, 1⟩, ⟨some 8192, 1⟩]).Answers ⟨0, [⟨some 0, 1⟩, ⟨some 8192, 1⟩]⟩ ∧
      ¬ Withstands (answeredRequest [⟨some 0, 1⟩, ⟨some 8192, 1⟩])
        (⟨[], fun _ => zeroSlot⟩ : EndpointSp 1) 1 2 :=
  ⟨answeredRequest_answers (by decide), fun withstood => withstood⟩

end TsRpc

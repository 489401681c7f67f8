import TrustedServices.Lib.Transition
import TrustedServices.Rpc.Request

/- The TS-RPC caller of Linux, which reaches the services through the files of a TEE driver. -/
namespace TsRpc.Linux

open Lib Rpc

def invalidSessId : BitVec 32 := 0

def maxTeeDevNum : Nat := 16

def teeImplIdTstee : BitVec 32 := 3

structure TsTeeDev where
  endpointId : BitVec 16
  path : String

/-- A session of the driver: the descriptor and the number it was opened with. -/
structure Session where
  fd : Int
  sessionId : BitVec 32
  deriving DecidableEq

structure Context where
  tsTeeDevs : List TsTeeDev
  sessionId : BitVec 32
  fd : Int

def Context.session (context : Context) : Session := ⟨context.fd, context.sessionId⟩

inductive DriverEvent
  | opened (fd : Int)
  | closed (fd : Int)
  | sessionOpened (session : Session)
  | sessionClosed (session : Session)
  | closeRefused (session : Session)

/-- What the driver answers to `open` and, unless it fails, to `TEE_IOC_OPEN_SESSION`. -/
structure OpenAnswers where
  fd : Int
  session : Option (BitVec 32)

def openSession (answers : OpenAnswers) (context : Context) (endpointId : BitVec 16) :
    RpcStatus × Context × List DriverEvent :=
  if 0 ≤ context.fd ∨ context.sessionId ≠ invalidSessId then (.errorInvalidState, context, [])
  else
    match context.tsTeeDevs.find? fun dev => dev.endpointId = endpointId with
    | none => (.errorNotFound, context, [])
    | some _ =>
      if answers.fd < 0 then (.errorInternal, { context with fd := answers.fd }, [])
      else
        match answers.session with
        | none =>
          (.errorInternal, { context with fd := -1 }, [.opened answers.fd, .closed answers.fd])
        | some session =>
          (.success, { context with fd := answers.fd, sessionId := session },
            [.opened answers.fd, .sessionOpened ⟨answers.fd, session⟩])

/-- The devices are tried in their order, those that were not discovered included. -/
def openFirst (answers : Nat → OpenAnswers) :
    List TsTeeDev → Nat → Context → RpcStatus × Context × List DriverEvent
  | [], _, context => (.errorInternal, context, [])
  | dev :: rest, index, context =>
    let first := openSession (answers index) context dev.endpointId
    if first.1 = .success then first
    else
      let later := openFirst answers rest (index + 1) first.2.1
      (later.1, later.2.1, first.2.2 ++ later.2.2)

def findAndOpenSession (answers : Nat → OpenAnswers) (context : Context) :
    RpcStatus × Context × List DriverEvent :=
  openFirst answers context.tsTeeDevs 0 context

def closeSession (accepted : Bool) (context : Context) :
    RpcStatus × Context × List DriverEvent :=
  if context.fd < 0 then (.errorInvalidState, context, [])
  else if accepted = false then (.errorInternal, context, [.closeRefused context.session])
  else
    (.success, { context with fd := -1, sessionId := invalidSessId },
      [.sessionClosed context.session, .closed context.fd])

/-- What the driver answers to `open` and to `TEE_IOC_VERSION`: the implementation and its
capabilities. -/
structure VersionAnswers where
  fd : Int
  version : Option (BitVec 32 × BitVec 32)

/-- The files that are left, and the number of devices found so far. -/
def tsTeeDrvDiscover (answers : Nat → VersionAnswers) :
    List Nat → Nat → List TsTeeDev → List TsTeeDev × List DriverEvent
  | [], _, devs => (devs, [])
  | file :: rest, found, devs =>
    if devs.length ≤ found then (devs, [])
    else if (answers file).fd < 0 then tsTeeDrvDiscover answers rest found devs
    else
      let next :=
        match (answers file).version with
        | some (implId, implCaps) =>
          if implId = teeImplIdTstee then
            (found + 1, devs.set found ⟨implCaps.setWidth 16, "/dev/tee" ++ toString file⟩)
          else (found, devs)
        | none => (found, devs)
      let later := tsTeeDrvDiscover answers rest next.1 next.2
      (later.1, .opened (answers file).fd :: .closed (answers file).fd :: later.2)

/-- The context that the interface points to. -/
inductive ContextPointer
  | null
  | live (context : Context)
  | freed

def tsRpcCallerLinuxInit (memory : Bool) (answers : Nat → VersionAnswers) :
    ContextPointer → RpcStatus × ContextPointer × List DriverEvent
  | .null =>
    if memory = false then (.errorInternal, .null, [])
    else
      let devs :=
        tsTeeDrvDiscover answers (List.range maxTeeDevNum) 0 (List.replicate maxTeeDevNum ⟨0, ""⟩)
      (.success, .live ⟨devs.1, invalidSessId, -1⟩, devs.2)
  | pointer => (.errorInvalidValue, pointer, [])

/-- The session is closed with the interface in place of its context: what lies behind the
interface is taken for a context. The pointer to the context stays. -/
def tsRpcCallerLinuxDeinit (behind : Context) (accepted : Bool) (context : Context) :
    RpcStatus × ContextPointer × List DriverEvent :=
  (.success, .freed,
    (if context.sessionId ≠ invalidSessId then (closeSession accepted behind).2.2 else []) ++
      if 0 ≤ context.fd then [.closed context.fd] else [])

/-- A call on the interface, with the answers of the driver and the allocator. -/
inductive Call
  | init (memory : Bool) (answers : Nat → VersionAnswers)
  | openSession (endpointId : BitVec 16) (answers : OpenAnswers)
  | findAndOpenSession (answers : Nat → OpenAnswers)
  | closeSession (accepted : Bool)
  | deinit (behind : Context) (accepted : Bool)

/-- There is no status if the interface has no operation yet, or if it would work on a context
that is freed. -/
structure Response where
  status : Option RpcStatus
  pointer : ContextPointer
  events : List DriverEvent

def Response.ofOutcome : RpcStatus × Context × List DriverEvent → Response
  | (status, context, events) => ⟨some status, .live context, events⟩

def Call.respond : Call → ContextPointer → Response
  | .init memory answers, pointer =>
    let outcome := tsRpcCallerLinuxInit memory answers pointer
    ⟨some outcome.1, outcome.2.1, outcome.2.2⟩
  | .openSession endpointId answers, .live context =>
    .ofOutcome (Linux.openSession answers context endpointId)
  | .findAndOpenSession answers, .live context =>
    .ofOutcome (Linux.findAndOpenSession answers context)
  | .closeSession accepted, .live context => .ofOutcome (Linux.closeSession accepted context)
  | .deinit behind accepted, .live context =>
    let outcome := tsRpcCallerLinuxDeinit behind accepted context
    ⟨some outcome.1, outcome.2.1, outcome.2.2⟩
  | .deinit _ _, .null => ⟨some .errorInvalidValue, .null, []⟩
  | _, pointer => ⟨none, pointer, []⟩

/-- What is open: the descriptors and the sessions, and the sessions whose closing was refused. -/
structure Ledger where
  fds : List Int
  sessions : List Session
  refused : List Session
  deriving DecidableEq

def Ledger.record (ledger : Ledger) : DriverEvent → Ledger
  | .opened fd => { ledger with fds := fd :: ledger.fds }
  | .closed fd => { ledger with fds := ledger.fds.erase fd }
  | .sessionOpened session =>
    { ledger with
      sessions := session :: ledger.sessions
      refused := ledger.refused.filter fun other => other ≠ session }
  | .sessionClosed session => { ledger with sessions := ledger.sessions.erase session }
  | .closeRefused session => { ledger with refused := session :: ledger.refused }

/-- Only what is open is closed, and a session is opened only while there is no other. -/
def Ledger.Allows (ledger : Ledger) : DriverEvent → Prop
  | .closed fd => fd ∈ ledger.fds
  | .sessionOpened session => session.fd ∈ ledger.fds ∧ ledger.sessions = []
  | .sessionClosed session => session ∈ ledger.sessions
  | .opened _ => True
  | .closeRefused _ => True

structure Caller where
  pointer : ContextPointer
  ledger : Ledger

def Caller.step (caller : Caller) (call : Call) : Caller :=
  ⟨(call.respond caller.pointer).pointer,
    (call.respond caller.pointer).events.foldl Ledger.record caller.ledger⟩

def Caller.initial : Caller := ⟨.null, [], [], []⟩

/-- What a call has to keep to. -/
structure Orderly (caller : Caller) (call : Call) : Prop where
  defined : caller.pointer = .freed → (call.respond caller.pointer).status ≠ none
  allowed : Admitted Ledger.record Ledger.Allows caller.ledger
    (call.respond caller.pointer).events
  released : ∀ behind accepted, call = .deinit behind accepted →
    (call.respond caller.pointer).status = some .success →
      (caller.step call).ledger.fds = [] ∧
        ∀ session ∈ (caller.step call).ledger.sessions, session ∈ (caller.step call).ledger.refused
  again : ∀ memory answers, call = .init memory answers →
    (∀ context, caller.pointer ≠ .live context) →
      (call.respond caller.pointer).status = some (if memory then .success else .errorInternal)

/-- A call after the end, or an end while a session is open, is not safe. The driver may have
refused to close the session before, or it may be asked to by accident and refuse. -/
def Safe (caller : Caller) (call : Call) : Prop :=
  match caller.pointer, call with
  | .freed, _ => False
  | .live context, .deinit behind accepted =>
    0 ≤ context.fd →
      (context.sessionId ≠ invalidSessId → behind.fd < 0 ∨ accepted = false) ∧
        (context.session ∈ caller.ledger.refused ∨
          context.sessionId ≠ invalidSessId ∧ accepted = false ∧ behind.session = context.session)
  | _, _ => True

/-- The context knows what is open. -/
inductive Holds : Context → Ledger → Prop
  | closed {devs : List TsTeeDev} {fd : Int} {refused : List Session} (absent : fd < 0) :
    Holds ⟨devs, invalidSessId, fd⟩ ⟨[], [], refused⟩
  | opened {devs : List TsTeeDev} {fd : Int} {sessionId : BitVec 32} {refused : List Session}
    (present : 0 ≤ fd) : Holds ⟨devs, sessionId, fd⟩ ⟨[fd], [⟨fd, sessionId⟩], refused⟩

/-- The events are allowed and lead to what the context then knows. -/
def Keeps (ledger : Ledger) (context : Context) (events : List DriverEvent) : Prop :=
  Admitted Ledger.record Ledger.Allows ledger events ∧
    Holds context (events.foldl Ledger.record ledger)

variable {context : Context} {ledger : Ledger}

theorem openSession_keeps (holds : Holds context ledger) (answers : OpenAnswers)
    (endpointId : BitVec 16) :
    Keeps ledger (openSession answers context endpointId).2.1
      (openSession answers context endpointId).2.2 := by
  unfold openSession
  cases holds with
  | opened present =>
    rw [if_pos (.inl present)]
    exact ⟨trivial, .opened present⟩
  | closed absent =>
    rw [if_neg (by simp [absent])]
    split
    · exact ⟨trivial, .closed absent⟩
    · split_ifs with failed
      · exact ⟨trivial, .closed failed⟩
      · split
        · refine ⟨⟨trivial, List.mem_cons_self, trivial⟩, ?_⟩
          simp only [List.foldl_cons, List.foldl_nil, Ledger.record, List.erase_cons_head]
          exact .closed (by decide)
        · exact ⟨⟨trivial, ⟨List.mem_cons_self, rfl⟩, trivial⟩, .opened (Int.not_lt.mp failed)⟩

theorem openFirst_keeps (answers : Nat → OpenAnswers) (devs : List TsTeeDev) :
    ∀ (index : Nat) {context : Context} {ledger : Ledger}, Holds context ledger →
      Keeps ledger (openFirst answers devs index context).2.1
        (openFirst answers devs index context).2.2 := by
  induction devs with
  | nil => exact fun _ _ _ holds => ⟨trivial, holds⟩
  | cons dev rest ih =>
    intro index context ledger holds
    have first := openSession_keeps holds (answers index) dev.endpointId
    unfold openFirst
    dsimp only
    split_ifs
    · exact first
    · have later := ih (index + 1) first.2
      exact ⟨admitted_append.mpr ⟨first.1, later.1⟩, by rw [List.foldl_append]; exact later.2⟩

theorem closeSession_keeps (holds : Holds context ledger) (accepted : Bool) :
    Keeps ledger (closeSession accepted context).2.1 (closeSession accepted context).2.2 := by
  unfold closeSession
  cases holds with
  | closed absent =>
    rw [if_pos absent]
    exact ⟨trivial, .closed absent⟩
  | opened present =>
    rw [if_neg (Int.not_lt.mpr present)]
    split_ifs
    · exact ⟨⟨trivial, trivial⟩, .opened present⟩
    · refine ⟨⟨List.mem_cons_self, List.mem_cons_self, trivial⟩, ?_⟩
      simp only [List.foldl_cons, List.foldl_nil, Ledger.record, Context.session,
        List.erase_cons_head]
      exact .closed (by decide)

/-- A file that was opened in the search is closed before the next one. -/
theorem tsTeeDrvDiscover_keeps (answers : Nat → VersionAnswers) (ledger : Ledger)
    (files : List Nat) : ∀ (found : Nat) (devs : List TsTeeDev),
      Admitted Ledger.record Ledger.Allows ledger (tsTeeDrvDiscover answers files found devs).2 ∧
        (tsTeeDrvDiscover answers files found devs).2.foldl Ledger.record ledger = ledger := by
  induction files with
  | nil => exact fun _ _ => ⟨trivial, rfl⟩
  | cons file rest ih =>
    intro found devs
    unfold tsTeeDrvDiscover
    split_ifs
    · exact ⟨trivial, rfl⟩
    · exact ih found devs
    · have closed : (ledger.record (.opened (answers file).fd)).record
          (.closed (answers file).fd) = ledger := by
        simp only [Ledger.record, List.erase_cons_head]
      dsimp only [List.foldl_cons, Admitted]
      rw [closed]
      exact ⟨⟨trivial, List.mem_cons_self, (ih _ _).1⟩, (ih _ _).2⟩

def Caller.Good (caller : Caller) : Prop :=
  match caller.pointer with
  | .null => caller.ledger.fds = [] ∧ caller.ledger.sessions = []
  | .live context => Holds context caller.ledger
  | .freed => True

/-- What keeps the ledger in order is orderly, and safe unless it is the end. -/
theorem orderly_of_keeps {call : Call} {outcome : RpcStatus × Context × List DriverEvent}
    (responds : call.respond (.live context) = .ofOutcome outcome)
    (keeps : Keeps ledger outcome.2.1 outcome.2.2)
    (operation : ∀ behind accepted, call ≠ .deinit behind accepted) :
    (Orderly ⟨.live context, ledger⟩ call ↔ Safe ⟨.live context, ledger⟩ call) ∧
      (Caller.step ⟨.live context, ledger⟩ call).Good := by
  refine ⟨iff_of_true ⟨nofun, ?_, ?_, ?_⟩ ?_, ?_⟩
  · show Admitted _ _ ledger (call.respond (.live context)).events
    rw [responds]
    exact keeps.1
  · exact fun behind accepted isDeinit => absurd isDeinit (operation behind accepted)
  · exact fun _ _ _ live => absurd rfl (live context)
  · cases call with
    | deinit behind accepted => exact absurd rfl (operation behind accepted)
    | _ => trivial
  · unfold Caller.step
    rw [responds]
    exact keeps.2

/-- What an end has to do, from what it did. -/
theorem deinit_orderly_iff (context behind : Context) (ledger : Ledger) (accepted : Bool) :
    let events := (tsRpcCallerLinuxDeinit behind accepted context).2.2
    Orderly ⟨.live context, ledger⟩ (.deinit behind accepted) ↔
      Admitted Ledger.record Ledger.Allows ledger events ∧
        (events.foldl Ledger.record ledger).fds = [] ∧
          ∀ session ∈ (events.foldl Ledger.record ledger).sessions,
            session ∈ (events.foldl Ledger.record ledger).refused := by
  constructor
  · intro orderly
    exact ⟨orderly.allowed, orderly.released _ _ rfl rfl⟩
  · rintro ⟨allowed, released⟩
    exact ⟨nofun, allowed, fun _ _ _ _ => released, nofun⟩

theorem deinit_orderly_iff_safe (holds : Holds context ledger) (behind : Context)
    (accepted : Bool) :
    Orderly ⟨.live context, ledger⟩ (.deinit behind accepted) ↔
      Safe ⟨.live context, ledger⟩ (.deinit behind accepted) := by
  refine (deinit_orderly_iff _ _ _ _).trans ?_
  unfold tsRpcCallerLinuxDeinit closeSession Safe
  cases holds with
  | closed absent => simp [Admitted, Int.not_le.mpr absent]
  | @opened _ fd sessionId refused present =>
    by_cases unnumbered : sessionId = invalidSessId
    · simp [unnumbered, present, Admitted, Ledger.Allows, Ledger.record, Context.session]
    by_cases absent : behind.fd < 0
    · have different : behind.fd ≠ fd := by omega
      simp [unnumbered, absent, different, present, Admitted, Ledger.Allows, Ledger.record,
        Context.session]
    · cases accepted with
      | false =>
        simp [unnumbered, absent, present, Admitted, Ledger.Allows, Ledger.record, Context.session,
          or_comm, eq_comm]
      | true =>
        simp [unnumbered, absent, present, Admitted, Ledger.Allows, Ledger.record, Context.session]
        rintro rfl _ _ twice
        simp at twice

theorem orderly_of_null (empty : ledger.fds = [] ∧ ledger.sessions = []) (call : Call) :
    Orderly ⟨.null, ledger⟩ call ∧ (Caller.step ⟨.null, ledger⟩ call).Good := by
  cases call with
  | init memory answers =>
    cases memory with
    | false => exact ⟨⟨nofun, trivial, nofun, fun _ _ same _ => by cases same; rfl⟩, empty⟩
    | true =>
      obtain ⟨allowed, same⟩ := tsTeeDrvDiscover_keeps answers ledger (List.range maxTeeDevNum) 0
        (List.replicate maxTeeDevNum ⟨0, ""⟩)
      refine ⟨⟨nofun, allowed, nofun, fun _ _ same _ => by cases same; rfl⟩, ?_⟩
      show Holds _ (List.foldl Ledger.record ledger _)
      obtain ⟨fds, sessions, refused⟩ := ledger
      obtain ⟨rfl, rfl⟩ := empty
      exact same.symm ▸ .closed (by decide)
  | _ => exact ⟨⟨nofun, trivial, nofun, nofun⟩, empty⟩

theorem orderly_iff_of_live (holds : Holds context ledger) (call : Call) :
    (Orderly ⟨.live context, ledger⟩ call ↔ Safe ⟨.live context, ledger⟩ call) ∧
      (Caller.step ⟨.live context, ledger⟩ call).Good := by
  cases call with
  | init =>
    have refused : Keeps ledger context [] := ⟨trivial, holds⟩
    exact @orderly_of_keeps _ _ _ (.errorInvalidValue, context, []) rfl refused nofun
  | openSession => exact orderly_of_keeps rfl (openSession_keeps holds _ _) nofun
  | findAndOpenSession => exact orderly_of_keeps rfl (openFirst_keeps _ _ 0 holds) nofun
  | closeSession => exact orderly_of_keeps rfl (closeSession_keeps holds _) nofun
  | deinit => exact ⟨deinit_orderly_iff_safe holds _ _, trivial⟩

theorem not_orderly_of_freed (ledger : Ledger) (call : Call) : ¬ Orderly ⟨.freed, ledger⟩ call := by
  intro orderly
  cases call with
  | init memory answers =>
    have refused := orderly.again memory answers rfl nofun
    cases memory with
    | _ => cases refused
  | _ => exact orderly.defined rfl rfl

theorem orderly_iff_safe (caller : Caller) (call : Call) (good : caller.Good) :
    (Orderly caller call ↔ Safe caller call) ∧ (caller.step call).Good := by
  obtain ⟨pointer, ledger⟩ := caller
  cases pointer with
  | null =>
    obtain ⟨orderly, kept⟩ := orderly_of_null good call
    exact ⟨iff_of_true orderly trivial, kept⟩
  | live context => exact orderly_iff_of_live good call
  | freed =>
    refine ⟨iff_of_false (not_orderly_of_freed ledger call) id, ?_⟩
    cases call with
    | _ => trivial

/-- Every call of a run keeps to the rules exactly if none is made after the end, and no end
while a session is open that the driver did not refuse to close. -/
theorem linuxCaller_orderly_iff (calls : List Call) :
    Admitted Caller.step Orderly .initial calls ↔ Admitted Caller.step Safe .initial calls := by
  refine admitted_congr Caller.Good ?_ ?_ ?_ calls
  · exact fun caller call good => (orderly_iff_safe caller call good).1
  · exact fun caller call good _ => (orderly_iff_safe caller call good).2
  · exact ⟨rfl, rfl⟩

/-- A driver with one service at the first file, which gives out the descriptor 3. -/
def oneService (file : Nat) : VersionAnswers :=
  ⟨3, if file = 0 then some (teeImplIdTstee, 0x8001) else none⟩

/-- A session is left open by the end, whose call finds no descriptor behind the interface, and
the interface cannot be initialized again. -/
theorem linuxCaller_not_orderly :
    let calls := [.init true oneService, .openSession 0x8001 ⟨3, some 1⟩, .deinit ⟨[], 0, -1⟩ true]
    let ended := calls.foldl Caller.step .initial
    ended.ledger = ⟨[], [⟨3, 1⟩], []⟩ ∧
      ((Call.init true oneService).respond ended.pointer).status = some .errorInvalidValue ∧
        ¬ Admitted Caller.step Orderly .initial calls := by
  refine ⟨by decide, by decide, ?_⟩
  rintro ⟨_, _, ⟨_, _, released, _⟩, _⟩
  exact absurd ((released _ _ rfl rfl).2 ⟨3, 1⟩ (by decide)) (by decide)

end TsRpc.Linux

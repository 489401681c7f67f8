import TrustedServices.Rpc.Request

/- The pool of environments of the Lua provider. -/
namespace Lua

open Lib Rpc

def maxEnvCount : Nat := 16

/-- There is no environment if there is no reference to its table. -/
structure EnvEntry where
  luaEnvRef : Option Nat
  scriptBuf : Option Bytes
  next : Option (Fin maxEnvCount)

structure LuaProvider where
  hasSerializer : Bool
  envEntries : Fin maxEnvCount → EnvEntry
  freeEnvEntryInd : Option (Fin maxEnvCount)

inductive LuaStatus
  | success
  | errorGenericError
  | errorOutOfFreeEnvironments
  | errorEnvironmentDoesNotExist
  | errorOutOfMemory
  deriving DecidableEq, Repr

def luaProviderInit : LuaProvider :=
  ⟨true, fun i => ⟨none, none, if h : i.val + 1 < maxEnvCount then some ⟨_, h⟩ else none⟩,
    some ⟨0, by decide⟩⟩

structure Handled where
  rpcStatus : RpcStatus
  serviceStatus : LuaStatus
  response : Bytes
  provider : LuaProvider

/-- A request with what it gets from Lua, the new reference, or from the heap, whether there is
memory. -/
inductive LuaRequest
  | envCreate (envRef : Nat)
  | envAppend (data : Bytes) (hasMemory : Bool)
  | envDelete (data : Bytes)

def LuaProvider.setEntry (provider : LuaProvider) (index : Fin maxEnvCount) (entry : EnvEntry) :
    LuaProvider :=
  { provider with envEntries := Function.update provider.envEntries index entry }

def serializeEnvCreateResp (responseSize : Nat) (envIndex : Fin maxEnvCount) : RpcStatus × Bytes :=
  if 4 ≤ responseSize then (.success, leBytes 4 envIndex) else (.errorInternal, [])

section

variable (provider : LuaProvider)

def envCreateHandler (envRef responseSize : Nat) : Handled :=
  match provider.freeEnvEntryInd with
  | none => ⟨.success, .errorOutOfFreeEnvironments, [], provider⟩
  | some freeIdx =>
    let created := { provider.setEntry freeIdx ⟨some envRef, none, none⟩ with
      freeEnvEntryInd := (provider.envEntries freeIdx).next }
    let response := if provider.hasSerializer then serializeEnvCreateResp responseSize freeIdx
      else (.errorInternal, [])
    ⟨response.1, .success, response.2, created⟩

/-- The environment that a request names. Its index is a signed number of 32 bits. -/
def namedEnv (data : Bytes) : Except LuaStatus (Fin maxEnvCount) :=
  if provider.hasSerializer = false ∨ data.length < 4 then .error .errorGenericError
  else if h : leNat (data.take 4) < maxEnvCount then
    if (provider.envEntries ⟨_, h⟩).luaEnvRef = none then .error .errorEnvironmentDoesNotExist
    else .ok ⟨_, h⟩
  else .error .errorEnvironmentDoesNotExist

def envAppendHandler (data : Bytes) (hasMemory : Bool) : Handled :=
  match namedEnv provider data with
  | .error status => ⟨.success, status, [], provider⟩
  | .ok index =>
    if hasMemory = false then ⟨.success, .errorOutOfMemory, [], provider⟩
    else
      let entry := provider.envEntries index
      ⟨.success, .success, [], provider.setEntry index
        { entry with scriptBuf := some (entry.scriptBuf.getD [] ++ data.drop 4) }⟩

def envDeleteHandler (data : Bytes) : Handled :=
  match namedEnv provider data with
  | .error status => ⟨.success, status, [], provider⟩
  | .ok index =>
    ⟨.success, .success, [], { provider.setEntry index ⟨none, none, provider.freeEnvEntryInd⟩ with
      freeEnvEntryInd := some index }⟩

def handle (responseSize : Nat) : LuaRequest → Handled
  | .envCreate envRef => envCreateHandler provider envRef responseSize
  | .envAppend data hasMemory => envAppendHandler provider data hasMemory
  | .envDelete data => envDeleteHandler provider data

end

/-- What `env_create` of the client reports. -/
def envCreateStatus (handled : Handled) : LuaStatus :=
  if handled.rpcStatus ≠ .success then .errorGenericError
  else if handled.serviceStatus = .success ∧ handled.response.length ≠ 4 then .errorGenericError
  else handled.serviceStatus

/-- If the handler does not succeed, or the client reports that it has no environment, the provider
is as before. -/
def FailsCleanly (provider : LuaProvider) (responseSize : Nat) (request : LuaRequest) : Prop :=
  let handled := handle provider responseSize request
  (¬ (handled.rpcStatus = .success ∧ handled.serviceStatus = .success) →
    handled.provider = provider) ∧
  ∀ envRef, request = .envCreate envRef → envCreateStatus handled ≠ .success →
    handled.provider = provider

/-- The response can be serialized if an environment is created. -/
def Answerable (provider : LuaProvider) (responseSize : Nat) : LuaRequest → Prop
  | .envCreate _ =>
    provider.freeEnvEntryInd ≠ none → provider.hasSerializer = true ∧ 4 ≤ responseSize
  | _ => True

/-- The pool changes with every environment that is created. -/
theorem envCreateHandler_changes {provider : LuaProvider} {envRef responseSize : Nat}
    (free : provider.freeEnvEntryInd ≠ none) :
    (envCreateHandler provider envRef responseSize).provider ≠ provider := by
  obtain ⟨freeIdx, head⟩ := Option.ne_none_iff_exists'.mp free
  intro same
  have headSame := congrArg LuaProvider.freeEnvEntryInd same
  have nextSame := congrArg (fun after => (after.envEntries freeIdx).next) same
  simp [envCreateHandler, head, LuaProvider.setEntry] at headSame nextSame
  simp [headSame] at nextSame

theorem failsCleanly_iff (provider : LuaProvider) (responseSize : Nat) (request : LuaRequest) :
    FailsCleanly provider responseSize request ↔ Answerable provider responseSize request := by
  cases request with
  | envCreate envRef =>
    constructor
    · rintro ⟨clean, _⟩ free
      by_contra unanswered
      apply envCreateHandler_changes free
      apply clean
      rintro ⟨answered, _⟩
      obtain ⟨freeIdx, head⟩ := Option.ne_none_iff_exists'.mp free
      simp only [handle, envCreateHandler, head, serializeEnvCreateResp] at answered
      split_ifs at answered
      simp_all
    · intro answerable
      simp only [FailsCleanly, handle, envCreateHandler]
      cases head : provider.freeEnvEntryInd with
      | none => simp
      | some freeIdx =>
        obtain ⟨serialized, room⟩ := answerable (by simp [head])
        simp [serialized, serializeEnvCreateResp, room, envCreateStatus]
  | envAppend data hasMemory =>
    simp only [FailsCleanly, Answerable, handle, envAppendHandler]
    cases namedEnv provider data <;> cases hasMemory <;> simp
  | envDelete data =>
    simp only [FailsCleanly, Answerable, handle, envDeleteHandler]
    cases namedEnv provider data <;> simp

/-- Without a response buffer the environment is lost. -/
theorem luaProviderInit_leaks : ¬ FailsCleanly luaProviderInit 0 (.envCreate 1) := by
  rintro ⟨clean, _⟩
  exact envCreateHandler_changes (by decide) (clean (by decide))

end Lua

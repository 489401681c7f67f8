import TrustedServices.Lib.Memory

/- Requests as a service provider receives them. -/
namespace Rpc

inductive RpcStatus
  | success
  | errorInternal
  | errorInvalidValue
  | errorNotFound
  | errorInvalidState
  | errorTransportLayer
  | errorInvalidRequestBody
  | errorInvalidResponseBody
  | errorResourceFailure
  | other (code : Int)
  deriving DecidableEq, Repr

inductive RpcBuffer
  | request
  | response
  deriving DecidableEq, Repr

/-- The sum of two sizes, if it can be represented in a `size_t`. -/
def addOverflow (first second : Nat) : Option Nat :=
  if first + second < 2 ^ 64 then some (first + second) else none

end Rpc

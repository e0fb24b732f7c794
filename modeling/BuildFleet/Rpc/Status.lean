/-!
# Statuses of a remote call

How a remote call ended: a code and a message. Numbers that are not codes count as `unknown`.
-/
namespace BuildFleet.Rpc

/-- The codes, in the order of their numbers. -/
inductive Code where
  | ok
  | cancelled
  | unknown
  | invalidArgument
  | deadlineExceeded
  | notFound
  | alreadyExists
  | permissionDenied
  | resourceExhausted
  | failedPrecondition
  | aborted
  | outOfRange
  | unimplemented
  | internal
  | unavailable
  | dataLoss
  | unauthenticated
  deriving DecidableEq, Repr

namespace Code

def all : List Code := [ok, cancelled, unknown, invalidArgument, deadlineExceeded, notFound,
  alreadyExists, permissionDenied, resourceExhausted, failedPrecondition, aborted, outOfRange,
  unimplemented, internal, unavailable, dataLoss, unauthenticated]

def ofNumber (n : Int) : Code :=
  if n < 0 then unknown else all[n.toNat]?.getD unknown

def name : Code → String
  | ok => "Ok"
  | cancelled => "Cancelled"
  | unknown => "Unknown"
  | invalidArgument => "InvalidArgument"
  | deadlineExceeded => "DeadlineExceeded"
  | notFound => "NotFound"
  | alreadyExists => "AlreadyExists"
  | permissionDenied => "PermissionDenied"
  | resourceExhausted => "ResourceExhausted"
  | failedPrecondition => "FailedPrecondition"
  | aborted => "Aborted"
  | outOfRange => "OutOfRange"
  | unimplemented => "Unimplemented"
  | internal => "Internal"
  | unavailable => "Unavailable"
  | dataLoss => "DataLoss"
  | unauthenticated => "Unauthenticated"

end Code

structure Status where
  code : Code
  message : String
  deriving DecidableEq, Repr

end BuildFleet.Rpc

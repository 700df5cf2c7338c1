import NetworkAgent.Text.Quoted

/-!
# Call statuses

A call that fails in transport, or that the other side refuses, yields a **status**, a code with a text.
-/

namespace NetworkAgent

/-- Why a call failed. -/
inductive StatusCode where
  | ok
  | cancelled
  | unknown
  | invalidArgument
  | deadlineExceeded
  | notFound
  | alreadyExists
  | permissionDenied
  | resourceExhausted
  | failedPrecondition
  | aborted
  | outOfRange
  | unimplemented
  | internal
  | unavailable
  | dataLoss
  | unauthenticated
  deriving DecidableEq, Repr, Inhabited

namespace StatusCode

/-- The codes in the order of their numbers. -/
def all : List StatusCode :=
  [.ok, .cancelled, .unknown, .invalidArgument, .deadlineExceeded, .notFound, .alreadyExists,
   .permissionDenied, .resourceExhausted, .failedPrecondition, .aborted, .outOfRange, .unimplemented,
   .internal, .unavailable, .dataLoss, .unauthenticated]

/-- The code with a number; a number that no code has reads as unknown. -/
def ofNumber (n : Int) : StatusCode := if n < 0 then .unknown else all.getD n.toNat .unknown

/-- The number of a code. -/
def number (c : StatusCode) : Nat := all.idxOf c

/-- The code in a status's text. -/
def name : StatusCode → String
  | .ok => "Ok"
  | .cancelled => "Cancelled"
  | .unknown => "Unknown"
  | .invalidArgument => "InvalidArgument"
  | .deadlineExceeded => "DeadlineExceeded"
  | .notFound => "NotFound"
  | .alreadyExists => "AlreadyExists"
  | .permissionDenied => "PermissionDenied"
  | .resourceExhausted => "ResourceExhausted"
  | .failedPrecondition => "FailedPrecondition"
  | .aborted => "Aborted"
  | .outOfRange => "OutOfRange"
  | .unimplemented => "Unimplemented"
  | .internal => "Internal"
  | .unavailable => "Unavailable"
  | .dataLoss => "DataLoss"
  | .unauthenticated => "Unauthenticated"

end StatusCode

/-- A failed call. -/
structure Status where
  /-- Why it failed. -/
  code : StatusCode
  /-- The other side's explanation. -/
  text : String
  deriving DecidableEq, Repr, Inhabited

/-- The status as it reads within another error's text. No call carries details or metadata back. -/
def Status.describe (s : Status) : String :=
  "status: " ++ s.code.name ++ ", message: " ++ Quoted.encode s.text ++
    ", details: [], metadata: MetadataMap \x7b headers: \x7b\x7d \x7d"

end NetworkAgent

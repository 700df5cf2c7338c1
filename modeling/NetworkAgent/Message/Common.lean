/-!
# What every daemon message shares

Messages carry enumerations as open integers: a number without a name is kept as it is. An answered call
reports an **outcome**, a status with a text; it succeeded exactly when the status is zero.
-/

namespace NetworkAgent.Message

/-- An octet string. -/
abbrev Bytes := List UInt8

/-- The status number of a success. -/
def successStatus : Int32 := 0

/-- The answer of a call that reports nothing beyond success or failure. -/
structure Outcome where
  /-- Zero for success. -/
  status : Int32 := 0
  /-- The daemon's explanation of a failure. -/
  errorText : String := ""
  deriving DecidableEq, Repr, Inhabited

/-- Whether the daemon reported success. -/
def Outcome.isSuccess (o : Outcome) : Bool := o.status == successStatus

/-- What a change notification says happened to its object. -/
inductive ChangeKind where
  /-- The object is new. -/
  | create
  /-- The object changed. -/
  | update
  /-- The object is gone. -/
  | delete
  /-- The object is new or changed. -/
  | createOrUpdate
  deriving DecidableEq, Repr, Inhabited

/-- The change that a number stands for; an unknown number reads as a creation. -/
def ChangeKind.ofNumber (n : Int32) : ChangeKind :=
  if n = 1 then .update else if n = 2 then .delete else if n = 3 then .createOrUpdate else .create

/-- An IP address: four octets or sixteen, in network order. -/
structure IpAddress where
  /-- The octets. -/
  octets : Bytes := []
  deriving DecidableEq, Repr, Inhabited

/-- An IP address with the length of its network part. -/
structure IpPrefix where
  /-- The address, host bits included. -/
  address : Option IpAddress := none
  /-- The number of leading bits that name the network. -/
  length : UInt32 := 0
  deriving DecidableEq, Repr, Inhabited

end NetworkAgent.Message

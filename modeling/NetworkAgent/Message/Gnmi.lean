import NetworkAgent.Message.Common

/-!
# Management messages

The requests and answers of the management server's gNMI service, which reads and writes
configuration by structured paths.
-/

namespace NetworkAgent.Message.Gnmi

/-- One element of a structured path. -/
structure PathElem where
  /-- The node name. -/
  name : String := ""
  /-- The list keys with their values; their order means nothing. -/
  key : List (String × String) := []
  deriving DecidableEq, Repr, Inhabited

/-- A structured path. -/
structure Path where
  /-- The schema that the path belongs to. -/
  origin : String := ""
  /-- The elements from the root. -/
  elems : List PathElem := []
  /-- The device that the path belongs to. -/
  target : String := ""
  deriving DecidableEq, Repr, Inhabited

/-- A value with its representation. -/
inductive Value where
  | string (s : String)
  | int (n : Int64)
  | uint (n : UInt64)
  | bool (b : Bool)
  | bytes (bs : Bytes)
  | json (bs : Bytes)
  | ascii (s : String)
  | jsonIetf (bs : Bytes)
  deriving DecidableEq, Repr, Inhabited

/-- A value, or none. -/
structure TypedValue where
  /-- The value. -/
  value : Option Value := none
  deriving DecidableEq, Repr, Inhabited

/-- A node with its value. -/
structure Update where
  /-- The node. -/
  path : Option Path := none
  /-- Its value. -/
  value : Option TypedValue := none
  /-- How many updates were merged into this one. -/
  duplicates : UInt32 := 0
  deriving DecidableEq, Repr, Inhabited

/-- A group of updates with one time stamp. -/
structure Notification where
  /-- The time stamp. -/
  timestamp : Int64 := 0
  /-- What all its paths start with. -/
  base : Option Path := none
  /-- The nodes with their values. -/
  updates : List Update := []
  /-- The nodes that are gone. -/
  deletes : List Path := []
  /-- Whether it is the whole state below its paths. -/
  atomic : Bool := false
  deriving DecidableEq, Repr, Inhabited

/-- Asks for the values of nodes. -/
structure GetRequest where
  /-- What all paths start with. -/
  base : Option Path := none
  /-- The nodes to read. -/
  paths : List Path := []
  /-- Number of the kind of data to read. -/
  dataType : Int32 := 0
  /-- Number of the encoding to answer in. -/
  encoding : Int32 := 0
  deriving DecidableEq, Repr, Inhabited

/-- The values of nodes. -/
structure GetResponse where
  /-- The values, in groups. -/
  notifications : List Notification := []
  deriving DecidableEq, Repr, Inhabited

/-- Changes the values of nodes. -/
structure SetRequest where
  /-- What all paths start with. -/
  base : Option Path := none
  /-- The nodes to delete. -/
  deletes : List Path := []
  /-- The nodes to replace. -/
  replaces : List Update := []
  /-- The nodes to merge into. -/
  updates : List Update := []
  deriving DecidableEq, Repr, Inhabited

/-- What became of one change. -/
structure UpdateResult where
  /-- The node. -/
  path : Option Path := none
  /-- Number of the kind of change. -/
  operation : Int32 := 0
  deriving DecidableEq, Repr, Inhabited

/-- What became of the changes. -/
structure SetResponse where
  /-- What all paths start with. -/
  base : Option Path := none
  /-- One result for each change. -/
  results : List UpdateResult := []
  /-- The time of the changes. -/
  timestamp : Int64 := 0
  deriving DecidableEq, Repr, Inhabited

end NetworkAgent.Message.Gnmi

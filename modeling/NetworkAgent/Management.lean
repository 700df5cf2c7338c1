import NetworkAgent.Error
import NetworkAgent.Message.Gnmi
import NetworkAgent.Path.Element
import NetworkAgent.Text.Utf8

/-!
# Requests to the management server

The management server addresses nodes by structured paths. Each request is built from the path of one
node; a request that sets a node needs a value. The configuration of an agent is the JSON value that
comes first in the answer.
-/

namespace NetworkAgent.Management

open Message.Gnmi

/-- The structured form of an XPath. -/
def path (xpath : String) : Path :=
  { elems := (XPath.elements xpath).map fun e => ⟨e.name, e.keys⟩ }

/-- The request that reads one node. -/
def getRequest (xpath : String) (dataType encoding : Int32) : GetRequest :=
  { paths := [path xpath], dataType := dataType, encoding := encoding }

/-- Number of the kind of data that is configuration. -/
def configData : Int32 := 1

/-- Number of the JSON encoding with qualified names. -/
def jsonIetf : Int32 := 4

/-- The request that reads an agent's configuration. -/
def configRequest (xpath : String) : GetRequest := getRequest xpath configData jsonIetf

/-- The change of one node to a value, which must be there. -/
def pathUpdate (xpath : String) (value : TypedValue) : Except Error Update :=
  if value.value.isNone then .error (.network .emptyValue)
  else .ok { path := some (path xpath), value := some value }

/-- The request that merges a value into a node. -/
def updateRequest (xpath : String) (value : TypedValue) : Except Error SetRequest :=
  (pathUpdate xpath value).map fun u => { updates := [u] }

/-- The request that replaces a node by a value. -/
def replaceRequest (xpath : String) (value : TypedValue) : Except Error SetRequest :=
  (pathUpdate xpath value).map fun u => { replaces := [u] }

/-- The request that deletes a node. -/
def deleteRequest (xpath : String) : SetRequest := { deletes := [path xpath] }

/-- A JSON text as a value. -/
def jsonValue (json : String) : TypedValue := ⟨some (.jsonIetf (Utf8.encode json))⟩

/-- The JSON text of the first update of the first notification. -/
def firstJson (response : GetResponse) : Option String := do
  let notification ← response.notifications.head?
  let update ← notification.updates.head?
  let typed ← update.value
  match ← typed.value with
  | .jsonIetf bytes => some (String.ofList (Utf8.decode bytes))
  | _ => none

end NetworkAgent.Management

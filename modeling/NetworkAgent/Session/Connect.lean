import NetworkAgent.Address.Uri
import NetworkAgent.Session.Basic

/-!
# Connecting

Before a session can register its agent it needs the means to call the services: the metadata that goes with
every call, and, if it has to connect by itself, addresses that are well formed and a daemon that can be
reached. The first thing that is missing is reported.
-/

namespace NetworkAgent.Session

/-- Whether a metadata value can be sent. -/
def checkMetadata (key : Metadata.Key) (value : String) : Except NetworkError Unit :=
  if Metadata.isValid value then .ok () else .error (.invalidMetadata key)

/-- Whether the metadata of calls to the management server can be sent. -/
def checkCredentials (s : ManagementSettings) : Except NetworkError Unit := do
  checkMetadata .username s.username
  checkMetadata .password s.password

/-- Whether an address is well formed. -/
def checkAddress (address : String) : Except NetworkError Unit :=
  if Uri.isValid address then .ok () else .error (.invalidUri address)

/-- Whether there is a way to the daemon. -/
def checkDaemon (plan : Plan) (reachable : Bool) : Except NetworkError Unit := do
  checkAddress plan.settings.daemon.address
  if reachable then checkMetadata .agentName plan.name else .error .transport

/-- Whether a client of the management server can be made; it connects when it is first used. -/
def checkManagement (s : ManagementSettings) : Except NetworkError Unit := do
  checkAddress s.address
  checkCredentials s

/-- What keeps a session from using a link, if anything does. -/
def linkFault? (plan : Plan) : Link → Option Error
  | .direct => none
  | .channel =>
    match checkMetadata .agentName plan.name, checkCredentials plan.settings.management with
    | .error e, _ | .ok _, .error e => some (.network e)
    | .ok _, .ok _ => none
  | .dial reachable =>
    match checkDaemon plan reachable, checkManagement plan.settings.management with
    | .error e, _ => some (.fatal (.connect e))
    | .ok _, .error e => some (.fatal (.managementClient e))
    | .ok _, .ok _ => none

end NetworkAgent.Session

import NetworkAgent.Error
import NetworkAgent.Text.Blank

/-!
# Settings

How an agent reaches the daemon and the management server, and how long it waits before it tries again.
`Settings.validate` says which settings make sense together; the first fault found is reported.
-/

namespace NetworkAgent

/-- How to reach the daemon. -/
structure DaemonSettings where
  /-- Where it listens. -/
  address : String := "http://127.0.0.1:50053"
  /-- How long connecting may take, in milliseconds. -/
  connectTimeout : UInt64 := 2000
  /-- When idle connections are probed, in seconds. -/
  tcpKeepAlive : UInt64 := 300
  /-- How often the connection is checked, in seconds. -/
  keepAliveInterval : UInt64 := 30
  /-- How long such a check may take, in seconds. -/
  keepAliveTimeout : UInt64 := 10
  deriving DecidableEq, Repr, Inhabited

/-- How to reach the management server. -/
structure ManagementSettings where
  /-- Where it listens. -/
  address : String := "http://127.0.0.1:57400"
  /-- The user. -/
  username : String := "admin"
  /-- The user's password. -/
  password : String := "NokiaSrl1!"
  /-- How long connecting may take, in milliseconds. -/
  connectTimeout : UInt64 := 2000
  /-- How long a request may take, in milliseconds. -/
  requestTimeout : UInt64 := 10000
  deriving DecidableEq, Repr, Inhabited

/-- How to try again. -/
structure RetrySettings where
  /-- The pause between two attempts, in milliseconds. -/
  interval : UInt64 := 5000
  deriving DecidableEq, Repr, Inhabited

/-- All settings of an agent. -/
structure Settings where
  /-- How to reach the daemon. -/
  daemon : DaemonSettings := {}
  /-- How to reach the management server. -/
  management : ManagementSettings := {}
  /-- How to try again. -/
  retry : RetrySettings := {}
  deriving DecidableEq, Repr, Inhabited

/-- Whether the daemon's settings make sense. -/
def DaemonSettings.validate (s : DaemonSettings) : Except SettingsError Unit :=
  if Blank.isBlank s.address then .error .emptyDaemonAddress
  else if s.connectTimeout = 0 then .error .zeroDaemonTimeout
  else if s.keepAliveInterval ≤ s.keepAliveTimeout then
    .error (.keepAliveTimeout s.keepAliveTimeout s.keepAliveInterval)
  else .ok ()

/-- Whether the management server's settings make sense. -/
def ManagementSettings.validate (s : ManagementSettings) : Except SettingsError Unit :=
  if Blank.isBlank s.address then .error .emptyManagementAddress
  else if s.connectTimeout = 0 ∨ s.requestTimeout = 0 then .error .zeroManagementTimeout
  else if s.requestTimeout ≤ s.connectTimeout then
    .error (.requestTimeout s.requestTimeout s.connectTimeout)
  else .ok ()

/-- Whether the retry settings make sense. -/
def RetrySettings.validate (s : RetrySettings) : Except SettingsError Unit :=
  if s.interval = 0 then .error .zeroRetryInterval else .ok ()

/-- The settings themselves if they make sense. -/
def Settings.validate (s : Settings) : Except SettingsError Settings := do
  s.daemon.validate
  s.management.validate
  s.retry.validate
  pure s

/-- The management server's settings as shown to an operator, without the password. -/
def ManagementSettings.describe (s : ManagementSettings) : String :=
  "GnmiConfig \x7b address: " ++ Quoted.encode s.address ++ ", username: " ++ Quoted.encode s.username ++
    ", connect_timeout_in_ms: " ++ toString s.connectTimeout ++
    ", request_timeout_in_ms: " ++ toString s.requestTimeout ++ " \x7d"

end NetworkAgent

import NetworkAgent.Settings.Basic
import NetworkAgent.Settings.Layer
import NetworkAgent.Toml.Reader

/-!
# Loading settings

Settings are loaded in layers. `Settings.load` lays a file, if there is one, over the defaults, and the environment
over both; the environment may ask for a file that is not there. `Settings.override` lays a further file over settings
that were loaded before, and the environment over it, so that the environment always has the last word. Names that no
setting has are ignored.

A group of settings may be written as a table, by name, or as a list, in the order of the settings. A setting that is
not there takes its default.
-/

namespace NetworkAgent

/-- A file that settings may come from. -/
inductive SettingsFile where
  /-- none is asked for -/
  | absent
  /-- it is asked for, but not there -/
  | missing
  /-- it holds a text -/
  | present (text : String)
  deriving DecidableEq, Repr

/-- The variable that names the file to load. -/
def SettingsFile.variable : String := "NDK_CONFIG_PATH"

/-- The file to load where none is given: the environment may name one, which is then not there. -/
def SettingsFile.orNamed (environment : List (String × String)) : SettingsFile → SettingsFile
  | .absent => if (environment.lookup SettingsFile.variable).isSome then .missing else .absent
  | file => file

namespace Settings

/-- A group of settings as it is written: a way to look a setting up, by name or by position. -/
structure Group where
  /-- The value of a setting, if it is there. -/
  find? : String → Nat → Option Tree

/-- The group in a tree. A plain value is no group. -/
def Group.ofTree : Tree → Option Group
  | .table bs => some ⟨fun name _ => bs.lookup name⟩
  | .list ts => some ⟨fun _ position => ts[position]?⟩
  | _ => none

/-- A setting that is a text. -/
def Group.text (g : Group) (name : String) (position : Nat) (default : String) : Option String :=
  match g.find? name position with
  | some t => t.toText?
  | none => some default

/-- A setting that is a number. -/
def Group.number (g : Group) (name : String) (position : Nat) (default : UInt64) : Option UInt64 :=
  match g.find? name position with
  | some t => t.toWord?
  | none => some default

/-- Reads how to reach the daemon. -/
def readDaemon (t : Tree) : Option DaemonSettings := do
  let d : DaemonSettings := {}
  let g ← Group.ofTree t
  pure
    { address := ← g.text "address" 0 d.address
      connectTimeout := ← g.number "connect_timeout_in_ms" 1 d.connectTimeout
      tcpKeepAlive := ← g.number "tcp_keepalive_in_secs" 2 d.tcpKeepAlive
      keepAliveInterval := ← g.number "http2_keep_alive_interval_in_secs" 3 d.keepAliveInterval
      keepAliveTimeout := ← g.number "http2_keep_alive_timeout_in_secs" 4 d.keepAliveTimeout }

/-- Reads how to reach the management server. -/
def readManagement (t : Tree) : Option ManagementSettings := do
  let d : ManagementSettings := {}
  let g ← Group.ofTree t
  pure
    { address := ← g.text "address" 0 d.address
      username := ← g.text "username" 1 d.username
      password := ← g.text "password" 2 d.password
      connectTimeout := ← g.number "connect_timeout_in_ms" 3 d.connectTimeout
      requestTimeout := ← g.number "request_timeout_in_ms" 4 d.requestTimeout }

/-- Reads how to try again. -/
def readRetry (t : Tree) : Option RetrySettings := do
  let d : RetrySettings := {}
  let g ← Group.ofTree t
  pure { interval := ← g.number "interval_in_ms" 0 d.interval }

/-- Reads a group of settings, or takes its default. -/
def readGroup {α : Type} (t : Tree) (name : String) (read : Tree → Option α) (default : α) : Option α :=
  match t.branch? name with
  | some t => read t
  | none => some default

/-- Reads all settings. -/
def ofTree (t : Tree) : Option Settings := do
  pure
    { daemon := ← readGroup t "ndk" readDaemon {}
      management := ← readGroup t "gnmi" readManagement {}
      retry := ← readGroup t "retry" readRetry {} }

/-- A number as a leaf; it has to fit 64 bits with a sign. -/
def leaf (n : UInt64) : Option Tree := if Decimal.fitsInt64 n.toNat then some (.integer n.toNat) else none

/-- Settings as a tree to lay others over. -/
def toTree (s : Settings) : Option Tree := do
  let daemon : List (String × Tree) :=
    [("address", .text s.daemon.address),
     ("connect_timeout_in_ms", ← leaf s.daemon.connectTimeout),
     ("tcp_keepalive_in_secs", ← leaf s.daemon.tcpKeepAlive),
     ("http2_keep_alive_interval_in_secs", ← leaf s.daemon.keepAliveInterval),
     ("http2_keep_alive_timeout_in_secs", ← leaf s.daemon.keepAliveTimeout)]
  let management : List (String × Tree) :=
    [("address", .text s.management.address),
     ("username", .text s.management.username),
     ("password", .text s.management.password),
     ("connect_timeout_in_ms", ← leaf s.management.connectTimeout),
     ("request_timeout_in_ms", ← leaf s.management.requestTimeout)]
  let retry : List (String × Tree) := [("interval_in_ms", ← leaf s.retry.interval)]
  pure (.table [("ndk", .table daemon), ("gnmi", .table management), ("retry", .table retry)])

/-- What a file gives, if it can be read. -/
def fileLayer : SettingsFile → Option Layer
  | .absent => some []
  | .missing => none
  | .present text => (Toml.read text).bind Layer.ofFile?

/-- A value that is there, or else an error. -/
def orError {α : Type} (e : SettingsError) : Option α → Except SettingsError α
  | some a => .ok a
  | none => .error e

/-- Lays a file and the environment over settings. -/
def layered (base : Settings) (file : SettingsFile) (environment : List (String × String)) :
    Except SettingsError Settings := do
  let tree ← orError .unreadable base.toTree
  let layer ← orError .unreadable (fileLayer file)
  let tree ← orError .misplaced (layer.lay tree)
  let tree ← orError .misplaced ((Layer.ofEnvironment environment).lay tree)
  orError .unreadable (ofTree tree)

/-- Loads settings from a file and the environment. -/
def load (file : SettingsFile) (environment : List (String × String)) : Except SettingsError Settings :=
  layered {} (file.orNamed environment) environment

/-- Loads settings, then a further file over them, and the environment over all. -/
def override (base : Settings) (file : SettingsFile) (environment : List (String × String)) :
    Except SettingsError Settings :=
  match file with
  | .absent => .ok base
  | file => layered base file environment

end Settings

end NetworkAgent

import Mathlib.Algebra.Group.Nat.Defs
import NetworkAgent.Proofs.Settings.Ways
import NetworkAgent.Settings.Load

/-! # The fields of settings

What the settings of an agent consist of, field by field: where a field stands in a tree, how it is read from there and
how it is written. To read or to write settings is to read or write each field by itself.

* **`Settings.Field`** — the fields, with the group, the name and the position of each.
* **`Settings.ofTree_eq_some_iff`** — settings are read field by field.
* **`Settings.toTree_eq_some_iff`** — they can be written if every number fits; `at?_written`, `convert?_leaf`: what is
  written is there and is read again. -/

namespace NetworkAgent.Settings

/-- **The fields of settings.** -/
inductive Field where
  | daemonAddress
  | daemonConnectTimeout
  | tcpKeepAlive
  | keepAliveInterval
  | keepAliveTimeout
  | managementAddress
  | username
  | password
  | managementConnectTimeout
  | requestTimeout
  | retryInterval
  deriving DecidableEq, Repr

/-- The value of a field. -/
inductive Value where
  | text (s : String)
  | number (n : UInt64)
  deriving DecidableEq, Repr

namespace Field

/-- All fields, in the order in which they are written. -/
def all : List Field :=
  [daemonAddress, daemonConnectTimeout, tcpKeepAlive, keepAliveInterval, keepAliveTimeout, managementAddress, username,
    password, managementConnectTimeout, requestTimeout, retryInterval]

/-- No field is missing. -/
theorem mem_all (f : Field) : f ∈ all := by cases f <;> decide

/-- The group of a field. -/
def group : Field → String
  | daemonAddress | daemonConnectTimeout | tcpKeepAlive | keepAliveInterval | keepAliveTimeout => "ndk"
  | managementAddress | username | password | managementConnectTimeout | requestTimeout => "gnmi"
  | retryInterval => "retry"

/-- The name of a field in its group. -/
def name : Field → String
  | daemonAddress | managementAddress => "address"
  | daemonConnectTimeout | managementConnectTimeout => "connect_timeout_in_ms"
  | tcpKeepAlive => "tcp_keepalive_in_secs"
  | keepAliveInterval => "http2_keep_alive_interval_in_secs"
  | keepAliveTimeout => "http2_keep_alive_timeout_in_secs"
  | username => "username"
  | password => "password"
  | requestTimeout => "request_timeout_in_ms"
  | retryInterval => "interval_in_ms"

/-- The position of a field in its group, where that is written as a list. -/
def position : Field → Nat
  | daemonAddress | managementAddress | retryInterval => 0
  | daemonConnectTimeout | username => 1
  | tcpKeepAlive | password => 2
  | keepAliveInterval | managementConnectTimeout => 3
  | keepAliveTimeout | requestTimeout => 4

/-- The way to a field in a tree of settings. -/
def path (f : Field) : List String := [f.group, f.name]

/-- The value of a field. -/
def get (s : Settings) : Field → Value
  | daemonAddress => .text s.daemon.address
  | daemonConnectTimeout => .number s.daemon.connectTimeout
  | tcpKeepAlive => .number s.daemon.tcpKeepAlive
  | keepAliveInterval => .number s.daemon.keepAliveInterval
  | keepAliveTimeout => .number s.daemon.keepAliveTimeout
  | managementAddress => .text s.management.address
  | username => .text s.management.username
  | password => .text s.management.password
  | managementConnectTimeout => .number s.management.connectTimeout
  | requestTimeout => .number s.management.requestTimeout
  | retryInterval => .number s.retry.interval

/-- The value of a field that a tree stands for, by the type of the field. -/
def convert? : Field → Tree → Option Value
  | daemonAddress, t | managementAddress, t | username, t | password, t => t.toText?.map .text
  | daemonConnectTimeout, t | tcpKeepAlive, t | keepAliveInterval, t | keepAliveTimeout, t
  | managementConnectTimeout, t | requestTimeout, t | retryInterval, t => t.toWord?.map .number

/-- A field as it is read from a group: its default if it is not there. -/
def readFrom? (g : Group) (f : Field) : Option Value :=
  (g.find? f.name f.position).elim (some (f.get {})) f.convert?

/-- A field as it is read from what is written for its group. -/
def readGroup? (u : Tree) (f : Field) : Option Value := (Group.ofTree u).bind fun g => f.readFrom? g

/-- **A field as it is read from a tree.** A group that is missing is read like one without branches. -/
def read? (t : Tree) (f : Field) : Option Value := f.readGroup? ((t.branch? f.group).getD (.table []))

/-- A field as it is written. -/
def leaf (s : Settings) (f : Field) : Tree :=
  match f.get s with
  | .text s => .text s
  | .number n => .integer n.toNat

/-- A field as it is read from a table. -/
theorem readGroup?_table (bs : List (String × Tree)) (f : Field) :
    f.readGroup? (.table bs) = (bs.lookup f.name).elim (some (f.get {})) f.convert? := rfl

/-- Tables and lists stand for no value. -/
theorem convert?_eq_none (f : Field) {t : Tree} (h : t.isTable = true ∨ t.isList = true) : f.convert? t = none := by
  cases t with
  | table => cases f <;> rfl
  | list => cases f <;> rfl
  | _ => simp [Tree.isTable, Tree.isList] at h

/-- What is written is read again. -/
theorem convert?_leaf (s : Settings) (f : Field) : f.convert? (f.leaf s) = some (f.get s) := by
  cases f <;> simp [leaf, convert?, get, Tree.toText?, Tree.toWord?]

end Field

/-! ## Reading -/

variable {g : Group} {f : Field}

/-- A text in a group is read as a field. -/
theorem Group.text_eq_some_iff (f : Field) {default s : String} (hdefault : f.get {} = .text default)
    (hconvert : ∀ v, f.convert? v = v.toText?.map .text) :
    g.text f.name f.position default = some s ↔ f.readFrom? g = some (.text s) := by
  rw [Group.text, Field.readFrom?]
  cases g.find? f.name f.position with
  | none => simp [hdefault]
  | some v => simp [hconvert]

/-- A number in a group is read as a field. -/
theorem Group.number_eq_some_iff (f : Field) {default n : UInt64} (hdefault : f.get {} = .number default)
    (hconvert : ∀ v, f.convert? v = v.toWord?.map .number) :
    g.number f.name f.position default = some n ↔ f.readFrom? g = some (.number n) := by
  rw [Group.number, Field.readFrom?]
  cases g.find? f.name f.position with
  | none => simp [hdefault]
  | some v => simp [hconvert]

/-- The daemon's settings are read field by field. -/
theorem readDaemon_eq_some_iff (u : Tree) (d : DaemonSettings) :
    readDaemon u = some d ↔
      Field.daemonAddress.readGroup? u = some (.text d.address) ∧
      Field.daemonConnectTimeout.readGroup? u = some (.number d.connectTimeout) ∧
      Field.tcpKeepAlive.readGroup? u = some (.number d.tcpKeepAlive) ∧
      Field.keepAliveInterval.readGroup? u = some (.number d.keepAliveInterval) ∧
      Field.keepAliveTimeout.readGroup? u = some (.number d.keepAliveTimeout) := by
  obtain ⟨address, connectTimeout, tcpKeepAlive, keepAliveInterval, keepAliveTimeout⟩ := d
  simp only [readDaemon, Field.readGroup?]
  cases Group.ofTree u with
  | none => exact iff_of_false nofun (fun h => nomatch h.1)
  | some g =>
      simp only [Option.bind_eq_bind, Option.bind_some, Option.bind_eq_some_iff, Option.pure_def, Option.some.injEq,
        DaemonSettings.mk.injEq, ← and_assoc, exists_eq_right]
      simp only [and_assoc]
      exact and_congr (g.text_eq_some_iff .daemonAddress rfl fun _ => rfl) <|
        and_congr (g.number_eq_some_iff .daemonConnectTimeout rfl fun _ => rfl) <|
        and_congr (g.number_eq_some_iff .tcpKeepAlive rfl fun _ => rfl) <|
        and_congr (g.number_eq_some_iff .keepAliveInterval rfl fun _ => rfl)
          (g.number_eq_some_iff .keepAliveTimeout rfl fun _ => rfl)

/-- The management server's settings are read field by field. -/
theorem readManagement_eq_some_iff (u : Tree) (m : ManagementSettings) :
    readManagement u = some m ↔
      Field.managementAddress.readGroup? u = some (.text m.address) ∧
      Field.username.readGroup? u = some (.text m.username) ∧
      Field.password.readGroup? u = some (.text m.password) ∧
      Field.managementConnectTimeout.readGroup? u = some (.number m.connectTimeout) ∧
      Field.requestTimeout.readGroup? u = some (.number m.requestTimeout) := by
  obtain ⟨address, username, password, connectTimeout, requestTimeout⟩ := m
  simp only [readManagement, Field.readGroup?]
  cases Group.ofTree u with
  | none => exact iff_of_false nofun (fun h => nomatch h.1)
  | some g =>
      simp only [Option.bind_eq_bind, Option.bind_some, Option.bind_eq_some_iff, Option.pure_def, Option.some.injEq,
        ManagementSettings.mk.injEq, ← and_assoc, exists_eq_right]
      simp only [and_assoc]
      exact and_congr (g.text_eq_some_iff .managementAddress rfl fun _ => rfl) <|
        and_congr (g.text_eq_some_iff .username rfl fun _ => rfl) <|
        and_congr (g.text_eq_some_iff .password rfl fun _ => rfl) <|
        and_congr (g.number_eq_some_iff .managementConnectTimeout rfl fun _ => rfl)
          (g.number_eq_some_iff .requestTimeout rfl fun _ => rfl)

/-- The retry settings are read field by field. -/
theorem readRetry_eq_some_iff (u : Tree) (r : RetrySettings) :
    readRetry u = some r ↔ Field.retryInterval.readGroup? u = some (.number r.interval) := by
  obtain ⟨interval⟩ := r
  simp only [readRetry, Field.readGroup?]
  cases Group.ofTree u with
  | none => exact iff_of_false nofun nofun
  | some g =>
      simp only [Option.bind_eq_bind, Option.bind_some, Option.bind_eq_some_iff, Option.pure_def, Option.some.injEq,
        RetrySettings.mk.injEq, exists_eq_right]
      exact g.number_eq_some_iff .retryInterval rfl fun _ => rfl

/-- A group that is missing is read like one without branches. -/
theorem readGroup_eq {α : Type} (t : Tree) (name : String) (read : Tree → Option α) (default : α)
    (h : read (.table []) = some default) :
    readGroup t name read default = read ((t.branch? name).getD (.table [])) := by
  rw [readGroup]
  cases t.branch? name with
  | none => exact h.symm
  | some _ => rfl

/-- **Settings are read field by field.** -/
theorem ofTree_eq_some_iff (t : Tree) (s : Settings) :
    ofTree t = some s ↔ ∀ f : Field, f.read? t = some (f.get s) := by
  have hgroups : ofTree t = some s ↔
      readDaemon ((t.branch? "ndk").getD (.table [])) = some s.daemon ∧
      readManagement ((t.branch? "gnmi").getD (.table [])) = some s.management ∧
      readRetry ((t.branch? "retry").getD (.table [])) = some s.retry := by
    obtain ⟨daemon, management, retry⟩ := s
    rw [ofTree, readGroup_eq t "ndk" readDaemon {} rfl, readGroup_eq t "gnmi" readManagement {} rfl,
      readGroup_eq t "retry" readRetry {} rfl]
    simp only [Option.bind_eq_bind, Option.bind_eq_some_iff, Option.pure_def, Option.some.injEq, Settings.mk.injEq,
      ← and_assoc, exists_eq_right]
  rw [hgroups, readDaemon_eq_some_iff, readManagement_eq_some_iff, readRetry_eq_some_iff]
  constructor
  · rintro ⟨⟨h1, h2, h3, h4, h5⟩, ⟨h6, h7, h8, h9, h10⟩, h11⟩ f
    cases f <;> assumption
  · intro h
    exact ⟨⟨h .daemonAddress, h .daemonConnectTimeout, h .tcpKeepAlive, h .keepAliveInterval, h .keepAliveTimeout⟩,
      ⟨h .managementAddress, h .username, h .password, h .managementConnectTimeout, h .requestTimeout⟩,
      h .retryInterval⟩

/-! ## Writing -/

/-- The groups of settings. -/
def groups : List String := ["ndk", "gnmi", "retry"]

/-- **Settings as they are written**: the groups, and in each its fields. -/
def written (s : Settings) : Tree :=
  .table (groups.map fun g => (g, .table ((Field.all.filter (·.group = g)).map fun f => (f.name, f.leaf s))))

/-- **Settings that can be written**: every number fits 64 bits with a sign. -/
def Fits (s : Settings) : Prop := ∀ (f : Field) (n : UInt64), f.get s = .number n → n.toNat < 2 ^ 63

/-- A number is written if it fits 64 bits with a sign. -/
theorem leaf_eq_some_iff (n : UInt64) (t : Tree) : leaf n = some t ↔ n.toNat < 2 ^ 63 ∧ .integer n.toNat = t := by
  have hfits : Decimal.fitsInt64 n.toNat = true ↔ n.toNat < 2 ^ 63 := by
    simp only [Decimal.fitsInt64, Bool.and_eq_true, decide_eq_true_eq]
    omega
  rw [leaf]
  split
  · next h => rw [Option.some.injEq, and_iff_right (hfits.1 h)]
  · next h => exact iff_of_false nofun fun hn => h (hfits.2 hn.1)

/-- **When settings can be written, and as what.** -/
theorem toTree_eq_some_iff (s : Settings) (t : Tree) : s.toTree = some t ↔ s.Fits ∧ s.written = t := by
  have hfits : s.Fits ↔ s.daemon.connectTimeout.toNat < 2 ^ 63 ∧ s.daemon.tcpKeepAlive.toNat < 2 ^ 63 ∧
      s.daemon.keepAliveInterval.toNat < 2 ^ 63 ∧ s.daemon.keepAliveTimeout.toNat < 2 ^ 63 ∧
      s.management.connectTimeout.toNat < 2 ^ 63 ∧ s.management.requestTimeout.toNat < 2 ^ 63 ∧
      s.retry.interval.toNat < 2 ^ 63 := by
    constructor
    · intro h
      exact ⟨h .daemonConnectTimeout _ rfl, h .tcpKeepAlive _ rfl, h .keepAliveInterval _ rfl,
        h .keepAliveTimeout _ rfl, h .managementConnectTimeout _ rfl, h .requestTimeout _ rfl,
        h .retryInterval _ rfl⟩
    · rintro ⟨h1, h2, h3, h4, h5, h6, h7⟩ f n hn
      cases f <;> cases hn <;> assumption
  rw [hfits, toTree]
  simp only [Option.bind_eq_bind, Option.bind_eq_some_iff, leaf_eq_some_iff, Option.pure_def, Option.some.injEq]
  constructor
  · rintro ⟨_, ⟨h1, rfl⟩, _, ⟨h2, rfl⟩, _, ⟨h3, rfl⟩, _, ⟨h4, rfl⟩, _, ⟨h5, rfl⟩, _, ⟨h6, rfl⟩, _, ⟨h7, rfl⟩, rfl⟩
    exact ⟨⟨h1, h2, h3, h4, h5, h6, h7⟩, rfl⟩
  · rintro ⟨⟨h1, h2, h3, h4, h5, h6, h7⟩, rfl⟩
    exact ⟨_, ⟨h1, rfl⟩, _, ⟨h2, rfl⟩, _, ⟨h3, rfl⟩, _, ⟨h4, rfl⟩, _, ⟨h5, rfl⟩, _, ⟨h6, rfl⟩, _, ⟨h7, rfl⟩, rfl⟩

/-- What is written of a field is at the end of the way to it. -/
theorem at?_written (s : Settings) (f : Field) : s.written.at? f.path = some (f.leaf s) := by
  cases f <;> rfl

/-- Nothing stands below what is written of a field. -/
theorem Field.branch?_leaf (s : Settings) (f : Field) (name : String) : (f.leaf s).branch? name = none := by
  rw [Field.leaf]
  split <;> rfl

/-- The group of a name as it is written: its fields. -/
theorem branch?_written (s : Settings) (g : String) :
    s.written.branch? g = (groups.find? (g == ·)).map fun g =>
      .table ((Field.all.filter (·.group = g)).map fun f => (f.name, f.leaf s)) := by
  rw [written, Tree.branch?_table]
  exact Tree.lookup_map groups (fun g => g) _ g

end NetworkAgent.Settings

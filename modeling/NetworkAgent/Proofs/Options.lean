import Mathlib.Data.List.Basic
import NetworkAgent.Options

/-! # What options come to

Options are taken one after another, and some faults are found on the way, others only in the end. What comes of them
can be said without going through them in turn: a plan and a list of faults that depend on the order of the options
only as far as options of one kind are concerned.

* **`AgentOption.kind`**, **`Rearranged`** — options in another order, those of one kind being in the same order.
* **`Plan.described`** — the plan that options describe: of those with a value the last counts.
  `Plan.foldl_apply` is the invariant of taking them one after another.
* **`Plan.faults`** — the faults of options; `Plan.ofOptions_eq` says that options are accepted just if there are none.
* `Rearranged.described_eq`, `Rearranged.faults_eq` — neither depends on more than the order within each kind. -/

namespace NetworkAgent

/-! ## Kinds of options -/

/-- What an option is about, whatever it sets it to. -/
inductive OptionKind where
  | appRoot
  | streamConfig
  | acknowledge
  | keepAlive
  | autoState
  | cache
  | settings
  | logContext
  | cancellation
  deriving DecidableEq, Repr

namespace AgentOption

/-- What an option is about. -/
def kind : AgentOption → OptionKind
  | .appRoot _ => .appRoot
  | .streamConfig => .streamConfig
  | .acknowledge => .acknowledge
  | .keepAlive _ => .keepAlive
  | .autoState => .autoState
  | .cache => .cache
  | .settings _ => .settings
  | .logContext => .logContext
  | .cancellation _ => .cancellation

/-- The root container that an option names. -/
def appRoot? : AgentOption → Option String
  | .appRoot path => some path
  | _ => none

/-- How the daemon is to be probed by an option. One without interval and threshold does not count. -/
def keepAlive? : AgentOption → Option KeepAlive
  | .keepAlive k => if k = ⟨0, 0⟩ then none else some k
  | _ => none

/-- The settings that an option gives. -/
def settings? : AgentOption → Option Settings
  | .settings s => some s
  | _ => none

/-- Whether the token that an option gives is cancelled already. -/
def cancellation? : AgentOption → Option Bool
  | .cancellation cancelled => some cancelled
  | _ => none

end AgentOption

/-- **Options in another order**, those of one kind being in the same order. -/
def Rearranged (os ps : List AgentOption) : Prop :=
  ∀ kind, os.filter (·.kind = kind) = ps.filter (·.kind = kind)

namespace Rearranged

variable {os ps : List AgentOption}

/-- What is read off the options of one kind is the same. -/
theorem filterMap_eq (h : Rearranged os ps) {α : Type} {read : AgentOption → Option α} (kind : OptionKind)
    (hread : ∀ o, o.kind ≠ kind → read o = none) : os.filterMap read = ps.filterMap read := by
  have hfilter (l : List AgentOption) : (l.filter (·.kind = kind)).filterMap read = l.filterMap read := by
    rw [List.filterMap_filter]
    refine List.filterMap_congr fun o _ => ?_
    by_cases ho : o.kind = kind
    · rw [if_pos (decide_eq_true ho)]
    · rw [if_neg (by simpa using ho), hread o ho]
  rw [← hfilter os, h kind, hfilter ps]

/-- An option is given as often. -/
theorem count_eq (h : Rearranged os ps) (o : AgentOption) : os.count o = ps.count o := by
  have hfilter (l : List AgentOption) : (l.filter (·.kind = o.kind)).count o = l.count o :=
    List.count_filter (decide_eq_true rfl)
  rw [← hfilter os, h o.kind, hfilter ps]

/-- The same options are given. -/
theorem mem_iff (h : Rearranged os ps) (o : AgentOption) : o ∈ os ↔ o ∈ ps := by
  rw [← List.count_pos_iff, h.count_eq o, List.count_pos_iff]

end Rearranged

namespace Plan

/-! ## The plan -/

/-- **The plan that options describe.** What needs no value is in force if it is given at all; of what has a value the
last one counts, but a keepalive option that sets nothing does not. -/
def described (name : String) (os : List AgentOption) : Plan where
  name := name
  appRoot? := (os.filterMap AgentOption.appRoot?).getLast?
  streamConfig := decide (.streamConfig ∈ os)
  acknowledge := decide (.acknowledge ∈ os)
  keepAlive := (os.filterMap AgentOption.keepAlive?).getLast?
  autoState := decide (.autoState ∈ os)
  cache := decide (.cache ∈ os)
  settings := (os.filterMap AgentOption.settings?).getLast?.getD {}
  cancelled := (os.filterMap AgentOption.cancellation?).getLast?.getD false

/-- A keepalive option that sets nothing leaves the plan alone, and any other replaces what was set. -/
theorem apply_keepAlive (p : Plan) (k : KeepAlive) :
    p.apply (.keepAlive k) = { p with keepAlive := (AgentOption.keepAlive? (.keepAlive k)).or p.keepAlive } := by
  have hzero : k.interval = 0 ∧ k.threshold = 0 ↔ k = ⟨0, 0⟩ := by rw [KeepAlive.mk.injEq]
  rw [apply, AgentOption.keepAlive?]
  by_cases hk : k = ⟨0, 0⟩
  · rw [if_pos (hzero.2 hk), if_pos hk, Option.none_or]
  · rw [if_neg (mt hzero.1 hk), if_neg hk, Option.some_or]

/-- **What is given last counts**: reading one more option in front of others matters only if none of them is read. -/
theorem getLast?_filterMap_cons {α β : Type} (read : α → Option β) (a : α) (l : List α) :
    ((a :: l).filterMap read).getLast? = (l.filterMap read).getLast?.or (read a) := by
  rw [List.filterMap_cons]
  cases h : read a with
  | none => rw [Option.or_none]
  | some b => rw [List.getLast?_cons, Option.or_some]

/-- **What options taken one after another come to**, from any plan. -/
theorem foldl_apply (os : List AgentOption) (p : Plan) :
    os.foldl apply p =
      { name := p.name
        appRoot? := (os.filterMap AgentOption.appRoot?).getLast?.or p.appRoot?
        streamConfig := p.streamConfig || decide (.streamConfig ∈ os)
        acknowledge := p.acknowledge || decide (.acknowledge ∈ os)
        keepAlive := (os.filterMap AgentOption.keepAlive?).getLast?.or p.keepAlive
        autoState := p.autoState || decide (.autoState ∈ os)
        cache := p.cache || decide (.cache ∈ os)
        settings := (os.filterMap AgentOption.settings?).getLast?.getD p.settings
        cancelled := (os.filterMap AgentOption.cancellation?).getLast?.getD p.cancelled } := by
  induction os generalizing p with
  | nil => simp
  | cons o os ih =>
      rw [List.foldl_cons, ih]
      -- what the first option sets counts unless one behind it of its kind sets it again
      simp only [getLast?_filterMap_cons, Option.or_assoc, Option.getD_or, List.mem_cons]
      cases o with
      | keepAlive k =>
          rw [apply_keepAlive]
          simp [AgentOption.appRoot?, AgentOption.settings?, AgentOption.cancellation?]
      | _ =>
          simp [apply, AgentOption.appRoot?, AgentOption.keepAlive?, AgentOption.settings?,
            AgentOption.cancellation?]

/-- The plan that is gathered is the one that the options describe. -/
theorem foldl_apply_eq_described (name : String) (os : List AgentOption) :
    os.foldl apply { name := name } = described name os := by
  simp [foldl_apply, described]

/-! ## The faults -/

/-- **The faults of options**, in order: an empty name, each keepalive option that sets nothing, and the two
combinations that do not go together. -/
def faults (name : String) (os : List AgentOption) : List OptionError :=
  (if name = "" then [.emptyName] else []) ++
    List.replicate (os.count (.keepAlive ⟨0, 0⟩)) .invalidKeepAlive ++
    (if .acknowledge ∈ os ∧ .streamConfig ∉ os then [.acknowledgeWithoutStream] else []) ++
    (if .acknowledge ∈ os ∧ .autoState ∈ os then [.acknowledgeWithAutoState] else [])

/-- The options that are refused by themselves are the keepalive options that set nothing. -/
theorem refuses_eq (o : AgentOption) : refuses o = (o == .keepAlive ⟨0, 0⟩) := by
  cases o with
  | keepAlive k =>
      obtain ⟨interval, threshold⟩ := k
      rw [Bool.eq_iff_iff]
      simp [refuses]
  | _ => rfl

/-- The conflicts of the plan that options describe. -/
theorem conflicts_described (name : String) (os : List AgentOption) :
    (described name os).conflicts
      = (if .acknowledge ∈ os ∧ .streamConfig ∉ os then [.acknowledgeWithoutStream] else []) ++
        (if .acknowledge ∈ os ∧ .autoState ∈ os then [.acknowledgeWithAutoState] else []) := by
  simp [conflicts, described]

/-- **Options are accepted just if they have no faults**, and then come to the plan that they describe. -/
theorem ofOptions_eq (name : String) (os : List AgentOption) :
    ofOptions name os
      = if faults name os = [] then .ok (described name os) else .error (faults name os) := by
  have hinvalid : (os.filter refuses).map (fun _ => OptionError.invalidKeepAlive)
      = List.replicate (os.count (.keepAlive ⟨0, 0⟩)) .invalidKeepAlive := by
    rw [List.map_const', List.filter_congr fun o _ => refuses_eq o, ← List.countP_eq_length_filter, List.count]
  have hfaults : (if name.isEmpty then [.emptyName] else []) ++
      (os.filter refuses).map (fun _ => OptionError.invalidKeepAlive) ++ (described name os).conflicts
      = faults name os := by
    rw [hinvalid, conflicts_described, ← List.append_assoc]
    simp only [String.isEmpty_iff, faults]
  rw [ofOptions, foldl_apply_eq_described, hfaults]
  simp only [List.isEmpty_iff]

/-- When options have faults. -/
theorem faults_ne_nil_iff (name : String) (os : List AgentOption) :
    faults name os ≠ [] ↔ name = "" ∨ .keepAlive ⟨0, 0⟩ ∈ os ∨ (.acknowledge ∈ os ∧ .streamConfig ∉ os) ∨
      (.acknowledge ∈ os ∧ .autoState ∈ os) := by
  simp only [faults, ne_eq, List.append_eq_nil_iff, ite_eq_right_iff, reduceCtorEq, imp_false,
    List.replicate_eq_nil_iff, List.count_eq_zero, not_and_or, not_or, not_not, or_assoc]

/-- Without faults, what is acknowledged is streamed. -/
theorem streamConfig_described {name : String} {os : List AgentOption} (h : faults name os = [])
    (hacknowledge : (described name os).acknowledge = true) : (described name os).streamConfig = true := by
  have hnot : ¬(.acknowledge ∈ os ∧ .streamConfig ∉ os) := fun hconflict =>
    (faults_ne_nil_iff name os).2 (.inr (.inr (.inl hconflict))) h
  have hmem : .acknowledge ∈ os := of_decide_eq_true hacknowledge
  exact decide_eq_true (Decidable.not_not.1 fun hstream => hnot ⟨hmem, hstream⟩)

end Plan

/-! ## The order of options -/

namespace Rearranged

variable {os ps : List AgentOption}

/-- Options in another order describe the same plan. -/
theorem described_eq (h : Rearranged os ps) (name : String) : Plan.described name os = Plan.described name ps := by
  have hroot : os.filterMap AgentOption.appRoot? = ps.filterMap AgentOption.appRoot? :=
    h.filterMap_eq .appRoot fun o ho => by
      cases o with
      | appRoot => exact (ho rfl).elim
      | _ => rfl
  have hkeepAlive : os.filterMap AgentOption.keepAlive? = ps.filterMap AgentOption.keepAlive? :=
    h.filterMap_eq .keepAlive fun o ho => by
      cases o with
      | keepAlive => exact (ho rfl).elim
      | _ => rfl
  have hsettings : os.filterMap AgentOption.settings? = ps.filterMap AgentOption.settings? :=
    h.filterMap_eq .settings fun o ho => by
      cases o with
      | settings => exact (ho rfl).elim
      | _ => rfl
  have hcancellation : os.filterMap AgentOption.cancellation? = ps.filterMap AgentOption.cancellation? :=
    h.filterMap_eq .cancellation fun o ho => by
      cases o with
      | cancellation => exact (ho rfl).elim
      | _ => rfl
  simp only [Plan.described, hroot, hkeepAlive, hsettings, hcancellation, h.mem_iff]

/-- They have the same faults. -/
theorem faults_eq (h : Rearranged os ps) (name : String) : Plan.faults name os = Plan.faults name ps := by
  simp only [Plan.faults, h.count_eq, h.mem_iff]

end Rearranged

end NetworkAgent

import NetworkAgent.Proofs.Path.Subtree
import NetworkAgent.Proofs.Session.Sequence

/-! # Deleting the root container

With the root container of an application the daemon drops all that is in it, and a session that has it deleted stops
tracking what is in it. What that is it reads off the texts of the paths, while the daemon goes by their elements.

* **`Session.DropsSubtree`** — that a root container goes with all that is in it by the elements, and with nothing else.
* `Session.resume_deleting_root` — what it does to the ledger.
* **`Session.dropsSubtree_iff`** — it does if and only if its path is plain. -/

namespace NetworkAgent

namespace Session

/-- **A root container is dropped with its subtree.** An agent of any options that are accepted, and that give it this
root, is asked to delete it while it is tracked. Then the delete is sent. By the time that it is answered with success
other operations may have taken their steps; of what is tracked by then, which may be any paths that are written element
by element, and the root itself, nothing is gone but what is within the root. -/
def DropsSubtree (root : String) : Prop :=
  ∀ (s t : Session) (path : String) (a : Answer),
    (∃ name options, Plan.ofOptions name options = .ok s.plan) → s.appRoot = root → t.plan = s.plan →
    s.connected = true → s.statePath path = root → root ∈ s.ledger →
    (∀ q ∈ t.ledger, q = root ∨ XPath.IsWritten q) → a.succeeded = true →
    ∃ (c : Conversation) (u : Session),
      s.begin (.deleteState path) = (s, .waiting (deleteCall root) c) ∧ t.resume c a = u.done ∧
      ∀ q, q ∈ u.ledger ↔ q ∈ t.ledger ∧ ¬XPath.IsWithin (XPath.elements root) (XPath.elements q)

/-- With success the root container is gone, and what is at its path or below it by the texts. -/
theorem resume_deleting_root (t : Session) {a : Answer} (ha : a.succeeded = true) :
    t.resume (.deleting t.appRoot none) a = done { t with ledger := t.ledger.eraseSubtree t.appRoot } := by
  rw [resume, deleted, if_pos ha, Ledger.drop, if_pos rfl]

/-- Text and elements agree about what is below a root container that is dropped with its subtree. -/
theorem DropsSubtree.isAtOrBelow_iff {root path : String} (h : DropsSubtree root) (hpath : XPath.IsWritten path) :
    XPath.isAtOrBelow path root = true ↔ XPath.IsWithin (XPath.elements root) (XPath.elements path) := by
  -- the root container and the path are all that is tracked
  let s : Session :=
    { plan := { name := "greeter", appRoot? := some root }, connected := true
      ledger := (Ledger.empty.insert path).insert root }
  have hstate : s.statePath root = root := by
    rw [statePath]
    split <;> rfl
  have htracked {q : String} : q ∈ s.ledger ↔ q = root ∨ q = path := by
    rw [Ledger.mem_insert, Ledger.mem_insert]
    exact or_congr_right (or_iff_left (Ledger.not_mem_empty q))
  have hroot : s.statePath root ∈ s.ledger := hstate.symm ▸ htracked.2 (Or.inl rfl)
  have hwritten (q : String) (hq : q ∈ s.ledger) : q = root ∨ XPath.IsWritten q := by
    rcases htracked.1 hq with rfl | rfl
    · exact Or.inl rfl
    · exact Or.inr hpath
  have ha : (Answer.response (.outcome {})).succeeded = true := by decide
  obtain ⟨c, u, hbegin, hresume, hleft⟩ := h s s root _ ⟨"greeter", [.appRoot root], rfl⟩ rfl rfl rfl hstate
    (htracked.2 (Or.inl rfl)) hwritten ha
  obtain rfl : c = .deleting root none := by
    rw [begin_deleteState rfl hroot, hstate] at hbegin
    cases hbegin
    rfl
  obtain rfl : u = { s with ledger := s.ledger.eraseSubtree root } :=
    congrArg Prod.fst (hresume.symm.trans (s.resume_deleting_root ha))
  have hgone := hleft path
  rw [Ledger.mem_eraseSubtree, and_congr_right_iff] at hgone
  rw [← not_iff_not, Bool.not_eq_true]
  exact hgone (htracked.2 (Or.inr rfl))

/-- **A root container is dropped with its subtree if and only if its path is plain.** -/
theorem dropsSubtree_iff {root : String} : DropsSubtree root ↔ XPath.IsPlain root := by
  refine ⟨fun h => XPath.forall_isAtOrBelow_iff.1 fun path => h.isAtOrBelow_iff, fun hroot => ?_⟩
  intro s t path a _ happ hplan hs hpath htracked hwritten ha
  subst hpath
  have ht : t.appRoot = s.statePath path := by rw [← happ, appRoot, hplan, appRoot]
  refine ⟨_, _, begin_deleteState hs htracked, ht ▸ t.resume_deleting_root ha, fun q => ?_⟩
  rw [Ledger.mem_eraseSubtree, and_congr_right_iff]
  intro hq
  have hq' : XPath.IsWritten q := (hwritten q hq).elim (fun he => he ▸ hroot.isWritten) id
  rw [← Bool.not_eq_true, XPath.isAtOrBelow_iff_isWithin hroot hq']

end Session

namespace Record

/-- A daemon that grants everything. -/
def obliging : Daemon := fun _ r => .response r.rpc.defaultResponse

/-- An agent whose root container is `/` pushes its state and that of a node, and has the root container deleted. The
node, which is within the root, stays tracked. -/
theorem tracked_below_slash :
    ∃ plan, Plan.ofOptions "greeter" [.appRoot "/"] = .ok plan ∧
      ∃ r, r = run obliging ⟨.new plan, []⟩ [.start .direct, .updateState "/" "{}", .updateState "/a" "{}"] ∧
        r.session.ledger.paths = ["/", "/a"] ∧
        (r.perform obliging (.deleteState "")).2 = .ok .done ∧
        (r.perform obliging (.deleteState "")).1.session.ledger.paths = ["/a"] ∧
        XPath.IsWithin (XPath.elements "/") (XPath.elements "/a") ∧ ¬Session.DropsSubtree "/" := by
  have hwithin : XPath.IsWithin (XPath.elements "/") (XPath.elements "/a") := by
    have hempty : XPath.elements "/" = [] := by decide +kernel
    rw [hempty]
    trivial
  refine ⟨_, rfl, _, rfl, by decide +kernel, by decide +kernel, by decide +kernel, hwithin, fun h => ?_⟩
  have hwritten : XPath.IsWritten "/a" := ⟨[⟨['a'], []⟩], by decide, by decide⟩
  have hbelow : XPath.isAtOrBelow "/a" "/" = true := (h.isAtOrBelow_iff hwritten).2 hwithin
  exact absurd hbelow (by decide +kernel)

end Record

end NetworkAgent

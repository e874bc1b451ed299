import Reattempt.Proofs.Apart
import Reattempt.Proofs.Snapshot

/-!
# What commands ask policies

Three commands put failures to policies: to ask about a failure, to decide about
an error, and to execute a statement. Each of them first finds what it is about
under names, and then puts it to a policy, or makes a run of it.

* `Inquiry`: what such a command is about, with all objects found.
* `Inquiry.put`: the answer, and the session after it.
* `Inquiry.failures`, `Inquiry.writes`: what policies are asked, and what nodes
  write in the course of it.
* `Command.step_of_inquiry?`: each of these commands is an inquiry.
* `Session.Apart.find`: the same inquiry is found in sessions that are apart.
* `Inquiry.answer_of_not_reads`, `Inquiry.apart_put`: its answer there, and what it
  leaves.
-/

namespace Reattempt

open Session Reattempt.Action

/-- What is put to a policy, with all objects found. -/
inductive Inquiry where
  | failure (policy : Configured) (failure : Failure)
  | error (policy : Configured) (query : Query) (consistency : Consistency) (error : AttemptError)
      (retryCount : Nat)
  | request (executor : Executor) (statement : Statement) (plan : Plan Target)

/-- The run of a request over the nodes of a session. -/
def Session.run (s : Session) (x : Executor) (st : Statement) (plan : Plan Target) :
    Run (Registry Node) Target Document :=
  x.execute st plan (.scripted s.effect?) (some Session.patience) s.store s.nodes

namespace Inquiry

/-- **The answer to an inquiry**, and the session after it. -/
def put (s : Session) : Inquiry → (Answer × List Entry) × Session
  | failure c f => (showVerdict c (c.ask s.store.flags f), s)
  | error c q level e n => (showVerdict c (c.decide s.store.flags q level e n), s)
  | request x st plan =>
    let r := s.run x st plan
    ((.executed (.ofRun (x.terms st s.store).policy plan r), r.events.map Event.entry),
      { s with store := r.last.store, nodes := r.last.state })

/-- The failures that policies are asked about, each with its policy. -/
def failures (s : Session) : Inquiry → List (Configured × Failure)
  | failure c f => [(c, f)]
  | error c q level e n => (Failure.ofError? q level n e).toList.map (Prod.mk c)
  | request x st plan =>
    ((s.run x st plan).failures st.query).map (Prod.mk (x.terms st s.store).policy)

/-- The writes of nodes in the course of it. -/
def writes (s : Session) : Inquiry → List Effect
  | failure .. | error .. => []
  | request x st plan => (s.run x st plan).attempts.flatMap Attempt.effects

/-- **An inquiry reads one of the changed flags** for one of these failures. -/
def Reads (changed : Flag → Prop) (s : Session) (q : Inquiry) : Prop :=
  ∃ asked ∈ q.failures s, asked.1.Reads changed asked.2

end Inquiry

/-- What a command puts to policies, if it is one that does. -/
def Command.inquiry? : Command → Option (Action Inquiry)
  | policy (.ask c st level n cause) => some do
    let c ← c.resolve
    let st ← st.resolve
    return .failure c ⟨st.query, level, n, cause⟩
  | policy (.decide c st level e n) => some do
    let c ← c.resolve
    let st ← st.resolve
    return .error c st.query level e n
  | executor (.execute name st plan cycle) => some do
    let x ← Session.executor name
    let st ← st.resolve
    let targets ← plan.mapM ExecutorCommand.target
    return .request x st (if cycle then .cycle targets else .ofList targets)
  | _ => none

/-- **A command that puts something to policies** finds what it is about, and does nothing else. -/
theorem Command.step_of_inquiry? {c : Command} {x : Action Inquiry} (h : c.inquiry? = some x) :
    Session.step c = x >>= fun q => modifyGet fun s => q.put s := by
  cases c with
  | policy c =>
    cases c with
    | ask c st level n cause | decide c st level e n =>
      cases h
      simp only [bind_assoc, pure_bind]
      rfl
    | _ => cases h
  | executor c =>
    cases c with
    | execute name st plan cycle =>
      cases h
      simp only [bind_assoc, pure_bind]
      rfl
    | _ => cases h
  | _ => cases h

/-! ### Nodes keep their addresses -/

namespace Registry

theorem SameAddresses.symm {ns ns' : Registry Node} (h : ns.SameAddresses ns') :
    ns'.SameAddresses ns :=
  fun name => (h name).symm

theorem SameAddresses.trans {ns ns' ns'' : Registry Node} (h : ns.SameAddresses ns')
    (h' : ns'.SameAddresses ns'') : ns.SameAddresses ns'' :=
  fun name => (h' name).trans (h name)

theorem sameAddresses_react (ns : Registry Node) (name : String) (level : Consistency) :
    ns.SameAddresses (ns.react name level).2 := by
  intro other
  unfold react
  cases hn : ns.get? name with
  | none => rfl
  | some n =>
    rw [get?_set]
    split
    next heq =>
      rw [heq, hn]
      rfl
    next => rfl

theorem sameAddresses_after (resolve : NamedEffect → Option Effect) (ns : Registry Node)
    (as : List (Attempt Target Document)) :
    ns.SameAddresses ((Cluster.scripted resolve).after ns as) := by
  induction as generalizing ns with
  | nil => exact fun _ => rfl
  | cons a as ih =>
    have hcall := ns.sameAddresses_react a.target.name a.consistency
    refine hcall.trans ?_
    rw [← congrArg Prod.snd (Cluster.call_scripted resolve ns a.target a.consistency)]
    exact ih _

end Registry

theorem Inquiry.sameAddresses_put (s : Session) (q : Inquiry) :
    s.nodes.SameAddresses (q.put s).2.nodes := by
  cases q with
  | failure | error => exact fun _ => rfl
  | request x st plan =>
    show s.nodes.SameAddresses (s.run x st plan).last.state
    rw [Session.run, x.last_state]
    exact s.nodes.sameAddresses_after _ _

/-! ### Inquiries in sessions that are apart -/

section Apart

variable {changed : Flag → Prop} {nodes : Registry Node → Registry Node → Prop} {s s' : Session}

/-- **The same inquiry is found** in sessions that are apart. -/
theorem Command.inquiry_parallel (haddresses : ∀ {ns ns'}, nodes ns ns' → ns.SameAddresses ns')
    {c : Command} {x : Action Inquiry} (h : c.inquiry? = some x) :
    Parallel changed nodes Eq x x := by
  cases c with
  | policy c =>
    cases c with
    | ask c st | decide c st =>
      cases h
      exact c.parallel.first fun c => st.parallel.first fun st => .pure rfl
    | _ => cases h
  | executor c =>
    cases c with
    | execute name st plan cycle =>
      cases h
      refine Parallel.first (.look fun h => h.executors) fun x => st.parallel.first fun st => ?_
      refine Parallel.first (.mapM_list ?_ plan) fun targets => .pure rfl
      exact ExecutorCommand.target_parallel haddresses
    | _ => cases h
  | _ => cases h

/-- **What is found in sessions that are apart**; finding it leaves the nodes what they are. -/
theorem Session.Apart.find (h : s.Apart changed nodes s')
    (haddresses : s.nodes.SameAddresses s'.nodes) {c : Command} {x : Action Inquiry}
    (hc : c.inquiry? = some x) :
    (∃ e, x.run s = .error e ∧ x.run s' = .error e) ∨
    ∃ q s₁ s₁', x.run s = .ok (q, s₁) ∧ x.run s' = .ok (q, s₁') ∧ s₁.Apart changed nodes s₁' ∧
      s₁.nodes = s.nodes ∧ s₁'.nodes = s'.nodes := by
  -- the nodes are related by being these nodes, and by nothing else
  let these : Registry Node → Registry Node → Prop := fun ns ns' => ns = s.nodes ∧ ns' = s'.nodes
  have hthese : ∀ {ns ns'}, these ns ns' → ns.SameAddresses ns' := by
    rintro ns ns' ⟨rfl, rfl⟩
    exact haddresses
  have hstart : s.Apart changed these s' := { h with nodes := ⟨rfl, rfl⟩ }
  have hend := Command.inquiry_parallel hthese hc hstart
  generalize x.run s = r at hend
  generalize x.run s' = r' at hend
  cases hend with
  | error e => exact .inl ⟨e, rfl, rfl⟩
  | @ok q q' s₁ s₁' hsame hapart =>
    obtain ⟨hnodes, hnodes'⟩ := hapart.nodes
    have hrelated : nodes s₁.nodes s₁'.nodes := by
      rw [hnodes, hnodes']
      exact h.nodes
    exact .inr ⟨q, s₁, s₁', rfl, by rw [hsame], { hapart with nodes := hrelated }, hnodes, hnodes'⟩

theorem Store.Apart.terms {store store' : Store} (h : store.Apart changed store') (x : Executor)
    (st : Statement) : x.terms st store' = x.terms st store := by
  rw [Executor.terms, Executor.terms, h.profile]

theorem Session.SameNames.effect? (h : s.SameNames s') : s'.effect? = s.effect? := by
  funext e
  cases e with
  | setFlag name value => simp only [Session.effect?, h.flags]
  | remap handle profile => simp only [Session.effect?, h.handles, h.profiles]

/-- Runs that are the same are shown the same. -/
theorem Run.Same.ofRun {σ : Type} {r r' : Run σ Target Document} (h : r.Same r')
    (policy : Configured) (plan : Plan Target) :
    Report.ofRun policy plan r' = Report.ofRun policy plan r := by
  simp only [Report.ofRun, Run.taken, h.attempts, h.result, h.last.position, h.last.elapsed]

namespace Inquiry

/-- **A request that reads no changed flag runs the same** over the same nodes. -/
theorem run_of_not_reads (h : s.Apart changed nodes s') {x : Executor} {st : Statement}
    {plan : Plan Target} (hnodes : s'.nodes = s.nodes)
    (hreads : ¬ (request x st plan).Reads changed s) :
    (s.run x st plan).Same (s'.run x st plan) := by
  unfold Session.run
  rw [h.effect?, hnodes]
  refine Executor.execute_of_not_reads plan _ _ _ (h.store.terms x st) h.store.flags fun f hf => ?_
  exact fun hread => hreads ⟨_, List.mem_map_of_mem hf, hread⟩

/-- **An inquiry that reads no changed flag** gets the same answer, where the nodes are the same if
it is a request. -/
theorem answer_of_not_reads (h : s.Apart changed nodes s') {q : Inquiry}
    (hnodes : ∀ x st plan, q = request x st plan → s'.nodes = s.nodes)
    (hreads : ¬ q.Reads changed s) : (q.put s').1 = (q.put s).1 := by
  cases q with
  | failure c f =>
    have hask := Configured.ask_of_not_reads h.store.flags fun hread =>
      hreads ⟨_, List.mem_singleton.2 rfl, hread⟩
    exact congrArg (showVerdict c) hask
  | error c q level e n =>
    have hdecide := Configured.decide_of_not_reads h.store.flags fun f hf hread =>
      hreads ⟨_, List.mem_map_of_mem (Option.mem_toList.2 hf), hread⟩
    exact congrArg (showVerdict c) hdecide
  | request x st plan =>
    have hsame := run_of_not_reads h (hnodes x st plan rfl) hreads
    simp only [put, hsame.ofRun, hsame.events, h.store.terms]

/-- A request that reads no changed flag finds the nodes at the same calls. -/
theorem nodes_of_not_reads (h : s.Apart changed nodes s') {q : Inquiry}
    (hnodes : s'.nodes = s.nodes) (hreads : ¬ q.Reads changed s) :
    (q.put s').2.nodes = (q.put s).2.nodes := by
  cases q with
  | failure | error => exact hnodes
  | request x st plan => exact (run_of_not_reads h hnodes hreads).last.state

theorem writes_of_not_reads (h : s.Apart changed nodes s') {q : Inquiry}
    (hnodes : s'.nodes = s.nodes) (hreads : ¬ q.Reads changed s) :
    q.writes s' = q.writes s := by
  cases q with
  | failure | error => rfl
  | request x st plan => simp only [writes, (run_of_not_reads h hnodes hreads).attempts]

/-- **An inquiry in the course of which nodes write the same** leaves sessions apart. -/
theorem apart_put (h : s.Apart changed nodes s') {q : Inquiry} (hwrites : q.writes s' = q.writes s)
    (hnodes : nodes (q.put s).2.nodes (q.put s').2.nodes) :
    (q.put s).2.Apart changed nodes (q.put s').2 := by
  cases q with
  | failure | error => exact h
  | request x st plan =>
    have hstore : ∀ s : Session, (s.run x st plan).last.store =
        s.store.applyAll ((request x st plan).writes s) := fun s =>
      x.last_store st plan _ _ s.store s.nodes
    refine { h with store := ?_, nodes := hnodes }
    show ((s.run x st plan).last.store).Apart changed (s'.run x st plan).last.store
    rw [hstore, hstore, hwrites]
    exact h.store.applyAll _

end Inquiry

end Apart

end Reattempt

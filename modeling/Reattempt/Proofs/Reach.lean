import Reattempt.Proofs.Inquiries

/-!
# The reach of a write to a flag

A flag is held by profiles, by default policies and by gates, and the same one may
have many names. A write through any of them reaches the decisions that read the
flag, at once or after any commands, and nothing else. What is decided is put
apart here from what is kept: all that a session keeps is free of flags' values,
but for what nodes write in its executions.

* `Session.Reads`, `Session.written`: a command reads one of the changed flags; what
  nodes write during it.
* `Session.not_reads_of_gateFlags`: only through gates that hold them.
* `Session.Apart.after`, `Session.Apart.outcome`: one command in sessions that are
  apart.
* `Session.Apart.afterAll`, `Session.Apart.writeAlike`: all commands.
* `Session.flag_write_reach`: the reach of a write.
-/

namespace Reattempt

open Session Reattempt.Action

variable {σ τ ρ : Type}

namespace Session

/-- What a command puts to policies, and the session that it is put to. -/
def inquiry? (s : Session) (c : Command) : Option (Inquiry × Session) :=
  c.inquiry?.bind fun x => (x.run s).toOption

/-- **A command reads one of the changed flags.** -/
def Reads (changed : Flag → Prop) (s : Session) (c : Command) : Prop :=
  ∃ found, s.inquiry? c = some found ∧ found.1.Reads changed found.2

/-- The flags of the gates of all policies that a command puts failures to. -/
def gateFlags (s : Session) (c : Command) : List Flag :=
  ((s.inquiry? c).map fun found => (found.1.failures found.2).flatMap fun asked =>
    asked.1.policy.gates.map Gate.flag).getD []

/-- What nodes write to shared places during a command. -/
def written (s : Session) (c : Command) : List Effect :=
  ((s.inquiry? c).map fun found => found.1.writes found.2).getD []

/-- What a command is answered, with the log entries of what it did. -/
def outcome (s : Session) (c : Command) : Except UnknownName (Answer × List Entry) :=
  ((Session.step c).run s).map Prod.fst

/-- The session after commands. -/
def afterAll (s : Session) (cs : List Command) : Session := cs.foldl after s

/-- No execution among some commands reads a changed flag. -/
def Spares (changed : Flag → Prop) (s : Session) (cs : List Command) : Prop :=
  ∀ done c rest, cs = done ++ c :: rest → c.isExecution = true → ¬ (s.afterAll done).Reads changed c

/-- During each of some commands, nodes write the same to shared places in both sessions. -/
def WriteAlike (s s' : Session) (cs : List Command) : Prop :=
  ∀ done c rest, cs = done ++ c :: rest →
    (s'.afterAll done).written c = (s.afterAll done).written c

end Session

theorem Session.inquiry?_eq_some_iff {s s₁ : Session} {c : Command} {q : Inquiry} :
    s.inquiry? c = some (q, s₁) ↔ ∃ x, c.inquiry? = some x ∧ x.run s = .ok (q, s₁) := by
  unfold inquiry?
  rw [Option.bind_eq_some_iff]
  refine exists_congr fun x => and_congr_right fun _ => ?_
  cases x.run s with
  | error e => simp [Except.toOption]
  | ok r => simp [Except.toOption]

/-- **Without a gate that holds the flag**, a policy does not read it. -/
theorem Session.not_reads_of_gateFlags {s : Session} {c : Command} {f : Flag}
    (h : f ∉ s.gateFlags c) : ¬ s.Reads (· = f) c := by
  rintro ⟨found, hfound, asked, hasked, -, g, hg, rfl, -⟩
  refine h ?_
  rw [gateFlags, hfound]
  exact List.mem_flatMap.2 ⟨asked, hasked, List.mem_map_of_mem hg⟩

/-- A command that makes a request is an execution. -/
theorem Command.isExecution_of_request {c : Command} {x : Action Inquiry} {s s₁ : Session}
    {e : Executor} {st : Statement} {plan : Plan Target} (hc : c.inquiry? = some x)
    (hrun : x.run s = .ok (.request e st plan, s₁)) : c.isExecution = true := by
  cases c with
  | policy c =>
    cases c with
    | ask | decide =>
      cases hc
      obtain ⟨c, s₂, -, hrun⟩ := run_bind_eq_ok.1 hrun
      obtain ⟨st, s₃, -, hrun⟩ := run_bind_eq_ok.1 hrun
      cases hrun
    | _ => cases hc
  | executor c =>
    cases c with
    | execute => rfl
    | _ => cases hc
  | _ => cases hc

theorem Command.exists_inquiry?_of_isExecution {c : Command} (h : c.isExecution = true) :
    ∃ x, c.inquiry? = some x := by
  cases c with
  | executor c =>
    cases c with
    | execute => exact ⟨_, rfl⟩
    | _ => cases h
  | _ => cases h

theorem Session.written_of_not_execution {s : Session} {c : Command}
    (hc : c.isExecution = false) : s.written c = [] := by
  unfold written
  cases hfound : s.inquiry? c with
  | none => rfl
  | some found =>
    obtain ⟨q, s₁⟩ := found
    obtain ⟨x, hx, hrun⟩ := inquiry?_eq_some_iff.1 hfound
    cases q with
    | failure | error => rfl
    | request e st plan =>
      rw [Command.isExecution_of_request hx hrun] at hc
      cases hc

namespace Session.Apart

variable {changed : Flag → Prop} {nodes : Registry Node → Registry Node → Prop} {s s' : Session}
  {c : Command}

/-- **An inquiry that reads no changed flag is answered the same**, where the nodes are the same if
it is an execution. -/
theorem outcome (h : s.Apart changed nodes s') (haddresses : s.nodes.SameAddresses s'.nodes)
    (hc : c.inquiry?.isSome) (hnodes : c.isExecution = true → s'.nodes = s.nodes)
    (hreads : ¬ s.Reads changed c) : s'.outcome c = s.outcome c := by
  obtain ⟨x, hx⟩ := Option.isSome_iff_exists.1 hc
  unfold Session.outcome
  rw [Command.step_of_inquiry? hx, StateT.run_bind, StateT.run_bind]
  rcases h.find haddresses hx with ⟨e, hrun, hrun'⟩ | ⟨q, s₁, s₁', hrun, hrun', h₁, hn, hn'⟩
  · rw [hrun, hrun']
  · have hfound : s.inquiry? c = some (q, s₁) := inquiry?_eq_some_iff.2 ⟨x, hx, hrun⟩
    have hanswer : (q.put s₁').1 = (q.put s₁).1 := by
      refine Inquiry.answer_of_not_reads h₁ (fun e st plan hq => ?_) fun hread =>
        hreads ⟨_, hfound, hread⟩
      rw [hn, hn', hnodes (Command.isExecution_of_request hx (hq ▸ hrun))]
    rw [hrun, hrun']
    exact congrArg Except.ok hanswer

/-- What an execution leaves, and what nodes write during it. -/
theorem execution (h : s.Apart changed nodes s') (haddresses : s.nodes.SameAddresses s'.nodes)
    (hc : c.isExecution = true) :
    (s.after c = s ∧ s'.after c = s' ∧ s'.written c = s.written c) ∨
    ∃ q s₁ s₁', s.inquiry? c = some (q, s₁) ∧ s₁.Apart changed nodes s₁' ∧
      s₁.nodes = s.nodes ∧ s₁'.nodes = s'.nodes ∧ s.after c = (q.put s₁).2 ∧
      s'.after c = (q.put s₁').2 ∧ s.written c = q.writes s₁ ∧ s'.written c = q.writes s₁' := by
  obtain ⟨x, hx⟩ := Command.exists_inquiry?_of_isExecution hc
  unfold Session.after written inquiry?
  rw [Command.step_of_inquiry? hx, StateT.run_bind, StateT.run_bind, hx, Option.bind_some,
    Option.bind_some]
  rcases h.find haddresses hx with ⟨e, hrun, hrun'⟩ | ⟨q, s₁, s₁', hrun, hrun', h₁, hn, hn'⟩
  · rw [hrun, hrun']
    exact .inl ⟨rfl, rfl, rfl⟩
  · rw [hrun, hrun']
    exact .inr ⟨q, s₁, s₁', rfl, h₁, hn, hn', rfl, rfl, rfl, rfl⟩

/-- **A command during which nodes write the same** leaves sessions apart. -/
theorem after (h : s.Apart changed nodes s') (hsteady : Registry.Steady nodes)
    (hwritten : s'.written c = s.written c)
    (hnodes : c.isExecution = true → nodes (s.after c).nodes (s'.after c).nodes) :
    (s.after c).Apart changed nodes (s'.after c) := by
  cases hc : c.isExecution with
  | false => exact h.after_of_not_execution hsteady hc
  | true =>
    have hafter := hnodes hc
    rcases h.execution (hsteady.addresses h.nodes) hc with
      ⟨ha, ha', -⟩ | ⟨q, s₁, s₁', -, h₁, -, -, ha, ha', hw, hw'⟩
    · rw [ha, ha']
      exact h
    · rw [hw, hw'] at hwritten
      rw [ha, ha'] at hafter ⊢
      exact Inquiry.apart_put h₁ hwritten hafter

/-- Nodes keep their addresses, whatever they are called for. -/
theorem after_of_written (h : s.Apart changed Registry.SameAddresses s')
    (hwritten : s'.written c = s.written c) :
    (s.after c).Apart changed Registry.SameAddresses (s'.after c) := by
  refine h.after Registry.steady_sameAddresses hwritten fun hc => ?_
  rcases h.execution h.nodes hc with
    ⟨ha, ha', -⟩ | ⟨q, s₁, s₁', -, h₁, -, -, ha, ha', -⟩
  · rw [ha, ha']
    exact h.nodes
  · rw [ha, ha']
    exact (q.sameAddresses_put s₁).symm.trans (h₁.nodes.trans (q.sameAddresses_put s₁'))

/-- **A command that is no execution, or reads no changed flag**, has nodes write the same, and
leaves them the same. -/
theorem after_of_not_reads (h : s.Apart changed Eq s')
    (hreads : c.isExecution = true → ¬ s.Reads changed c) :
    s'.written c = s.written c ∧ (s.after c).Apart changed Eq (s'.after c) := by
  cases hc : c.isExecution with
  | false =>
    rw [written_of_not_execution hc, written_of_not_execution hc]
    exact ⟨rfl, h.after_of_not_execution Registry.steady_eq hc⟩
  | true =>
    rcases h.execution (Registry.steady_eq.addresses h.nodes) hc with
      ⟨ha, ha', hw⟩ | ⟨q, s₁, s₁', hfound, h₁, -, -, ha, ha', hw, hw'⟩
    · rw [ha, ha']
      exact ⟨hw, h⟩
    · have hunread : ¬ q.Reads changed s₁ := fun hread => hreads hc ⟨_, hfound, hread⟩
      have hwritten := Inquiry.writes_of_not_reads h₁ h₁.nodes.symm hunread
      rw [ha, ha', hw, hw']
      exact ⟨hwritten, Inquiry.apart_put h₁ hwritten
        (Inquiry.nodes_of_not_reads h₁ h₁.nodes.symm hunread).symm⟩

/-! ### All commands -/

/-- **Commands during which nodes write the same** leave sessions apart. -/
theorem afterAll {cs : List Command} (h : s.Apart changed Registry.SameAddresses s')
    (halike : s.WriteAlike s' cs) :
    (s.afterAll cs).Apart changed Registry.SameAddresses (s'.afterAll cs) := by
  induction cs generalizing s s' with
  | nil => exact h
  | cons c cs ih =>
    refine ih (h.after_of_written (halike [] c cs rfl)) fun done c' rest hcs => ?_
    exact halike (c :: done) c' rest (congrArg (c :: ·) hcs)

/-- **Where no execution reads a changed flag**, nodes write the same and stay the same. -/
theorem writeAlike {cs : List Command} (h : s.Apart changed Eq s') (hspares : s.Spares changed cs) :
    s.WriteAlike s' cs ∧ (s'.afterAll cs).nodes = (s.afterAll cs).nodes := by
  induction cs generalizing s s' with
  | nil => exact ⟨fun done c rest hcs => by simp at hcs, h.nodes.symm⟩
  | cons c cs ih =>
    obtain ⟨hwritten, hafter⟩ := h.after_of_not_reads (hspares [] c cs rfl)
    obtain ⟨halike, hnodes⟩ := ih hafter fun done c' rest hcs =>
      hspares (c :: done) c' rest (congrArg (c :: ·) hcs)
    refine ⟨fun done c' rest hcs => ?_, hnodes⟩
    -- a command among these is the first one, or comes after it
    cases done with
    | nil =>
      cases hcs
      exact hwritten
    | cons d done =>
      cases hcs
      exact halike done c' rest rfl

end Session.Apart

namespace Session

/-- A write to a flag changes its value, and nothing else. -/
theorem after_set {s : Session} {name : String} {f : Flag} (hf : s.flags.get? name = some f)
    (value : Bool) :
    s.after (.flag (.set name value)) = { s with store := s.store.setFlag f value } := by
  have hrun : (Session.step (.flag (.set name value))).run s =
      .ok ((.flag ((s.store.setFlag f value).flags f), []),
        { s with store := s.store.setFlag f value }) :=
    run_bind_eq_ok.2 ⟨_, _, run_look_bind_eq_ok.2 ⟨f, hf, rfl⟩, rfl⟩
  rw [Session.after, hrun]

theorem apart_setFlag (s : Session) (f : Flag) (value : Bool) :
    s.Apart (· = f) Eq { s with store := s.store.setFlag f value } where
  flags := rfl
  policies := rfl
  builders := rfl
  profiles := rfl
  handles := rfl
  statements := rfl
  executors := rfl
  store := ⟨fun _ hne => if_neg hne, rfl, rfl, rfl⟩
  nodes := rfl

/-- **The reach of a write to a flag**, in any session, through any of the flag's names. The write
changes its value and nothing else, and commands keep it so: as long as nodes write the same to
shared places in the executions among them, which they do where these do not read the flag, the
sessions with and without the write differ in no name, handle or profile. A decision after any such
commands, or an execution over the same nodes, is the same in both, unless a gate that holds this
flag is asked, and about a query that declares nothing if the gate goes by declarations. Writes to
the flag in the course of an execution reach no further. A profile for which no policy was written
has a policy that reads the flag of that profile, own or inherited; there the flag decides. An
execution of a statement that declares something, where all gates go by declarations, is the same
whatever all flags are, and whatever is written to them on the way. -/
theorem flag_write_reach (s : Session) (name : String) (value : Bool) (f : Flag)
    (hf : s.flags.get? name = some f) :
    let s' := s.after (.flag (.set name value))
    (s'.store.flags f = value ∧ s.Apart (· = f) Eq s') ∧
    (∀ cs, s.Spares (· = f) cs →
      s.WriteAlike s' cs ∧ (s'.afterAll cs).nodes = (s.afterAll cs).nodes) ∧
    (∀ cs, s.WriteAlike s' cs →
      let t := s.afterAll cs
      let t' := s'.afterAll cs
      t.Apart (· = f) Registry.SameAddresses t' ∧
      (∀ c, c.inquiry?.isSome → (c.isExecution = true → t'.nodes = t.nodes) →
        ¬ t.Reads (· = f) c → t'.outcome c = t.outcome c) ∧
      ∀ (x : Executor) (st : Statement) (plan : Plan τ) (cluster : Cluster σ τ ρ)
        (patience : Option Duration) (state : σ),
        let r := x.execute st plan cluster patience t.store state
        (∀ g ∈ r.failures st.query, ¬ (x.terms st t.store).policy.Reads (· = f) g) →
        r.Same (x.execute st plan cluster patience t'.store state)) ∧
    (∀ (x : Executor) (st : Statement) (plan : Plan τ) (cluster : Cluster σ τ ρ)
      (patience : Option Duration) (store : Store) (state : σ),
      let r := x.execute st plan cluster patience store state
      let r' := x.execute st plan (cluster.rewriting (Effect.elsewhere f)) patience store state
      (∀ g ∈ r.failures st.query, ¬ (x.terms st store).policy.Reads (· = f) g) →
      r'.attempts = r.attempts.map (Attempt.rewriting (Effect.elsewhere f)) ∧
        r'.events = r.events ∧ r'.result = r.result) ∧
    (∀ commands n L p, Bears commands n L p → L.written Setting.policy? = none →
      p.policy = .standardBehind p.flag ∧
      ∀ g, (p.policy.Reads (· = f) g ↔
          p.flag = f ∧ g.category.mayHaveApplied = true ∧ g.query.isIdempotent = none) ∧
        (p.policy.Reads (· = f) g → ∀ flags, p.policy.ask flags g =
          if flags f = true then Leaf.standard.verdict g else Verdict.stopped)) ∧
    ∀ (x : Executor) (st : Statement) (plan : Plan τ) (cluster : Cluster σ τ ρ)
      (patience : Option Duration) (store : Store) (state : σ),
      st.query.isIdempotent ≠ none →
      (∀ g ∈ (x.terms st store).policy.policy.gates, g.resolver = .declared) →
      ∀ (flags : Flags) (w : List Effect → List Effect),
      let r := x.execute st plan cluster patience store state
      let r' := x.execute st plan (cluster.rewriting w) patience { store with flags := flags } state
      r'.attempts = r.attempts.map (Attempt.rewriting w) ∧ r'.events = r.events ∧
        r'.result = r.result := by
  intro s'
  have hafter : s' = { s with store := s.store.setFlag f value } := after_set hf value
  have hapart : s.Apart (· = f) Eq s' := hafter ▸ s.apart_setFlag f value
  have haddressed : s.Apart (· = f) Registry.SameAddresses s' :=
    { hapart with nodes := Registry.steady_eq.addresses hapart.nodes }
  refine ⟨⟨?_, hapart⟩, fun cs => hapart.writeAlike, fun cs halike => ?_, ?_, ?_, ?_⟩
  · rw [hafter]
    exact if_pos rfl
  · intro t t'
    have hend : t.Apart (· = f) Registry.SameAddresses t' := haddressed.afterAll halike
    refine ⟨hend, fun c hc hnodes hreads => hend.outcome hend.nodes hc hnodes hreads, ?_⟩
    intro x st plan cluster patience state r hreads
    exact Executor.execute_of_not_reads plan cluster patience state (hend.store.terms x st)
      hend.store.flags hreads
  · intro x st plan cluster patience store state r r' hreads
    have hrun : r.Abreast .whole (Effect.elsewhere f) r' :=
      Executor.execute_rewriting_of_not_reads plan cluster patience state rfl
        (fun as g hg => Store.flags_after_filter (Effect.elsewhere_keeps hg) store as) hreads
    exact hrun.eq_of_whole
  · intro commands n L p hp hw
    have hpolicy : p.policy = .standardBehind p.flag := by
      rw [hp.inherited.policy, hw]
      rfl
    refine ⟨hpolicy, fun g => ⟨?_, fun hreads flags => ?_⟩⟩
    · rw [hpolicy]
      exact Configured.reads_standardBehind_iff
    · rw [hpolicy] at hreads ⊢
      obtain ⟨rfl, hg⟩ := Configured.reads_standardBehind_iff.1 hreads
      exact Configured.ask_standardBehind hg flags
  · intro x st plan cluster patience store state hquery hgates flags w r r'
    have hflags : ∀ as : List (Attempt τ ρ), Flags.Apart (fun _ => True) (store.after as).flags
        (({ store with flags := flags } : Store).after (as.map (Attempt.rewriting w))).flags :=
      fun as g hg => absurd trivial hg
    have hrun : r.Abreast .whole w r' :=
      Executor.execute_rewriting_of_not_reads plan cluster patience state rfl hflags fun g hg => by
        refine Configured.not_reads_of_declared hgates ?_
        rw [Run.query_of_mem_failures hg]
        exact hquery
    exact hrun.eq_of_whole

end Session

/-- A profile is built over a flag, and another one is derived from it; a third one has a flag of
its own. The flag gets a second name, by which it is written. -/
def Command.flagged : Nat → Command
  | 0 => .flag (.make "f" (.fresh false))
  | 1 => .builder (.make "b" { Options.unset with flag := some (.named "f") })
  | 2 => .builder (.build "p" "b")
  | 3 => .builder (.ofProfile "d" "p" .unset)
  | 4 => .builder (.build "q" "d")
  | 5 => .profile (.make "r")
  | 6 => .flag (.ofProfile "g" "q")
  | _ => .flag (.set "g" true)

/-- A node is overloaded when a statement is executed that declares nothing. -/
def Command.overload (profile : String) : Command :=
  .policy (.decide (.ofProfile profile) (.fresh "INSERT" ⟨none, none, none, none, none, none, []⟩)
    .one (.db .overloaded "") 0)

namespace Session

open Command (flagged overload)

/-- What a command is told to do. -/
def decided? (s : Session) (c : Command) : Option Decision :=
  match s.outcome c with
  | .ok (.decided decision _, _) => some decision
  | _ => none

/-- The write reaches both profiles with the flag, and not the one without it. -/
theorem flag_write_reach_flagged :
    let s := before flagged 7
    let s' := before flagged 8
    s'.outcome (overload "r") = s.outcome (overload "r") ∧
    s.decided? (overload "p") = some .rethrow ∧
    s'.decided? (overload "p") = some (.retryNextTarget none) ∧
    s.decided? (overload "q") = some .rethrow ∧
    s'.decided? (overload "q") = some (.retryNextTarget none) := by
  intro s s'
  have hf : s.flags.get? "g" = some ⟨0⟩ := by decide +kernel
  obtain ⟨-, hspares, hsame, -⟩ :=
    flag_write_reach (σ := Unit) (τ := Unit) (ρ := Unit) s "g" true ⟨0⟩ hf
  have hnone : s.Spares (· = ⟨0⟩) [] := fun done c rest hcs => by simp at hcs
  obtain ⟨-, houtcome, -⟩ := hsame [] (hspares [] hnone).1
  have hreads : ¬ s.Reads (· = ⟨0⟩) (overload "r") := not_reads_of_gateFlags (by decide +kernel)
  refine ⟨houtcome _ rfl nofun hreads, ?_, ?_, ?_, ?_⟩ <;> decide +kernel

end Session

end Reattempt

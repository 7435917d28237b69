import OpenFlux.ForStd.List
import OpenFlux.Model.DnsTcpRelay

/-!
# Does the relay shut down cleanly?

The accept loop and every `serve` give further tasks to the pool, the first after a blocking
`accept`, the second after connecting to the upstream.  `close()` shuts the pool down without
looking where they are, and a task that comes to its `execute` or `submit` afterwards ends
with an uncaught `RejectedExecutionException`.  The accept loop then leaves its client open.

## Key results

- `serveNext_rank`: a `serve` goes on whatever its sockets do, and comes to its end
- `closes_cleanly`: the relay shuts down cleanly if `shutdownNow` finds no task that has yet
  to use the pool
- `closes_uncleanly`: `close()` between `accept` and `execute`, and between the connection to
  the upstream and `submit`
-/

namespace OpenFlux

namespace DnsTcpRelay

/-! ## The property -/

namespace ServePc

/-- The upstream socket inside `upstream.use`. -/
def upstream? : ServePc → Option Nat
  | .clientTimeout upstream | .upstreamTimeout upstream | .submit upstream
  | .pump upstream _ | .get upstream | .closeUpstream upstream _ => some upstream
  | _ => none

/-- A bound on the steps that a `serve` has still to make. -/
def rank : ServePc → Nat
  | .connect targets => targets.length + 9
  | .clientTimeout _ => 8
  | .upstreamTimeout _ => 7
  | .submit _ => 6
  | .pump _ .copy => 5
  | .pump _ .shutdownOutput => 4
  | .get _ => 3
  | .closeUpstream _ _ => 2
  | .closeClient _ => 1
  | .ended | .died _ => 0

end ServePc

/-- The thread has the socket `s` and has still to close it or to hand it over. -/
def Thread.holds (s : Nat) : Thread → Bool
  | .acceptLoop (.execute client) => client = s
  | .serve client pc => (client = s && 0 < pc.rank) || pc.upstream? = some s
  | _ => false

/-- The relay can be closed at any time: nothing is uncaught, no socket is lost and no task waits
    for ever. -/
structure ClosesCleanly (relay : DnsTcpRelay) : Prop where
  /-- no task has ended with an uncaught exception -/
  caught : ∀ t ∈ relay.threads, t.uncaught = none
  /-- every open socket is in the hands of a task -/
  held : ∀ s, relay.sockets[s]? = some true → ∃ t ∈ relay.threads, t.holds s
  /-- a `serve` that is not over comes nearer to its end -/
  goesOn : ∀ id client pc, relay.threads[id]? = some (.serve client pc) → 0 < pc.rank →
    ∀ env, ∃ relay' o pc', relay.step (.thread id env) = some (relay', o) ∧
      relay'.threads[id]? = some (.serve client pc') ∧ pc'.rank < pc.rank

/-! ## The condition on steps -/

/-- The thread gives nothing more to the pool, if the server socket is closed. -/
def Thread.isSettled : Thread → Bool
  | .acceptLoop (.execute _) => false
  | .serve _ (.connect _) | .serve _ (.clientTimeout _) | .serve _ (.upstreamTimeout _)
  | .serve _ (.submit _) => false
  | _ => true

/-- The thread is at a call on a socket whose `IOException` nobody catches. -/
def Thread.mayThrow : Thread → Bool
  | .serve _ (.clientTimeout _) | .serve _ (.upstreamTimeout _)
  | .serve _ (.closeUpstream _ _) | .serve _ (.closeClient _) => true
  | _ => false

/-- The pool is shut down when the server socket is closed and no task has yet to use the
    pool, and the calls on sockets that are outside of `try` do not fail. -/
def closesQuietly (relay : DnsTcpRelay) : Action → Bool
  | .close => true
  | .thread id env => (relay.threads[id]?).all fun t =>
      if t = .close .shutdownNow then !relay.serverOpen && relay.threads.all Thread.isSettled
      else !t.mayThrow || !env.fails

/-! ## Steps -/

/-- The task that an effect gives to the pool. -/
def Effect.task? : Effect → Option Thread
  | .run t => some t
  | _ => none

/-- A step is a call of `close()`, or one thread does what it has to do next. -/
theorem step_cases {relay relay' : DnsTcpRelay} {a : Action} {o : List String}
    (h : relay.step a = some (relay', o)) :
    (a = .close ∧ relay' = { relay with threads := relay.threads ++ [.close .setClosed] }) ∨
    ∃ id env t t' eff, a = .thread id env ∧ relay.threads[id]? = some t ∧
      relay.threadNext env t = some (t', eff) ∧
      relay' = (relay.setThread id t').perform eff := by
  cases a with
  | close =>
    obtain ⟨rfl, -⟩ := Prod.mk.inj (Option.some.inj h)
    exact .inl ⟨rfl, rfl⟩
  | thread id env =>
    rw [step] at h
    split at h
    · contradiction
    · rename_i t ht
      obtain ⟨⟨t', eff⟩, hnext, heq⟩ := Option.map_eq_some_iff.mp h
      obtain ⟨rfl, -⟩ := Prod.mk.inj heq
      exact .inr ⟨id, env, t, t', eff, rfl, ht, hnext, rfl⟩

/-- An effect adds a thread, if it gives a task to the pool. -/
theorem perform_threads (relay : DnsTcpRelay) (eff : Effect) :
    (relay.perform eff).threads = relay.threads ++ eff.task?.toList := by
  cases eff <;> simp [perform, Effect.task?]

/-- The threads after a step: the one that moved, the others, and the task that it gave to
    the pool. -/
theorem mem_threads {relay : DnsTcpRelay} {id : Nat} {t' u : Thread} {eff : Effect}
    (hu : u ∈ ((relay.setThread id t').perform eff).threads) :
    u = t' ∨ u ∈ relay.threads ∨ eff = .run u := by
  rw [perform_threads, List.mem_append] at hu
  obtain hset | htask := hu
  · exact (List.mem_or_eq_of_mem_set hset).elim (fun h => .inr (.inl h)) .inl
  · cases eff <;> simp [Effect.task?] at htask
    exact .inr (.inr (by rw [htask]))

/-- Whatever its sockets do, a `serve` that is not over has a next step, which brings it nearer
    to its end. -/
theorem serveNext_rank (relay : DnsTcpRelay) (client : Nat) (env : Env) {pc : ServePc}
    (hpos : 0 < pc.rank) :
    ∃ pc' eff, relay.serveNext client env pc = some (pc', eff) ∧ pc'.rank < pc.rank := by
  fun_cases serveNext relay client env pc <;>
    first
    | exact absurd hpos (Nat.lt_irrefl 0)
    | exact ⟨_, _, rfl, by simp [ServePc.rank]⟩

/-! ## What one thread does -/

/-- No exception has ended the thread or is about to. -/
def Thread.isHealthy : Thread → Bool
  | .acceptLoop (.died _) => false
  | .serve _ (.closeUpstream _ exn) => exn.isNone
  | .serve _ (.closeClient exn) => exn.isNone
  | .serve _ (.died _) => false
  | _ => true

/-- A healthy thread has not died. -/
theorem Thread.uncaught_of_isHealthy {t : Thread} (h : t.isHealthy) : t.uncaught = none := by
  cases t with
  | acceptLoop pc => cases pc <;> first | rfl | contradiction
  | serve client pc => cases pc <;> first | rfl | contradiction
  | pump pc => rfl
  | close pc => rfl

/-- Which thread makes a step. -/
theorem threadNext_cases {relay : DnsTcpRelay} {env : Env} {t t' : Thread} {eff : Effect}
    (h : relay.threadNext env t = some (t', eff)) :
    (∃ pc pc', t = .acceptLoop pc ∧ t' = .acceptLoop pc' ∧
      relay.acceptNext env pc = some (pc', eff)) ∨
    (∃ client pc pc', t = .serve client pc ∧ t' = .serve client pc' ∧
      relay.serveNext client env pc = some (pc', eff)) ∨
    (∃ pc pc', t = .pump pc ∧ t' = .pump pc' ∧ eff = .skip) ∨
    (∃ pc pc', t = .close pc ∧ t' = .close pc' ∧ closeNext env pc = some (pc', eff)) := by
  cases t with
  | acceptLoop pc =>
    obtain ⟨⟨pc', eff'⟩, hnext, heq⟩ := Option.map_eq_some_iff.mp h
    obtain ⟨rfl, rfl⟩ := Prod.mk.inj heq
    exact .inl ⟨pc, pc', rfl, rfl, hnext⟩
  | serve client pc =>
    obtain ⟨⟨pc', eff'⟩, hnext, heq⟩ := Option.map_eq_some_iff.mp h
    obtain ⟨rfl, rfl⟩ := Prod.mk.inj heq
    exact .inr (.inl ⟨client, pc, pc', rfl, rfl, hnext⟩)
  | pump pc =>
    obtain ⟨⟨pc', eff'⟩, hnext, heq⟩ := Option.map_eq_some_iff.mp h
    obtain ⟨rfl, rfl⟩ := Prod.mk.inj heq
    refine .inr (.inr (.inl ⟨pc, pc', rfl, rfl, ?_⟩))
    -- a `pump` has no effect that anybody sees
    obtain _ | (_ | _) := pc <;> cases hnext <;> rfl
  | close pc =>
    obtain ⟨⟨pc', eff'⟩, hnext, heq⟩ := Option.map_eq_some_iff.mp h
    obtain ⟨rfl, rfl⟩ := Prod.mk.inj heq
    exact .inr (.inr (.inr ⟨pc, pc', rfl, rfl, hnext⟩))

/-- `close()` gives nothing to the pool. -/
theorem closeNext_task? {env : Env} {pc pc' : ClosePc} {eff : Effect}
    (h : closeNext env pc = some (pc', eff)) : eff.task? = none := by
  revert h
  fun_cases closeNext env pc <;> intro h <;> cases h <;> rfl

/-- A thread that uses the pool before it is shut down, and whose sockets throw only where
    that is caught, stays healthy. -/
theorem threadNext_healthy {relay : DnsTcpRelay} {env : Env} {t t' : Thread} {eff : Effect}
    (h : relay.threadNext env t = some (t', eff)) (ht : t.isHealthy)
    (hpool : relay.shutdown → t.isSettled) (henv : t.mayThrow → !env.fails) :
    t'.isHealthy := by
  obtain ⟨pc, pc', rfl, rfl, hnext⟩ | ⟨client, pc, pc', rfl, rfl, hnext⟩ |
    ⟨pc, pc', rfl, rfl, rfl⟩ | ⟨pc, pc', rfl, rfl, -⟩ := threadNext_cases h
  · -- `accept` is inside of `try`, and `execute` is rejected only by a pool that is shut down
    revert hnext
    fun_cases acceptNext relay env pc <;> intro hnext <;> cases hnext <;>
      simp_all [Thread.isHealthy, Thread.isSettled]
  · -- `submit` likewise, and the calls that may throw do not
    revert hnext
    fun_cases serveNext relay client env pc <;> intro hnext <;> cases hnext <;>
      simp_all [Thread.isHealthy, Thread.isSettled, Thread.mayThrow, afterUse]
  · rfl
  · rfl

/-- The tasks of the pool: a `serve` from its beginning, or a `pump`. -/
theorem threadNext_run {relay : DnsTcpRelay} {env : Env} {t t' u : Thread}
    (h : relay.threadNext env t = some (t', .run u)) :
    (∃ client targets, u = .serve client (.connect targets)) ∨ u = .pump (some .copy) := by
  obtain ⟨pc, pc', rfl, rfl, hnext⟩ | ⟨client, pc, pc', rfl, rfl, hnext⟩ |
    ⟨pc, pc', rfl, rfl, heff⟩ | ⟨pc, pc', rfl, rfl, hnext⟩ := threadNext_cases h
  · revert hnext
    fun_cases acceptNext relay env pc <;> intro hnext <;> cases hnext
    exact .inl ⟨_, _, rfl⟩
  · revert hnext
    fun_cases serveNext relay client env pc <;> intro hnext <;> cases hnext
    exact .inr rfl
  · contradiction
  · cases closeNext_task? hnext

/-- A task that is settled stays so once the relay is closed, and gives nothing to the pool. -/
theorem threadNext_settled {relay : DnsTcpRelay} {env : Env} {t t' : Thread} {eff : Effect}
    (h : relay.threadNext env t = some (t', eff)) (ht : t.isSettled)
    (hclosed : relay.closed) (hserver : relay.serverOpen = false) :
    t'.isSettled ∧ eff.task? = none := by
  obtain ⟨pc, pc', rfl, rfl, hnext⟩ | ⟨client, pc, pc', rfl, rfl, hnext⟩ |
    ⟨pc, pc', rfl, rfl, rfl⟩ | ⟨pc, pc', rfl, rfl, hnext⟩ := threadNext_cases h
  · -- `accept` throws, as the server socket is closed
    revert hnext
    fun_cases acceptNext relay env pc <;> intro hnext <;> cases hnext <;>
      simp_all [Thread.isSettled, Effect.task?]
  · revert hnext
    fun_cases serveNext relay client env pc <;> intro hnext <;> cases hnext <;>
      simp_all [Thread.isSettled, Effect.task?]
  · exact ⟨rfl, rfl⟩
  · exact ⟨rfl, closeNext_task? hnext⟩

/-- A healthy thread keeps a socket, closes it or hands it over. -/
theorem threadNext_holds {relay : DnsTcpRelay} {env : Env} {t t' : Thread} {eff : Effect}
    {s : Nat} (h : relay.threadNext env t = some (t', eff)) (hs : t.holds s)
    (ht' : t'.isHealthy) :
    t'.holds s ∨ eff = .closeSocket s ∨ ∃ u, eff = .run u ∧ u.holds s := by
  obtain ⟨pc, pc', rfl, rfl, hnext⟩ | ⟨client, pc, pc', rfl, rfl, hnext⟩ |
    ⟨pc, pc', rfl, rfl, rfl⟩ | ⟨pc, pc', rfl, rfl, hnext⟩ := threadNext_cases h
  · -- the accept loop hands its client over to a `serve`
    revert hnext
    fun_cases acceptNext relay env pc <;> intro hnext <;> cases hnext <;>
      simp_all [Thread.holds, Thread.isHealthy, ServePc.rank]
  · -- `use` closes the upstream, and the `use` around it the client
    revert hnext
    fun_cases serveNext relay client env pc <;> intro hnext <;> cases hnext <;>
      simp_all [Thread.holds, Thread.isHealthy, ServePc.rank, ServePc.upstream?, or_comm]
  · contradiction
  · contradiction

/-- A new socket is held by the thread that got it. -/
theorem threadNext_newSocket {relay : DnsTcpRelay} {env : Env} {t t' : Thread}
    (h : relay.threadNext env t = some (t', .newSocket)) :
    t'.holds relay.sockets.length := by
  obtain ⟨pc, pc', rfl, rfl, hnext⟩ | ⟨client, pc, pc', rfl, rfl, hnext⟩ |
    ⟨pc, pc', rfl, rfl, heff⟩ | ⟨pc, pc', rfl, rfl, hnext⟩ := threadNext_cases h
  · -- `accept` returns a client, and `connectUpstream` makes an upstream
    revert hnext
    fun_cases acceptNext relay env pc <;> intro hnext <;> cases hnext
    simp [Thread.holds]
  · revert hnext
    fun_cases serveNext relay client env pc <;> intro hnext <;> cases hnext
    simp [Thread.holds, ServePc.upstream?]
  · contradiction
  · revert hnext
    fun_cases closeNext env pc <;> intro hnext <;> cases hnext

/-! ## The invariant -/

/-- The call of `close()` has set `closed`. -/
def Thread.hasSetClosed : Thread → Bool
  | .close .setClosed => false
  | .close _ => true
  | _ => false

/-- The invariant of a relay that is closed quietly. -/
structure Quiet (relay : DnsTcpRelay) : Prop where
  healthy : ∀ t ∈ relay.threads, t.isHealthy
  closing : ∀ t ∈ relay.threads, t.hasSetClosed → relay.closed
  /-- nobody needs the pool once it is shut down -/
  down : relay.shutdown →
    relay.closed ∧ relay.serverOpen = false ∧ ∀ t ∈ relay.threads, t.isSettled
  held : ∀ s, relay.sockets[s]? = some true → ∃ t ∈ relay.threads, t.holds s

/-- A relay that has just been started. -/
theorem quiet_start (upstreams : List String) : Quiet (start upstreams) where
  healthy := by simp [start, Thread.isHealthy]
  closing := by simp [start, Thread.hasSetClosed]
  down h := by cases h
  held s h := by simp [start] at h

/-- What the condition says about a step of `t`. -/
theorem closesQuietly_thread {relay : DnsTcpRelay} {id : Nat} {env : Env} {t : Thread}
    (ht : relay.threads[id]? = some t) (hok : relay.closesQuietly (.thread id env)) :
    (t.mayThrow → !env.fails) ∧ (t = .close .shutdownNow →
      relay.serverOpen = false ∧ ∀ u ∈ relay.threads, u.isSettled) := by
  simp only [closesQuietly, ht, Option.all_some] at hok
  split at hok
  · -- `shutdownNow` has the stronger condition
    rename_i heq
    subst heq
    simp only [Bool.and_eq_true, Bool.not_eq_true', List.all_eq_true] at hok
    exact ⟨by simp [Thread.mayThrow], fun _ => hok⟩
  · rename_i hne
    simp only [Bool.or_eq_true, Bool.not_eq_true'] at hok
    refine ⟨fun hthrow => ?_, fun heq => (hne heq).elim⟩
    obtain hnot | hok := hok
    · exact Bool.noConfusion (hnot.symm.trans hthrow)
    · rw [hok]
      rfl

/-- How a step changes `closed`, and which calls of `close()` it leaves behind that. -/
theorem threadNext_closing {relay : DnsTcpRelay} {env : Env} {t t' : Thread} {eff : Effect}
    (h : relay.threadNext env t = some (t', eff)) (ht' : t'.hasSetClosed) :
    t.hasSetClosed ∨ eff = .setClosed := by
  obtain ⟨pc, pc', rfl, rfl, -⟩ | ⟨client, pc, pc', rfl, rfl, -⟩ |
    ⟨pc, pc', rfl, rfl, -⟩ | ⟨pc, pc', rfl, rfl, hnext⟩ := threadNext_cases h
  · contradiction
  · contradiction
  · contradiction
  · revert hnext
    fun_cases closeNext env pc <;> intro hnext <;> cases hnext <;> simp [Thread.hasSetClosed]

/-- Only `close()` shuts the pool down. -/
theorem threadNext_shutdownNow {relay : DnsTcpRelay} {env : Env} {t t' : Thread}
    (h : relay.threadNext env t = some (t', .shutdownNow)) : t = .close .shutdownNow := by
  obtain ⟨pc, pc', rfl, rfl, hnext⟩ | ⟨client, pc, pc', rfl, rfl, hnext⟩ |
    ⟨pc, pc', rfl, rfl, heff⟩ | ⟨pc, pc', rfl, rfl, hnext⟩ := threadNext_cases h
  · revert hnext
    fun_cases acceptNext relay env pc <;> intro hnext <;> cases hnext
  · revert hnext
    fun_cases serveNext relay client env pc <;> intro hnext <;> cases hnext
  · contradiction
  · revert hnext
    fun_cases closeNext env pc <;> intro hnext <;> cases hnext
    rfl

/-- The flags only ever go one way. -/
theorem perform_flags (relay : DnsTcpRelay) (eff : Effect) :
    (relay.perform eff).closed = (relay.closed || eff = .setClosed) ∧
    (relay.perform eff).serverOpen = (relay.serverOpen && eff ≠ .closeServer) ∧
    (relay.perform eff).shutdown = (relay.shutdown || eff = .shutdownNow) := by
  cases eff <;> simp [perform]

/-- A socket that is open after a step was open before and is not the one that was closed, or
    it is new. -/
theorem perform_sockets {relay : DnsTcpRelay} {eff : Effect} {s : Nat}
    (h : (relay.perform eff).sockets[s]? = some true) :
    (relay.sockets[s]? = some true ∧ eff ≠ .closeSocket s) ∨
      (eff = .newSocket ∧ s = relay.sockets.length) := by
  cases eff with
  | newSocket =>
    obtain hold | ⟨hs, -⟩ := List.getElem?_concat_eq_some.mp h
    · exact .inl ⟨hold, by simp⟩
    · exact .inr ⟨rfl, hs⟩
  | closeSocket c =>
    -- a closed socket is not open
    have hc : c ≠ s := by
      rintro rfl
      simp [perform, List.getElem?_set_self'] at h
    rw [perform, List.getElem?_set_ne hc] at h
    exact .inl ⟨h, by simpa using hc⟩
  | _ => exact .inl ⟨h, by simp⟩

/-- A thread other than the one that moved is still there. -/
theorem mem_threads_of {relay : DnsTcpRelay} {id : Nat} {t u : Thread} (t' : Thread)
    (eff : Effect) (ht : relay.threads[id]? = some t) (hu : u ∈ relay.threads) :
    u = t ∨ u ∈ ((relay.setThread id t').perform eff).threads := by
  obtain ⟨k, hk⟩ := List.mem_iff_getElem?.mp hu
  by_cases hid : id = k
  · subst hid
    exact .inl (Option.some.inj (hk.symm.trans ht))
  · right
    rw [perform_threads, List.mem_append]
    exact .inl (List.mem_iff_getElem?.mpr ⟨k, by rw [setThread, List.getElem?_set_ne hid, hk]⟩)

/-- The thread that moved is still there. -/
theorem mem_threads_self {relay : DnsTcpRelay} {id : Nat} {t t' : Thread} {eff : Effect}
    (ht : relay.threads[id]? = some t) :
    t' ∈ ((relay.setThread id t').perform eff).threads := by
  obtain ⟨hlt, -⟩ := List.getElem?_eq_some_iff.mp ht
  rw [perform_threads, List.mem_append]
  exact .inl (List.mem_set hlt t')

section Step

variable {relay : DnsTcpRelay} {id : Nat} {env : Env} {t t' : Thread} {eff : Effect}

/-- An open socket stays in the hands of a thread. -/
theorem Quiet.held_step (hi : Quiet relay) (ht : relay.threads[id]? = some t)
    (h : relay.threadNext env t = some (t', eff)) (ht' : t'.isHealthy) (s : Nat)
    (hs : ((relay.setThread id t').perform eff).sockets[s]? = some true) :
    ∃ u ∈ ((relay.setThread id t').perform eff).threads, u.holds s := by
  obtain ⟨hold, hne⟩ | ⟨rfl, rfl⟩ := perform_sockets hs
  · obtain ⟨u, hu, hholds⟩ := hi.held s hold
    obtain rfl | hu' := mem_threads_of t' eff ht hu
    · -- the holder itself moves
      obtain hkeeps | hcloses | ⟨v, rfl, hv⟩ := threadNext_holds h hholds ht'
      · exact ⟨t', mem_threads_self ht, hkeeps⟩
      · exact (hne hcloses).elim
      · refine ⟨v, ?_, hv⟩
        rw [perform_threads]
        simp [Effect.task?]
    · exact ⟨u, hu', hholds⟩
  · exact ⟨t', mem_threads_self ht, threadNext_newSocket h⟩

/-- Once the pool is shut down, nobody needs it any more. -/
theorem Quiet.down_step (hi : Quiet relay) (ht : relay.threads[id]? = some t)
    (h : relay.threadNext env t = some (t', eff))
    (hnow : t = .close .shutdownNow → relay.serverOpen = false ∧ ∀ u ∈ relay.threads, u.isSettled)
    (hshut : ((relay.setThread id t').perform eff).shutdown) :
    ((relay.setThread id t').perform eff).closed ∧
      ((relay.setThread id t').perform eff).serverOpen = false ∧
      ∀ u ∈ ((relay.setThread id t').perform eff).threads, u.isSettled := by
  obtain ⟨hclosed, hserver, hshutdown⟩ := perform_flags (relay.setThread id t') eff
  -- before this step the relay was closed and everybody settled
  have hbefore : relay.closed ∧ relay.serverOpen = false ∧ ∀ u ∈ relay.threads, u.isSettled := by
    rw [hshutdown, Bool.or_eq_true, decide_eq_true_eq] at hshut
    obtain hshut | rfl := hshut
    · exact hi.down hshut
    · have heq := threadNext_shutdownNow h
      subst heq
      exact ⟨hi.closing _ (List.mem_of_getElem? ht) rfl, hnow rfl⟩
  obtain ⟨hc, hopen, hsettled⟩ := hbefore
  obtain ⟨ht', htask⟩ := threadNext_settled h (hsettled t (List.mem_of_getElem? ht)) hc hopen
  refine ⟨?_, ?_, fun u hu => ?_⟩
  · rw [hclosed]
    exact Bool.or_eq_true_iff.mpr (.inl hc)
  · rw [hserver]
    exact Bool.and_eq_false_iff.mpr (.inl hopen)
  · obtain rfl | hu | rfl := mem_threads hu
    · exact ht'
    · exact hsettled u hu
    · contradiction

/-- A step of a thread keeps the invariant. -/
theorem Quiet.thread_step (hi : Quiet relay) (ht : relay.threads[id]? = some t)
    (h : relay.threadNext env t = some (t', eff)) (hok : relay.closesQuietly (.thread id env)) :
    Quiet ((relay.setThread id t').perform eff) := by
  have hmem := List.mem_of_getElem? ht
  obtain ⟨henv, hnow⟩ := closesQuietly_thread ht hok
  -- both lemmas about the step need that the thread that moved is still healthy
  have ht' := threadNext_healthy h (hi.healthy t hmem)
    (fun hshut => (hi.down hshut).2.2 t hmem) henv
  refine ⟨fun u hu => ?_, fun u hu hset => ?_, hi.down_step ht h hnow, hi.held_step ht h ht'⟩
  · obtain rfl | hu | rfl := mem_threads hu
    · exact ht'
    · exact hi.healthy u hu
    · obtain ⟨_, _, rfl⟩ | rfl := threadNext_run h <;> rfl
  · rw [(perform_flags _ eff).1, Bool.or_eq_true, decide_eq_true_eq]
    obtain rfl | hu | rfl := mem_threads hu
    · obtain hset | heff := threadNext_closing h hset
      · exact .inl (hi.closing t hmem hset)
      · exact .inr heff
    · exact .inl (hi.closing u hu hset)
    · obtain ⟨_, _, rfl⟩ | rfl := threadNext_run h <;> contradiction

end Step

/-- A new call of `close()` has done nothing yet. -/
theorem Quiet.close_step {relay : DnsTcpRelay} (hi : Quiet relay) :
    Quiet { relay with threads := relay.threads ++ [.close .setClosed] } where
  healthy t ht := by
    obtain ht | ht := List.mem_append.mp ht
    · exact hi.healthy t ht
    · rw [List.mem_singleton.mp ht]
      rfl
  closing t ht hset := by
    obtain ht | ht := List.mem_append.mp ht
    · exact hi.closing t ht hset
    · -- it has not set `closed` yet
      rw [List.mem_singleton.mp ht] at hset
      contradiction
  down hshut := by
    obtain ⟨hclosed, hserver, hsettled⟩ := hi.down hshut
    refine ⟨hclosed, hserver, fun t ht => ?_⟩
    obtain ht | ht := List.mem_append.mp ht
    · exact hsettled t ht
    · rw [List.mem_singleton.mp ht]
      rfl
  held s hs := by
    obtain ⟨t, ht, hholds⟩ := hi.held s hs
    exact ⟨t, List.mem_append_left _ ht, hholds⟩

/-- Every step does. -/
theorem quiet_step {relay relay' : DnsTcpRelay} {a : Action} {o : List String}
    (hi : Quiet relay) (hok : relay.closesQuietly a) (h : relay.step a = some (relay', o)) :
    Quiet relay' := by
  obtain ⟨rfl, rfl⟩ | ⟨id, env, t, t', eff, rfl, ht, hnext, rfl⟩ := step_cases h
  · exact hi.close_step
  · exact hi.thread_step ht hnext hok

/-! ## The result -/

/-- A `serve` makes its steps. -/
theorem serve_goesOn {relay : DnsTcpRelay} {id client : Nat} {pc : ServePc}
    (ht : relay.threads[id]? = some (.serve client pc)) (hpos : 0 < pc.rank) (env : Env) :
    ∃ relay' o pc', relay.step (.thread id env) = some (relay', o) ∧
      relay'.threads[id]? = some (.serve client pc') ∧ pc'.rank < pc.rank := by
  obtain ⟨pc', eff, hnext, hlt⟩ := serveNext_rank relay client env hpos
  refine ⟨(relay.setThread id (.serve client pc')).perform eff, record eff, pc', ?_, ?_, hlt⟩
  · simp only [step, ht, threadNext, hnext, Option.map_some]
  · obtain ⟨hid, -⟩ := List.getElem?_eq_some_iff.mp ht
    rw [perform_threads]
    exact List.getElem?_append_of_eq_some (List.getElem?_set_self hid)

/-- The invariant is more than the property. -/
theorem Quiet.closesCleanly {relay : DnsTcpRelay} (hi : Quiet relay) : ClosesCleanly relay where
  caught t ht := Thread.uncaught_of_isHealthy (hi.healthy t ht)
  held := hi.held
  goesOn _ _ _ ht hpos env := serve_goesOn ht hpos env

/-- **The relay shuts down cleanly**, if `shutdownNow` comes when the server socket is closed
    and no task has yet to use the pool. -/
theorem closes_cleanly {upstreams : List String} {relay : DnsTcpRelay} {tr : List String}
    (h : (machine upstreams).Reach (fun relay a => relay.closesQuietly a) relay tr) :
    ClosesCleanly relay :=
  (h.inv (P := fun relay _ => Quiet relay) (quiet_start upstreams)
    (fun hi hok hstep => quiet_step hi hok hstep)).closesCleanly

/-- A client is being served when the relay is closed; everybody comes to the end. -/
theorem closes_cleanly_serving : ∃ relay tr,
    (machine defaultUpstreams).Reach (fun relay a => relay.closesQuietly a) relay tr ∧
      (relay.shutdown ∧ relay.sockets = [false, false]) ∧ ClosesCleanly relay := by
  obtain ⟨relay, tr, hreach, hpred⟩ :=
    (machine defaultUpstreams).exists_reach (fun relay a => relay.closesQuietly a)
      (fun relay _ => relay.shutdown && relay.sockets = [false, false])
      [.thread 0 {}, .thread 0 {}, .thread 0 {}, .thread 0 {},
        .thread 1 { fails := true }, .thread 1 {}, .thread 1 {}, .thread 1 {}, .thread 1 {},
        .close, .thread 3 {}, .thread 3 {}, .thread 3 {},
        .thread 0 {}, .thread 1 {}, .thread 1 {}, .thread 2 {}, .thread 2 {},
        .thread 1 {}, .thread 1 {}, .thread 1 {}] (by decide +kernel)
  simp only [Bool.and_eq_true, decide_eq_true_eq] at hpred
  exact ⟨relay, tr, hreach, hpred, closes_cleanly hreach⟩

/-- `close()` comes between `accept` and `execute`: the accept loop dies and leaves its client
    open.  It comes between the connection to the upstream and `submit`: the `serve` dies. -/
theorem closes_uncleanly :
    (∃ relay tr, (machine defaultUpstreams).Reachable relay tr ∧
      relay.threads[0]? = some (.acceptLoop (.died .rejectedExecution)) ∧
      relay.sockets = [true] ∧ ¬ ClosesCleanly relay) ∧
    (∃ relay tr, (machine defaultUpstreams).Reachable relay tr ∧
      relay.threads[1]? = some (.serve 0 (.died .rejectedExecution)) ∧
      ¬ ClosesCleanly relay) := by
  constructor
  · obtain ⟨relay, tr, hreach, hpred⟩ :=
      (machine defaultUpstreams).exists_reach (fun _ _ => True)
        (fun relay _ => relay.threads[0]? = some (.acceptLoop (.died .rejectedExecution)) &&
          relay.sockets = [true])
        [.thread 0 {}, .thread 0 {}, .close, .thread 1 {}, .thread 1 {}, .thread 1 {},
          .thread 0 {}] (by decide +kernel)
    simp only [Bool.and_eq_true, decide_eq_true_eq] at hpred
    refine ⟨relay, tr, hreach, hpred.1, hpred.2, fun hclean => ?_⟩
    -- nobody catches a `RejectedExecutionException`
    cases hclean.caught _ (List.mem_of_getElem? hpred.1)
  · obtain ⟨relay, tr, hreach, hpred⟩ :=
      (machine defaultUpstreams).exists_reach (fun _ _ => True)
        (fun relay _ => relay.threads[1]? = some (.serve 0 (.died .rejectedExecution)))
        [.thread 0 {}, .thread 0 {}, .thread 0 {}, .thread 1 {}, .thread 1 {}, .thread 1 {},
          .close, .thread 2 {}, .thread 2 {}, .thread 2 {},
          .thread 1 {}, .thread 1 {}, .thread 1 {}] (by decide +kernel)
    have hdied := of_decide_eq_true hpred
    refine ⟨relay, tr, hreach, hdied, fun hclean => ?_⟩
    cases hclean.caught _ (List.mem_of_getElem? hdied)

end DnsTcpRelay

end OpenFlux

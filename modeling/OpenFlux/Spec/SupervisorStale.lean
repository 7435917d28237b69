import OpenFlux.Spec.SupervisorStep

/-!
# Watch threads of earlier runs

A watch thread outlives the `stop` of its run: it may be asleep between two probes, waiting
for the process to exit, or inside `fail`.  When the next `start` clears `shuttingDown`,
nothing tells the old thread that its run is over except the test `process !== p` behind
`waitFor`.

`isHarmless` are the points from which an old watch thread no longer reaches a
write: it waits for the process or is at the two tests behind that, or it is still in its
loop but finds the process dead there.

Calls of `start` and `stop` come one after another here (`sequentialCalls`); the watch
threads of all runs are interleaved with them in any way.

## Key results

- `stale_watch_quiet`: if every `start` that begins a run finds the watch threads of
  stopped runs at such points, they change nothing of a later run
- `stale_watch_not_quiet`: otherwise an old watch thread sets `ready` for the new run and
  deletes its key file
-/

namespace OpenFlux

namespace Supervisor

/-! ## Calls and runs -/

namespace Thread

/-- A `start` that has set `running` and so begun a run. -/
def hasBegun : Thread → Bool
  | start c => c.pc ≠ .getAndSet && c.pc ≠ .ignored
  | _ => false

/-- A `stop` that has cleared `process`. -/
def hasCleared : Thread → Bool
  | stop .deleteKey | stop .returned => true
  | _ => false

end Thread

/-- A call begins only when all calls before it have returned. -/
def sequentialCalls (sup : Supervisor) : Action → Bool
  | .callStart _ _ | .callStop => sup.threads.all fun t => t.isCall → t.isReturned
  | _ => true

/-- The run of the process `p` was stopped by the call `b`, which has returned. -/
def StoppedBy (sup : Supervisor) (p b : Nat) : Prop :=
  sup.threads[b]? = some (.stop .returned) ∧
    ∃ pr, sup.procs[p]? = some pr ∧ pr.startedBy < b

/-- The run of the process `p` has been stopped and a later one has begun. -/
def Stale (sup : Supervisor) (p : Nat) : Prop :=
  ∃ b c t, sup.StoppedBy p b ∧ b < c ∧ sup.threads[c]? = some t ∧ t.hasBegun

/-! ## The property -/

/-- No step of a stale watch thread changes `ready`, `running`, `error`, the key file or
    another run's process, or posts `onUnexpectedExit`. -/
def StaleQuiet (sup : Supervisor) : Prop :=
  ∀ id env w sup' o, sup.threads[id]? = some (.watch w) → sup.Stale w.proc →
    sup.step (.thread id env) = some (sup', o) →
    sup'.ready = sup.ready ∧ sup'.running = sup.running ∧ sup'.error = sup.error ∧
    sup'.keyFile = sup.keyFile ∧ (∀ p, p ≠ w.proc → sup'.procs[p]? = sup.procs[p]?) ∧
    ∀ x ∈ o, ∀ message, x.2 ≠ .post message

/-! ## The condition on steps -/

/-- Behind the loop and in none of the writes there. -/
def WatchPc.isPastLoop : WatchPc → Bool
  | waitFor | checkShutting | checkProcess | destroyTest | destroy | returned => true
  | _ => false

/-- In the loop, before its test. -/
def WatchPc.isBeforeTest : WatchPc → Bool
  | testShutting | testAlive | sleep => true
  | _ => false

/-- From here an old watch thread writes nothing any more. -/
def isHarmless (sup : Supervisor) (w : Watch) : Bool :=
  w.pc.isPastLoop || (w.pc.isBeforeTest && !sup.isAlive w.proc)

/-- Some `stop` that has returned came after the `start` of the process. -/
def isStopped (sup : Supervisor) (p : Nat) : Bool :=
  (sup.procs[p]?).any fun pr =>
    (List.range sup.threads.length).any fun b =>
      pr.startedBy < b && sup.threads[b]? = some (.stop .returned)

/-- When a `start` begins a run, the watch threads of stopped runs are harmless. -/
def beginsQuietly (sup : Supervisor) : Action → Bool
  | .thread id _ =>
    match sup.threads[id]? with
    | some (.start { pc := .getAndSet, .. }) =>
      sup.running || sup.threads.all fun t => match t with
        | .watch w => sup.isStopped w.proc → sup.isHarmless w
        | _ => true
    | _ => true
  | _ => true

/-- `isStopped` finds the call. -/
theorem StoppedBy.isStopped {sup : Supervisor} {p b : Nat} (h : sup.StoppedBy p b) :
    sup.isStopped p := by
  obtain ⟨hb, pr, hpr, hlt⟩ := h
  obtain ⟨hlen, -⟩ := List.getElem?_eq_some_iff.mp hb
  simp only [Supervisor.isStopped, hpr, Option.any_some, List.any_eq_true, List.mem_range]
  exact ⟨b, hlen, by simp [hlt, hb]⟩

/-! ## Invariants -/

/-- Calls are sequential, and what a call and a watch thread know about processes. -/
structure Owned (sup : Supervisor) : Prop where
  /-- A call with a later call has returned. -/
  sequential : ∀ {i k : Nat} {t u : Thread}, sup.threads[i]? = some t → t.isCall →
    sup.threads[k]? = some u → u.isCall → i < k → t.isReturned
  /-- A `start` holds the process that it spawned. -/
  own : ∀ {id p : Nat} {c : StartCall}, sup.threads[id]? = some (.start c) →
    c.pc = .publishProcess p ∨ c.pc = .startOutput p ∨ c.pc = .startWatch p →
    ∃ pr, sup.procs[p]? = some pr ∧ pr.startedBy = id
  watched : ∀ {id : Nat} {w : Watch}, sup.threads[id]? = some (.watch w) →
    w.proc < sup.procs.length
  published : ∀ {p : Nat}, sup.process = some p → p < sup.procs.length
  /-- `process` is no process of a run that was stopped. -/
  fresh : ∀ {p b : Nat} {pr : Proc} {t : Thread}, sup.process = some p →
    sup.procs[p]? = some pr → sup.threads[b]? = some t → t.hasCleared → b < pr.startedBy

/-- There are no threads and no processes yet. -/
theorem owned_init (keyPath : String) : Owned { keyPath } where
  sequential := by simp
  own := by simp
  watched := by simp
  published := by simp
  fresh := by simp

/-! ### Steps of threads -/

/-- A call stays a call. -/
theorem threadNext_isCall {sup : Supervisor} {id : Nat} {env : Env} {t t' : Thread}
    {eff : Effect} (h : sup.threadNext id env t = some (t', eff)) : t'.isCall = t.isCall := by
  obtain ⟨c, pc, rfl, rfl, -⟩ | ⟨pc, pc', rfl, rfl, -⟩ | ⟨w, pc, rfl, rfl, -⟩ :=
    threadNext_cases h <;> rfl

/-- A `start` gets the process it holds by spawning it. -/
theorem startNext_own {sup : Supervisor} {id p : Nat} {c : StartCall} {env : Env}
    {pc : StartPc} {eff : Effect} (h : sup.startNext id c env = some (pc, eff))
    (hpc' : pc = .publishProcess p ∨ pc = .startOutput p ∨ pc = .startWatch p) :
    (c.pc = .publishProcess p ∨ c.pc = .startOutput p ∨ c.pc = .startWatch p) ∨
    (p = sup.procs.length ∧ eff = .spawn (sup.newProc id c)) := by
  cases hpc : c.pc with
  | spawn =>
    -- a spawn that throws leads to `fail`, and otherwise the process is new
    simp only [startNext, hpc, orFail] at h
    split at h
    · cases h
      simp at hpc'
    · cases h
      refine .inr ⟨?_, rfl⟩
      obtain hpc' | hpc' | hpc' := hpc' <;> cases hpc'
      rfl
  | publishProcess q =>
    -- it is carried from one statement to the next
    simp only [startNext, hpc] at h
    cases h
    obtain hpc' | hpc' | hpc' := hpc' <;> cases hpc'
    exact .inl (.inl rfl)
  | startOutput q =>
    simp only [startNext, hpc] at h
    cases h
    obtain hpc' | hpc' | hpc' := hpc' <;> cases hpc'
    exact .inl (.inr (.inl rfl))
  | failing f message =>
    -- `fail` holds no process
    simp only [startNext, hpc, failNext] at h
    repeat' split at h
    all_goals cases h
    all_goals simp at hpc'
  | _ =>
    simp only [startNext, hpc, orFail] at h
    repeat' split at h
    all_goals cases h
    all_goals simp at hpc'

/-- A `stop` gets past the assignment to `process` by making it. -/
theorem stopNext_cleared {sup : Supervisor} {pc pc' : StopPc} {eff : Effect}
    (h : sup.stopNext pc = some (pc', eff)) (hc : (Thread.stop pc').hasCleared) :
    (Thread.stop pc).hasCleared ∨ eff = .setProcess none := by
  cases pc with
  | readProcess =>
    simp only [stopNext] at h
    split at h <;> cases h <;> cases hc
  | destroyTest p =>
    simp only [stopNext] at h
    split at h <;> cases h <;> cases hc
  | clearProcess =>
    -- `process = null`
    cases h
    exact .inr rfl
  | deleteKey => exact .inl rfl
  | _ => cases h <;> cases hc

/-! ### The invariant is kept -/

section OwnedStep

variable {sup sup' : Supervisor} {a : Action} {o : List Obs}

/-- A call found after a step was there before, as a call, or all calls before it have
    returned. -/
private theorem step_call (h : sup.step a = some (sup', o)) (hseq : sup.sequentialCalls a)
    {k : Nat} {u : Thread} (hu : sup'.threads[k]? = some u) (hcall : u.isCall) :
    (∃ u₀, sup.threads[k]? = some u₀ ∧ u₀.isCall) ∨
    (k = sup.threads.length ∧ (∀ id env, a ≠ .thread id env) ∧
      ∀ t ∈ sup.threads, t.isCall → t.isReturned) := by
  obtain ⟨hu, -⟩ | ⟨env, u₀, eff, -, hu₀, hnext⟩ | ⟨hlen, hnew⟩ := step_thread h hu
  · exact .inl ⟨u, hu, hcall⟩
  · exact .inl ⟨u₀, hu₀, by rwa [← threadNext_isCall hnext]⟩
  · -- a new call is made only when the others have returned
    have hall : (sup.threads.all fun t => t.isCall → t.isReturned) →
        ∀ t ∈ sup.threads, t.isCall → t.isReturned := by
      intro hall t ht hc
      simpa [hc] using List.all_eq_true.mp hall t ht
    cases hnew with
    | start payload key => exact .inr ⟨hlen, by simp, hall hseq⟩
    | stop => exact .inr ⟨hlen, by simp, hall hseq⟩
    | watch => cases hcall

/-- A call is made only when the others have returned. -/
theorem Owned.sequential_step (hi : Owned sup) (h : sup.step a = some (sup', o))
    (hseq : sup.sequentialCalls a) {i k : Nat} {t u : Thread}
    (ht : sup'.threads[i]? = some t) (htc : t.isCall) (hu : sup'.threads[k]? = some u)
    (huc : u.isCall) (hik : i < k) : t.isReturned := by
  obtain ⟨u₀, hu₀, huc₀⟩ | ⟨rfl, hne, hall⟩ := step_call h hseq hu huc
  · have hk : k < sup.threads.length := (List.getElem?_eq_some_iff.mp hu₀).1
    obtain ⟨ht, -⟩ | ⟨env, t₀, eff, -, ht₀, hnext⟩ | ⟨hlen, -⟩ := step_thread h ht
    · exact hi.sequential ht htc hu₀ huc₀ hik
    · -- a call that steps has not returned, so there is no later one
      have hret := hi.sequential ht₀ (by rwa [← threadNext_isCall hnext]) hu₀ huc₀ hik
      rw [threadNext_not_returned hnext] at hret
      cases hret
    · omega
  · obtain ⟨ht, -⟩ | ⟨env, t₀, eff, ha, -⟩ | ⟨hlen, -⟩ := step_thread h ht
    · exact hall t (List.mem_of_getElem? ht) htc
    · exact absurd ha (hne i env)
    · omega

/-- A `start` keeps the process that it spawned. -/
theorem Owned.own_step (hi : Owned sup) (h : sup.step a = some (sup', o)) {id p : Nat}
    {c : StartCall} (hc : sup'.threads[id]? = some (.start c))
    (hpc : c.pc = .publishProcess p ∨ c.pc = .startOutput p ∨ c.pc = .startWatch p) :
    ∃ pr, sup'.procs[p]? = some pr ∧ pr.startedBy = id := by
  -- a process that the call held before
  have hkeep : ∀ {pr : Proc}, sup.procs[p]? = some pr → pr.startedBy = id →
      ∃ pr, sup'.procs[p]? = some pr ∧ pr.startedBy = id := by
    intro pr hpr hby
    obtain ⟨pr', hpr', hby', -⟩ := step_procs h hpr
    exact ⟨pr', hpr', hby'.trans hby⟩
  obtain ⟨hc, -⟩ | ⟨env, t, eff, rfl, ht, hnext⟩ | ⟨-, hnew⟩ := step_thread h hc
  · obtain ⟨pr, hpr, hby⟩ := hi.own hc hpc
    exact hkeep hpr hby
  · obtain ⟨-, hne⟩ | ⟨env', c₀, eff', ha, hc₀, hstart, rfl⟩ | ⟨_, _, ha⟩ := step_start h hc
    · exact absurd rfl (hne env)
    · obtain hold | ⟨rfl, rfl⟩ := startNext_own hstart hpc
      · obtain ⟨pr, hpr, hby⟩ := hi.own hc₀ hold
        exact hkeep hpr hby
      · -- the call has just spawned it
        refine ⟨sup.newProc id c₀, ?_, rfl⟩
        simp [perform, setThread]
    · cases ha
  · cases hnew
    simp at hpc

/-- A watch thread is given a process that is there. -/
theorem Owned.watched_step (hi : Owned sup) (h : sup.step a = some (sup', o)) {id : Nat}
    {w : Watch} (hw : sup'.threads[id]? = some (.watch w)) : w.proc < sup'.procs.length := by
  have hgrow := step_procs h
  obtain ⟨hw, -⟩ | ⟨env, t, eff, rfl, ht, hnext⟩ | ⟨-, hnew⟩ := step_thread h hw
  · exact hgrow.lt_length (hi.watched hw)
  · obtain ⟨_, _, rfl, heq, -⟩ | ⟨_, _, rfl, heq, -⟩ | ⟨w₀, pc, rfl, heq, -⟩ :=
      threadNext_cases hnext
    · cases heq
    · cases heq
    · obtain rfl := Thread.watch.inj heq
      have hlt := hi.watched ht
      exact hgrow.lt_length hlt
  · cases hnew with
    | watch id env c p hc hpc =>
      -- a new watch thread gets the process of its `start`
      obtain ⟨pr, hpr, -⟩ := hi.own hc (.inr (.inr hpc))
      exact hgrow.lt_length (List.getElem?_eq_some_iff.mp hpr).1

/-- The field `process` is given a process that is there. -/
theorem Owned.published_step (hi : Owned sup) (h : sup.step a = some (sup', o)) {p : Nat}
    (hp : sup'.process = some p) : p < sup'.procs.length := by
  have hgrow := step_procs h
  obtain hsame | ⟨hnone, -⟩ | ⟨id, env, c, q, rfl, hc, hpc, hq⟩ := step_process h
  · exact hgrow.lt_length (hi.published (hsame ▸ hp))
  · rw [hnone] at hp
    cases hp
  · obtain rfl : p = q := Option.some.inj (hp.symm.trans hq)
    obtain ⟨pr, hpr, -⟩ := hi.own hc (.inl hpc)
    exact hgrow.lt_length (List.getElem?_eq_some_iff.mp hpr).1

/-- A `stop` past its assignment to `process` was there before, unless this step is the
    assignment. -/
private theorem step_cleared (h : sup.step a = some (sup', o)) {b : Nat} {t : Thread}
    (ht : sup'.threads[b]? = some t) (hc : t.hasCleared) :
    (∃ t₀, sup.threads[b]? = some t₀ ∧ t₀.hasCleared) ∨ sup'.process = none := by
  cases t with
  | start _ | watch _ => cases hc
  | stop pc =>
    obtain ht | ⟨env, pc₀, eff, rfl, ht₀, hstop, rfl⟩ | ⟨rfl, -, rfl⟩ := step_stop h ht
    · exact .inl ⟨_, ht, hc⟩
    · obtain hold | rfl := stopNext_cleared hstop hc
      · exact .inl ⟨_, ht₀, hold⟩
      · exact .inr rfl
    · cases hc

/-- A `stop` clears `process`, and only a later `start` writes it again. -/
theorem Owned.fresh_step (hi : Owned sup) (h : sup.step a = some (sup', o)) {p b : Nat}
    {pr : Proc} {t : Thread} (hp : sup'.process = some p) (hpr : sup'.procs[p]? = some pr)
    (ht : sup'.threads[b]? = some t) (hc : t.hasCleared) : b < pr.startedBy := by
  obtain ⟨t₀, ht₀, hc₀⟩ | hnone := step_cleared h ht hc
  · have hgrow := step_procs h
    obtain hsame | ⟨hnone, -⟩ | ⟨id, env, c, q, rfl, hstart, hpc, hq⟩ := step_process h
    · have hp₀ : sup.process = some p := hsame ▸ hp
      obtain ⟨pr₀, hpr₀, hby⟩ := hgrow.startedBy (hi.published hp₀) hpr
      rw [← hby]
      exact hi.fresh hp₀ hpr₀ ht₀ hc₀
    · rw [hnone] at hp
      cases hp
    · -- the `start` that publishes is the latest call
      obtain rfl : p = q := Option.some.inj (hp.symm.trans hq)
      obtain ⟨pr₀, hpr₀, hby₀⟩ := hi.own hstart (.inl hpc)
      obtain ⟨pr₁, hpr₁, hby₁⟩ :=
        hgrow.startedBy (List.getElem?_eq_some_iff.mp hpr₀).1 hpr
      obtain rfl : pr₀ = pr₁ := Option.some.inj (hpr₀.symm.trans hpr₁)
      rw [← hby₁, hby₀]
      -- a `stop` behind this `start` would wait for it to return
      have hcall₀ : t₀.isCall := by
        cases t₀ with
        | stop pc => rfl
        | start _ | watch _ => cases hc₀
      by_contra hge
      obtain hlt | rfl := Nat.lt_or_eq_of_le (Nat.le_of_not_lt hge)
      · have hret := hi.sequential hstart rfl ht₀ hcall₀ hlt
        simp [Thread.isReturned, hpc] at hret
      · obtain rfl := Option.some.inj (hstart.symm.trans ht₀)
        cases hc₀
  · rw [hnone] at hp
    cases hp

/-- Every step keeps the invariant. -/
theorem owned_step (hi : Owned sup) (hseq : sup.sequentialCalls a)
    (h : sup.step a = some (sup', o)) : Owned sup' where
  sequential := hi.sequential_step h hseq
  own := hi.own_step h
  watched := hi.watched_step h
  published := hi.published_step h
  fresh := hi.fresh_step h

end OwnedStep

/-! ## Stale watch threads stay harmless -/

/-- The field `process` holds no process of a stale run. -/
theorem Owned.process_ne {sup : Supervisor} (hi : Owned sup) {p : Nat} (hs : sup.Stale p) :
    sup.process ≠ some p := by
  obtain ⟨b, _, _, ⟨hb, pr, hpr, hlt⟩, -⟩ := hs
  intro hp
  have := hi.fresh hp hpr hb rfl
  omega

/-- A harmless watch thread that is still in its loop watches a dead process. -/
theorem dead_of_isHarmless {sup : Supervisor} {w : Watch} (hw : sup.isHarmless w)
    (hpc : w.pc.isPastLoop = false) : sup.isAlive w.proc = false := by
  simp only [isHarmless, hpc, Bool.false_or, Bool.and_eq_true, Bool.not_eq_true'] at hw
  exact hw.2

/-- From a harmless point a watch thread of a stopped run goes to another one, and does
    nothing but tell its own process to terminate. -/
theorem watchNext_harmless {sup : Supervisor} {w : Watch} {env : Env} {pc : WatchPc}
    {eff : Effect} (hproc : sup.process ≠ some w.proc) (hw : sup.isHarmless w)
    (h : sup.watchNext w env = some (pc, eff)) :
    sup.isHarmless { w with pc } ∧ (eff = .skip ∨ eff = .destroy w.proc) := by
  cases hpc : w.pc with
  | testShutting =>
    have hdead := dead_of_isHarmless hw (by rw [hpc]; rfl)
    simp only [watchNext, hpc] at h
    split at h <;> cases h
    · exact ⟨rfl, .inl rfl⟩
    · exact ⟨by simp [isHarmless, WatchPc.isBeforeTest, hdead], .inl rfl⟩
  | testAlive =>
    have hdead := dead_of_isHarmless hw (by rw [hpc]; rfl)
    simp only [watchNext, hpc, hdead] at h
    cases h
    exact ⟨rfl, .inl rfl⟩
  | sleep =>
    have hdead := dead_of_isHarmless hw (by rw [hpc]; rfl)
    simp only [watchNext, hpc] at h
    cases h
    exact ⟨by simp [isHarmless, WatchPc.isBeforeTest, hdead], .inl rfl⟩
  | waitFor =>
    -- blocked while the process is alive
    simp only [watchNext, hpc] at h
    split at h
    · cases h
    · cases h
      exact ⟨rfl, .inl rfl⟩
  | checkShutting | destroyTest =>
    simp only [watchNext, hpc] at h
    split at h <;> cases h <;> exact ⟨rfl, .inl rfl⟩
  | checkProcess =>
    -- `process !== p`: the exit is not reported
    simp only [watchNext, hpc, if_neg hproc] at h
    cases h
    exact ⟨rfl, .inl rfl⟩
  | destroy =>
    simp only [watchNext, hpc] at h
    cases h
    exact ⟨rfl, .inr rfl⟩
  | returned => simp [watchNext, hpc] at h
  | _ =>
    -- the probe and what follows it are not harmless
    simp [isHarmless, hpc, WatchPc.isPastLoop, WatchPc.isBeforeTest] at hw

/-- Harmless points stay so when others take steps. -/
theorem isHarmless_grow {sup sup' : Supervisor} (hgrow : ProcsGrow sup sup') {w : Watch}
    (hlt : w.proc < sup.procs.length) (hw : sup.isHarmless w) : sup'.isHarmless w := by
  simp only [isHarmless, Bool.or_eq_true, Bool.and_eq_true, Bool.not_eq_true'] at hw ⊢
  obtain hpast | ⟨htest, hdead⟩ := hw
  · exact .inl hpast
  · exact .inr ⟨htest, hgrow.isAlive hlt hdead⟩

/-- Every stale watch thread is harmless. -/
def StaleHarmless (sup : Supervisor) : Prop :=
  ∀ ⦃id : Nat⦄ ⦃w : Watch⦄, sup.threads[id]? = some (.watch w) → sup.Stale w.proc →
    sup.isHarmless w

/-- A `start` begins its run where it wins `getAndSet`. -/
theorem threadNext_hasBegun {sup : Supervisor} {id : Nat} {env : Env} {t t' : Thread}
    {eff : Effect} (h : sup.threadNext id env t = some (t', eff)) (hb : t'.hasBegun) :
    t.hasBegun ∨ ∃ c, t = .start c ∧ c.pc = .getAndSet ∧ sup.running = false := by
  obtain ⟨c, pc, rfl, rfl, hnext⟩ | ⟨_, _, -, rfl, -⟩ | ⟨_, _, -, rfl, -⟩ := threadNext_cases h
  · cases hpc : c.pc with
    -- a call that finds `running` set is ignored
    | getAndSet =>
      refine .inr ⟨c, rfl, hpc, ?_⟩
      cases hrun : sup.running with
      | false => rfl
      | true =>
        simp only [startNext, hpc, hrun, if_true] at hnext
        cases hnext
        simp [Thread.hasBegun] at hb
    | ignored => simp [startNext, hpc] at hnext
    | _ => exact .inl (by simp [Thread.hasBegun, hpc])
  · cases hb
  · cases hb

section StaleStep

variable {sup sup' : Supervisor} {a : Action} {o : List Obs}

/-- A `stop` that has returned and has a later call had returned before the step. -/
theorem Owned.stoppedBy_back (hi : Owned sup) (hseq : sup.sequentialCalls a)
    (h : sup.step a = some (sup', o)) {p b c : Nat} {t : Thread} (hp : p < sup.procs.length)
    (hstop : sup'.StoppedBy p b) (hbc : b < c) (ht : sup'.threads[c]? = some t)
    (htc : t.isCall) : sup.StoppedBy p b := by
  obtain ⟨hb, pr, hpr, hlt⟩ := hstop
  obtain ⟨pr₀, hpr₀, hby⟩ := (step_procs h).startedBy hp hpr
  refine ⟨?_, pr₀, hpr₀, by omega⟩
  obtain ⟨hb, -⟩ | ⟨env, t₀, eff, rfl, ht₀, hnext⟩ | ⟨-, hnew⟩ := step_thread h hb
  · exact hb
  · -- it would have returned only now, but then no later call can exist
    obtain ⟨u₀, hu₀, huc₀⟩ | ⟨-, hne, -⟩ := step_call h hseq ht htc
    · have hret := hi.sequential ht₀ (by rw [← threadNext_isCall hnext]; rfl) hu₀ huc₀ hbc
      rw [threadNext_not_returned hnext] at hret
      cases hret
    · exact absurd rfl (hne b env)
  · cases hnew

/-- Only a `start` begins a run. -/
theorem isCall_of_hasBegun {t : Thread} (h : t.hasBegun) : t.isCall := by
  cases t with
  | start c => rfl
  | stop _ | watch _ => cases h

/-- A run becomes stale only when a `start` begins a run. -/
theorem Owned.stale_back (hi : Owned sup) (hseq : sup.sequentialCalls a)
    (h : sup.step a = some (sup', o)) {p : Nat} (hp : p < sup.procs.length)
    (hs : sup'.Stale p) :
    sup.Stale p ∨ ∃ k env c b, a = .thread k env ∧ sup.threads[k]? = some (.start c) ∧
      c.pc = .getAndSet ∧ sup.running = false ∧ sup.StoppedBy p b := by
  obtain ⟨b, c, t, hstop, hbc, ht, hbegun⟩ := hs
  have hstop₀ := hi.stoppedBy_back hseq h hp hstop hbc ht (isCall_of_hasBegun hbegun)
  obtain ⟨ht, -⟩ | ⟨env, t₀, eff, rfl, ht₀, hnext⟩ | ⟨-, hnew⟩ := step_thread h ht
  · exact .inl ⟨b, c, t, hstop₀, hbc, ht, hbegun⟩
  · obtain hbegun₀ | ⟨c₀, rfl, hpc, hrun⟩ := threadNext_hasBegun hnext hbegun
    · exact .inl ⟨b, c, t₀, hstop₀, hbc, ht₀, hbegun₀⟩
    · exact .inr ⟨c, env, c₀, b, rfl, ht₀, hpc, hrun, hstop₀⟩
  · cases hnew <;> cases hbegun

/-- The condition, at the `start` that begins a run. -/
private theorem beginsQuietly_harmless {k id : Nat} {env : Env} {c : StartCall} {w : Watch}
    {b : Nat} (hok : sup.beginsQuietly (.thread k env))
    (hc : sup.threads[k]? = some (.start c)) (hpc : c.pc = .getAndSet)
    (hrun : sup.running = false) (hw : sup.threads[id]? = some (.watch w))
    (hstop : sup.StoppedBy w.proc b) : sup.isHarmless w := by
  obtain ⟨payload, encryptionKey, pc⟩ := c
  subst hpc
  simp only [beginsQuietly, hc, hrun, Bool.false_or, List.all_eq_true] at hok
  simpa [hstop.isStopped] using hok _ (List.mem_of_getElem? hw)

/-- No watch thread becomes stale and harmful, and the harmless ones stay so. -/
theorem staleHarmless_step (hi : Owned sup) (hh : StaleHarmless sup)
    (hseq : sup.sequentialCalls a) (hok : sup.beginsQuietly a)
    (h : sup.step a = some (sup', o)) : StaleHarmless sup' := by
  intro id w hw hs
  have hgrow := step_procs h
  obtain ⟨hw₀, -⟩ | ⟨env, t, eff, rfl, ht, hnext⟩ | ⟨hlen, hnew⟩ := step_thread h hw
  · -- another thread makes the step
    have hlt := hi.watched hw₀
    apply isHarmless_grow hgrow hlt
    obtain hs₀ | ⟨k, env, c, b, rfl, hc, hpc, hrun, hstop⟩ := hi.stale_back hseq h hlt hs
    · exact hh hw₀ hs₀
    · exact beginsQuietly_harmless hok hc hpc hrun hw₀ hstop
  · obtain ⟨_, _, rfl, heq, -⟩ | ⟨_, _, rfl, heq, -⟩ | ⟨w₀, pc, rfl, heq, hwatch⟩ :=
      threadNext_cases hnext
    · cases heq
    · cases heq
    · obtain rfl := Thread.watch.inj heq
      have hlt := hi.watched ht
      obtain hs₀ | ⟨k, env', c, b, ha, hc, -⟩ := hi.stale_back hseq h hlt hs
      · have hharm := (watchNext_harmless (hi.process_ne hs₀) (hh ht hs₀) hwatch).1
        exact isHarmless_grow hgrow hlt hharm
      · -- the step is one of this watch thread
        cases ha
        cases ht.symm.trans hc
  · cases hnew with
    | watch k env c p hc hpc =>
      -- its `start` is the latest call, so no `stop` came after it
      obtain ⟨pr, hpr, hby⟩ := hi.own hc (.inr (.inr hpc))
      have hlt := (List.getElem?_eq_some_iff.mp hpr).1
      obtain ⟨b, d, t, hstop, hbd, ht, hbegun⟩ := hs
      obtain ⟨hb, pr₀, hpr₀, hlt₀⟩ :=
        hi.stoppedBy_back hseq h hlt hstop hbd ht (isCall_of_hasBegun hbegun)
      obtain rfl : pr = pr₀ := Option.some.inj (hpr.symm.trans hpr₀)
      have hret := hi.sequential hc rfl hb rfl (by omega)
      simp [Thread.isReturned, hpc] at hret

end StaleStep

/-! ## Runs -/

/-- A harmless watch thread is quiet. -/
theorem StaleHarmless.quiet {sup : Supervisor} (hi : Owned sup) (hh : StaleHarmless sup) :
    StaleQuiet sup := by
  intro id env w sup' o hw hs h
  obtain ⟨t', eff, hnext, rfl, rfl⟩ := step_threadNext hw h
  obtain ⟨pc, eff', hwatch, heq⟩ : ∃ pc eff', sup.watchNext w env = some (pc, eff') ∧
      (Thread.watch { w with pc }, eff') = (t', eff) := by
    simpa [threadNext] using hnext
  obtain ⟨rfl, rfl⟩ := Prod.mk.inj heq
  obtain rfl | rfl := (watchNext_harmless (hi.process_ne hs) (hh hw hs) hwatch).2
  · exact ⟨rfl, rfl, rfl, rfl, fun _ _ => rfl, by simp [record]⟩
  · refine ⟨rfl, rfl, rfl, rfl, ?_, by simp [record]⟩
    intro p hp
    simp [perform, modifyProc, setThread, Ne.symm hp]

/-- For calls one after another: in every run in which each `start` that begins a run finds
    the watch threads of stopped runs behind their loop, or in it with a dead process, stale
    watch threads change nothing. -/
theorem stale_watch_quiet (keyPath : String) (sup : Supervisor) (tr : List Obs)
    (h : (machine { keyPath }).Reach
      (fun sup a => sup.sequentialCalls a ∧ sup.beginsQuietly a) sup tr) :
    StaleQuiet sup := by
  have hinv : Owned sup ∧ StaleHarmless sup := by
    refine Machine.Reach.inv (P := fun sup _ => Owned sup ∧ StaleHarmless sup)
      ⟨owned_init keyPath, ?_⟩ ?_ h
    · intro id w hw
      simp [machine] at hw
    · intro sup tr a sup' o ⟨hi, hh⟩ ⟨hseq, hok⟩ hstep
      exact ⟨owned_step hi hseq hstep, staleHarmless_step hi hh hseq hok hstep⟩
  exact hinv.2.quiet hinv.1

/-- The first run was stopped by the call 2 and the call 3 has begun another. -/
def isRestarted (sup : Supervisor) : Bool :=
  (sup.procs[0]?).any (·.startedBy < 2) && sup.threads[2]? = some (.stop .returned) &&
    (sup.threads[3]?).any Thread.hasBegun

/-- After the restart the first run is stale. -/
theorem stale_of_isRestarted {sup : Supervisor} (h : sup.isRestarted) : sup.Stale 0 := by
  simp only [isRestarted, Bool.and_eq_true, decide_eq_true_eq, Option.any_eq_true] at h
  obtain ⟨⟨⟨pr, hpr, hlt⟩, hstop⟩, t, ht, hbegun⟩ := h
  exact ⟨2, 3, t, ⟨hstop, pr, hpr, hlt⟩, by decide, ht, hbegun⟩

/-- A run that came up is stopped, its process stays alive, and the next run begins while
    the watch thread waits for it. -/
theorem stale_watch_quiet_waiting :
    ∃ sup tr, (machine { keyPath := "key" }).Reach
        (fun sup a => sup.sequentialCalls a ∧ sup.beginsQuietly a) sup tr ∧
      sup.Stale 0 ∧ sup.threads[1]? = some (.watch { proc := 0, pc := .waitFor }) ∧
      StaleQuiet sup := by
  obtain ⟨sup, tr, hrun, hsup⟩ := Machine.exists_reach (machine { keyPath := "key" })
    (fun sup a => sup.sequentialCalls a ∧ sup.beginsQuietly a)
    (fun sup _ => sup.isRestarted &&
      sup.threads[1]? = some (Thread.watch { proc := 0, pc := .waitFor }))
    -- a run is ready and its watch waits for the process; then a stop and a second run
    (List.flatten [[.callStart ["--url", "d"] (some "secret")], threadSteps 0 13, threadSteps 1 2,
      [.thread 1 { connects := true }], threadSteps 1 2, [.callStop], threadSteps 2 8,
      [.callStart ["--url", "d"] (some "secret")], threadSteps 3 13]) (by decide +kernel)
  obtain ⟨hstale, hwatch⟩ := Bool.and_eq_true_iff.mp hsup
  exact ⟨sup, tr, hrun, stale_of_isRestarted hstale, of_decide_eq_true hwatch,
    stale_watch_quiet _ _ _ hrun⟩

/-- The first run is stopped while its watch thread sleeps, and its process takes its time
    to exit.  The second run begins; the watch thread wakes up, finds `shuttingDown`
    cleared, its process alive and the port open. -/
def wakesInNextRun : List Action :=
  [.callStart ["--url", "d"] none] ++ threadSteps 0 11 ++ threadSteps 1 4 ++ [.callStop] ++
    threadSteps 2 8 ++ [.callStart ["--url", "d"] (some "secret")] ++ threadSteps 3 13 ++
    threadSteps 1 3 ++ [.thread 1 { connects := true }]

/-- A `stop` that has returned is no guarantee: the watch thread of the first run sets `ready` for
    the second one, and deletes its key file next. -/
theorem stale_watch_not_quiet :
    ∃ sup tr, (machine { keyPath := "key" }).Reach (fun sup a => sup.sequentialCalls a) sup tr ∧
      ¬ StaleQuiet sup := by
  obtain ⟨sup, tr, hrun, hsup⟩ := Machine.exists_reach (machine { keyPath := "key" })
    (fun sup a => sup.sequentialCalls a)
    (fun sup _ => sup.isRestarted && decide (sup.ready = false ∧
      sup.threads[1]? = some (Thread.watch { proc := 0, pc := .setReady })))
    wakesInNextRun (by decide +kernel)
  obtain ⟨hstale, hsup⟩ := Bool.and_eq_true_iff.mp hsup
  obtain ⟨hready, hwatch⟩ := of_decide_eq_true hsup
  refine ⟨sup, tr, hrun, ?_⟩
  intro hquiet
  have hstep : sup.step (.thread 1 {}) = some
      ((sup.setThread 1 (.watch { proc := 0, pc := .deleteKey })).perform (.setReady true),
        record 1 (.setReady true)) := by
    simp [step, threadStep, hwatch, threadNext, watchNext]
  -- the step sets `ready`
  obtain ⟨hsame, -⟩ := hquiet 1 {} _ _ _ hwatch (stale_of_isRestarted hstale) hstep
  have hready' : sup.ready = true := hsame.symm
  rw [hready] at hready'
  cases hready'

end Supervisor

end OpenFlux

import OpenFlux.Spec.SupervisorStep

/-!
# A `stop` that overtakes its `start`

The view model's teardown may call `stopOpenFluxNative` while the start it has cancelled is
still inside `startOpenFluxNative`.  So one `start`, its watch thread and one `stop` are
interleaved, and `stop` may fall between any two statements of `start`.

`stop` reads `process` once and deletes the key file once.  What `start` does after that
stays: a process spawned later is never told to terminate, and a key file written later is
not deleted.  The flag `shuttingDown`, which should stop the watch thread, is cleared by a
`start` that is overtaken early, and the watch thread looks at it only before it probes the
port, two steps before it sets `ready`.

Positions in the bodies of `start` and `stop` are numbered (`StartPc.position`,
`StopPc.position`), so that "has come past" is an inequality.

## Key results

- `stop_cleans_up`: if `stop` overtakes `start` at none of these points, nothing is left
  behind
- `stop_leaves_process`: a `stop` that runs before the spawn leaves the process and its key
  file
-/

namespace OpenFlux

namespace Supervisor

/-! ## Positions -/

/-- The statements of `start` in their order. -/
def StartPc.position : StartPc → Nat
  | getAndSet => 0
  | clearShutting => 1
  | clearReady => 2
  | clearError => 3
  | clearOutput => 4
  | killStale => 5
  | allocPort => 6
  | createKey => 7
  | fillKey => 8
  | spawn => 9
  | publishProcess _ => 10
  | startOutput _ => 11
  | startWatch _ => 12
  | failing _ _ => 13
  | returned => 14
  | ignored => 15

/-- The statements of `stop` in their order. -/
def StopPc.position : StopPc → Nat
  | setShutting => 0
  | clearReady => 1
  | clearRunning => 2
  | readProcess => 3
  | destroyTest _ => 4
  | destroy _ => 5
  | clearProcess => 6
  | deleteKey => 7
  | returned => 8

/-- How far the `start` call, the thread 0, has come. -/
def startPosition (sup : Supervisor) : Nat :=
  match sup.threads[0]? with
  | some (Thread.start c) => c.pc.position
  | _ => 0

namespace Thread

/-- A `stop` call. -/
def isStop : Thread → Bool
  | stop _ => true
  | _ => false

/-- A watch thread that has seen `shuttingDown` unset and may set `ready` without looking
    again. -/
def isProbing : Thread → Bool
  | watch { pc := .testAlive, .. } | watch { pc := .probe, .. }
  | watch { pc := .setReady, .. } => true
  | _ => false

end Thread

/-! ## One start, one stop -/

/-- One `start` call, made in any state in which no other call or watch thread is on. -/
def oneStart (init : Supervisor) (payload : List String) (encryptionKey : Option String) :
    Machine Supervisor Action Obs :=
  machine { init with threads := [.start { payload, encryptionKey }] }

/-- There is no other `start`, and one `stop`, which begins after `start` has set
    `running`. -/
def oneStop (sup : Supervisor) : Action → Bool
  | .callStart _ _ => false
  | .callStop => 1 ≤ sup.startPosition && sup.threads.all (!·.isStop)
  | _ => true

/-- The process has been told to terminate or has exited by itself. -/
def IsTold (sup : Supervisor) (p : Nat) : Prop :=
  ∀ pr, sup.procs[p]? = some pr → pr.told ∨ pr.alive = false

/-- Once both calls have returned, the process spawned after `init` has been told to
    terminate, `ready` is unset and there is no key file. -/
def CleanedUp (init sup : Supervisor) : Prop :=
  14 ≤ sup.startPosition → (∃ k : Nat, sup.threads[k]? = some (.stop .returned)) →
    (∀ p, init.procs.length ≤ p → sup.IsTold p) ∧ sup.ready = false ∧ sup.keyFile = none

/-! ## The condition on steps -/

/-- `stop` sets `shuttingDown` after `start` has cleared it, clears `ready` while no watch
    thread is about to set it, and reads `process` after `start` has written it or failed. -/
def stopsCleanly (sup : Supervisor) : Action → Bool
  | .thread id _ =>
    match sup.threads[id]? with
    | some (.stop .setShutting) => 2 ≤ sup.startPosition
    | some (.stop .clearReady) => sup.threads.all (!·.isProbing)
    | some (.stop .readProcess) => 11 ≤ sup.startPosition
    | _ => true
  | _ => true

/-! ## The invariant -/

/-- What the interleaving has led to so far; `n` is the number of the process that the
    `start` spawns. -/
structure Cleanup (n : Nat) (sup : Supervisor) : Prop where
  start : ∃ c, sup.threads[0]? = some (Thread.start c)
  only : ∀ {k : Nat} {c : StartCall}, sup.threads[k]? = some (.start c) → k = 0
  unique : ∀ {i k : Nat} {pc pc' : StopPc}, sup.threads[i]? = some (.stop pc) →
    sup.threads[k]? = some (.stop pc') → i = k
  -- the start has spawned nothing, or just its process
  unspawned : sup.startPosition ≤ 9 ∨ sup.startPosition = 13 → sup.procs.length = n
  spawned : sup.procs.length ≤ n + 1
  holds : ∀ {c : StartCall} {p : Nat}, sup.threads[0]? = some (.start c) →
    c.pc = .publishProcess p → p = n
  -- the process stays in the field until a stop has cleared it
  published : 11 ≤ sup.startPosition → n < sup.procs.length → sup.process = some n ∨
    ∃ (k : Nat) (pc : StopPc), sup.threads[k]? = some (.stop pc) ∧ 7 ≤ pc.position
  -- what a stop has done, by its position
  shutting : ∀ {k : Nat} {pc : StopPc}, sup.threads[k]? = some (.stop pc) →
    1 ≤ pc.position → sup.shuttingDown ∧ 2 ≤ sup.startPosition
  quiet : ∀ {k : Nat} {pc : StopPc}, sup.threads[k]? = some (.stop pc) →
    2 ≤ pc.position → sup.ready = false ∧ ∀ t ∈ sup.threads, t.isProbing = false
  settled : ∀ {k : Nat} {pc : StopPc}, sup.threads[k]? = some (.stop pc) →
    4 ≤ pc.position → 11 ≤ sup.startPosition
  target : ∀ {k q : Nat} {pc : StopPc}, sup.threads[k]? = some (.stop pc) →
    pc = .destroyTest q ∨ pc = .destroy q → n < sup.procs.length → q = n
  told : ∀ {k : Nat} {pc : StopPc}, sup.threads[k]? = some (.stop pc) →
    6 ≤ pc.position → sup.IsTold n
  deleted : ∀ {k : Nat}, sup.threads[k]? = some (.stop .returned) → sup.keyFile = none

/-- The `start` is the only thread, at its first statement. -/
theorem cleanup_init (init : Supervisor) (payload : List String)
    (encryptionKey : Option String) :
    Cleanup init.procs.length
      { init with threads := [.start { payload, encryptionKey }] } := by
  -- so nothing is to be shown about a `stop`
  have hone : ∀ {k : Nat} {t : Thread},
      ([.start { payload, encryptionKey }] : List Thread)[k]? = some t →
      k = 0 ∧ t = .start { payload, encryptionKey } := by
    intro k t ht
    cases k with
    | zero => exact ⟨rfl, (Option.some.inj ht).symm⟩
    | succ k => simp at ht
  -- and the `start` is before everything
  have hpos : startPosition { init with threads := [.start { payload, encryptionKey }] } = 0 :=
    rfl
  constructor
  · exact ⟨_, rfl⟩
  · intro k c hk
    exact (hone hk).1
  · intro i k pc pc' hi hk
    rw [(hone hi).1, (hone hk).1]
  · intro _
    rfl
  · exact Nat.le_succ _
  · intro c p hc hpc
    cases (hone hc).2
    cases hpc
  · intro h
    rw [hpos] at h
    omega
  · intro k pc hk
    cases (hone hk).2
  · intro k pc hk
    cases (hone hk).2
  · intro k pc hk
    cases (hone hk).2
  · intro k q pc hk
    cases (hone hk).2
  · intro k pc hk
    cases (hone hk).2
  · intro k hk
    cases (hone hk).2

/-! ## Steps of the start -/

/-- `start` only moves forward. -/
theorem startNext_position {sup : Supervisor} {id : Nat} {c : StartCall} {env : Env}
    {pc : StartPc} {eff : Effect} (h : sup.startNext id c env = some (pc, eff)) :
    c.pc.position ≤ pc.position := by
  cases hpc : c.pc with
  -- `fail` has one position until it returns
  | failing f message =>
    simp only [startNext, hpc] at h
    cases h
    split <;> simp [StartPc.position]
  | returned | ignored => simp [startNext, hpc] at h
  | _ =>
    simp only [startNext, hpc, orFail] at h
    repeat' split at h
    all_goals cases h
    all_goals simp [StartPc.position]

/-- `start` fails only before it has spawned the process. -/
theorem startNext_fails {sup : Supervisor} {id : Nat} {c : StartCall} {env : Env}
    {pc : StartPc} {eff : Effect} (h : sup.startNext id c env = some (pc, eff))
    (hpc' : pc.position = 13) : c.pc.position ≤ 9 ∨ c.pc.position = 13 := by
  cases hpc : c.pc with
  | publishProcess p | startOutput p | startWatch p =>
    simp only [startNext, hpc] at h
    cases h
    simp [StartPc.position] at hpc'
  | returned | ignored => simp [startNext, hpc] at h
  | failing f message => exact .inr rfl
  | _ => exact .inl (by simp [StartPc.position])

/-- The process that `start` is about to publish is the one it has just spawned. -/
theorem startNext_publish {sup : Supervisor} {id p : Nat} {c : StartCall} {env : Env}
    {pc : StartPc} {eff : Effect} (h : sup.startNext id c env = some (pc, eff))
    (hpc' : pc = .publishProcess p) : c.pc = .spawn ∧ p = sup.procs.length := by
  subst hpc'
  cases hpc : c.pc with
  | spawn =>
    simp only [startNext, hpc, orFail] at h
    split at h <;> cases h
    exact ⟨rfl, rfl⟩
  | failing f message =>
    simp only [startNext, hpc] at h
    cases h' : (sup.failNext message f).1 <;> simp [h'] at h
  | _ =>
    simp only [startNext, hpc, orFail] at h
    repeat' split at h
    all_goals cases h

/-- Where the `start` is. -/
theorem startPosition_eq {sup : Supervisor} {c : StartCall}
    (h : sup.threads[0]? = some (.start c)) : sup.startPosition = c.pc.position := by
  rw [startPosition, h]

section CleanupStep

variable {n : Nat} {sup sup' : Supervisor} {a : Action} {o : List Obs}

/-- Every start call is the one that `startPosition` is about. -/
theorem Cleanup.position_eq (hi : Cleanup n sup) {k : Nat} {c : StartCall}
    (hc : sup.threads[k]? = some (.start c)) : sup.startPosition = c.pc.position := by
  have hk := hi.only hc
  subst hk
  exact startPosition_eq hc

/-- The start call after a step: untouched, or one step further. -/
theorem Cleanup.start_step (hi : Cleanup n sup) (h : sup.step a = some (sup', o)) :
    ∃ c c', sup.threads[0]? = some (.start c) ∧ sup'.threads[0]? = some (.start c') ∧
      (c' = c ∧ (∀ env, a ≠ .thread 0 env) ∨
        ∃ env eff, a = .thread 0 env ∧ sup.startNext 0 c env = some (c'.pc, eff) ∧
          sup' = (sup.setThread 0 (.start c')).perform eff) := by
  obtain ⟨c, hc⟩ := hi.start
  obtain ⟨t', ht', hcase⟩ := step_thread_of h hc
  obtain ⟨rfl, hne⟩ | ⟨env, eff, rfl, hnext⟩ := hcase
  · exact ⟨c, c, hc, ht', .inl ⟨rfl, hne⟩⟩
  · obtain ⟨t₁, eff₁, hnext₁, hsup', -⟩ := step_threadNext hc h
    obtain ⟨rfl, rfl⟩ := Prod.mk.inj (Option.some.inj (hnext.symm.trans hnext₁))
    obtain ⟨⟨pc, eff'⟩, hstart, heq⟩ := Option.map_eq_some_iff.mp hnext
    obtain ⟨rfl, rfl⟩ := Prod.mk.inj heq
    exact ⟨c, { c with pc }, hc, ht', .inr ⟨env, _, rfl, hstart, hsup'⟩⟩

/-- The `start` does not go back. -/
theorem Cleanup.position_mono (hi : Cleanup n sup) (h : sup.step a = some (sup', o)) :
    sup.startPosition ≤ sup'.startPosition := by
  obtain ⟨c, c', hc, hc', hcase⟩ := hi.start_step h
  rw [startPosition_eq hc, startPosition_eq hc']
  obtain ⟨rfl, -⟩ | ⟨env, eff, -, hnext, -⟩ := hcase
  · exact Nat.le_refl _
  · exact startNext_position hnext

/-- No process is added once the start is past its spawn. -/
theorem Cleanup.length_eq (hi : Cleanup n sup) (h : sup.step a = some (sup', o))
    (hpos : 10 ≤ sup.startPosition) : sup'.procs.length = sup.procs.length := by
  obtain hlen | ⟨id, env, c, -, hc, hpc, -⟩ := step_procs_length h
  · exact hlen
  · rw [hi.position_eq hc, hpc] at hpos
    simp [StartPc.position] at hpos

/-- There is no process before the spawn, nor after a failure. -/
theorem Cleanup.unspawned_step (hi : Cleanup n sup) (h : sup.step a = some (sup', o))
    (hpos : sup'.startPosition ≤ 9 ∨ sup'.startPosition = 13) : sup'.procs.length = n := by
  obtain ⟨c, c', hc, hc', hcase⟩ := hi.start_step h
  rw [startPosition_eq hc'] at hpos
  -- the start had not spawned before either
  have hbefore : sup.startPosition ≤ 9 ∨ sup.startPosition = 13 := by
    rw [startPosition_eq hc]
    obtain ⟨rfl, -⟩ | ⟨env, eff, -, hnext, -⟩ := hcase
    · exact hpos
    · obtain hle | heq := hpos
      · exact .inl (Nat.le_trans (startNext_position hnext) hle)
      · exact startNext_fails hnext heq
  obtain hlen | ⟨id, env, c₁, -, hc₁, -, hc₁', -⟩ := step_procs_length h
  · rw [hlen]
    exact hi.unspawned hbefore
  · -- right after the spawn `start` is at position 10
    have hid := hi.only hc₁
    subst hid
    obtain rfl := Thread.start.inj (Option.some.inj (hc'.symm.trans hc₁'))
    simp [StartPc.position] at hpos

/-- At most one process is spawned. -/
theorem Cleanup.spawned_step (hi : Cleanup n sup) (h : sup.step a = some (sup', o)) :
    sup'.procs.length ≤ n + 1 := by
  obtain hlen | ⟨id, env, c, -, hc, hpc, -, hlen⟩ := step_procs_length h
  · rw [hlen]
    exact hi.spawned
  · -- the step is the spawn itself
    have hpos : sup.startPosition ≤ 9 := by
      rw [hi.position_eq hc, hpc]
      exact Nat.le_refl _
    have := hi.unspawned (.inl hpos)
    omega

/-- The process that is published is the one that was spawned. -/
theorem Cleanup.holds_step (hi : Cleanup n sup) (h : sup.step a = some (sup', o))
    {c' : StartCall} {p : Nat} (hc' : sup'.threads[0]? = some (.start c'))
    (hpc' : c'.pc = .publishProcess p) : p = n := by
  obtain ⟨c, c₁, hc, hc₁, hcase⟩ := hi.start_step h
  obtain rfl := Thread.start.inj (Option.some.inj (hc'.symm.trans hc₁))
  obtain ⟨rfl, -⟩ | ⟨env, eff, -, hnext, -⟩ := hcase
  · exact hi.holds hc hpc'
  · obtain ⟨hpc, rfl⟩ := startNext_publish hnext hpc'
    apply hi.unspawned
    rw [startPosition_eq hc, hpc]
    exact .inl (Nat.le_refl _)

/-! ## Which threads there are -/

/-- There is no other `start`. -/
theorem Cleanup.only_step (hi : Cleanup n sup) (hone : sup.oneStop a)
    (h : sup.step a = some (sup', o)) {k : Nat} {c : StartCall}
    (hc : sup'.threads[k]? = some (.start c)) : k = 0 := by
  obtain ⟨hc, -⟩ | ⟨env, c₀, eff, -, hc₀, -⟩ | ⟨payload, key, rfl⟩ := step_start h hc
  · exact hi.only hc
  · exact hi.only hc₀
  · cases hone

/-- A stop call found after a step was there before, or it is the first one. -/
theorem step_stop_old (h : sup.step a = some (sup', o)) (hone : sup.oneStop a) {k : Nat}
    {pc : StopPc} (hk : sup'.threads[k]? = some (.stop pc)) :
    (∃ pc₀, sup.threads[k]? = some (.stop pc₀)) ∨
    (k = sup.threads.length ∧ (∀ id env, a ≠ .thread id env) ∧
      ∀ t ∈ sup.threads, t.isStop = false) := by
  obtain hk | ⟨env, pc₀, eff, -, hk₀, -⟩ | ⟨rfl, hlen, -⟩ := step_stop h hk
  · exact .inl ⟨pc, hk⟩
  · exact .inl ⟨pc₀, hk₀⟩
  · refine .inr ⟨hlen, by simp, ?_⟩
    obtain ⟨-, hall⟩ := Bool.and_eq_true_iff.mp hone
    intro t ht
    simpa using List.all_eq_true.mp hall t ht

/-- There is only one `stop`. -/
theorem Cleanup.unique_step (hi : Cleanup n sup) (hone : sup.oneStop a)
    (h : sup.step a = some (sup', o)) {i k : Nat} {pc pc' : StopPc}
    (hpc : sup'.threads[i]? = some (.stop pc)) (hpc' : sup'.threads[k]? = some (.stop pc')) :
    i = k := by
  obtain ⟨pc₀, hi₀⟩ | ⟨rfl, -, hnone⟩ := step_stop_old h hone hpc
  · obtain ⟨pc₁, hk₁⟩ | ⟨-, -, hnone⟩ := step_stop_old h hone hpc'
    · exact hi.unique hi₀ hk₁
    · -- a second `stop` is not called
      have := hnone _ (List.mem_of_getElem? hi₀)
      cases this
  · obtain ⟨pc₁, hk₁⟩ | ⟨rfl, -, -⟩ := step_stop_old h hone hpc'
    · have := hnone _ (List.mem_of_getElem? hk₁)
      cases this
    · rfl

/-! ## The flags -/

/-- Once set by the stop, `shuttingDown` stays. -/
theorem Cleanup.shuttingDown_stays (hi : Cleanup n sup) (h : sup.step a = some (sup', o))
    (hshut : sup.shuttingDown) (hpos : 2 ≤ sup.startPosition) : sup'.shuttingDown := by
  obtain hsame | hset | ⟨id, env, c, rfl, hc, hpc⟩ := step_shuttingDown h
  · rwa [hsame]
  · exact hset
  · rw [hi.position_eq hc, hpc] at hpos
    simp [StartPc.position] at hpos

/-- From its first statement on, the `stop` finds `shuttingDown` set. -/
theorem Cleanup.shutting_step (hi : Cleanup n sup) (hok : sup.stopsCleanly a)
    (h : sup.step a = some (sup', o)) {k : Nat} {pc' : StopPc}
    (hk : sup'.threads[k]? = some (.stop pc')) (hpos : 1 ≤ pc'.position) :
    sup'.shuttingDown ∧ 2 ≤ sup'.startPosition := by
  have hmono := hi.position_mono h
  -- a stop that was already past `shuttingDown.set(true)`
  have hkeep : sup.shuttingDown ∧ 2 ≤ sup.startPosition →
      sup'.shuttingDown ∧ 2 ≤ sup'.startPosition := by
    intro ⟨hshut, hstart⟩
    exact ⟨hi.shuttingDown_stays h hshut hstart, Nat.le_trans hstart hmono⟩
  obtain hk | ⟨env, pc, eff, rfl, hk₀, hnext, rfl⟩ | ⟨-, -, rfl⟩ := step_stop h hk
  · exact hkeep (hi.shutting hk hpos)
  · cases pc with
    | setShutting =>
      -- the condition: `start` has cleared `shuttingDown` before
      have hstart : 2 ≤ sup.startPosition := by simpa [stopsCleanly, hk₀] using hok
      cases hnext
      exact ⟨rfl, Nat.le_trans hstart hmono⟩
    | _ => exact hkeep (hi.shutting hk₀ (by simp [StopPc.position]))
  · simp [StopPc.position] at hpos

/-- A watch thread starts to probe only after it has seen `shuttingDown` unset. -/
theorem threadNext_isProbing {id : Nat} {env : Env} {t t' : Thread} {eff : Effect}
    (hshut : sup.shuttingDown) (ht : t.isProbing = false)
    (h : sup.threadNext id env t = some (t', eff)) : t'.isProbing = false := by
  obtain ⟨c, pc, -, rfl, -⟩ | ⟨pc, pc', -, rfl, -⟩ | ⟨w, pc, rfl, rfl, hnext⟩ :=
    threadNext_cases h
  · rfl
  · rfl
  · obtain ⟨proc, pc₀⟩ := w
    cases pc₀ with
    | testShutting =>
      -- the loop test sees the flag
      simp only [watchNext, hshut, if_true] at hnext
      cases hnext
      rfl
    | testAlive | probe | setReady => cases ht
    | failing f message d =>
      simp only [watchNext] at hnext
      cases hnext
      split
      · rfl
      · cases d <;> rfl
    | _ =>
      simp only [watchNext] at hnext
      repeat' split at hnext
      all_goals cases hnext
      all_goals rfl

/-- Without a probing watch thread and with `shuttingDown` set, `ready` stays unset. -/
theorem quiet_stays (h : sup.step a = some (sup', o)) (hshut : sup.shuttingDown)
    (hready : sup.ready = false) (hnone : ∀ t ∈ sup.threads, t.isProbing = false) :
    sup'.ready = false ∧ ∀ t ∈ sup'.threads, t.isProbing = false := by
  constructor
  · obtain hsame | hset | ⟨id, env, w, rfl, hw, hpc⟩ := step_ready h
    · rwa [hsame]
    · exact hset
    · -- only a watch that probes sets `ready`
      have hprobing := hnone _ (List.mem_of_getElem? hw)
      obtain ⟨proc, pc⟩ := w
      subst hpc
      cases hprobing
  · intro t' ht'
    obtain ⟨k, hk⟩ := List.mem_iff_getElem?.mp ht'
    -- no watch begins to probe while `shuttingDown` is set
    obtain ⟨hk, -⟩ | ⟨env, t, eff, -, ht, hnext⟩ | ⟨-, hnew⟩ := step_thread h hk
    · exact hnone t' (List.mem_of_getElem? hk)
    · exact threadNext_isProbing hshut (hnone t (List.mem_of_getElem? ht)) hnext
    · cases hnew <;> rfl

/-- From its second statement on, `ready` stays unset. -/
theorem Cleanup.quiet_step (hi : Cleanup n sup) (hok : sup.stopsCleanly a)
    (h : sup.step a = some (sup', o)) {k : Nat} {pc' : StopPc}
    (hk : sup'.threads[k]? = some (.stop pc')) (hpos : 2 ≤ pc'.position) :
    sup'.ready = false ∧ ∀ t ∈ sup'.threads, t.isProbing = false := by
  -- a stop that was already past `ready.set(false)`
  have hkeep : ∀ {pc}, sup.threads[k]? = some (.stop pc) → 2 ≤ pc.position →
      sup'.ready = false ∧ ∀ t ∈ sup'.threads, t.isProbing = false := by
    intro pc hk₀ hpos₀
    obtain ⟨hready, hnone⟩ := hi.quiet hk₀ hpos₀
    exact quiet_stays h (hi.shutting hk₀ (by omega)).1 hready hnone
  obtain hk | ⟨env, pc, eff, rfl, hk₀, hnext, hsup'⟩ | ⟨-, -, rfl⟩ := step_stop h hk
  · exact hkeep hk hpos
  · cases pc with
    | setShutting =>
      cases hnext
      simp [StopPc.position] at hpos
    | clearReady =>
      -- the condition: no watch thread is about to set `ready`
      have hall : sup.threads.all (!·.isProbing) := by simpa [stopsCleanly, hk₀] using hok
      have hnone : ∀ t ∈ sup.threads, t.isProbing = false := by
        intro t ht
        simpa using List.all_eq_true.mp hall t ht
      cases hnext
      subst hsup'
      refine ⟨rfl, ?_⟩
      intro t' ht'
      obtain ht' | rfl := List.mem_or_eq_of_mem_set ht'
      · exact hnone t' ht'
      · rfl
    | _ => exact hkeep hk₀ (by simp [StopPc.position])
  · simp [StopPc.position] at hpos

/-! ## The process and the key file -/

/-- When the `stop` has read `process`, the `start` writes it no more. -/
theorem Cleanup.settled_step (hi : Cleanup n sup) (hok : sup.stopsCleanly a)
    (h : sup.step a = some (sup', o)) {k : Nat} {pc' : StopPc}
    (hk : sup'.threads[k]? = some (.stop pc')) (hpos : 4 ≤ pc'.position) :
    11 ≤ sup'.startPosition := by
  have hmono := hi.position_mono h
  obtain hk | ⟨env, pc, eff, rfl, hk₀, hnext, -⟩ | ⟨-, -, rfl⟩ := step_stop h hk
  · exact Nat.le_trans (hi.settled hk hpos) hmono
  · cases pc with
    | setShutting | clearReady | clearRunning =>
      cases hnext
      simp [StopPc.position] at hpos
    | readProcess =>
      -- the condition: `start` has written `process`, or will not any more
      have hstart : 11 ≤ sup.startPosition := by simpa [stopsCleanly, hk₀] using hok
      exact Nat.le_trans hstart hmono
    | returned => cases hnext
    | _ => exact Nat.le_trans (hi.settled hk₀ (by simp [StopPc.position])) hmono
  · simp [StopPc.position] at hpos

/-- A stop call only moves forward. -/
theorem stopNext_position {pc pc' : StopPc} {eff : Effect}
    (h : sup.stopNext pc = some (pc', eff)) : pc.position ≤ pc'.position := by
  cases pc with
  | readProcess | destroyTest p =>
    simp only [stopNext] at h
    split at h <;> cases h <;> simp [StopPc.position]
  | returned => cases h
  | _ =>
    cases h
    simp [StopPc.position]

/-- The start that publishes its process writes the field. -/
theorem Cleanup.publishes (hi : Cleanup n sup) (h : sup.step a = some (sup', o))
    (hbefore : sup.startPosition = 10) (hafter : 11 ≤ sup'.startPosition) :
    sup'.process = some n := by
  obtain ⟨c, c', hc, hc', hcase⟩ := hi.start_step h
  rw [startPosition_eq hc] at hbefore
  rw [startPosition_eq hc'] at hafter
  obtain ⟨rfl, -⟩ | ⟨env, eff, -, hnext, rfl⟩ := hcase
  · omega
  · -- the one step over this position writes the field
    cases hpc : c.pc with
    | publishProcess p =>
      obtain rfl := hi.holds hc hpc
      simp only [startNext, hpc] at hnext
      obtain ⟨-, rfl⟩ := Prod.mk.inj (Option.some.inj hnext)
      rfl
    | _ =>
      rw [hpc] at hbefore
      simp [StartPc.position] at hbefore

/-- A process that was spawned is in the field until the `stop` clears it. -/
theorem Cleanup.published_step (hi : Cleanup n sup) (h : sup.step a = some (sup', o))
    (hpos : 11 ≤ sup'.startPosition) (hlen : n < sup'.procs.length) :
    sup'.process = some n ∨
      ∃ (k : Nat) (pc : StopPc), sup'.threads[k]? = some (.stop pc) ∧ 7 ≤ pc.position := by
  by_cases hlt : sup.startPosition ≤ 9
  · -- the start has gone from before its spawn past its publication without a process
    have hn := hi.unspawned (.inl hlt)
    obtain hlen' | ⟨id, env, c, -, hc, -, hc', -⟩ := step_procs_length h
    · omega
    · have hid := hi.only hc
      subst hid
      rw [startPosition_eq hc'] at hpos
      simp [StartPc.position] at hpos
  · by_cases hten : sup.startPosition = 10
    · exact .inl (hi.publishes h hten hpos)
    · have heq := hi.length_eq h (by omega)
      obtain hp | ⟨k, pc, hk, hcleared⟩ := hi.published (by omega) (by omega)
      · -- who writes `process`
        obtain hsame | ⟨-, id, env, rfl, hstop⟩ | ⟨id, env, c, p, -, hc, hpc, -⟩ :=
          step_process h
        · exact .inl (hsame.trans hp)
        · -- the stop clears the field and goes on to delete the key file
          obtain ⟨t', ht', hcase⟩ := step_thread_of h hstop
          obtain ⟨-, hne⟩ | ⟨env', eff, -, hnext⟩ := hcase
          · exact absurd rfl (hne env)
          · cases hnext
            exact .inr ⟨id, _, ht', by simp [StopPc.position]⟩
        · rw [hi.position_eq hc, hpc] at hten
          simp [StartPc.position] at hten
      · obtain ⟨t', ht', hcase⟩ := step_thread_of h hk
        obtain ⟨rfl, -⟩ | ⟨env, eff, -, hnext⟩ := hcase
        · exact .inr ⟨k, pc, ht', hcleared⟩
        · obtain ⟨⟨pc', eff'⟩, hstop, heq'⟩ := Option.map_eq_some_iff.mp hnext
          obtain ⟨rfl, rfl⟩ := Prod.mk.inj heq'
          exact .inr ⟨k, pc', ht', Nat.le_trans hcleared (stopNext_position hstop)⟩

/-- Where `stop` reads `process`, it finds the process that the start has spawned. -/
theorem Cleanup.process_read (hi : Cleanup n sup) {k : Nat} {env : Env}
    (hok : sup.stopsCleanly (.thread k env))
    (hk : sup.threads[k]? = some (.stop .readProcess)) (hlen : n < sup.procs.length) :
    sup.process = some n := by
  have hstart : 11 ≤ sup.startPosition := by simpa [stopsCleanly, hk] using hok
  obtain hp | ⟨i, pc, hpc, hcleared⟩ := hi.published hstart hlen
  · exact hp
  · -- the only stop is this one
    have hik := hi.unique hpc hk
    subst hik
    cases Option.some.inj (hpc.symm.trans hk)
    simp [StopPc.position] at hcleared

/-- The `stop` holds the process that was spawned. -/
theorem Cleanup.target_step (hi : Cleanup n sup) (hok : sup.stopsCleanly a)
    (h : sup.step a = some (sup', o)) {k q : Nat} {pc' : StopPc}
    (hk : sup'.threads[k]? = some (.stop pc'))
    (hpc' : pc' = .destroyTest q ∨ pc' = .destroy q) (hlen : n < sup'.procs.length) :
    q = n := by
  -- it has read the field
  have hpos : 4 ≤ pc'.position := by
    obtain rfl | rfl := hpc' <;> simp [StopPc.position]
  obtain hk₀ | ⟨env, pc, eff, rfl, hk₀, hnext, -⟩ | ⟨-, -, rfl⟩ := step_stop h hk
  · have heq := hi.length_eq h (Nat.le_trans (by omega) (hi.settled hk₀ hpos))
    exact hi.target hk₀ hpc' (by omega)
  · cases pc with
    | readProcess =>
      -- the condition: `process` was written before it is read
      have hstart : 11 ≤ sup.startPosition := by simpa [stopsCleanly, hk₀] using hok
      have heq := hi.length_eq h (by omega)
      have hp := hi.process_read hok hk₀ (by omega)
      simp only [stopNext, hp] at hnext
      cases hnext
      obtain hpc' | hpc' := hpc' <;> cases hpc'
      rfl
    | destroyTest p =>
      have heq := hi.length_eq h (Nat.le_trans (by omega)
        (hi.settled hk₀ (by simp [StopPc.position])))
      have hp := hi.target hk₀ (.inl rfl) (by omega)
      -- the test keeps the process that was read
      simp only [stopNext] at hnext
      split at hnext <;> cases hnext
      · obtain hpc' | hpc' := hpc' <;> cases hpc'
        exact hp
      · obtain hpc' | hpc' := hpc' <;> cases hpc'
    | returned => cases hnext
    | _ =>
      cases hnext
      obtain hpc' | hpc' := hpc' <;> cases hpc'
  · simp [StopPc.position] at hpos

/-- A process that is there and told stays told. -/
theorem IsTold.grow {p : Nat} (hgrow : ProcsGrow sup sup')
    (hlen : sup'.procs.length = sup.procs.length) (h : sup.IsTold p) : sup'.IsTold p := by
  intro pr' hpr'
  have hlt : p < sup.procs.length := hlen ▸ (List.getElem?_eq_some_iff.mp hpr').1
  have hget := List.getElem?_eq_getElem hlt
  obtain ⟨pr₁, hpr₁, -, halive, htold⟩ := hgrow hget
  obtain rfl : pr' = pr₁ := Option.some.inj (hpr'.symm.trans hpr₁)
  obtain ht | hdead := h _ hget
  · exact .inl (htold ht)
  · refine .inr ?_
    by_contra hne
    rw [halive (by simpa using hne)] at hdead
    cases hdead

/-- Behind `destroy` the process is told or dead. -/
theorem Cleanup.told_step (hi : Cleanup n sup) (hok : sup.stopsCleanly a)
    (h : sup.step a = some (sup', o)) {k : Nat} {pc' : StopPc}
    (hk : sup'.threads[k]? = some (.stop pc')) (hpos : 6 ≤ pc'.position) :
    sup'.IsTold n := by
  have hgrow := step_procs h
  -- nothing is spawned any more
  have hkeep : ∀ {pc}, sup.threads[k]? = some (.stop pc) → 4 ≤ pc.position →
      sup'.procs.length = sup.procs.length := by
    intro pc hk₀ hpos₀
    exact hi.length_eq h (Nat.le_trans (by omega) (hi.settled hk₀ hpos₀))
  obtain hk | ⟨env, pc, eff, rfl, hk₀, hnext, hsup'⟩ | ⟨-, -, rfl⟩ := step_stop h hk
  · exact (hi.told hk hpos).grow hgrow (hkeep hk (by omega))
  · cases pc with
    | destroyTest q =>
      -- the process was dead
      simp only [stopNext] at hnext
      split at hnext <;> cases hnext
      · simp [StopPc.position] at hpos
      · rename_i hdead
        have hlen := hkeep hk₀ (by simp [StopPc.position])
        intro pr hpr
        have hlt := (List.getElem?_eq_some_iff.mp hpr).1
        obtain rfl := hi.target hk₀ (.inl rfl) (hlen ▸ hlt)
        have hdead' := hgrow.isAlive (hlen ▸ hlt) (by simpa using hdead)
        refine .inr ?_
        simpa [isAlive, hpr] using hdead'
    | destroy q =>
      -- the process is told now
      cases hnext
      have hlen := hkeep hk₀ (by simp [StopPc.position])
      intro pr hpr
      have hlt := (List.getElem?_eq_some_iff.mp hpr).1
      obtain rfl := hi.target hk₀ (.inr rfl) (hlen ▸ hlt)
      subst hsup'
      simp only [perform, modifyProc, List.getElem?_modify, if_pos] at hpr
      obtain ⟨pr₀, -, rfl⟩ := Option.map_eq_some_iff.mp hpr
      exact .inl rfl
    | clearProcess | deleteKey =>
      exact (hi.told hk₀ (by simp [StopPc.position])).grow hgrow
        (hkeep hk₀ (by simp [StopPc.position]))
    | readProcess =>
      -- `stop` found no process, so there is none
      have hstart : 11 ≤ sup.startPosition := by simpa [stopsCleanly, hk₀] using hok
      have hlen := hi.length_eq h (by omega)
      intro pr hpr
      have hlt := (List.getElem?_eq_some_iff.mp hpr).1
      have hp := hi.process_read hok hk₀ (hlen ▸ hlt)
      simp only [stopNext, hp] at hnext
      cases hnext
      simp [StopPc.position] at hpos
    | returned => cases hnext
    | _ =>
      cases hnext
      simp [StopPc.position] at hpos
  · simp [StopPc.position] at hpos

/-- Behind its last statement there is no key file. -/
theorem Cleanup.deleted_step (hi : Cleanup n sup) (h : sup.step a = some (sup', o)) {k : Nat}
    (hk : sup'.threads[k]? = some (.stop .returned)) : sup'.keyFile = none := by
  obtain hk | ⟨env, pc, eff, rfl, hk₀, hnext, rfl⟩ | ⟨-, -, hnew⟩ := step_stop h hk
  · obtain hsame | hnone | ⟨id, env, c, -, hc, hpc⟩ := step_keyFile h
    · exact hsame.trans (hi.deleted hk)
    · exact hnone
    · -- the start is past the statements that write the file
      have hstart := hi.settled hk (by simp [StopPc.position])
      rw [hi.position_eq hc] at hstart
      obtain hpc | hpc := hpc <;> rw [hpc] at hstart <;> simp [StartPc.position] at hstart
  · cases pc with
    | deleteKey =>
      cases hnext
      rfl
    | readProcess | destroyTest p =>
      simp only [stopNext] at hnext
      split at hnext <;> cases hnext
    | _ => cases hnext
  · cases hnew

/-- Every step keeps the invariant. -/
theorem cleanup_step (hi : Cleanup n sup) (hone : sup.oneStop a) (hok : sup.stopsCleanly a)
    (h : sup.step a = some (sup', o)) : Cleanup n sup' where
  start := by
    obtain ⟨-, c', -, hc', -⟩ := hi.start_step h
    exact ⟨c', hc'⟩
  only := hi.only_step hone h
  unique := hi.unique_step hone h
  unspawned := hi.unspawned_step h
  spawned := hi.spawned_step h
  holds := hi.holds_step h
  published := hi.published_step h
  shutting := hi.shutting_step hok h
  quiet := hi.quiet_step hok h
  settled := hi.settled_step hok h
  target := hi.target_step hok h
  told := hi.told_step hok h
  deleted := hi.deleted_step h

end CleanupStep

/-! ## Runs -/

/-- When both have returned, all of it is cleaned up. -/
theorem Cleanup.cleanedUp {init sup : Supervisor} (hi : Cleanup init.procs.length sup) :
    CleanedUp init sup := by
  intro _ ⟨k, hk⟩
  refine ⟨?_, (hi.quiet hk (by simp [StopPc.position])).1, hi.deleted hk⟩
  intro p hp
  by_cases hn : p = init.procs.length
  · subst hn
    exact hi.told hk (by simp [StopPc.position])
  · -- there is no later process
    intro pr hpr
    have hlt := (List.getElem?_eq_some_iff.mp hpr).1
    have := hi.spawned
    omega

/-- For one `start`, made in any state without other threads, and one `stop` after it has
    set `running`: in every run in which `stop` sets `shuttingDown` after `start` has
    cleared it, clears `ready` while no watch thread is between its look at `shuttingDown`
    and `ready.set(true)`, and reads `process` after `start` has written it or failed,
    nothing is left behind once both have returned. -/
theorem stop_cleans_up (init : Supervisor) (payload : List String)
    (encryptionKey : Option String) (sup : Supervisor) (tr : List Obs)
    (h : (oneStart init payload encryptionKey).Reach
      (fun sup a => sup.oneStop a ∧ sup.stopsCleanly a) sup tr) :
    CleanedUp init sup := by
  have hinv : Cleanup init.procs.length sup := by
    refine Machine.Reach.inv (P := fun sup _ => Cleanup init.procs.length sup)
      (cleanup_init init payload encryptionKey) ?_ h
    intro sup tr a sup' o hi ⟨hone, hok⟩ hstep
    exact cleanup_step hi hone hok hstep
  exact hinv.cleanedUp

/-- The `stop` comes while the `start` has still to launch the watch thread. -/
theorem stop_cleans_up_late :
    ∃ sup tr, (oneStart { keyPath := "key" } ["--url", "d"] (some "secret")).Reach
        (fun sup a => sup.oneStop a ∧ sup.stopsCleanly a) sup tr ∧
      sup.procs.length = 1 ∧ sup.IsTold 0 ∧ sup.ready = false ∧ sup.keyFile = none := by
  obtain ⟨sup, tr, hrun, hsup⟩ := Machine.exists_reach
    (oneStart { keyPath := "key" } ["--url", "d"] (some "secret"))
    (fun sup a => sup.oneStop a ∧ sup.stopsCleanly a)
    (fun sup _ => decide (14 ≤ sup.startPosition ∧
      sup.threads[1]? = some (Thread.stop .returned) ∧ sup.procs.length = 1))
    -- the stop comes when the process is there and its watch is not
    (threadSteps 0 12 ++ [.callStop] ++ threadSteps 1 8 ++ threadSteps 0 1 ++
      threadSteps 2 1) (by decide)
  obtain ⟨hpos, hstop, hlen⟩ := of_decide_eq_true hsup
  obtain ⟨htold, hready, hkey⟩ := stop_cleans_up _ _ _ _ _ hrun hpos ⟨1, hstop⟩
  exact ⟨sup, tr, hrun, hlen, htold 0 (Nat.le_refl _), hready, hkey⟩

/-- The `stop` runs right after the `start` has set `running`: there is no process to
    destroy and no key file to delete yet, and `start` clears `shuttingDown` again. -/
theorem stop_leaves_process :
    ∃ sup tr, (oneStart { keyPath := "key" } ["--url", "d"] (some "secret")).Reach
        (fun sup a => sup.oneStop a) sup tr ∧
      ¬ CleanedUp { keyPath := "key" } sup := by
  obtain ⟨sup, tr, hrun, hsup⟩ := Machine.exists_reach
    (oneStart { keyPath := "key" } ["--url", "d"] (some "secret"))
    (fun sup a => sup.oneStop a)
    (fun sup _ => decide (14 ≤ sup.startPosition ∧
      sup.threads[1]? = some (Thread.stop .returned) ∧ sup.keyFile ≠ none))
    -- the stop is over before the start has done more than set `running`
    (threadSteps 0 1 ++ [.callStop] ++ threadSteps 1 6 ++ threadSteps 0 12) (by decide)
  obtain ⟨hpos, hstop, hkey⟩ := of_decide_eq_true hsup
  refine ⟨sup, tr, hrun, ?_⟩
  intro hclean
  exact hkey (hclean hpos ⟨1, hstop⟩).2.2

end Supervisor

end OpenFlux

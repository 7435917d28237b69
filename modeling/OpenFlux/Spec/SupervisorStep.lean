import OpenFlux.ForStd.List
import OpenFlux.Model.Supervisor

/-!
# What a step of the supervisor can do

Every result about the supervisor is an invariant over its threads and its processes.  How
a step changes them is said here once:

- `step_thread`: a thread found after a step is untouched, has taken a step of its body, or
  is new, and what a new thread looks like
- `step_procs`: processes keep their place and their origin, never come back to life and
  never forget that they were told to terminate
- `threadNext_mayDo`: which thread may have which effect, and from it `step_process`,
  `step_shuttingDown`, `step_ready` and `step_keyFile`
-/

namespace OpenFlux

namespace Supervisor

/-! ## Inversion -/

/-- A step is a call that starts a thread, a step of a thread, or something a process does. -/
theorem step_cases {sup sup' : Supervisor} {a : Action} {o : List Obs}
    (h : sup.step a = some (sup', o)) :
    (∃ payload encryptionKey, a = .callStart payload encryptionKey ∧
      sup' = sup.launch (.start { payload, encryptionKey }) ∧ o = []) ∨
    (a = .callStop ∧ sup' = sup.launch (.stop .setShutting) ∧ o = []) ∨
    (∃ id env t t' eff, a = .thread id env ∧ sup.threads[id]? = some t ∧
      sup.threadNext id env t = some (t', eff) ∧
      sup' = (sup.setThread id t').perform eff ∧ o = record id eff) ∨
    (∃ p code, a = .exit p code ∧
      sup' = sup.modifyProc p ({ · with alive := false, exitCode := code }) ∧ o = []) ∨
    (∃ p line, a = .output p line ∧ sup' = sup.pumpOutput line ∧ o = []) := by
  cases a with
  | callStart payload encryptionKey =>
    obtain ⟨rfl, rfl⟩ := Prod.mk.inj (Option.some.inj h)
    exact .inl ⟨payload, encryptionKey, rfl, rfl, rfl⟩
  | callStop =>
    obtain ⟨rfl, rfl⟩ := Prod.mk.inj (Option.some.inj h)
    exact .inr (.inl ⟨rfl, rfl, rfl⟩)
  | thread id env =>
    -- a thread that does not exist or has returned makes no step
    simp only [step, threadStep] at h
    split at h
    · cases h
    · rename_i t ht
      obtain ⟨⟨t', eff⟩, hnext, heq⟩ := Option.map_eq_some_iff.mp h
      obtain ⟨rfl, rfl⟩ := Prod.mk.inj heq
      exact .inr (.inr (.inl ⟨id, env, t, t', eff, rfl, ht, hnext, rfl, rfl⟩))
  | exit p code =>
    -- only a live process exits
    simp only [step] at h
    split at h
    · obtain ⟨rfl, rfl⟩ := Prod.mk.inj (Option.some.inj h)
      exact .inr (.inr (.inr (.inl ⟨p, code, rfl, rfl, rfl⟩)))
    · cases h
  | output p line =>
    -- only a process whose output is read prints anything
    simp only [step] at h
    split at h
    · obtain ⟨rfl, rfl⟩ := Prod.mk.inj (Option.some.inj h)
      exact .inr (.inr (.inr (.inr ⟨p, line, rfl, rfl, rfl⟩)))
    · cases h

/-- The step of a thread that exists. -/
theorem step_threadNext {sup sup' : Supervisor} {id : Nat} {env : Env} {t : Thread}
    {o : List Obs} (ht : sup.threads[id]? = some t)
    (h : sup.step (.thread id env) = some (sup', o)) :
    ∃ t' eff, sup.threadNext id env t = some (t', eff) ∧
      sup' = (sup.setThread id t').perform eff ∧ o = record id eff := by
  simp only [step, threadStep, ht] at h
  obtain ⟨⟨t', eff⟩, hnext, heq⟩ := Option.map_eq_some_iff.mp h
  obtain ⟨rfl, rfl⟩ := Prod.mk.inj heq
  exact ⟨t', eff, hnext, rfl, rfl⟩

/-! ## Threads -/

/-- The thread that an effect launches. -/
def Effect.launched : Effect → List Thread
  | .startWatch p => [.watch { proc := p }]
  | _ => []

/-- An effect adds at most a watch thread. -/
theorem perform_threads (sup : Supervisor) (eff : Effect) :
    (sup.perform eff).threads = sup.threads ++ eff.launched := by
  cases eff with
  | startWatch p => rfl
  | _ => exact (List.append_nil _).symm

/-- One step of a thread is one step of its body. -/
theorem threadNext_cases {sup : Supervisor} {id : Nat} {env : Env} {t t' : Thread}
    {eff : Effect} (h : sup.threadNext id env t = some (t', eff)) :
    (∃ c pc, t = .start c ∧ t' = .start { c with pc } ∧
      sup.startNext id c env = some (pc, eff)) ∨
    (∃ pc pc', t = .stop pc ∧ t' = .stop pc' ∧ sup.stopNext pc = some (pc', eff)) ∨
    (∃ w pc, t = .watch w ∧ t' = .watch { w with pc } ∧
      sup.watchNext w env = some (pc, eff)) := by
  cases t with
  | start c =>
    obtain ⟨⟨pc, eff'⟩, hnext, heq⟩ := Option.map_eq_some_iff.mp h
    obtain ⟨rfl, rfl⟩ := Prod.mk.inj heq
    exact .inl ⟨c, pc, rfl, rfl, hnext⟩
  | stop pc =>
    obtain ⟨⟨pc', eff'⟩, hnext, heq⟩ := Option.map_eq_some_iff.mp h
    obtain ⟨rfl, rfl⟩ := Prod.mk.inj heq
    exact .inr (.inl ⟨pc, pc', rfl, rfl, hnext⟩)
  | watch w =>
    obtain ⟨⟨pc, eff'⟩, hnext, heq⟩ := Option.map_eq_some_iff.mp h
    obtain ⟨rfl, rfl⟩ := Prod.mk.inj heq
    exact .inr (.inr ⟨w, pc, rfl, rfl, hnext⟩)

/-- A thread that has returned takes no step. -/
theorem threadNext_not_returned {sup : Supervisor} {id : Nat} {env : Env} {t t' : Thread}
    {eff : Effect} (h : sup.threadNext id env t = some (t', eff)) : t.isReturned = false := by
  cases hr : t.isReturned with
  | false => rfl
  | true =>
    obtain ⟨c, pc, rfl, -, hnext⟩ | ⟨pc, pc', rfl, -, hnext⟩ | ⟨w, pc, rfl, -, hnext⟩ :=
      threadNext_cases h
    · have hpc : c.pc = .returned ∨ c.pc = .ignored := by simpa [Thread.isReturned] using hr
      obtain hpc | hpc := hpc <;> simp [startNext, hpc] at hnext
    · have hpc : pc = .returned := by simpa [Thread.isReturned] using hr
      simp [stopNext, hpc] at hnext
    · have hpc : w.pc = .returned := by simpa [Thread.isReturned] using hr
      simp [watchNext, hpc] at hnext

/-- Who may have an effect, for the effects that the results depend on. -/
def MayDo (t : Thread) : Effect → Prop
  | .setProcess (some p) => ∃ c, t = .start c ∧ c.pc = .publishProcess p
  | .setProcess none => t = .stop .clearProcess
  | .setShuttingDown true => t = .stop .setShutting
  | .setShuttingDown false => ∃ c, t = .start c ∧ c.pc = .clearShutting
  | .setReady true => ∃ w, t = .watch w ∧ w.pc = .setReady
  | .writeKey _ => ∃ c, t = .start c ∧ (c.pc = .createKey ∨ c.pc = .fillKey)
  | .spawn _ => ∃ c, t = .start c ∧ c.pc = .spawn
  | .startWatch p => ∃ c, t = .start c ∧ c.pc = .startWatch p
  | _ => True

/-- `fail` has none of these effects. -/
private theorem failNext_mayDo (sup : Supervisor) (message : String) (pc : FailPc)
    (t : Thread) : MayDo t (sup.failNext message pc).2 := by
  cases pc <;> exact trivial

/-- A thread has only the effects it may have. -/
theorem threadNext_mayDo {sup : Supervisor} {id : Nat} {env : Env} {t t' : Thread}
    {eff : Effect} (h : sup.threadNext id env t = some (t', eff)) : MayDo t eff := by
  obtain ⟨c, pc, rfl, -, hnext⟩ | ⟨pc, pc', rfl, -, hnext⟩ | ⟨w, pc, rfl, -, hnext⟩ :=
    threadNext_cases h
  · -- the statements of `start`, and `fail` inside it
    cases hpc : c.pc with
    | failing f message =>
      simp only [startNext, hpc] at hnext
      cases hnext
      exact failNext_mayDo sup message f _
    | _ =>
      simp only [startNext, hpc, orFail] at hnext
      repeat' split at hnext
      all_goals cases hnext
      all_goals simp [MayDo, hpc]
  · cases pc <;> cases hnext <;> simp [MayDo]
  · cases hpc : w.pc with
    | failing f message d =>
      simp only [watchNext, hpc] at hnext
      cases hnext
      exact failNext_mayDo sup message f _
    | _ =>
      simp only [watchNext, hpc] at hnext
      repeat' split at hnext
      all_goals cases hnext
      all_goals simp [MayDo, hpc]

/-- A thread that a step launches. -/
inductive Launched (sup : Supervisor) : Action → Thread → Prop
  | start (payload : List String) (encryptionKey : Option String) :
      Launched sup (.callStart payload encryptionKey) (.start { payload, encryptionKey })
  | stop : Launched sup .callStop (.stop .setShutting)
  | watch (id : Nat) (env : Env) (c : StartCall) (p : Nat) :
      sup.threads[id]? = some (.start c) → c.pc = .startWatch p →
      Launched sup (.thread id env) (.watch { proc := p })

/-- The other threads stay. -/
theorem setThread_threads_of_ne {sup : Supervisor} {id k : Nat} (t : Thread) (h : k ≠ id) :
    (sup.setThread id t).threads[k]? = sup.threads[k]? := by
  simp [setThread, Ne.symm h]

/-- The thread that steps. -/
theorem setThread_threads_self {sup : Supervisor} {id : Nat} {old : Thread} (t : Thread)
    (h : sup.threads[id]? = some old) : (sup.setThread id t).threads[id]? = some t := by
  obtain ⟨hlt, -⟩ := List.getElem?_eq_some_iff.mp h
  simp [setThread, hlt]

/-- A thread found after a step is untouched, has taken a step of its own, or is new. -/
theorem step_thread {sup sup' : Supervisor} {a : Action} {o : List Obs}
    (h : sup.step a = some (sup', o)) {k : Nat} {t' : Thread}
    (hk : sup'.threads[k]? = some t') :
    sup.threads[k]? = some t' ∧ (∀ env, a ≠ .thread k env) ∨
    (∃ env t eff, a = .thread k env ∧ sup.threads[k]? = some t ∧
      sup.threadNext k env t = some (t', eff)) ∨
    (k = sup.threads.length ∧ Launched sup a t') := by
  obtain ⟨payload, key, rfl, rfl, -⟩ | ⟨rfl, rfl, -⟩ |
      ⟨id, env, t, t₁, eff, rfl, ht, hnext, rfl, -⟩ | ⟨p, code, rfl, rfl, -⟩ |
      ⟨p, line, rfl, rfl, -⟩ := step_cases h
  · obtain hk | ⟨hlen, rfl⟩ := List.getElem?_concat_eq_some.mp hk
    · exact .inl ⟨hk, by simp⟩
    · exact .inr (.inr ⟨hlen, .start payload key⟩)
  · -- a call of `stop`
    obtain hk | ⟨hlen, rfl⟩ := List.getElem?_concat_eq_some.mp hk
    · exact .inl ⟨hk, by simp⟩
    · exact .inr (.inr ⟨hlen, .stop⟩)
  · -- the stepping thread, another one, or the watch thread it launches
    have hold : ∀ {k t'}, (sup.setThread id t₁).threads[k]? = some t' →
        sup.threads[k]? = some t' ∧ (∀ env', Action.thread id env ≠ .thread k env') ∨
        (∃ env' t eff, Action.thread id env = .thread k env' ∧ sup.threads[k]? = some t ∧
          sup.threadNext k env' t = some (t', eff)) := by
      intro k t' hk
      by_cases hid : k = id
      · subst hid
        rw [setThread_threads_self t₁ ht, Option.some.injEq] at hk
        subst hk
        exact .inr ⟨env, t, eff, rfl, ht, hnext⟩
      · rw [setThread_threads_of_ne t₁ hid] at hk
        exact .inl ⟨hk, by simp [Ne.symm hid]⟩
    rw [perform_threads] at hk
    cases eff with
    | startWatch p =>
      -- the only effect that adds a thread
      obtain ⟨c, rfl, hpc⟩ := threadNext_mayDo hnext
      obtain hk | ⟨hlen, rfl⟩ := List.getElem?_concat_eq_some.mp hk
      · obtain hk | hk := hold hk
        · exact .inl hk
        · exact .inr (.inl hk)
      · refine .inr (.inr ⟨?_, .watch id env c p ht hpc⟩)
        simpa [setThread] using hlen
    | _ =>
      simp only [Effect.launched, List.append_nil] at hk
      obtain hk | hk := hold hk
      · exact .inl hk
      · exact .inr (.inl hk)
  · exact .inl ⟨hk, by simp⟩
  · -- output and exits concern no thread
    have hsame : (sup.pumpOutput line).threads = sup.threads := by
      unfold pumpOutput
      split <;> rfl
    rw [hsame] at hk
    exact .inl ⟨hk, by simp⟩

/-- A thread keeps its place and takes at most a step of its own. -/
theorem step_thread_of {sup sup' : Supervisor} {a : Action} {o : List Obs}
    (h : sup.step a = some (sup', o)) {k : Nat} {t : Thread} (ht : sup.threads[k]? = some t) :
    ∃ t', sup'.threads[k]? = some t' ∧
      (t' = t ∧ (∀ env, a ≠ .thread k env) ∨
        ∃ env eff, a = .thread k env ∧ sup.threadNext k env t = some (t', eff)) := by
  obtain ⟨hlt, -⟩ := List.getElem?_eq_some_iff.mp ht
  -- no step removes a thread
  have hlen : sup.threads.length ≤ sup'.threads.length := by
    obtain ⟨payload, key, -, rfl, -⟩ | ⟨-, rfl, -⟩ |
        ⟨id, env, t, t₁, eff, -, -, -, rfl, -⟩ | ⟨p, code, -, rfl, -⟩ | ⟨p, line, -, rfl, -⟩ :=
      step_cases h
    · simp [launch]
    · simp [launch]
    · rw [perform_threads]
      simp [setThread]
    · exact Nat.le_refl _
    · unfold pumpOutput
      split <;> exact Nat.le_refl _
  have hget := List.getElem?_eq_getElem (Nat.lt_of_lt_of_le hlt hlen)
  refine ⟨_, hget, ?_⟩
  obtain ⟨hsame, hne⟩ | ⟨env, t₀, eff, rfl, ht₀, hnext⟩ | ⟨hnew, -⟩ := step_thread h hget
  · exact .inl ⟨Option.some.inj (hsame.symm.trans ht), hne⟩
  · obtain rfl : t = t₀ := Option.some.inj (ht.symm.trans ht₀)
    exact .inr ⟨env, eff, rfl, hnext⟩
  · omega

/-- A `stop` call found after a step. -/
theorem step_stop {sup sup' : Supervisor} {a : Action} {o : List Obs}
    (h : sup.step a = some (sup', o)) {k : Nat} {pc' : StopPc}
    (hk : sup'.threads[k]? = some (.stop pc')) :
    sup.threads[k]? = some (.stop pc') ∨
    (∃ env pc eff, a = .thread k env ∧ sup.threads[k]? = some (.stop pc) ∧
      sup.stopNext pc = some (pc', eff) ∧
      sup' = (sup.setThread k (.stop pc')).perform eff) ∨
    (a = .callStop ∧ k = sup.threads.length ∧ pc' = .setShutting) := by
  obtain ⟨hk, -⟩ | ⟨env, t, eff, rfl, ht, hnext⟩ | ⟨hlen, hnew⟩ := step_thread h hk
  · exact .inl hk
  · -- a thread stays what it is
    obtain ⟨t', eff', hnext', hsup', -⟩ := step_threadNext ht h
    obtain ⟨rfl, rfl⟩ := Prod.mk.inj (Option.some.inj (hnext.symm.trans hnext'))
    obtain ⟨_, _, rfl, heq, -⟩ | ⟨pc, pc₁, rfl, heq, hstop⟩ | ⟨_, _, rfl, heq, -⟩ :=
      threadNext_cases hnext
    · cases heq
    · cases heq
      exact .inr (.inl ⟨env, pc, eff, rfl, ht, hstop, hsup'⟩)
    · cases heq
  · cases hnew
    exact .inr (.inr ⟨rfl, hlen, rfl⟩)

/-- A `start` call found after a step. -/
theorem step_start {sup sup' : Supervisor} {a : Action} {o : List Obs}
    (h : sup.step a = some (sup', o)) {k : Nat} {c' : StartCall}
    (hk : sup'.threads[k]? = some (.start c')) :
    (sup.threads[k]? = some (.start c') ∧ ∀ env, a ≠ .thread k env) ∨
    (∃ env c eff, a = .thread k env ∧ sup.threads[k]? = some (.start c) ∧
      sup.startNext k c env = some (c'.pc, eff) ∧
      sup' = (sup.setThread k (.start c')).perform eff) ∨
    (∃ payload key, a = .callStart payload key) := by
  obtain hk | ⟨env, t, eff, rfl, ht, hnext⟩ | ⟨hlen, hnew⟩ := step_thread h hk
  · exact .inl hk
  · obtain ⟨t', eff', hnext', hsup', -⟩ := step_threadNext ht h
    obtain ⟨rfl, rfl⟩ := Prod.mk.inj (Option.some.inj (hnext.symm.trans hnext'))
    obtain ⟨c, pc, rfl, heq, hstart⟩ | ⟨_, _, rfl, heq, -⟩ | ⟨_, _, rfl, heq, -⟩ :=
      threadNext_cases hnext
    · cases heq
      exact .inr (.inl ⟨env, c, eff, rfl, ht, hstart, hsup'⟩)
    · cases heq
    · cases heq
  · cases hnew
    exact .inr (.inr ⟨_, _, rfl⟩)

/-! ## Processes -/

/-- Processes keep their place and origin, stay dead and stay told. -/
def ProcsGrow (sup sup' : Supervisor) : Prop :=
  ∀ ⦃p : Nat⦄ ⦃pr : Proc⦄, sup.procs[p]? = some pr → ∃ pr', sup'.procs[p]? = some pr' ∧
    pr'.startedBy = pr.startedBy ∧ (pr'.alive → pr.alive) ∧ (pr.told → pr'.told)

/-- A step that leaves the processes alone. -/
theorem ProcsGrow.of_eq {sup sup' : Supervisor} (h : sup'.procs = sup.procs) :
    ProcsGrow sup sup' := by
  intro p pr hp
  exact ⟨pr, by rw [h, hp], rfl, fun h => h, fun h => h⟩

/-- Changing processes one by one, none of which moves, comes alive or forgets. -/
theorem ProcsGrow.modify {sup : Supervisor} (q : Nat) {f : Proc → Proc}
    (hby : ∀ pr, (f pr).startedBy = pr.startedBy) (halive : ∀ pr, (f pr).alive → pr.alive)
    (htold : ∀ pr, pr.told → (f pr).told) : ProcsGrow sup (sup.modifyProc q f) := by
  intro p pr hp
  by_cases hq : q = p
  · subst hq
    exact ⟨f pr, by simp [modifyProc, hp], hby pr, halive pr, htold pr⟩
  · refine ⟨pr, ?_, rfl, fun h => h, fun h => h⟩
    simp [modifyProc, hq, hp]

/-- No effect moves a process or makes one come alive. -/
theorem perform_procsGrow (sup : Supervisor) (eff : Effect) : ProcsGrow sup (sup.perform eff) := by
  cases eff with
  | killStale =>
    -- tells every process, whoever has started it
    intro p pr hp
    exact ⟨{ pr with told := true }, by simp [perform, hp], rfl, fun h => h, fun _ => rfl⟩
  | spawn new =>
    intro p pr hp
    exact ⟨pr, List.getElem?_append_of_eq_some hp, rfl, fun h => h, fun h => h⟩
  | startOutput q => exact .modify q (fun _ => rfl) (fun _ h => h) (fun _ h => h)
  | destroy q => exact .modify q (fun _ => rfl) (fun _ h => h) (fun _ _ => rfl)
  | _ => exact .of_eq rfl

/-- No step moves a process or makes one come alive. -/
theorem step_procs {sup sup' : Supervisor} {a : Action} {o : List Obs}
    (h : sup.step a = some (sup', o)) : ProcsGrow sup sup' := by
  obtain ⟨payload, key, -, rfl, -⟩ | ⟨-, rfl, -⟩ |
      ⟨id, env, t, t₁, eff, -, -, -, rfl, -⟩ | ⟨p, code, -, rfl, -⟩ | ⟨p, line, -, rfl, -⟩ :=
    step_cases h
  · exact .of_eq rfl
  · exact .of_eq rfl
  · exact perform_procsGrow (sup.setThread id t₁) eff
  · exact .modify p (fun _ => rfl) (fun _ h => Bool.noConfusion h) (fun _ h => h)
  · apply ProcsGrow.of_eq
    unfold pumpOutput
    split <;> rfl

/-- A process that was there is still there. -/
theorem ProcsGrow.lt_length {sup sup' : Supervisor} (h : ProcsGrow sup sup') {p : Nat}
    (hp : p < sup.procs.length) : p < sup'.procs.length := by
  obtain ⟨pr', hpr', -⟩ := h (List.getElem?_eq_getElem hp)
  exact (List.getElem?_eq_some_iff.mp hpr').1

/-- The origin of a process that was there before. -/
theorem ProcsGrow.startedBy {sup sup' : Supervisor} (h : ProcsGrow sup sup') {p : Nat}
    {pr' : Proc} (hp : p < sup.procs.length) (hpr' : sup'.procs[p]? = some pr') :
    ∃ pr, sup.procs[p]? = some pr ∧ pr.startedBy = pr'.startedBy := by
  have hget := List.getElem?_eq_getElem hp
  obtain ⟨pr'', hpr'', hby, -⟩ := h hget
  obtain rfl : pr' = pr'' := Option.some.inj (hpr'.symm.trans hpr'')
  exact ⟨_, hget, hby.symm⟩

/-- Processes are added only by the spawn of a `start`, one at a time. -/
theorem step_procs_length {sup sup' : Supervisor} {a : Action} {o : List Obs}
    (h : sup.step a = some (sup', o)) :
    sup'.procs.length = sup.procs.length ∨
    ∃ id env c, a = .thread id env ∧ sup.threads[id]? = some (.start c) ∧ c.pc = .spawn ∧
      sup'.threads[id]? =
        some (.start { c with pc := .publishProcess sup.procs.length }) ∧
      sup'.procs.length = sup.procs.length + 1 := by
  obtain ⟨payload, key, -, rfl, -⟩ | ⟨-, rfl, -⟩ |
      ⟨id, env, t, t₁, eff, rfl, ht, hnext, rfl, -⟩ | ⟨p, code, -, rfl, -⟩ | ⟨p, line, -, rfl, -⟩ :=
    step_cases h
  · exact .inl rfl
  · exact .inl rfl
  · cases eff with
    | spawn new =>
      -- the `start` goes on to publish what it has spawned
      obtain ⟨c, rfl, hpc⟩ := threadNext_mayDo hnext
      refine .inr ⟨id, env, c, rfl, ht, hpc, ?_, by simp [perform, setThread]⟩
      simp only [threadNext, startNext, hpc, orFail] at hnext
      split at hnext <;> cases hnext
      exact setThread_threads_self _ ht
    | killStale | startOutput _ | destroy _ =>
      exact .inl (by simp [perform, modifyProc, setThread])
    | _ => exact .inl rfl
  · exact .inl (by simp [modifyProc])
  · refine .inl ?_
    unfold pumpOutput
    split <;> rfl

/-- A process that is dead stays dead. -/
theorem ProcsGrow.isAlive {sup sup' : Supervisor} (h : ProcsGrow sup sup') {p : Nat}
    (hp : p < sup.procs.length) (hdead : sup.isAlive p = false) : sup'.isAlive p = false := by
  have hget := List.getElem?_eq_getElem hp
  obtain ⟨pr', hpr', -, halive, -⟩ := h hget
  have hdead : sup.procs[p].alive = false := by simpa [Supervisor.isAlive, hget] using hdead
  cases hc : pr'.alive with
  | false => simp [Supervisor.isAlive, hpr', hc]
  | true =>
    rw [halive hc] at hdead
    cases hdead

/-! ## Fields -/

section Fields

variable {sup sup' : Supervisor} {a : Action} {o : List Obs}

/-- A field changes only in the step of a thread, by its effect. -/
theorem step_field {α : Type} (field : Supervisor → α)
    (hthreads : ∀ sup ts, field { sup with threads := ts } = field sup)
    (hprocs : ∀ sup ps, field { sup with procs := ps } = field sup)
    (houtput : ∀ sup line, field { sup with lastOutput := line } = field sup)
    (h : sup.step a = some (sup', o)) :
    field sup' = field sup ∨ ∃ id env t eff, a = .thread id env ∧
      sup.threads[id]? = some t ∧ MayDo t eff ∧
      ∃ ts, field sup' = field (({ sup with threads := ts } : Supervisor).perform eff) := by
  obtain ⟨payload, key, -, rfl, -⟩ | ⟨-, rfl, -⟩ |
      ⟨id, env, t, t₁, eff, rfl, ht, hnext, rfl, -⟩ | ⟨p, code, -, rfl, -⟩ | ⟨p, line, -, rfl, -⟩ :=
    step_cases h
  · exact .inl (hthreads _ _)
  · exact .inl (hthreads _ _)
  · -- only the effect of a thread can change such a field
    exact .inr ⟨id, env, t, eff, rfl, ht, threadNext_mayDo hnext, _, rfl⟩
  · exact .inl (hprocs _ _)
  · refine .inl ?_
    unfold pumpOutput
    split
    · rfl
    · exact houtput _ _

/-- `process` is set by the `start` that has spawned one, and cleared by a `stop`. -/
theorem step_process (h : sup.step a = some (sup', o)) :
    sup'.process = sup.process ∨
    (sup'.process = none ∧
      ∃ id env, a = .thread id env ∧ sup.threads[id]? = some (.stop .clearProcess)) ∨
    ∃ id env c p, a = .thread id env ∧ sup.threads[id]? = some (.start c) ∧
      c.pc = .publishProcess p ∧ sup'.process = some p := by
  obtain hsame | ⟨id, env, t, eff, rfl, ht, hmay, ts, hp⟩ :=
    step_field Supervisor.process (fun _ _ => rfl) (fun _ _ => rfl) (fun _ _ => rfl) h
  · exact .inl hsame
  · cases eff with
    -- `stop` clears the field and `start` sets it
    | setProcess q =>
      cases q with
      | none =>
        obtain rfl : t = .stop .clearProcess := hmay
        exact .inr (.inl ⟨hp, id, env, rfl, ht⟩)
      | some p =>
        obtain ⟨c, rfl, hpc⟩ := hmay
        exact .inr (.inr ⟨id, env, c, p, rfl, ht, hpc, hp⟩)
    | _ => exact .inl hp

/-- Once set, `shuttingDown` is cleared only at the beginning of a run. -/
theorem step_shuttingDown (h : sup.step a = some (sup', o)) :
    sup'.shuttingDown = sup.shuttingDown ∨ sup'.shuttingDown = true ∨
    ∃ id env c, a = .thread id env ∧ sup.threads[id]? = some (.start c) ∧
      c.pc = .clearShutting := by
  obtain hsame | ⟨id, env, t, eff, rfl, ht, hmay, ts, hp⟩ :=
    step_field Supervisor.shuttingDown (fun _ _ => rfl) (fun _ _ => rfl) (fun _ _ => rfl) h
  · exact .inl hsame
  · cases eff with
    | setShuttingDown b =>
      cases b with
      | true => exact .inr (.inl hp)
      | false =>
        obtain ⟨c, rfl, hpc⟩ := hmay
        exact .inr (.inr ⟨id, env, c, rfl, ht, hpc⟩)
    | _ => exact .inl hp

/-- Only a watch thread sets `ready`. -/
theorem step_ready (h : sup.step a = some (sup', o)) :
    sup'.ready = sup.ready ∨ sup'.ready = false ∨
    ∃ id env w, a = .thread id env ∧ sup.threads[id]? = some (.watch w) ∧
      w.pc = .setReady := by
  obtain hsame | ⟨id, env, t, eff, rfl, ht, hmay, ts, hp⟩ :=
    step_field Supervisor.ready (fun _ _ => rfl) (fun _ _ => rfl) (fun _ _ => rfl) h
  · exact .inl hsame
  · cases eff with
    | setReady b =>
      cases b with
      | false => exact .inr (.inl hp)
      | true =>
        obtain ⟨w, rfl, hpc⟩ := hmay
        exact .inr (.inr ⟨id, env, w, rfl, ht, hpc⟩)
    | _ => exact .inl hp

/-- Only a `start` writes the key file. -/
theorem step_keyFile (h : sup.step a = some (sup', o)) :
    sup'.keyFile = sup.keyFile ∨ sup'.keyFile = none ∨
    ∃ id env c, a = .thread id env ∧ sup.threads[id]? = some (.start c) ∧
      (c.pc = .createKey ∨ c.pc = .fillKey) := by
  obtain hsame | ⟨id, env, t, eff, rfl, ht, hmay, ts, hp⟩ :=
    step_field Supervisor.keyFile (fun _ _ => rfl) (fun _ _ => rfl) (fun _ _ => rfl) h
  · exact .inl hsame
  · cases eff with
    | writeKey content =>
      obtain ⟨c, rfl, hpc⟩ := hmay
      exact .inr (.inr ⟨id, env, c, rfl, ht, hpc⟩)
    | deleteKey => exact .inr (.inl hp)
    | _ => exact .inl hp

end Fields

/-! ## Concrete runs -/

/-- `n` steps of one thread in a row. -/
def threadSteps (id n : Nat) : List Action := List.replicate n (.thread id {})

end Supervisor

end OpenFlux

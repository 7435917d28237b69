import OpenFlux.Spec.SupervisorStep

/-!
# The run of one start call

A `start` call that finds `running` cleared, and that no other call disturbs, ends with a
process of its own in `process`, or with an error.  Watch threads of any run may go on
meanwhile: they set errors and clear flags, but never touch `process` (`Keeps`).

`Run` says how far the call has come.  Once it has failed, nothing but the next `start` clears
the error, and further calls of `stop` make no difference.

## Key results

- `OnlyCall.step`: as long as one call is the only one, a step is either its own or keeps what
  it has achieved
- `Run.step`: a run goes on to hold its own process or fails
-/

namespace OpenFlux

namespace Supervisor

/-! ## What other threads leave alone -/

/-- The parts of the state that a run depends on are kept: `process` is the same, processes
    keep their origin and their arguments, `running` is not set and `error` not cleared. -/
structure Keeps (sup sup' : Supervisor) : Prop where
  keyPath : sup'.keyPath = sup.keyPath
  process : sup'.process = sup.process
  procs : ∀ {p : Nat} {pr : Proc}, sup.procs[p]? = some pr →
    ∃ pr', sup'.procs[p]? = some pr' ∧ pr'.startedBy = pr.startedBy ∧ pr'.args = pr.args
  running : sup.running = false → sup'.running = false
  error : sup.error ≠ none → sup'.error ≠ none

/-- The effects that keep a run. -/
def Effect.keepsRun : Effect → Bool
  | .setRunning true | .setError none | .setProcess _ => false
  | _ => true

/-- Changing a process otherwise than in its origin and arguments. -/
theorem modifyProc_keeps (sup : Supervisor) (q : Nat) {f : Proc → Proc}
    (hby : ∀ pr, (f pr).startedBy = pr.startedBy) (hargs : ∀ pr, (f pr).args = pr.args) :
    Keeps sup (sup.modifyProc q f) := by
  refine ⟨rfl, rfl, fun {p pr} hp => ?_, id, id⟩
  by_cases hq : q = p
  · subst hq
    exact ⟨f pr, by simp [modifyProc, hp], hby pr, hargs pr⟩
  · exact ⟨pr, by simp [modifyProc, hq, hp], rfl, rfl⟩

/-- A step that changes only `running` and `error`. -/
theorem keeps_of_eq {sup sup' : Supervisor} (hkey : sup'.keyPath = sup.keyPath)
    (hprocess : sup'.process = sup.process) (hprocs : sup'.procs = sup.procs)
    (hrunning : sup.running = false → sup'.running = false)
    (herror : sup.error ≠ none → sup'.error ≠ none) : Keeps sup sup' :=
  ⟨hkey, hprocess, fun {_ pr} hp => ⟨pr, by rw [hprocs, hp], rfl, rfl⟩, hrunning, herror⟩

/-- Such an effect keeps a run. -/
theorem perform_keeps (sup : Supervisor) {eff : Effect} (h : eff.keepsRun) :
    Keeps sup (sup.perform eff) := by
  cases eff with
  | setRunning b =>
    cases b with
    | true => contradiction
    | false => exact keeps_of_eq rfl rfl rfl (fun _ => rfl) id
  | setError e =>
    cases e with
    | none => contradiction
    | some message => exact keeps_of_eq rfl rfl rfl id fun _ => by simp [perform]
  | setProcess p => contradiction
  | killStale =>
    -- `killStale` tells the processes to terminate, and changes nothing else of them
    refine ⟨rfl, rfl, fun {p pr} hp => ?_, id, id⟩
    exact ⟨{ pr with told := true }, by simp [perform, hp], rfl, rfl⟩
  | spawn new =>
    refine ⟨rfl, rfl, fun {p pr} hp => ?_, id, id⟩
    exact ⟨pr, List.getElem?_append_of_eq_some hp, rfl, rfl⟩
  | startOutput q => exact modifyProc_keeps sup q (fun _ => rfl) fun _ => rfl
  | destroy q => exact modifyProc_keeps sup q (fun _ => rfl) fun _ => rfl
  | _ => exact keeps_of_eq rfl rfl rfl id id

/-- The step of a thread with such an effect. -/
theorem setThread_perform_keeps (sup : Supervisor) (id : Nat) (t : Thread) {eff : Effect}
    (h : eff.keepsRun) : Keeps sup ((sup.setThread id t).perform eff) := by
  have hkeeps := perform_keeps (sup.setThread id t) h
  exact ⟨hkeeps.keyPath, hkeeps.process, hkeeps.procs, hkeeps.running, hkeeps.error⟩

/-- A watch thread keeps every run. -/
theorem watchNext_keepsRun {sup : Supervisor} {w : Watch} {env : Env} {pc : WatchPc}
    {eff : Effect} (h : sup.watchNext w env = some (pc, eff)) : eff.keepsRun := by
  cases hpc : w.pc with
  | failing f message d =>
    simp only [watchNext, hpc] at h
    cases h
    cases f <;> rfl
  | _ =>
    simp only [watchNext, hpc] at h
    repeat' split at h
    all_goals cases h
    all_goals rfl

/-- A `stop` leaves the error alone. -/
theorem stopNext_keeps_error {sup : Supervisor} {pc pc' : StopPc} {eff : Effect}
    (h : sup.stopNext pc = some (pc', eff)) (sup₀ : Supervisor) :
    (sup₀.perform eff).error = sup₀.error := by
  cases pc <;> cases h <;> rfl

/-! ## The only call -/

/-- The thread `th` is a `start` call at `pc`, and every other call has returned. -/
structure OnlyCall (sup : Supervisor) (th : Nat) (payload : List String)
    (encryptionKey : Option String) (pc : StartPc) : Prop where
  call : sup.threads[th]? = some (.start { payload, encryptionKey, pc })
  others : ∀ {i : Nat} {t : Thread}, sup.threads[i]? = some t → t.isCall → i ≠ th →
    t.isReturned

section Step

variable {sup sup' : Supervisor} {a : Action} {o : List Obs} {th : Nat}
  {payload : List String} {encryptionKey : Option String}

/-- The other calls make no step, so the call stays the only one: something else happens, which
    keeps its run, or it makes a step itself. -/
theorem OnlyCall.step {pc : StartPc} (hc : OnlyCall sup th payload encryptionKey pc)
    (hstart : ∀ payload key, a ≠ .callStart payload key) (hstop : a ≠ .callStop)
    (h : sup.step a = some (sup', o)) :
    (OnlyCall sup' th payload encryptionKey pc ∧ Keeps sup sup') ∨
    ∃ env pc' eff, sup.startNext th { payload, encryptionKey, pc } env = some (pc', eff) ∧
      sup' = (sup.setThread th (.start { payload, encryptionKey, pc := pc' })).perform eff ∧
      OnlyCall sup' th payload encryptionKey pc' := by
  -- the other calls have returned, and a new thread is a watch thread
  have hothers : ∀ {i : Nat} {t : Thread}, sup'.threads[i]? = some t → t.isCall → i ≠ th →
      t.isReturned := by
    intro i t ht hcall hne
    obtain ⟨hold, -⟩ | ⟨env, t₀, eff, -, ht₀, hnext⟩ | ⟨-, hnew⟩ := step_thread h ht
    · exact hc.others hold hcall hne
    · have hnot := threadNext_not_returned hnext
      obtain ⟨c, pc', rfl, rfl, -⟩ | ⟨pc', pc'', rfl, rfl, -⟩ | ⟨w, pc', rfl, rfl, -⟩ :=
        threadNext_cases hnext
      · -- a call that makes a step has not returned
        exact Bool.noConfusion (hnot.symm.trans (hc.others ht₀ rfl hne))
      · exact Bool.noConfusion (hnot.symm.trans (hc.others ht₀ rfl hne))
      · contradiction
    · cases hnew with
      | start payload key => exact (hstart payload key rfl).elim
      | stop => exact (hstop rfl).elim
      | watch => contradiction
  -- only its own steps change the call
  have hsame : (∀ env, a ≠ .thread th env) → sup'.threads[th]? = sup.threads[th]? := by
    intro hne
    obtain ⟨t', ht', ⟨rfl, -⟩ | ⟨env, eff, rfl, -⟩⟩ := step_thread_of h hc.call
    · rw [ht', hc.call]
    · exact (hne env rfl).elim
  obtain ⟨payload, key, rfl, -, -⟩ | ⟨rfl, -, -⟩ |
      ⟨id, env, t, t₁, eff, rfl, ht, hnext, hsup', -⟩ | ⟨p, code, rfl, hsup', -⟩ |
      ⟨p, line, rfl, hsup', -⟩ := step_cases h
  · exact (hstart payload key rfl).elim
  · exact (hstop rfl).elim
  · by_cases hid : id = th
    · subst hid
      obtain rfl := Option.some.inj (hc.call.symm.trans ht)
      obtain ⟨c, pc', hc', rfl, hnext'⟩ | ⟨_, _, heq, -, -⟩ | ⟨_, _, heq, -, -⟩ :=
        threadNext_cases hnext
      · obtain rfl := (Thread.start.inj hc').symm
        refine .inr ⟨env, pc', eff, hnext', hsup', ?_, hothers⟩
        rw [hsup', perform_threads]
        exact List.getElem?_append_of_eq_some (setThread_threads_self _ ht)
      · contradiction
      · contradiction
    · refine .inl ⟨⟨(hsame (by simpa using hid)).trans hc.call, hothers⟩, ?_⟩
      have hnot := threadNext_not_returned hnext
      obtain ⟨c, pc', rfl, -, -⟩ | ⟨pc', pc'', rfl, -, -⟩ | ⟨w, pc', rfl, -, hwatch⟩ :=
        threadNext_cases hnext
      · exact Bool.noConfusion (hnot.symm.trans (hc.others ht rfl hid))
      · exact Bool.noConfusion (hnot.symm.trans (hc.others ht rfl hid))
      · subst hsup'
        exact setThread_perform_keeps sup id t₁ (watchNext_keepsRun hwatch)
  · refine .inl ⟨⟨(hsame (by simp)).trans hc.call, hothers⟩, ?_⟩
    subst hsup'
    exact modifyProc_keeps sup p (fun _ => rfl) fun _ => rfl
  · refine .inl ⟨⟨(hsame (by simp)).trans hc.call, hothers⟩, ?_⟩
    subst hsup'
    unfold pumpOutput
    split <;> exact keeps_of_eq rfl rfl rfl id id

end Step

/-! ## How far the call has come -/

section Run

variable (sup : Supervisor) (th : Nat) (payload : List String) (encryptionKey : Option String)

/-- The call spawned the process `p`, from its payload and its key. -/
def SpawnedBy (p : Nat) : Prop :=
  ∃ pr port, sup.procs[p]? = some pr ∧ pr.startedBy = th ∧
    pr.args = NativeArgs.build payload ("127.0.0.1:" ++ toString (port : Nat))
      (encryptionKey.map fun _ => sup.keyPath)

/-- `process` is the one that the call spawned. -/
def HoldsOwn : Prop :=
  ∃ p, sup.process = some p ∧ sup.SpawnedBy th payload encryptionKey p

/-- What the call has achieved when it is at a statement. -/
def Achieved : StartPc → Prop
  | .getAndSet => sup.running = false
  | .publishProcess p => sup.SpawnedBy th payload encryptionKey p
  | .startOutput p | .startWatch p =>
    sup.process = some p ∧ sup.SpawnedBy th payload encryptionKey p
  | .failing .setError _ => True
  | .failing _ _ => sup.error ≠ none
  | .returned => sup.error ≠ none ∨ sup.HoldsOwn th payload encryptionKey
  | .ignored => False
  | _ => True

/-- The call has returned and left an error, and no other `start` is going on. -/
structure FailedRun : Prop where
  call : sup.threads[th]? = some (.start { payload, encryptionKey, pc := .returned })
  others : ∀ {i : Nat} {c : StartCall}, sup.threads[i]? = some (.start c) → i ≠ th →
    (Thread.start c).isReturned
  error : sup.error ≠ none

/-- The run of the call: on its own, or failed.  `returned` says that somebody has seen the
    call return, and `seen` that they have also seen no error since. -/
def Run (returned seen : Bool) : Prop :=
  (∃ pc, OnlyCall sup th payload encryptionKey pc ∧
    Achieved sup th payload encryptionKey pc ∧ (returned ∨ seen → pc = .returned) ∧
    (seen → sup.HoldsOwn th payload encryptionKey)) ∨
  (FailedRun sup th payload encryptionKey ∧ seen = false)

end Run

section Run

variable {sup sup' : Supervisor} {a : Action} {o : List Obs} {th : Nat}
  {payload : List String} {encryptionKey : Option String} {returned seen : Bool}

/-- A run that is kept keeps its process. -/
theorem Keeps.spawnedBy (hk : Keeps sup sup') {p : Nat}
    (h : sup.SpawnedBy th payload encryptionKey p) :
    sup'.SpawnedBy th payload encryptionKey p := by
  obtain ⟨pr, port, hpr, hby, hargs⟩ := h
  obtain ⟨pr', hpr', hby', hargs'⟩ := hk.procs hpr
  refine ⟨pr', port, hpr', hby'.trans hby, ?_⟩
  rw [hargs', hargs, hk.keyPath]

/-- A run that is kept keeps its process in `process`. -/
theorem Keeps.holdsOwn (hk : Keeps sup sup') (h : sup.HoldsOwn th payload encryptionKey) :
    sup'.HoldsOwn th payload encryptionKey := by
  obtain ⟨p, hp, hown⟩ := h
  exact ⟨p, hk.process.trans hp, hk.spawnedBy hown⟩

/-- A run that is kept keeps what its call has achieved. -/
theorem Keeps.achieved (hk : Keeps sup sup') {pc : StartPc}
    (h : Achieved sup th payload encryptionKey pc) :
    Achieved sup' th payload encryptionKey pc := by
  cases pc with
  | getAndSet => exact hk.running h
  | publishProcess p => exact hk.spawnedBy h
  | startOutput p => exact ⟨hk.process.trans h.1, hk.spawnedBy h.2⟩
  | startWatch p => exact ⟨hk.process.trans h.1, hk.spawnedBy h.2⟩
  | failing f message => cases f <;> first | exact trivial | exact hk.error h
  | returned => exact h.imp hk.error hk.holdsOwn
  | ignored => exact h
  | _ => exact trivial

/-- The process that a call has just spawned. -/
theorem spawnedBy_newProc (c : StartCall) (t : Thread) :
    ((sup.setThread th t).perform (.spawn (sup.newProc th c))).SpawnedBy th c.payload
      c.encryptionKey sup.procs.length := by
  refine ⟨sup.newProc th c, sup.socksPort, ?_, rfl, rfl⟩
  simp [perform, setThread]

/-- A statement of the call, one after another. -/
theorem startNext_achieved {pc pc' : StartPc} {env : Env} {eff : Effect} (t : Thread)
    (h : sup.startNext th { payload, encryptionKey, pc } env = some (pc', eff))
    (hi : Achieved sup th payload encryptionKey pc) :
    Achieved ((sup.setThread th t).perform eff) th payload encryptionKey pc' := by
  cases pc with
  | getAndSet =>
    -- nobody has set `running`, so the call is not ignored
    have hrunning : sup.running = false := hi
    simp only [startNext, hrunning] at h
    cases h
    exact trivial
  -- the process that was spawned goes into the field
  | publishProcess p =>
    cases h
    obtain ⟨pr, port, hpr, hby, hargs⟩ := hi
    exact ⟨rfl, pr, port, hpr, hby, hargs⟩
  | startOutput p =>
    cases h
    have hk : Keeps sup ((sup.setThread th t).perform (.startOutput p)) :=
      setThread_perform_keeps sup th t rfl
    exact ⟨hk.process.trans hi.1, hk.spawnedBy hi.2⟩
  | startWatch p =>
    cases h
    have hk : Keeps sup ((sup.setThread th t).perform (.startWatch p)) :=
      setThread_perform_keeps sup th t rfl
    exact .inr ⟨p, hk.process.trans hi.1, hk.spawnedBy hi.2⟩
  -- a failed spawn is in `fail` now, and a process is known by its arguments
  | spawn =>
    simp only [startNext, orFail] at h
    split at h <;> cases h
    · exact trivial
    · exact spawnedBy_newProc { payload, encryptionKey, pc := .spawn } t
  | failing f message =>
    -- `fail` sets the error first
    cases f with
    | setError =>
      cases h
      exact Option.some_ne_none message
    | testShutting =>
      cases hshut : sup.shuttingDown <;> simp only [startNext, failNext, hshut] at h <;> cases h
      · exact hi
      · exact .inl hi
    | post =>
      cases h
      exact .inl hi
    -- before the spawn there is nothing to keep
    | _ =>
      cases h
      exact hi
  | returned => contradiction
  | ignored => contradiction
  | _ =>
    simp only [startNext, orFail] at h
    repeat' split at h
    all_goals cases h
    all_goals exact trivial

/-- A failed run stays failed until the next `start`: watch threads and `stop` do not clear the
    error. -/
theorem FailedRun.step (hf : FailedRun sup th payload encryptionKey)
    (hstart : ∀ payload key, a ≠ .callStart payload key)
    (h : sup.step a = some (sup', o)) : FailedRun sup' th payload encryptionKey := by
  -- no `start` makes a step
  have hno : ∀ {i env} {c : StartCall} {t' eff}, sup.threads[i]? = some (.start c) →
      sup.threadNext i env (.start c) = some (t', eff) → False := by
    intro i env c t' eff hi hnext
    have hnot := threadNext_not_returned hnext
    by_cases hne : i = th
    · subst hne
      obtain rfl := Thread.start.inj (Option.some.inj (hi.symm.trans hf.call))
      contradiction
    · exact Bool.noConfusion (hnot.symm.trans (hf.others hi hne))
  refine ⟨?_, ?_, ?_⟩
  · obtain ⟨t', ht', ⟨rfl, -⟩ | ⟨env, eff, rfl, hnext⟩⟩ := step_thread_of h hf.call
    · exact ht'
    · exact (hno hf.call hnext).elim
  · intro i c hi hne
    -- the other calls of `start` have returned, and none is made
    obtain ⟨hold, -⟩ | ⟨env, t₀, eff, rfl, hi₀, hnext⟩ | ⟨-, hnew⟩ := step_thread h hi
    · exact hf.others hold hne
    · obtain ⟨c₀, pc, rfl, -, -⟩ | ⟨_, _, -, heq, -⟩ | ⟨_, _, -, heq, -⟩ := threadNext_cases hnext
      · exact (hno hi₀ hnext).elim
      · contradiction
      · contradiction
    · cases hnew
      exact (hstart _ _ rfl).elim
  · obtain ⟨payload, key, rfl, -, -⟩ | ⟨rfl, rfl, -⟩ |
        ⟨id, env, t, t₁, eff, rfl, ht, hnext, rfl, -⟩ | ⟨p, code, rfl, rfl, -⟩ |
        ⟨p, line, rfl, rfl, -⟩ := step_cases h
    · exact (hstart payload key rfl).elim
    · exact hf.error
    · obtain ⟨c, pc, rfl, -, -⟩ | ⟨pc, pc', rfl, -, hstop⟩ | ⟨w, pc, rfl, -, hwatch⟩ :=
        threadNext_cases hnext
      · exact (hno ht hnext).elim
      · -- neither a `stop` nor a watch thread clears the error
        rw [stopNext_keeps_error hstop]
        exact hf.error
      · exact (perform_keeps (sup.setThread id t₁) (watchNext_keepsRun hwatch)).error hf.error
    · exact hf.error
    · unfold pumpOutput
      split <;> exact hf.error

/-- A run goes on, whatever else the supervisor does, as long as it is not called. -/
theorem Run.step (hr : Run sup th payload encryptionKey returned seen)
    (hstart : ∀ payload key, a ≠ .callStart payload key) (hstop : a ≠ .callStop)
    (h : sup.step a = some (sup', o)) : Run sup' th payload encryptionKey returned seen := by
  obtain ⟨pc, hcall, hachieved, hreturned, hseen⟩ | ⟨hfailed, hseen⟩ := hr
  · left
    obtain ⟨hcall', hk⟩ | ⟨env, pc', eff, hnext, rfl, hcall'⟩ := hcall.step hstart hstop h
    · exact ⟨pc, hcall', hk.achieved hachieved, hreturned, fun hs => hk.holdsOwn (hseen hs)⟩
    · -- a call that has returned makes no step
      have hnot : ¬ (returned ∨ seen) := by
        intro hret
        rw [hreturned hret] at hnext
        contradiction
      exact ⟨pc', hcall', startNext_achieved _ hnext hachieved, fun hret => (hnot hret).elim,
        fun hs => (hnot (.inr hs)).elim⟩
  · exact .inr ⟨hfailed.step hstart h, hseen⟩

/-- A `start` call on a supervisor that is not running and where no call is going on. -/
theorem run_launch_start (hrunning : sup.running = false)
    (hfree : ∀ t ∈ sup.threads, t.isCall → t.isReturned) :
    Run (sup.launch (.start { payload, encryptionKey })) sup.threads.length payload
      encryptionKey false false := by
  refine .inl ⟨.getAndSet, ⟨?_, ?_⟩, hrunning, by simp, by simp⟩
  · simp [launch]
  · intro i t ht hcall hne
    obtain hold | ⟨hlen, -⟩ := List.getElem?_concat_eq_some.mp ht
    · exact hfree t (List.mem_of_getElem? hold) hcall
    · exact (hne hlen).elim

/-- A run that has returned with an error has failed. -/
theorem Run.failed (hr : Run sup th payload encryptionKey returned seen)
    (hreturned : (sup.threads[th]?).any Thread.isReturned) (herror : sup.error ≠ none) :
    FailedRun sup th payload encryptionKey := by
  obtain ⟨pc, hcall, hachieved, -, -⟩ | ⟨hfailed, -⟩ := hr
  · refine ⟨?_, fun hi hne => hcall.others hi rfl hne, herror⟩
    -- a call that was not ignored has returned from its run
    rw [hcall.call, Option.any_some] at hreturned
    cases pc with
    | returned => exact hcall.call
    | ignored => exact hachieved.elim
    | _ => contradiction
  · exact hfailed

/-- A `stop` call makes no difference to a run that has failed. -/
theorem FailedRun.launch_stop (hf : FailedRun sup th payload encryptionKey) (pc : StopPc) :
    FailedRun (sup.launch (.stop pc)) th payload encryptionKey where
  call := List.getElem?_append_of_eq_some hf.call
  others hi hne := by
    obtain hold | ⟨-, heq⟩ := List.getElem?_concat_eq_some.mp hi
    · exact hf.others hold hne
    · contradiction
  error := hf.error

/-- The call is seen to return. -/
theorem Run.returns (hr : Run sup th payload encryptionKey returned seen)
    (hreturned : (sup.threads[th]?).any Thread.isReturned) :
    Run sup th payload encryptionKey true seen := by
  obtain ⟨pc, hcall, hachieved, -, hseen⟩ | hfailed := hr
  · refine .inl ⟨pc, hcall, hachieved, fun _ => ?_, hseen⟩
    rw [hcall.call, Option.any_some] at hreturned
    cases pc with
    | returned => rfl
    | ignored => exact hachieved.elim
    | _ => contradiction
  · exact .inr hfailed

/-- No error is seen after the call has returned: it holds its own process. -/
theorem Run.see (hr : Run sup th payload encryptionKey true seen) (herror : sup.error = none) :
    Run sup th payload encryptionKey true true := by
  obtain ⟨pc, hcall, hachieved, hreturned, -⟩ | ⟨hfailed, -⟩ := hr
  · obtain rfl := hreturned (.inl rfl)
    refine .inl ⟨_, hcall, hachieved, fun _ => rfl, fun _ => ?_⟩
    exact hachieved.resolve_left fun hne => hne herror
  · exact (hfailed.error herror).elim

/-- What was seen may be forgotten. -/
theorem Run.weaken {returned' seen' : Bool} (hr : Run sup th payload encryptionKey returned seen)
    (hret : returned' → returned) (hsee : seen' → seen) :
    Run sup th payload encryptionKey returned' seen' := by
  obtain ⟨pc, hcall, hachieved, hreturned, hseen⟩ | ⟨hfailed, hseen⟩ := hr
  · exact .inl ⟨pc, hcall, hachieved, fun h => hreturned (h.imp hret hsee),
      fun h => hseen (hsee h)⟩
  · refine .inr ⟨hfailed, Bool.eq_false_iff.mpr fun h => ?_⟩
    exact Bool.noConfusion ((hsee h).symm.trans hseen)

/-- A run in which no error was seen since the call returned holds its own process. -/
theorem Run.holdsOwn (hr : Run sup th payload encryptionKey returned true) :
    sup.HoldsOwn th payload encryptionKey := by
  obtain ⟨_, _, _, _, hseen⟩ | ⟨-, hseen⟩ := hr
  · exact hseen rfl
  · contradiction

/-- The call of a run. -/
theorem Run.call (hr : Run sup th payload encryptionKey returned seen) :
    ∃ pc, sup.threads[th]? = some (.start { payload, encryptionKey, pc }) := by
  obtain ⟨pc, hcall, -⟩ | ⟨hfailed, -⟩ := hr
  · exact ⟨pc, hcall.call⟩
  · exact ⟨_, hfailed.call⟩

end Run

end Supervisor

end OpenFlux

import OpenFlux.ForStd.List
import OpenFlux.Model.VpnService

/-!
# What a step of the service can do

Where the threads of the service are, and what a step does to them:

- `step_cases`: a step is a new call, or a step of a thread
- `threadNext_mayDo`: where a thread has to be for an effect
- `threadNext_stop`: a `stopEverything` goes on in the same way in its own thread and inside
  a start that has failed
- `after_threads`: a thread found after a step
-/

namespace OpenFlux

namespace VpnService

/-! ## Where a thread is -/

/-- The statements of `stopEverything` in their order. -/
def StopPc.position : StopPc → Nat
  | killHelpers => 0
  | readRelay => 1
  | closeRelay _ => 2
  | clearRelay => 3
  | stopSupervisor => 4
  | readIface => 5
  | closeIface _ => 6
  | clearIface => 7
  | clearRunning => 8
  | stopSelf => 9
  | returned => 10

/-- A `stopEverything` that has begun and is not over. -/
def StopPc.isBusy (pc : StopPc) : Bool := 1 ≤ pc.position && pc.position ≤ 9

namespace Thread

/-- The `stopEverything` that the thread is in, its own or that of a failed start. -/
def stopPc? : Thread → Option StopPc
  | stop pc => some pc
  | start (.stopping pc) => some pc
  | _ => none

/-- The start holds the lock of the service. -/
def holdsLock : Thread → Bool
  | start .acquire | start .returned => false
  | start _ => true
  | _ => false

/-- Inside `tun2socks.start`, or about to set the flag. -/
def isLaunched : Thread → Bool
  | start .prepareSock | start .openRelay | start (.assignRelay _) | start .allocPort
  | start .writeConf | start .startPdnsd | start .startTun2Socks | start (.sendFd _)
  | start (.retryDelay _) | start .setRunning => true
  | _ => false

/-- The start has read the descriptor of the interface. -/
def hasFd : Thread → Bool
  | start .readIntent => true
  | t => t.isLaunched

/-- The start has opened a relay and not yet stored it. -/
def isAssigning : Thread → Bool
  | start (.assignRelay _) => true
  | _ => false

/-- The command has found no interface. -/
def isConfiguring : Thread → Bool
  | command .testIface | command .establish => true
  | _ => false

/-- The `vpn.stop` of the thread has closed the interface and not yet cleared the flag. -/
def isClosing (t : Thread) : Bool :=
  t.stopPc? = some .clearIface || t.stopPc? = some .clearRunning

/-- A start. -/
def isStart : Thread → Bool
  | start _ => true
  | _ => false

/-- A `stopEverything` of its own. -/
def isStop : Thread → Bool
  | stop _ => true
  | _ => false

/-- The thread is over. -/
def isReturned : Thread → Bool
  | start pc => pc = .returned
  | stop pc => pc = .returned
  | command pc => pc = .returned

end Thread

/-- The descriptor is read under the lock. -/
theorem Thread.holdsLock_of_hasFd {t : Thread} (h : t.hasFd) : t.holdsLock := by
  cases t with
  | start pc => cases pc <;> first | rfl | cases h
  | stop _ | command _ => cases h

/-- The descriptor is read before `tun2socks.start` is called. -/
theorem Thread.hasFd_of_isLaunched {t : Thread} (h : t.isLaunched) : t.hasFd := by
  cases t with
  | start pc => cases pc <;> first | rfl | cases h
  | stop _ | command _ => cases h

/-- The two ways to be in a `stopEverything`. -/
theorem Thread.of_stopPc? {t : Thread} {pc : StopPc} (h : t.stopPc? = some pc) :
    t = .stop pc ∨ t = .start (.stopping pc) := by
  cases t with
  | stop pc' => exact .inl (congrArg Thread.stop (Option.some.inj h))
  | command _ => cases h
  | start pc' =>
    cases pc' with
    | stopping pc'' =>
      exact .inr (congrArg (fun pc => Thread.start (.stopping pc)) (Option.some.inj h))
    | _ => cases h

/-- The two statements between interface and flag. -/
theorem Thread.isClosing_iff {t : Thread} :
    t.isClosing ↔ ∃ pc, t.stopPc? = some pc ∧ (pc = .clearIface ∨ pc = .clearRunning) := by
  simp only [isClosing, Bool.or_eq_true, decide_eq_true_eq]
  constructor
  · rintro (hpc | hpc)
    · exact ⟨_, hpc, .inl rfl⟩
    · exact ⟨_, hpc, .inr rfl⟩
  · rintro ⟨pc, hpc, rfl | rfl⟩
    · exact .inl hpc
    · exact .inr hpc

/-- Between the first statement and the end. -/
theorem isBusy_of_position {pc : StopPc} (hlo : 1 ≤ pc.position) (hhi : pc.position ≤ 9) :
    pc.isBusy := by
  simp only [StopPc.isBusy, Bool.and_eq_true, decide_eq_true_eq]
  exact ⟨hlo, hhi⟩

/-! ## Inversion -/

/-- A step is a call that starts a thread, or a step of a thread. -/
theorem step_cases {svc svc' : VpnService} {a : Action} {o : List Obs}
    (h : svc.step a = some (svc', o)) :
    (∃ t, svc' = svc.launch t ∧ o = [] ∧
      (t = .start .acquire ∨ t = .stop .killHelpers ∨
        t = .command .setIntent ∧ ∀ u ∈ svc.threads, u.isActiveCommand = false)) ∨
    (∃ id env t t' eff, a = .thread id env ∧ svc.threads[id]? = some t ∧
      svc.threadNext env t = some (t', eff) ∧
      svc' = (svc.setThread id t').perform id eff ∧ o = record id eff) := by
  cases a with
  | callStartTun2Socks =>
    obtain ⟨rfl, rfl⟩ := Prod.mk.inj (Option.some.inj h)
    exact .inl ⟨_, rfl, rfl, .inl rfl⟩
  | callStopEverything =>
    obtain ⟨rfl, rfl⟩ := Prod.mk.inj (Option.some.inj h)
    exact .inl ⟨_, rfl, rfl, .inr (.inl rfl)⟩
  | onStartCommand =>
    simp only [step] at h
    -- a command is not called while another one is going on
    split at h
    · cases h
    · rename_i hnone
      obtain ⟨rfl, rfl⟩ := Prod.mk.inj (Option.some.inj h)
      exact .inl ⟨_, rfl, rfl, .inr (.inr ⟨rfl, by simpa using hnone⟩)⟩
  | thread id env =>
    simp only [step] at h
    split at h
    · cases h
    · rename_i t ht
      obtain ⟨⟨t', eff⟩, hnext, heq⟩ := Option.map_eq_some_iff.mp h
      obtain ⟨rfl, rfl⟩ := Prod.mk.inj heq
      exact .inr ⟨id, env, t, t', eff, rfl, ht, hnext, rfl, rfl⟩

/-- Where a thread has to be for an effect, and what it has found. -/
def MayDo (svc : VpnService) (t : Thread) : Effect → Prop
  | .skip => t.isAssigning = false ∧ t.isClosing = false
  | .acquire => t = .start .acquire ∧ svc.lock = none
  | .release => t = .start .release
  | .launch => t = .start .readIntent
  | .openRelay => t = .start .openRelay
  | .setRelay (some r) => t = .start (.assignRelay r)
  | .setRelay none => t.stopPc? = some .clearRelay
  | .closeRelay r => t.stopPc? = some (.closeRelay r)
  | .setIntent => t = .command .setIntent
  | .establish _ => t = .command .establish
  | .closeIface i => t.stopPc? = some (.closeIface i)
  | .clearIface => t.stopPc? = some .clearIface
  | .setRunning true => t = .start .setRunning
  | .setRunning false => t.stopPc? = some .clearRunning
  | .stopSelf => t.stopPc? = some .stopSelf

/-- `stopEverything` has only the effects it may have. -/
theorem stopNext_mayDo {svc : VpnService} {t : Thread} {pc pc' : StopPc} {eff : Effect}
    (hpc : t.stopPc? = some pc) (h : svc.stopNext pc = some (pc', eff)) :
    svc.MayDo t eff := by
  have hassign : t.isAssigning = false := by
    obtain rfl | rfl := Thread.of_stopPc? hpc <;> rfl
  cases pc <;> cases h <;> first | exact hpc | simp [MayDo, Thread.isClosing, hpc, hassign]

/-- A thread in a `stopEverything` goes on in it, or is done with it. -/
theorem threadNext_stop {svc : VpnService} {env : Env} {t t' : Thread} {pc : StopPc}
    {eff : Effect} (hpc : t.stopPc? = some pc) (h : svc.threadNext env t = some (t', eff)) :
    (∃ pc', svc.stopNext pc = some (pc', eff) ∧ t'.stopPc? = some pc' ∧
      t'.holdsLock = t.holdsLock ∧ t'.isStop = t.isStop) ∨
    t = .start (.stopping .returned) ∧ t' = .start .release ∧ eff = .skip := by
  obtain rfl | rfl := Thread.of_stopPc? hpc
  · obtain ⟨⟨pc', eff'⟩, hnext, heq⟩ := Option.map_eq_some_iff.mp h
    obtain ⟨rfl, rfl⟩ := Prod.mk.inj heq
    exact .inl ⟨pc', hnext, rfl, rfl, rfl⟩
  · obtain ⟨⟨pc', eff'⟩, hnext, heq⟩ := Option.map_eq_some_iff.mp h
    obtain ⟨rfl, rfl⟩ := Prod.mk.inj heq
    simp only [startNext] at hnext
    split at hnext
    · rename_i pc'' eff'' hstop
      obtain ⟨rfl, rfl⟩ := Prod.mk.inj (Option.some.inj hnext)
      exact .inl ⟨pc'', hstop, rfl, rfl, rfl⟩
    · rename_i hstop
      obtain ⟨rfl, rfl⟩ := Prod.mk.inj (Option.some.inj hnext)
      -- `stopEverything` has returned into the failed start
      cases pc <;> cases hstop
      exact .inr ⟨rfl, rfl, rfl⟩

/-- A failed start enters its `stopEverything` at the beginning. -/
theorem threadNext_enters {svc : VpnService} {env : Env} {t t' : Thread} {pc : StopPc}
    {eff : Effect} (h : svc.threadNext env t = some (t', eff)) (hnone : t.stopPc? = none)
    (hpc : t'.stopPc? = some pc) : pc = .killHelpers := by
  cases t with
  | stop _ => cases hnone
  | command _ =>
    obtain ⟨⟨pc', eff'⟩, -, heq⟩ := Option.map_eq_some_iff.mp h
    obtain ⟨rfl, -⟩ := Prod.mk.inj heq
    cases hpc
  | start pc' =>
    obtain ⟨⟨pc'', eff'⟩, hnext, heq⟩ := Option.map_eq_some_iff.mp h
    -- `orThrow` goes to the end of the block, and a failed start to `stopEverything`
    obtain ⟨rfl, -⟩ := Prod.mk.inj heq
    cases pc' <;> first | cases hnone; done | simp only [startNext, orThrow] at hnext
    all_goals repeat' split at hnext
    all_goals cases hnext
    all_goals first
      | exact (Option.some.inj hpc).symm
      | cases hpc

/-- Every thread has its reason for what it does. -/
theorem threadNext_mayDo {svc : VpnService} {env : Env} {t t' : Thread} {eff : Effect}
    (h : svc.threadNext env t = some (t', eff)) : svc.MayDo t eff := by
  cases hpc : t.stopPc? with
  | some pc =>
    obtain ⟨pc', hnext, -⟩ | ⟨rfl, -, rfl⟩ := threadNext_stop hpc h
    · exact stopNext_mayDo hpc hnext
    · exact ⟨rfl, rfl⟩
  | none =>
    cases t with
    | stop pc => cases hpc
    | command pc =>
      obtain ⟨⟨pc', eff'⟩, hnext, heq⟩ := Option.map_eq_some_iff.mp h
      obtain ⟨-, rfl⟩ := Prod.mk.inj heq
      cases pc <;> cases hnext <;> try exact ⟨rfl, rfl⟩
      · rfl
      · -- `establish` may throw
        show svc.MayDo _ (if env.threw then _ else _)
        split
        · exact ⟨rfl, rfl⟩
        · rfl
    | start pc =>
      obtain ⟨⟨pc', eff'⟩, hnext, heq⟩ := Option.map_eq_some_iff.mp h
      obtain ⟨-, rfl⟩ := Prod.mk.inj heq
      -- every place of a start that is in no `stopEverything`
      cases pc <;> first | cases hpc; done | simp only [startNext, orThrow] at hnext
      all_goals repeat' split at hnext
      all_goals cases hnext
      all_goals first
        | exact ⟨rfl, rfl⟩
        | exact ⟨rfl, ‹_›⟩
        | rfl

/-- A thread between interface and flag does nothing else. -/
theorem MayDo.not_closing {svc : VpnService} {t : Thread} {eff : Effect} (h : svc.MayDo t eff)
    (hiface : eff ≠ .clearIface) (hflag : eff ≠ .setRunning false) : t.isClosing = false := by
  -- every other effect has its own place, which is not between the two
  cases eff with
  | skip => exact h.2
  | acquire =>
    obtain ⟨rfl, -⟩ := h
    rfl
  | release | launch | openRelay | setIntent | establish _ =>
    obtain rfl := h
    rfl
  | setRelay o =>
    cases o with
    | none => simp [Thread.isClosing, show t.stopPc? = some .clearRelay from h]
    | some r =>
      obtain rfl := h
      rfl
  | closeRelay r => simp [Thread.isClosing, show t.stopPc? = some (.closeRelay r) from h]
  | closeIface i => simp [Thread.isClosing, show t.stopPc? = some (.closeIface i) from h]
  | clearIface => exact (hiface rfl).elim
  | setRunning b =>
    cases b with
    | true =>
      obtain rfl := h
      rfl
    | false => exact (hflag rfl).elim
  | stopSelf => simp [Thread.isClosing, show t.stopPc? = some .stopSelf from h]

/-- A thread that has a relay to store does nothing else. -/
theorem MayDo.not_assigning {svc : VpnService} {t : Thread} {eff : Effect}
    (h : svc.MayDo t eff) (hrelay : ∀ r, eff ≠ .setRelay (some r)) : t.isAssigning = false := by
  -- a `stopEverything` has no relay to store
  have hstop {pc : StopPc} (hpc : t.stopPc? = some pc) : t.isAssigning = false := by
    obtain rfl | rfl := Thread.of_stopPc? hpc <;> rfl
  cases eff with
  | skip => exact h.1
  | acquire =>
    obtain ⟨rfl, -⟩ := h
    rfl
  | release | launch | openRelay | setIntent | establish _ =>
    obtain rfl := h
    rfl
  | setRelay o =>
    cases o with
    | none => exact hstop h
    | some r => exact (hrelay r rfl).elim
  | closeRelay _ | closeIface _ | clearIface | stopSelf => exact hstop h
  | setRunning b =>
    cases b with
    | true =>
      obtain rfl := h
      rfl
    | false => exact hstop h

/-! ## Threads after a step -/

/-- No effect adds or removes a thread. -/
theorem perform_threads (svc : VpnService) (id : Nat) (eff : Effect) :
    (svc.perform id eff).threads = svc.threads := by
  cases eff with
  | establish fd => cases fd <;> rfl
  | _ => rfl

section After

variable {svc : VpnService} {id : Nat} {env : Env} {t t' : Thread} {eff : Effect}

/-- A thread found after the step of `id`. -/
theorem after_threads (ht : svc.threads[id]? = some t) {k : Nat} {u : Thread} :
    ((svc.setThread id t').perform id eff).threads[k]? = some u ↔
      k = id ∧ u = t' ∨ k ≠ id ∧ svc.threads[k]? = some u := by
  rw [perform_threads]
  exact List.getElem?_set_eq_some (List.getElem?_eq_some_iff.mp ht).1

/-- A command that is active was active before. -/
theorem threadNext_isActiveCommand (h : svc.threadNext env t = some (t', eff))
    (hact : t'.isActiveCommand) : t.isActiveCommand := by
  cases t with
  | start _ | stop _ =>
    obtain ⟨⟨pc', eff'⟩, -, heq⟩ := Option.map_eq_some_iff.mp h
    obtain ⟨rfl, -⟩ := Prod.mk.inj heq
    cases hact
  | command pc =>
    cases pc with
    | returned => cases h
    | _ => rfl

/-- A thread inside `tun2socks.start` was inside before, or has just called it. -/
theorem threadNext_isLaunched (h : svc.threadNext env t = some (t', eff))
    (hin : t'.isLaunched) : t.isLaunched ∨ eff = .launch := by
  cases t with
  | command _ | stop _ =>
    obtain ⟨⟨pc', eff'⟩, -, heq⟩ := Option.map_eq_some_iff.mp h
    obtain ⟨rfl, -⟩ := Prod.mk.inj heq
    cases hin
  | start pc =>
    obtain ⟨⟨pc', eff'⟩, hnext, heq⟩ := Option.map_eq_some_iff.mp h
    obtain ⟨rfl, rfl⟩ := Prod.mk.inj heq
    -- the places that are left are before `tun2socks.start` or behind it
    cases pc <;> try exact .inl rfl
    all_goals simp only [startNext] at hnext
    all_goals repeat' split at hnext
    all_goals cases hnext
    all_goals first | exact .inr rfl | cases hin

/-- A thread of which something holds that does not hold of the stepping one is still
    there after the step. -/
theorem keep_after (p : Thread → Bool) (ht : svc.threads[id]? = some t) (hnot : p t = false)
    {k : Nat} {u : Thread} (hk : svc.threads[k]? = some u) (hu : p u) :
    ((svc.setThread id t').perform id eff).threads[k]? = some u := by
  refine (after_threads ht).mpr (.inr ⟨?_, hk⟩)
  rintro rfl
  obtain rfl := Option.some.inj (ht.symm.trans hk)
  rw [hnot] at hu
  cases hu

end After

end VpnService

end OpenFlux

import OpenFlux.Spec.VpnServiceStep

/-!
# Does the service run what it claims to run?

`isVpnRunning` is set at the end of `startTun2Socks`, seconds after it has looked at the
interface, and `stopEverything` may come at any point in between: then the interface is
gone when the flag is set, or a relay is opened behind the back of the `stop` that should
have closed it.  A second `startTun2Socks` without a stop in between overwrites the field
that holds the first relay.

`startsAlone` excludes both: `stopEverything` and `startTun2Socks` do not overlap, as if
`stopEverything` took the lock too, and a relay is opened only where the field is free.

`vpn.stop` itself closes the interface two statements before it clears the flag, so for the
time of these two (`isClosing`) every ordinary stop breaks the first half of the property.
`stopsIdle` excludes that a `vpn.stop` closes an interface while the flag is set.

## Key results

- `running_is_truthful`: under both conditions the flag implies an open interface in every
  state; under the first alone nothing runs and no relay is open after a `stopEverything`
- `running_not_truthful`: a `stopEverything` that falls between the hand-over of the
  descriptor and the flag
-/

namespace OpenFlux

namespace VpnService

/-! ## The property -/

/-- The interface is open. -/
def isOpen (svc : VpnService) : Bool :=
  svc.iface.any fun i => (svc.ifaces[i]?).any (·.isOpen)

/-- Some `vpn.stop` is between the interface and the flag. -/
def isClosing (svc : VpnService) : Bool := svc.threads.any (·.isClosing)

/-- Whether the latest `stopEverything` is more recent than the latest start. -/
def downAfter (down : Bool) (x : Obs) : Bool :=
  match x.2 with
  | .stopSelf => true
  | .launch => false
  | _ => down

/-- A `stopEverything` is over and no `startTun2Socks` has passed its checks since. -/
def isDown (tr : List Obs) : Bool := tr.foldl downAfter false

/-- Once every `startTun2Socks` has returned, nothing runs after a `stopEverything`. -/
def StopsTruly (svc : VpnService) (tr : List Obs) : Prop :=
  (∀ t ∈ svc.threads, t.isStart → t.isReturned) → isDown tr →
    svc.isRunning = false ∧ true ∉ svc.relays

/-- The service claims to run only with an open interface, and not after it was stopped. -/
structure Truthful (svc : VpnService) (tr : List Obs) : Prop where
  running : svc.isRunning → svc.isOpen
  down : StopsTruly svc tr

/-! ## The condition on steps -/

/-- `stopEverything` and `startTun2Socks` do not overlap, and a start that opens a relay
    finds no other one in the field. -/
def startsAlone (svc : VpnService) : Action → Bool
  | .thread id _ =>
    match svc.threads[id]? with
    | some (.stop _) => svc.lock = none
    | some (.start .acquire) => svc.threads.all fun t => match t with
      | .stop pc => !pc.isBusy
      | _ => true
    | some (.start .openRelay) => svc.dnsRelay = none
    | _ => true
  | _ => true

/-- A `vpn.stop` that closes an interface finds the flag cleared. -/
def stopsIdle (svc : VpnService) : Action → Bool
  | .thread id _ =>
    match svc.threads[id]? with
    | some (.stop (.closeIface _)) | some (.start (.stopping (.closeIface _))) => !svc.isRunning
    | _ => true
  | _ => true

/-! ## The invariant -/

/-- What holds of the thread `k`. -/
structure Local (svc : VpnService) (k : Nat) (t : Thread) : Prop where
  lock : t.holdsLock → svc.lock = some k
  alone : ∀ {pc}, t.isStop → t.stopPc? = some pc → pc.isBusy → svc.lock = none
  fd : t.hasFd → svc.isOpen
  configuring : t.isConfiguring → svc.iface = none
  assigning : t.isAssigning → svc.dnsRelay = none
  closing : ∀ {r}, t.stopPc? = some (.closeRelay r) →
    svc.dnsRelay = some r ∨ svc.dnsRelay = none
  closed : ∀ {pc}, t.stopPc? = some pc → 3 ≤ pc.position → pc.position ≤ 9 →
    ∀ r, svc.dnsRelay = some r → svc.relays[r]? ≠ some true
  stopped : t.stopPc? = some .stopSelf → svc.isRunning = false

/-- The invariant of a service whose starts and stops do not overlap. -/
structure Exclusive (svc : VpnService) (down : Bool) : Prop where
  threads : ∀ {k : Nat} {t : Thread}, svc.threads[k]? = some t → Local svc k t
  command : ∀ {i k : Nat} {t u : Thread}, svc.threads[i]? = some t → t.isActiveCommand →
    svc.threads[k]? = some u → u.isActiveCommand → i = k
  running : svc.isRunning → svc.isClosing = false → svc.isOpen
  relays : ∀ {r : Nat}, svc.relays[r]? = some true →
    svc.dnsRelay = some r ∨ ∃ k : Nat, svc.threads[k]? = some (.start (.assignRelay r))
  down : down → svc.isRunning = false ∧ true ∉ svc.relays ∧
    ∀ t ∈ svc.threads, t.isLaunched = false

/-- A service that was just created. -/
theorem exclusive_init : Exclusive {} false where
  threads := by simp
  command := by simp
  running := by simp
  relays := by simp
  down := by simp

/-- Only one thread holds the lock. -/
theorem Exclusive.holder_unique {svc : VpnService} {down : Bool} (hi : Exclusive svc down)
    {i k : Nat} {t u : Thread} (ht : svc.threads[i]? = some t) (hl : t.holdsLock)
    (hu : svc.threads[k]? = some u) (hl' : u.holdsLock) : i = k := by
  have h := (hi.threads ht).lock hl
  rw [(hi.threads hu).lock hl'] at h
  exact (Option.some.inj h).symm

/-- While a `stopEverything` is going on, no start is behind its look at the interface. -/
theorem Exclusive.not_hasFd {svc : VpnService} {down : Bool} (hi : Exclusive svc down)
    {i k : Nat} {t u : Thread} {pc : StopPc} (ht : svc.threads[i]? = some t)
    (hpc : t.stopPc? = some pc) (hbusy : pc.isBusy) (hu : svc.threads[k]? = some u) :
    u.hasFd = false := by
  by_contra hfd
  have hl := Thread.holdsLock_of_hasFd (by simpa using hfd)
  obtain rfl | rfl := Thread.of_stopPc? hpc
  · have hnone := (hi.threads ht).alone rfl hpc hbusy
    rw [(hi.threads hu).lock hl] at hnone
    cases hnone
  · -- the failed start itself holds the lock
    obtain rfl := hi.holder_unique ht rfl hu hl
    obtain rfl := Option.some.inj (ht.symm.trans hu)
    exact hfd rfl

/-- Where a `stopEverything` has closed the relay of the field, no relay is open. -/
theorem Exclusive.no_relay {svc : VpnService} {down : Bool} (hi : Exclusive svc down)
    {i : Nat} {t : Thread} {pc : StopPc} (ht : svc.threads[i]? = some t)
    (hpc : t.stopPc? = some pc) (hlo : 3 ≤ pc.position) (hhi : pc.position ≤ 9) (r : Nat) :
    svc.relays[r]? ≠ some true := by
  intro hr
  obtain hfield | ⟨k, hk⟩ := hi.relays hr
  · -- the relay in the field was closed
    exact (hi.threads ht).closed hpc hlo hhi r hfield hr
  · -- no start is about to store one
    have hbusy : pc.isBusy := by
      simp only [StopPc.isBusy, Bool.and_eq_true, decide_eq_true_eq]
      omega
    have := hi.not_hasFd ht hpc hbusy hk
    cases this

/-! ## A new call -/

/-- A new call keeps the invariant: it has not begun. -/
theorem Exclusive.launch {svc : VpnService} {down : Bool} (hi : Exclusive svc down)
    {t : Thread} (ht : t = .start .acquire ∨ t = .stop .killHelpers ∨
      t = .command .setIntent ∧ ∀ u ∈ svc.threads, u.isActiveCommand = false) :
    Exclusive (svc.launch t) down where
  threads {k u} hu := by
    obtain hu | ⟨-, rfl⟩ := List.getElem?_concat_eq_some.mp hu
    · exact { hi.threads hu with }
    · -- a call that has not begun has found nothing yet
      obtain rfl | rfl | ⟨rfl, -⟩ := ht <;>
        constructor <;> simp [Thread.holdsLock, Thread.isStop, Thread.hasFd,
          Thread.isLaunched, Thread.isConfiguring, Thread.isAssigning, Thread.stopPc?,
          StopPc.isBusy, StopPc.position]
  command {i k u v} hu hact hv hact' := by
    -- a new command comes only where no other is active
    have hnew {w : Thread} {j : Nat} (hw : svc.threads[j]? = some w)
        (hactw : w.isActiveCommand) (hactt : t.isActiveCommand) : False := by
      obtain rfl | rfl | ⟨rfl, hnone⟩ := ht
      · cases hactt
      · cases hactt
      · rw [hnone w (List.mem_of_getElem? hw)] at hactw
        cases hactw
    obtain hold | ⟨rfl, rfl⟩ := List.getElem?_concat_eq_some.mp hu
    · obtain hold' | ⟨rfl, rfl⟩ := List.getElem?_concat_eq_some.mp hv
      · exact hi.command hold hact hold' hact'
      · exact (hnew hold hact hact').elim
    · obtain hold' | ⟨rfl, -⟩ := List.getElem?_concat_eq_some.mp hv
      · exact (hnew hold' hact' hact).elim
      · rfl
  running hrun hclose := by
    refine hi.running hrun ?_
    rw [isClosing, VpnService.launch, List.any_append, Bool.or_eq_false_iff] at hclose
    exact hclose.1
  relays hr := by
    obtain hfield | ⟨k, hk⟩ := hi.relays hr
    · exact .inl hfield
    · exact .inr ⟨k, List.getElem?_append_of_eq_some hk⟩
  down hdown := by
    obtain ⟨hrun, hrelays, hnone⟩ := hi.down hdown
    refine ⟨hrun, hrelays, ?_⟩
    intro u hu
    obtain hu | hu := List.mem_append.mp hu
    · exact hnone u hu
    · obtain rfl := List.mem_singleton.mp hu
      obtain rfl | rfl | ⟨rfl, -⟩ := ht <;> rfl

/-! ## A step of a thread -/

section Thread

variable {svc : VpnService} {down : Bool} {id : Nat} {env : Env} {t t' : Thread}
  {eff : Effect}

/-- Closing one relay opens no other. -/
theorem getElem?_of_set_false {relays : List Bool} {r r' : Nat}
    (h : (relays.set r' false)[r]? = some true) : relays[r]? = some true := by
  rw [List.getElem?_set] at h
  split at h
  · split at h <;> cases h
  · exact h

/-- Without an interface none is open. -/
theorem isOpen_of_iface_none (h : svc.iface = none) : svc.isOpen = false := by
  simp [isOpen, h]

/-! ### The other threads -/

/-- The lock stays with its holder. -/
theorem Exclusive.other_lock (hi : Exclusive svc down) (ht : svc.threads[id]? = some t)
    (hmay : svc.MayDo t eff) {k : Nat} {u : Thread} (hk : k ≠ id)
    (hu : svc.threads[k]? = some u) (hlock : u.holdsLock) :
    ((svc.setThread id t').perform id eff).lock = some k := by
  have hbefore := (hi.threads hu).lock hlock
  cases eff with
  | acquire => cases hmay.2.symm.trans hbefore
  | release =>
    -- only the holder releases
    obtain rfl := hmay
    exact (hk (hi.holder_unique hu hlock ht rfl)).elim
  | establish fd => cases fd <;> exact hbefore
  | _ => exact hbefore

/-- Nobody takes the lock during a `stopEverything`. -/
theorem Exclusive.other_alone (hi : Exclusive svc down) (ht : svc.threads[id]? = some t)
    (hmay : svc.MayDo t eff) (hok : svc.startsAlone (.thread id env)) {k : Nat} {u : Thread}
    {pc : StopPc} (hu : svc.threads[k]? = some u) (hstop : u.isStop)
    (hpc : u.stopPc? = some pc) (hbusy : pc.isBusy) :
    ((svc.setThread id t').perform id eff).lock = none := by
  have hbefore := (hi.threads hu).alone hstop hpc hbusy
  cases eff with
  | acquire =>
    obtain ⟨rfl, -⟩ := hmay
    -- the condition lets a start take the lock only while all stops are idle
    simp only [startsAlone, ht, List.all_eq_true] at hok
    have hidle := hok u (List.mem_of_getElem? hu)
    obtain rfl | rfl := Thread.of_stopPc? hpc
    · simp only [hbusy, Bool.not_true, Bool.false_eq_true] at hidle
    · cases hstop
  | release => rfl
  | establish fd => cases fd <;> exact hbefore
  | _ => exact hbefore

/-- The interface stays open for a start that has looked at it. -/
theorem Exclusive.other_fd (hi : Exclusive svc down) (ht : svc.threads[id]? = some t)
    (hmay : svc.MayDo t eff) {k : Nat} {u : Thread} (hu : svc.threads[k]? = some u)
    (hfd : u.hasFd) : ((svc.setThread id t').perform id eff).isOpen := by
  have hbefore := (hi.threads hu).fd hfd
  cases eff with
  | establish fd =>
    obtain rfl := hmay
    -- an interface is established only where there is none
    rw [isOpen_of_iface_none ((hi.threads ht).configuring rfl)] at hbefore
    cases hbefore
  | closeIface i =>
    rw [hi.not_hasFd ht hmay rfl hu] at hfd
    cases hfd
  | clearIface =>
    rw [hi.not_hasFd ht hmay rfl hu] at hfd
    cases hfd
  | _ => exact hbefore

/-- A command that has found no interface is the only one to make one. -/
theorem Exclusive.other_configuring (hi : Exclusive svc down)
    (ht : svc.threads[id]? = some t) (hmay : svc.MayDo t eff) {k : Nat} {u : Thread}
    (hk : k ≠ id) (hu : svc.threads[k]? = some u) (hconf : u.isConfiguring) :
    ((svc.setThread id t').perform id eff).iface = none := by
  have hbefore := (hi.threads hu).configuring hconf
  cases eff with
  | establish fd =>
    obtain rfl := hmay
    -- commands come one after another
    refine (hk (hi.command hu ?_ ht rfl)).elim
    cases u with
    | command pc => cases pc <;> first | rfl | cases hconf
    | start _ | stop _ => cases hconf
  | clearIface => rfl
  | _ => exact hbefore

/-- The field stays free for a start that has opened a relay. -/
theorem Exclusive.other_assigning (hi : Exclusive svc down) (ht : svc.threads[id]? = some t)
    (hmay : svc.MayDo t eff) {k : Nat} {u : Thread} (hk : k ≠ id)
    (hu : svc.threads[k]? = some u) (hassign : u.isAssigning) :
    ((svc.setThread id t').perform id eff).dnsRelay = none := by
  have hbefore := (hi.threads hu).assigning hassign
  cases eff with
  | setRelay o =>
    cases o with
    | none => rfl
    | some r =>
      obtain rfl := hmay
      -- both would hold the lock
      have hfd : u.hasFd := by
        cases u with
        | start pc => cases pc <;> first | rfl | cases hassign
        | stop _ | command _ => cases hassign
      exact (hk (hi.holder_unique hu (Thread.holdsLock_of_hasFd hfd) ht rfl)).elim
  | establish fd => cases fd <;> exact hbefore
  | _ => exact hbefore

/-- Nobody stores another relay between the read of the field and the close. -/
theorem Exclusive.other_closing (hi : Exclusive svc down) (ht : svc.threads[id]? = some t)
    (hmay : svc.MayDo t eff) {k r : Nat} {u : Thread} (hu : svc.threads[k]? = some u)
    (hpc : u.stopPc? = some (.closeRelay r)) :
    ((svc.setThread id t').perform id eff).dnsRelay = some r ∨
      ((svc.setThread id t').perform id eff).dnsRelay = none := by
  have hbefore := (hi.threads hu).closing hpc
  cases eff with
  | setRelay o =>
    cases o with
    | none => exact .inr rfl
    | some r =>
      -- a start that assigns a relay is behind its look at the interface
      obtain rfl := hmay
      cases hi.not_hasFd hu hpc rfl ht
  | establish fd => cases fd <;> exact hbefore
  | _ => exact hbefore

/-- Once a `stopEverything` has closed the relay of the field, it stays closed. -/
theorem Exclusive.other_closed (hi : Exclusive svc down) (ht : svc.threads[id]? = some t)
    (hmay : svc.MayDo t eff) (hok : svc.startsAlone (.thread id env)) {k : Nat} {u : Thread}
    {pc : StopPc} (hu : svc.threads[k]? = some u) (hpc : u.stopPc? = some pc)
    (hlo : 3 ≤ pc.position) (hhi : pc.position ≤ 9) {r : Nat}
    (hr : ((svc.setThread id t').perform id eff).dnsRelay = some r) :
    ((svc.setThread id t').perform id eff).relays[r]? ≠ some true := by
  have hbefore := (hi.threads hu).closed hpc hlo hhi
  cases eff with
  | openRelay =>
    obtain rfl := hmay
    -- the condition: the field is free where a relay is opened
    have hnone : svc.dnsRelay = none := by simpa [startsAlone, ht] using hok
    cases hnone.symm.trans hr
  | setRelay o =>
    cases o with
    | none => cases hr
    | some r =>
      obtain rfl := hmay
      -- no start is inside while the `stopEverything` goes on
      cases hi.not_hasFd hu hpc (isBusy_of_position (by omega) hhi) ht
  | closeRelay r' =>
    intro hopen
    exact hbefore r hr (getElem?_of_set_false hopen)
  | establish fd => cases fd <;> exact hbefore r hr
  | _ => exact hbefore r hr

/-- The flag stays cleared until the `stopEverything` that has cleared it is over. -/
theorem Exclusive.other_stopped (hi : Exclusive svc down) (ht : svc.threads[id]? = some t)
    (hmay : svc.MayDo t eff) {k : Nat} {u : Thread} (hu : svc.threads[k]? = some u)
    (hpc : u.stopPc? = some .stopSelf) :
    ((svc.setThread id t').perform id eff).isRunning = false := by
  have hbefore := (hi.threads hu).stopped hpc
  cases eff with
  | setRunning b =>
    cases b with
    | true =>
      -- a start that sets the flag is behind its look at the interface
      obtain rfl := hmay
      cases hi.not_hasFd hu hpc rfl ht
    | false => rfl
  | establish fd => cases fd <;> exact hbefore
  | _ => exact hbefore

/-- The other threads keep what holds of them, by what the stepping thread may do. -/
theorem Exclusive.other (hi : Exclusive svc down) (ht : svc.threads[id]? = some t)
    (hmay : svc.MayDo t eff) (hok : svc.startsAlone (.thread id env)) {k : Nat} {u : Thread}
    (hk : k ≠ id) (hu : svc.threads[k]? = some u) :
    Local ((svc.setThread id t').perform id eff) k u where
  lock := hi.other_lock ht hmay hk hu
  alone := hi.other_alone ht hmay hok hu
  fd := hi.other_fd ht hmay hu
  configuring := hi.other_configuring ht hmay hk hu
  assigning := hi.other_assigning ht hmay hk hu
  closing := hi.other_closing ht hmay hu
  closed hpc hlo hhi _ := hi.other_closed ht hmay hok hu hpc hlo hhi
  stopped := hi.other_stopped ht hmay hu

/-! ### The stepping thread -/

/-- What holds of a start that is not in a `stopEverything`. -/
theorem Local.start {k : Nat} {pc : StartPc}
    (hlock : (Thread.start pc).holdsLock → svc.lock = some k)
    (hfd : (Thread.start pc).hasFd → svc.isOpen)
    (hassign : (Thread.start pc).isAssigning → svc.dnsRelay = none)
    (hstop : (Thread.start pc).stopPc? = none ∨ pc = .stopping .killHelpers) :
    Local svc k (.start pc) where
  lock := hlock
  alone h := by cases h
  fd := hfd
  configuring h := by cases h
  assigning := hassign
  closing h := by
    -- a start that is about to enter its `stopEverything` has closed nothing
    obtain hnone | rfl := hstop
    · rw [hnone] at h
      cases h
    · cases h
  closed h hlo _ := by
    obtain hnone | rfl := hstop
    · rw [hnone] at h
      cases h
    · cases h
      cases hlo
  stopped h := by
    obtain hnone | rfl := hstop
    · rw [hnone] at h
      cases h
    · cases h

/-- What holds of a thread in a `stopEverything`. -/
theorem Local.stop {k : Nat} {pc : StopPc} (hpc : t.stopPc? = some pc)
    (hlock : t.holdsLock → svc.lock = some k) (halone : t.isStop → svc.lock = none)
    (hclosing : ∀ {r}, pc = .closeRelay r → svc.dnsRelay = some r ∨ svc.dnsRelay = none)
    (hclosed : 3 ≤ pc.position → pc.position ≤ 9 →
      ∀ r, svc.dnsRelay = some r → svc.relays[r]? ≠ some true)
    (hstopped : pc = .stopSelf → svc.isRunning = false) : Local svc k t where
  lock := hlock
  alone h _ _ := halone h
  fd h := by obtain rfl | rfl := Thread.of_stopPc? hpc <;> cases h
  configuring h := by obtain rfl | rfl := Thread.of_stopPc? hpc <;> cases h
  assigning h := by obtain rfl | rfl := Thread.of_stopPc? hpc <;> cases h
  closing h := by
    rw [hpc] at h
    exact hclosing (Option.some.inj h)
  closed h := by
    rw [hpc] at h
    obtain rfl := Option.some.inj h
    exact hclosed
  stopped h := by
    rw [hpc] at h
    exact hstopped (Option.some.inj h)

/-- The interface that `startTun2Socks` has looked at is open. -/
theorem isOpen_of_fd {fd : Int} (h : svc.fd = some fd) (hpos : 0 < fd) : svc.isOpen := by
  rw [VpnService.fd] at h
  split at h
  · obtain rfl := Option.some.inj h
    omega
  · rename_i i hiface
    obtain ⟨f, hf, hopen⟩ := Option.bind_eq_some_iff.mp h
    split at hopen
    · rename_i hisOpen
      simp [isOpen, hiface, hf, hisOpen]
    · cases hopen

/-- A step of a start outside `stopEverything`. -/
theorem Exclusive.start_local (hi : Exclusive svc down) {pc pc' : StartPc}
    (ht : svc.threads[id]? = some (.start pc)) (hstop : (Thread.start pc).stopPc? = none)
    (hok : svc.startsAlone (.thread id env)) (h : svc.startNext env pc = some (pc', eff)) :
    Local ((svc.setThread id (.start pc')).perform id eff) id (.start pc') := by
  have hl := hi.threads ht
  cases pc with
  | stopping _ => cases hstop
  | returned => cases h
  -- the thread has the lock now
  | acquire =>
    simp only [startNext] at h
    split at h <;> cases h
    exact .start (fun _ => rfl) (by simp [Thread.hasFd, Thread.isLaunched])
      (by simp [Thread.isAssigning]) (.inl rfl)
  | readFd =>
    obtain ⟨rfl, rfl⟩ := Prod.mk.inj (Option.some.inj h)
    refine .start (fun _ => hl.lock rfl) ?_ ?_ ?_
    · split
      · rename_i fd hfd
        split
        · intro hrel
          cases hrel
        · intro _
          -- a descriptor that can be read belongs to an open interface
          have hopen : svc.isOpen := isOpen_of_fd hfd (by omega)
          exact hopen
      · intro hrel
        cases hrel
    · repeat' split
      all_goals simp [Thread.isAssigning]
    · repeat' split
      all_goals exact .inl rfl
  -- behind the lock nothing is asked of the thread
  | release =>
    obtain ⟨rfl, rfl⟩ := Prod.mk.inj (Option.some.inj h)
    exact .start (fun hh => by cases hh) (fun hh => by cases hh) (fun hh => by cases hh)
      (.inl rfl)
  | openRelay =>
    -- the condition: the field is free
    have hnone : svc.dnsRelay = none := by simpa [startsAlone, ht] using hok
    simp only [startNext, orThrow] at h
    split at h <;> obtain ⟨rfl, rfl⟩ := Prod.mk.inj (Option.some.inj h)
    · exact .start (fun _ => hl.lock rfl) (fun hh => by cases hh) (fun hh => by cases hh)
        (.inl rfl)
    · exact .start (fun _ => hl.lock rfl) (fun _ => hl.fd rfl) (fun _ => hnone) (.inl rfl)
  | _ =>
    -- the remaining steps leave the lock and the interface alone
    simp only [startNext, orThrow] at h
    repeat' split at h
    all_goals obtain ⟨rfl, rfl⟩ := Prod.mk.inj (Option.some.inj h)
    all_goals
      apply Local.start
      · intro _
        exact hl.lock rfl
      · intro _
        exact hl.fd rfl
      · intro hassign
        cases hassign
      · first | exact .inl rfl | exact .inr rfl

/-- A step of a `stopEverything`. -/
theorem Exclusive.stop_local (hi : Exclusive svc down) {pc pc' : StopPc}
    (ht : svc.threads[id]? = some t) (hpc : t.stopPc? = some pc)
    (hpc' : t'.stopPc? = some pc') (hlock : t'.holdsLock = t.holdsLock)
    (hstop : t'.isStop = t.isStop) (hok : svc.startsAlone (.thread id env))
    (h : svc.stopNext pc = some (pc', eff)) :
    Local ((svc.setThread id t').perform id eff) id t' := by
  have hl := hi.threads ht
  -- whose `stopEverything` it is does not change
  have hhold : t'.holdsLock → svc.lock = some id := by
    rw [hlock]
    exact hl.lock
  have hfree : t'.isStop → svc.lock = none := by
    rw [hstop]
    intro his
    cases t with
    | stop _ => simpa [startsAlone, ht] using hok
    | start _ | command _ => cases his
  -- from its fourth statement on the relay of the field is closed
  have hclosed := hl.closed hpc
  cases pc with
  | returned => cases h
  | killHelpers =>
    obtain ⟨rfl, rfl⟩ := Prod.mk.inj (Option.some.inj h)
    exact .stop hpc' hhold hfree (fun hh => by cases hh)
      (fun hlo => by simp [StopPc.position] at hlo) (fun hh => by cases hh)
  | readRelay =>
    obtain ⟨rfl, rfl⟩ := Prod.mk.inj (Option.some.inj h)
    cases hr : svc.dnsRelay with
    | none =>
      rw [hr] at hpc'
      refine .stop hpc' hhold hfree (fun hh => by cases hh) ?_ (fun hh => by cases hh)
      intro _ _ r hr'
      cases hr.symm.trans hr'
    | some r =>
      rw [hr] at hpc'
      refine .stop hpc' hhold hfree ?_ (fun hlo => by simp [StopPc.position] at hlo)
        (fun hh => by cases hh)
      -- the relay that was read is the one in the field
      intro r' hr'
      obtain rfl := StopPc.closeRelay.inj hr'
      exact .inl hr
  | closeRelay r =>
    obtain ⟨rfl, rfl⟩ := Prod.mk.inj (Option.some.inj h)
    refine .stop hpc' hhold hfree (fun hh => by cases hh) ?_ (fun hh => by cases hh)
    intro _ _ r' hr'
    -- nobody has put another relay into the field since it was read
    have hsame : r' = r := by
      obtain hr | hnone := hl.closing hpc
      · exact Option.some.inj ((show svc.dnsRelay = some r' from hr').symm.trans hr)
      · cases hnone.symm.trans hr'
    subst hsame
    show (svc.relays.set r' false)[r']? ≠ some true
    rw [List.getElem?_set_self']
    cases svc.relays[r']? <;> simp
  | clearRelay =>
    obtain ⟨rfl, rfl⟩ := Prod.mk.inj (Option.some.inj h)
    refine .stop hpc' hhold hfree (fun hh => by cases hh) ?_ (fun hh => by cases hh)
    intro _ _ r hr
    cases hr
  | readIface =>
    obtain ⟨rfl, rfl⟩ := Prod.mk.inj (Option.some.inj h)
    have hclosed' := hclosed (by simp [StopPc.position]) (by simp [StopPc.position])
    cases hiface : svc.iface <;> rw [hiface] at hpc' <;>
      exact .stop hpc' hhold hfree (fun hh => by cases hh) (fun _ _ => hclosed')
        (fun hh => by cases hh)
  | stopSupervisor | closeIface _ | clearIface =>
    obtain ⟨rfl, rfl⟩ := Prod.mk.inj (Option.some.inj h)
    have hclosed' := hclosed (by simp [StopPc.position]) (by simp [StopPc.position])
    exact .stop hpc' hhold hfree (fun hh => by cases hh) (fun _ _ => hclosed')
      (fun hh => by cases hh)
  | clearRunning =>
    obtain ⟨rfl, rfl⟩ := Prod.mk.inj (Option.some.inj h)
    have hclosed' := hclosed (by simp [StopPc.position]) (by simp [StopPc.position])
    exact .stop hpc' hhold hfree (fun hh => by cases hh) (fun _ _ => hclosed') (fun _ => rfl)
  | stopSelf =>
    obtain ⟨rfl, rfl⟩ := Prod.mk.inj (Option.some.inj h)
    exact .stop hpc' hhold hfree (fun hh => by cases hh)
      (fun _ hhi => by simp [StopPc.position] at hhi) (fun hh => by cases hh)

/-- What holds of the stepping thread after its step. -/
theorem Exclusive.mover (hi : Exclusive svc down) (ht : svc.threads[id]? = some t)
    (hok : svc.startsAlone (.thread id env)) (h : svc.threadNext env t = some (t', eff)) :
    Local ((svc.setThread id t').perform id eff) id t' := by
  cases hpc : t.stopPc? with
  | some pc =>
    -- a stop, or the end of the stop inside a start that has failed
    obtain ⟨pc', hnext, hpc', hlock, hstop⟩ | ⟨rfl, rfl, rfl⟩ := threadNext_stop hpc h
    · exact hi.stop_local ht hpc hpc' hlock hstop hok hnext
    · exact .start (fun _ => (hi.threads ht).lock rfl) (fun hh => by cases hh)
        (fun hh => by cases hh) (.inl rfl)
  | none =>
    cases t with
    | stop pc => cases hpc
    | start pc =>
      obtain ⟨⟨pc', eff'⟩, hnext, heq⟩ := Option.map_eq_some_iff.mp h
      obtain ⟨rfl, rfl⟩ := Prod.mk.inj heq
      exact hi.start_local ht hpc hok hnext
    | command pc =>
      obtain ⟨⟨pc', eff'⟩, hnext, heq⟩ := Option.map_eq_some_iff.mp h
      obtain ⟨rfl, rfl⟩ := Prod.mk.inj heq
      -- a command only has to have found no interface
      have hconf (hconf : (Thread.command pc').isConfiguring) : svc.iface = none ∧
          eff' = .skip := by
        cases pc with
        | returned => cases hnext
        | _ =>
          obtain ⟨rfl, rfl⟩ := Prod.mk.inj (Option.some.inj hnext)
          cases hiface : svc.iface <;> simp [hiface, Thread.isConfiguring] at hconf ⊢
      constructor
      case configuring =>
        intro hc
        obtain ⟨hnone, rfl⟩ := hconf hc
        exact hnone
      all_goals simp [Thread.holdsLock, Thread.isStop, Thread.hasFd, Thread.isLaunched,
        Thread.isAssigning, Thread.stopPc?]

/-! ### The service -/

/-- A `vpn.stop` between interface and flag stays there while other threads step. -/
theorem isClosing_after (ht : svc.threads[id]? = some t) (hnot : t.isClosing = false)
    (h : svc.isClosing) : ((svc.setThread id t').perform id eff).isClosing := by
  obtain ⟨u, hu, hclosing⟩ := List.any_eq_true.mp h
  obtain ⟨k, hk⟩ := List.mem_iff_getElem?.mp hu
  have hk' : ((svc.setThread id t').perform id eff).threads[k]? = some u :=
    keep_after (·.isClosing) ht hnot hk hclosing
  exact List.any_eq_true.mpr ⟨u, List.mem_of_getElem? hk', hclosing⟩

/-- The thread that has closed the interface is itself between interface and flag. -/
theorem isClosing_mover (ht : svc.threads[id]? = some t) (hclosing : t'.isClosing) :
    ((svc.setThread id t').perform id eff).isClosing :=
  List.any_eq_true.mpr
    ⟨t', List.mem_of_getElem? ((after_threads ht).mpr (.inl ⟨rfl, rfl⟩)), hclosing⟩

/-- A `vpn.stop` that closes or clears the interface has yet to clear the flag. -/
theorem threadNext_isClosing (h : svc.threadNext env t = some (t', eff))
    (heff : eff = .clearIface ∨ ∃ i, eff = .closeIface i) : t'.isClosing := by
  have hmay := threadNext_mayDo h
  obtain rfl | ⟨i, rfl⟩ := heff
  · obtain ⟨pc', hnext, hpc', -⟩ | ⟨-, -, hskip⟩ := threadNext_stop hmay h
    · obtain ⟨rfl, -⟩ := Prod.mk.inj (Option.some.inj hnext)
      simp [Thread.isClosing, hpc']
    · cases hskip
  · obtain ⟨pc', hnext, hpc', -⟩ | ⟨-, -, hskip⟩ := threadNext_stop hmay h
    · obtain ⟨rfl, -⟩ := Prod.mk.inj (Option.some.inj hnext)
      simp [Thread.isClosing, hpc']
    · cases hskip

/-- The flag is set by a start that has seen the interface open, and the interface is closed
    and replaced only where the flag is cleared or about to be. -/
theorem Exclusive.running_step (hi : Exclusive svc down) (ht : svc.threads[id]? = some t)
    (h : svc.threadNext env t = some (t', eff))
    (hrun : ((svc.setThread id t').perform id eff).isRunning)
    (hopen : ((svc.setThread id t').perform id eff).isClosing = false) :
    ((svc.setThread id t').perform id eff).isOpen := by
  have hmay := threadNext_mayDo h
  by_cases hiface : eff = .clearIface
  · rw [isClosing_mover ht (threadNext_isClosing h (.inl hiface))] at hopen
    cases hopen
  by_cases hflag : eff = .setRunning false
  · subst hflag
    cases hrun
  -- any other step leaves a `vpn.stop` that is between the two where it is
  have hbefore (hrun : svc.isRunning) : svc.isOpen := by
    refine hi.running hrun ?_
    by_contra hclosing
    rw [isClosing_after ht (hmay.not_closing hiface hflag) (by simpa using hclosing)] at hopen
    cases hopen
  cases eff with
  | establish fd =>
    obtain rfl := hmay
    -- there was no interface, so the flag was not set
    have hnone := isOpen_of_iface_none ((hi.threads ht).configuring rfl)
    have hrun' : svc.isRunning := by cases fd <;> exact hrun
    rw [hbefore hrun'] at hnone
    cases hnone
  | closeIface i =>
    rw [isClosing_mover ht (threadNext_isClosing h (.inr ⟨i, rfl⟩))] at hopen
    cases hopen
  | setRunning b =>
    cases b with
    | true =>
      obtain rfl := hmay
      exact (hi.threads ht).fd rfl
    | false => exact (hflag rfl).elim
  | clearIface => exact (hiface rfl).elim
  | _ => exact hbefore hrun

/-- A relay that is open is in the field, or on its way there. -/
theorem Exclusive.relays_step (hi : Exclusive svc down) (ht : svc.threads[id]? = some t)
    (h : svc.threadNext env t = some (t', eff)) {r : Nat}
    (hr : ((svc.setThread id t').perform id eff).relays[r]? = some true) :
    ((svc.setThread id t').perform id eff).dnsRelay = some r ∨
      ∃ k : Nat, ((svc.setThread id t').perform id eff).threads[k]? =
        some (.start (.assignRelay r)) := by
  have hmay := threadNext_mayDo h
  by_cases hstore : ∃ r', eff = .setRelay (some r')
  · obtain ⟨r', rfl⟩ := hstore
    obtain rfl := hmay
    obtain hfield | ⟨k, hk⟩ := hi.relays hr
    · -- the field was free
      cases ((hi.threads ht).assigning rfl).symm.trans hfield
    · obtain rfl := hi.holder_unique hk rfl ht rfl
      obtain ⟨⟩ := Option.some.inj (ht.symm.trans hk)
      exact .inl rfl
  have hnot := hmay.not_assigning (fun r' heq => hstore ⟨r', heq⟩)
  -- a relay that was open is in the field, or waits for another thread to store it
  have hbefore (hr : svc.relays[r]? = some true) : svc.dnsRelay = some r ∨
      ∃ k : Nat, ((svc.setThread id t').perform id eff).threads[k]? =
        some (.start (.assignRelay r)) := by
    obtain hfield | ⟨k, hk⟩ := hi.relays hr
    · exact .inl hfield
    · exact .inr ⟨k, keep_after (·.isAssigning) ht hnot hk rfl⟩
  cases eff with
  | openRelay =>
    obtain rfl := hmay
    obtain hold | ⟨rfl, -⟩ := List.getElem?_concat_eq_some.mp hr
    · exact hbefore hold
    · -- the new relay is the one that this thread is to store
      rw [threadNext] at h
      obtain ⟨⟨pc', eff'⟩, hnext, heq⟩ := Option.map_eq_some_iff.mp h
      obtain ⟨rfl, rfl⟩ := Prod.mk.inj heq
      simp only [startNext, orThrow] at hnext
      split at hnext <;> cases hnext
      exact .inr ⟨id, (after_threads ht).mpr (.inl ⟨rfl, rfl⟩)⟩
  | closeRelay r' => exact hbefore (getElem?_of_set_false hr)
  | setRelay o =>
    cases o with
    | none =>
      exact (hi.no_relay ht hmay (by simp [StopPc.position]) (by simp [StopPc.position]) r
        hr).elim
    | some r' => exact (hstore ⟨r', rfl⟩).elim
  | establish fd => cases fd <;> exact hbefore hr
  | _ => exact hbefore hr

/-- At the end of a `stopEverything` nothing runs. -/
theorem Exclusive.stopSelf_step (hi : Exclusive svc down) (ht : svc.threads[id]? = some t)
    (h : svc.threadNext env t = some (t', .stopSelf)) :
    svc.isRunning = false ∧ true ∉ svc.relays ∧
      ∀ u ∈ ((svc.setThread id t').perform id .stopSelf).threads, u.isLaunched = false := by
  have hpc : t.stopPc? = some .stopSelf := threadNext_mayDo h
  obtain ⟨pc', hnext, hpc', -⟩ | ⟨-, -, hskip⟩ := threadNext_stop hpc h
  · obtain ⟨rfl, -⟩ := Prod.mk.inj (Option.some.inj hnext)
    refine ⟨(hi.threads ht).stopped hpc, ?_, ?_⟩
    · -- every relay was closed on the way here
      intro hmem
      obtain ⟨r, hr⟩ := List.mem_iff_getElem?.mp hmem
      exact hi.no_relay ht hpc (by simp [StopPc.position]) (by simp [StopPc.position]) r hr
    · -- a start inside would have the descriptor of an interface that is gone
      intro u hu
      obtain ⟨k, hk⟩ := List.mem_iff_getElem?.mp hu
      obtain ⟨-, rfl⟩ | ⟨-, hk⟩ := (after_threads ht).mp hk
      · obtain rfl | rfl := Thread.of_stopPc? hpc' <;> rfl
      · have hfd := hi.not_hasFd ht hpc rfl hk
        by_contra hin
        rw [Thread.hasFd_of_isLaunched (by simpa using hin)] at hfd
        cases hfd
  · cases hskip

/-- After the end of a `stopEverything` nothing runs until the next start. -/
theorem Exclusive.down_step (hi : Exclusive svc down) (ht : svc.threads[id]? = some t)
    (h : svc.threadNext env t = some (t', eff))
    (hdown : (record id eff).foldl downAfter down = true) :
    ((svc.setThread id t').perform id eff).isRunning = false ∧
      true ∉ ((svc.setThread id t').perform id eff).relays ∧
      ∀ u ∈ ((svc.setThread id t').perform id eff).threads, u.isLaunched = false := by
  by_cases hself : eff = .stopSelf
  · subst hself
    exact hi.stopSelf_step ht h
  have hmay := threadNext_mayDo h
  have hne : eff ≠ .launch := by
    rintro rfl
    cases hdown
  -- the service was down before this step
  have hdown' : down := by
    cases eff <;> first | exact hdown | exact (hself rfl).elim | exact (hne rfl).elim
  obtain ⟨hrun, hrelays, hnone⟩ := hi.down hdown'
  -- flag and relays change only inside `tun2socks.start`
  have hnot : t.isLaunched = false := hnone t (List.mem_of_getElem? ht)
  refine ⟨?_, ?_, ?_⟩
  · -- only a start sets the flag
    cases eff with
    | setRunning b =>
      cases b with
      | true =>
        obtain rfl := hmay
        cases hnot
      | false => rfl
    | establish fd => cases fd <;> exact hrun
    | _ => exact hrun
  · -- only a start opens a relay, and closing one leaves the others
    cases eff with
    | openRelay =>
      obtain rfl := hmay
      cases hnot
    | closeRelay r =>
      intro hmem
      obtain hmem | hmem := List.mem_or_eq_of_mem_set hmem
      · exact hrelays hmem
      · cases hmem
    | establish fd => cases fd <;> exact hrelays
    | _ => exact hrelays
  · intro u hu
    obtain ⟨k, hk⟩ := List.mem_iff_getElem?.mp hu
    obtain ⟨-, rfl⟩ | ⟨-, hk⟩ := (after_threads ht).mp hk
    · -- a start gets inside only by its `launch`
      by_contra hin
      obtain hin | hlaunch := threadNext_isLaunched h (by simpa using hin)
      · rw [hnot] at hin
        cases hin
      · exact hne hlaunch
    · exact hnone u (List.mem_of_getElem? hk)

/-- A step of a thread keeps the invariant. -/
theorem Exclusive.thread (hi : Exclusive svc down) (ht : svc.threads[id]? = some t)
    (hok : svc.startsAlone (.thread id env)) (h : svc.threadNext env t = some (t', eff)) :
    Exclusive ((svc.setThread id t').perform id eff)
      ((record id eff).foldl downAfter down) where
  threads {k u} hu := by
    obtain ⟨rfl, rfl⟩ | ⟨hk, hu⟩ := (after_threads ht).mp hu
    · exact hi.mover ht hok h
    · exact hi.other ht (threadNext_mayDo h) hok hk hu
  command {i k u v} hu hact hv hact' := by
    -- a thread is an active command only if it was one before
    have hbefore {j : Nat} {w : Thread} (hactw : w.isActiveCommand)
        (hw : ((svc.setThread id t').perform id eff).threads[j]? = some w) :
        ∃ w', svc.threads[j]? = some w' ∧ w'.isActiveCommand := by
      obtain ⟨rfl, rfl⟩ | ⟨-, hw⟩ := (after_threads ht).mp hw
      · exact ⟨t, ht, threadNext_isActiveCommand h hactw⟩
      · exact ⟨w, hw, hactw⟩
    obtain ⟨u', hu', hact⟩ := hbefore hact hu
    obtain ⟨v', hv', hact'⟩ := hbefore hact' hv
    exact hi.command hu' hact hv' hact'
  running := hi.running_step ht h
  relays := hi.relays_step ht h
  down := hi.down_step ht h

end Thread

/-! ## Runs -/

/-- Every step does. -/
theorem exclusive_step {svc svc' : VpnService} {a : Action} {tr o : List Obs}
    (hi : Exclusive svc (isDown tr)) (hok : svc.startsAlone a)
    (h : svc.step a = some (svc', o)) : Exclusive svc' (isDown (tr ++ o)) := by
  obtain ⟨t, rfl, rfl, ht⟩ | ⟨id, env, t, t', eff, rfl, ht, hnext, rfl, rfl⟩ := step_cases h
  · rw [List.append_nil]
    exact hi.launch ht
  · rw [isDown, List.foldl_append]
    exact hi.thread ht hok hnext

/-! ### Stopping with a cleared flag -/

/-- The flag is cleared while a `vpn.stop` is between interface and flag. -/
def ClosesIdle (svc : VpnService) : Prop := ∀ t ∈ svc.threads, t.isClosing → svc.isRunning = false

/-- If no `vpn.stop` is between interface and flag with the flag set, the flag implies an open
    interface at any time. -/
theorem Exclusive.isOpen_of_isRunning {svc : VpnService} {down : Bool} (hi : Exclusive svc down)
    (hidle : ClosesIdle svc) (hrun : svc.isRunning) : svc.isOpen := by
  apply hi.running hrun
  rw [isClosing, List.any_eq_false]
  intro t ht hclosing
  rw [hidle t ht hclosing] at hrun
  cases hrun

section ClosesIdle

variable {svc : VpnService} {down : Bool} {id : Nat} {env : Env} {t t' : Thread} {eff : Effect}

/-- A `vpn.stop` gets between interface and flag by closing an interface, for which the flag has
    to be cleared, or by finding none, which cannot be while it is set. -/
theorem Exclusive.closing_mover (hi : Exclusive svc down) (hidle : ClosesIdle svc)
    (ht : svc.threads[id]? = some t) (hok : svc.stopsIdle (.thread id env))
    (h : svc.threadNext env t = some (t', eff)) (hclosing : t'.isClosing) :
    svc.isRunning = false ∨ eff = .setRunning false := by
  obtain ⟨pc', hpc', hat⟩ := Thread.isClosing_iff.mp hclosing
  cases hpc : t.stopPc? with
  | none =>
    -- a failed start enters at the first statement, which is not between the two
    obtain rfl := threadNext_enters h hpc hpc'
    obtain hat | hat := hat <;> cases hat
  | some pc =>
    obtain ⟨pc'', hnext, hpc'', -⟩ | ⟨rfl, rfl, -⟩ := threadNext_stop hpc h
    · obtain rfl := Option.some.inj (hpc''.symm.trans hpc')
      cases pc with
      | readIface =>
        -- no interface, so the flag is not set
        left
        by_contra hrun
        have hopen := hi.isOpen_of_isRunning hidle (by simpa using hrun)
        obtain ⟨hnext, -⟩ := Prod.mk.inj (Option.some.inj hnext)
        cases hiface : svc.iface with
        | none =>
          rw [isOpen_of_iface_none hiface] at hopen
          cases hopen
        | some i =>
          rw [hiface] at hnext
          subst hnext
          obtain hat | hat := hat <;> cases hat
      | closeIface i =>
        left
        -- the condition: the flag is cleared
        obtain rfl | rfl := Thread.of_stopPc? hpc <;> simpa [stopsIdle, ht] using hok
      | clearIface =>
        left
        exact hidle t (List.mem_of_getElem? ht) (by simp [Thread.isClosing, hpc])
      | readRelay =>
        obtain ⟨hnext, -⟩ := Prod.mk.inj (Option.some.inj hnext)
        cases hrelay : svc.dnsRelay <;> rw [hrelay] at hnext <;> subst hnext <;>
          obtain hat | hat := hat <;> cases hat
      | returned => cases hnext
      | _ =>
        cases hnext
        obtain hat | hat := hat <;> cases hat
    · cases hpc'

/-- One step of a thread. -/
theorem Exclusive.closesIdle_thread (hi : Exclusive svc down) (hidle : ClosesIdle svc)
    (ht : svc.threads[id]? = some t) (hok : svc.stopsIdle (.thread id env))
    (h : svc.threadNext env t = some (t', eff)) :
    ClosesIdle ((svc.setThread id t').perform id eff) := by
  intro u hu hclosing
  -- the flag is not set by a start while a `stopEverything` is going on
  have hkeep (hrun : svc.isRunning = false) (hne : eff ≠ .setRunning true) :
      ((svc.setThread id t').perform id eff).isRunning = false := by
    cases eff with
    | setRunning b =>
      cases b with
      | true => exact (hne rfl).elim
      | false => rfl
    | establish fd => cases fd <;> exact hrun
    | _ => exact hrun
  obtain ⟨k, hafter⟩ := List.mem_iff_getElem?.mp hu
  obtain ⟨-, rfl⟩ | ⟨-, hk⟩ := (after_threads ht).mp hafter
  · obtain hrun | rfl := hi.closing_mover hidle ht hok h hclosing
    · apply hkeep hrun
      rintro rfl
      obtain rfl := threadNext_mayDo h
      cases h
      cases hclosing
    · rfl
  · have hbefore := hidle u (List.mem_of_getElem? hk) hclosing
    apply hkeep hbefore
    rintro rfl
    obtain rfl := threadNext_mayDo h
    -- `u` is in a `stopEverything`, so no start is as far as that
    obtain ⟨pc, hpc, hat⟩ := Thread.isClosing_iff.mp hclosing
    have hbusy : pc.isBusy := by obtain rfl | rfl := hat <;> rfl
    cases hi.not_hasFd hk hpc hbusy ht

end ClosesIdle

/-- Every step keeps the flag cleared while an interface is closed. -/
theorem closesIdle_step {svc svc' : VpnService} {down : Bool} {a : Action} {o : List Obs}
    (hi : Exclusive svc down) (hidle : ClosesIdle svc) (hok : svc.stopsIdle a)
    (h : svc.step a = some (svc', o)) : ClosesIdle svc' := by
  obtain ⟨t, rfl, rfl, ht⟩ | ⟨id, env, t, t', eff, rfl, ht, hnext, rfl, rfl⟩ := step_cases h
  · intro u hu hclosing
    obtain hu | hu := List.mem_append.mp hu
    · exact hidle u hu hclosing
    · obtain rfl := List.mem_singleton.mp hu
      obtain rfl | rfl | ⟨rfl, -⟩ := ht <;> cases hclosing
  · exact hi.closesIdle_thread hidle ht hok hnext

/-! ## Main result -/

/-- The invariant holds in every run without overlaps. -/
theorem exclusive_reach {svc : VpnService} {tr : List Obs}
    (h : machine.Reach (fun svc a => svc.startsAlone a) svc tr) : Exclusive svc (isDown tr) :=
  Machine.Reach.inv (P := fun svc tr => Exclusive svc (isDown tr)) exclusive_init
    exclusive_step h

/-- A service that is down does not run and has no relay. -/
theorem Exclusive.stopsTruly {svc : VpnService} {tr : List Obs}
    (hi : Exclusive svc (isDown tr)) : StopsTruly svc tr := by
  intro _ hdown
  obtain ⟨hrun, hrelays, -⟩ := hi.down hdown
  exact ⟨hrun, hrelays⟩

/-- In every run in which no `stopEverything` overlaps a `startTun2Socks`, each start finds the
    relay field free and no `vpn.stop` closes an interface while the flag is set, the flag
    implies an open interface in every state.  After a `stopEverything` the flag is cleared and
    no relay is open, in every run that meets the first two of these. -/
theorem running_is_truthful (svc : VpnService) (tr : List Obs) :
    (machine.Reach (fun svc a => svc.startsAlone a && svc.stopsIdle a) svc tr →
      Truthful svc tr) ∧
    (machine.Reach (fun svc a => svc.startsAlone a) svc tr → StopsTruly svc tr) := by
  refine ⟨fun h => ?_, fun h => (exclusive_reach h).stopsTruly⟩
  have hinv : Exclusive svc (isDown tr) ∧ ClosesIdle svc := by
    refine h.inv (P := fun svc tr => Exclusive svc (isDown tr) ∧ ClosesIdle svc)
      ⟨exclusive_init, fun t ht => by cases ht⟩ ?_
    rintro svc tr a svc' o ⟨hi, hidle⟩ hok hstep
    obtain ⟨halone, hstops⟩ := Bool.and_eq_true_iff.mp hok
    exact ⟨exclusive_step hi halone hstep, closesIdle_step hi hidle hstops hstep⟩
  exact ⟨hinv.1.isOpen_of_isRunning hinv.2, hinv.1.stopsTruly⟩

/-- `n` steps of a thread, with the same answers of the environment. -/
def threadSteps (id n : Nat) (env : Env) : List Action :=
  List.replicate n (.thread id env)

/-- The interface is established and a start runs to its end; then, in the second run, a
    `stopEverything`. -/
theorem running_is_truthful_stopped :
    (∃ svc tr, machine.Reach (fun svc a => svc.startsAlone a && svc.stopsIdle a) svc tr ∧
      svc.isRunning ∧ svc.isOpen) ∧
    ∃ svc tr, machine.Reach (fun svc a => svc.startsAlone a) svc tr ∧
      svc.relays.length = 1 ∧ svc.isRunning = false ∧ true ∉ svc.relays := by
  constructor
  · obtain ⟨svc, tr, hreach, hrun⟩ := Machine.exists_reach machine
      (fun svc a => svc.startsAlone a && svc.stopsIdle a) (fun svc _ => svc.isRunning)
      (List.flatten [[.onStartCommand], threadSteps 0 4 { established := some 5 },
        [.callStartTun2Socks], threadSteps 1 13 { sent := true }]) (by decide +kernel)
    exact ⟨svc, tr, hreach, hrun, ((running_is_truthful svc tr).1 hreach).running hrun⟩
  · obtain ⟨svc, tr, hreach, hsvc⟩ := Machine.exists_reach machine
      (fun svc a => svc.startsAlone a)
      (fun svc tr => decide (svc.relays.length = 1 ∧ isDown tr ∧
        ∀ t ∈ svc.threads, t.isStart → t.isReturned))
      (List.flatten [[.onStartCommand], threadSteps 0 4 { established := some 5 },
        [.callStartTun2Socks], threadSteps 1 13 { sent := true },
        [.callStopEverything], threadSteps 2 10 {}]) (by decide +kernel)
    obtain ⟨hlen, hdown, hret⟩ := of_decide_eq_true hsvc
    obtain ⟨hflag, hrelays⟩ := (running_is_truthful svc tr).2 hreach hret hdown
    exact ⟨svc, tr, hreach, hlen, hflag, hrelays⟩

/-- `stopEverything` runs after the descriptor was handed over and before the flag is
    set: all calls have returned, the service claims to run and has no interface. -/
theorem running_not_truthful :
    ∃ svc tr, machine.Reachable svc tr ∧ (∀ t ∈ svc.threads, t.isReturned) ∧
      ¬ Truthful svc tr := by
  obtain ⟨svc, tr, hrun, hsvc⟩ := Machine.exists_reach machine (fun _ _ => True)
    (fun svc _ => decide ((∀ t ∈ svc.threads, t.isReturned) ∧ svc.isRunning = true ∧
      svc.isOpen = false))
    -- the stop runs between the last attempt to send the descriptor and the flag
    (List.flatten [[.onStartCommand], threadSteps 0 4 { established := some 5 },
      [.callStartTun2Socks], threadSteps 1 11 { sent := true },
      [.callStopEverything], threadSteps 2 10 {}, threadSteps 1 2 {}]) (by decide +kernel)
  obtain ⟨hret, hflag, hclosed⟩ := of_decide_eq_true hsvc
  refine ⟨svc, tr, hrun, hret, ?_⟩
  intro htruth
  rw [htruth.running hflag] at hclosed
  cases hclosed

end VpnService

end OpenFlux

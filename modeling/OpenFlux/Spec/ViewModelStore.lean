import OpenFlux.Spec.ViewModelStep

/-!
# What the view model does to the store

Jobs and callbacks only read the store.  What each call writes is `repoAfter`
(`step_repo`): a session and a selection write the selected id, the list is changed by
`addTunnel`, `removeTunnel` and `updateTunnel` alone.

The stored ids stay distinct (`distinct_repoAfter`), and as long as nobody selects the id `-1` the
selection is what was asked for last.  `-1` cannot be selected, because the preference uses it
for "nothing selected"; a QR code can bring it.

## Key results

- `selection_survives`: the tunnel that was selected or started last is the selected one as
  long as it is stored
- `selection_lost`: a tunnel with the id `-1`
-/

namespace OpenFlux

namespace ViewModel

/-! ## What a step writes -/

/-- No effect of a job writes the store. -/
@[simp] theorem perform_repo (vm : ViewModel) (eff : Effect) :
    (vm.perform eff).repo = vm.repo := by
  cases eff <;> first | rfl | exact (vm.teardown_sameRest _).repo

/-- The tunnel that a call asks for: it is to be selected, or it is to be started. -/
def askedFor (vm : ViewModel) : Action → Option Tunnel
  | .startTunnel tunnel | .selectTunnel tunnel => some tunnel
  | .startCurrent => vm.active.tunnel <|> vm.selected <|> vm.repo.getSelected
  | _ => none

/-- The store after `startTunnel`, which does nothing for a tunnel that runs. -/
def repoAfterStart (vm : ViewModel) (tunnel : Tunnel) : TunnelRepository :=
  if vm.active = .running tunnel then vm.repo else vm.repo.setSelectedId tunnel.id

/-- The store after a step. -/
def repoAfter (vm : ViewModel) : Action → TunnelRepository
  | .startTunnel tunnel => vm.repoAfterStart tunnel
  | .startCurrent => (vm.askedFor .startCurrent).elim vm.repo vm.repoAfterStart
  | .selectTunnel tunnel => vm.repo.setSelectedId tunnel.id
  | .addTunnel tunnel =>
    if vm.repo.tunnels.any (·.id = tunnel.id) then vm.repo
    else vm.repo.save (vm.repo.tunnels ++ [tunnel])
  | .removeTunnel tunnel => vm.repo.save (vm.repo.tunnels.filter (·.id ≠ tunnel.id))
  | .updateTunnel old new =>
    (vm.repo.tunnels.findIdx? (·.id = old.id)).elim vm.repo fun idx =>
      vm.repo.save (vm.repo.tunnels.set idx new)
  | _ => vm.repo

/-- A `stop` before the start does not write it either. -/
theorem startTunnel_repo (vm : ViewModel) (tunnel : Tunnel) :
    (vm.startTunnel tunnel).1.repo = vm.repoAfterStart tunnel := by
  rw [startTunnel, repoAfterStart]
  split
  · rfl
  · show (vm.stopIf vm.active.isActive).1.repo.setSelectedId tunnel.id = _
    rw [(vm.stopIf_sameRest _).repo]

/-- What every step leaves in the store. -/
theorem step_repo {vm vm' : ViewModel} {a : Action} {o : List Obs}
    (h : vm.step a = some (vm', o)) : vm'.repo = vm.repoAfter a := by
  cases a with
  | startTunnel tunnel =>
    obtain ⟨rfl, -⟩ := Prod.mk.inj (Option.some.inj h)
    exact vm.startTunnel_repo tunnel
  | startCurrent =>
    simp only [step, startCurrent, Option.some.injEq] at h
    simp only [repoAfter, askedFor]
    split at h <;> rename_i htunnel <;> rw [htunnel] <;> obtain ⟨rfl, -⟩ := Prod.mk.inj h
    · rfl
    · exact vm.startTunnel_repo _
  | selectTunnel tunnel =>
    obtain ⟨rfl, -⟩ := Prod.mk.inj (Option.some.inj h)
    -- the session that is stopped before leaves the store alone
    show (vm.stopIf vm.active.isActive).1.repo.setSelectedId tunnel.id = _
    rw [(vm.stopIf_sameRest _).repo]
    rfl
  | addTunnel tunnel =>
    simp only [step, addTunnel, Option.some.injEq] at h
    rw [repoAfter]
    -- an id that is stored is not stored again
    split at h <;> rename_i hany <;> simp only [hany] <;> obtain ⟨rfl, -⟩ := Prod.mk.inj h <;> rfl
  | removeTunnel tunnel =>
    obtain ⟨rfl, -⟩ := Prod.mk.inj (Option.some.inj h)
    show (vm.stopIf _).1.repo.save ((vm.stopIf _).1.repo.tunnels.filter _) = _
    rw [(vm.stopIf_sameRest _).repo]
    rfl
  | updateTunnel old new =>
    simp only [step, updateTunnel, Option.some.injEq] at h
    rw [repoAfter]
    -- the first tunnel with the id is replaced, if there is one
    split at h <;> rename_i hidx <;> rw [hidx] <;> obtain ⟨rfl, -⟩ := Prod.mk.inj h
    · rfl
    · show (vm.stopIf _).1.repo.save _ = _
      rw [(vm.stopIf_sameRest _).repo]
      rfl
  | onServiceDisconnected =>
    simp only [step, onServiceDisconnected, Option.some.injEq] at h
    split at h <;> obtain ⟨rfl, -⟩ := Prod.mk.inj h <;> rfl
  | nativeProcessExited message =>
    simp only [step, nativeProcessExited, fail, Option.some.injEq] at h
    repeat' split at h
    all_goals obtain ⟨rfl, -⟩ := Prod.mk.inj h
    · rfl
    · exact (vm.teardown_sameRest _).repo
    · rfl
  | job id env =>
    obtain ⟨j, pc, eff, -, -, rfl, -⟩ | ⟨j, pc, eff, -, -, rfl, -⟩ := jobStep_cases h <;>
      exact perform_repo _ eff
  | _ =>
    obtain ⟨rfl, -⟩ := Prod.mk.inj (Option.some.inj h)
    first | rfl | exact (vm.teardown_sameRest .idle).repo

end ViewModel

/-! ## Distinct ids -/

namespace TunnelRepository

/-- The stored ids are pairwise distinct. -/
def Distinct (repo : TunnelRepository) : Prop := (repo.tunnels.map (·.id)).Nodup

/-- A stored tunnel whose id is the selected one is the selected tunnel. -/
theorem Distinct.getSelected {repo : TunnelRepository} (h : repo.Distinct) {tunnel : Tunnel}
    (hmem : tunnel ∈ repo.tunnels) (hid : repo.selectedId = tunnel.id) (hne : tunnel.id ≠ -1) :
    repo.getSelected = some tunnel := by
  have hsel : repo.getSelectedId = some tunnel.id := by
    rw [getSelectedId, hid, if_neg hne]
  have hfind := List.find?_eq_some_of_nodup h hmem
  simp only [TunnelRepository.getSelected, hsel, beq_eq_decide, Option.some.injEq, hfind]
  rfl

end TunnelRepository

/-- The call is no `updateTunnel` that changes the id. -/
def Action.keepsId : Action → Bool
  | .updateTunnel old new => new.id = old.id
  | _ => true

namespace ViewModel

/-- The list after a step has the same ids, one more that is new, or fewer. -/
theorem distinct_repoAfter {vm : ViewModel} {a : Action} (h : vm.repo.Distinct)
    (ha : a.keepsId) : (vm.repoAfter a).Distinct := by
  cases a with
  | startTunnel tunnel =>
    rw [repoAfter, repoAfterStart]
    split <;> exact h
  | startCurrent =>
    rw [repoAfter]
    cases vm.askedFor .startCurrent with
    | none => exact h
    | some tunnel =>
      rw [Option.elim_some, repoAfterStart]
      split <;> exact h
  | addTunnel tunnel =>
    rw [repoAfter]
    split
    · exact h
    · -- a tunnel is added only if its id is new
      rename_i hnew
      simp only [TunnelRepository.Distinct, TunnelRepository.save, List.map_append,
        List.map_cons, List.map_nil]
      refine List.nodup_append.mpr ⟨h, List.nodup_singleton _, ?_⟩
      rintro id hid _ hid' rfl
      obtain ⟨t, ht, rfl⟩ := List.mem_map.mp hid
      exact hnew (List.any_eq_true.mpr ⟨t, ht, by simpa using List.mem_singleton.mp hid'⟩)
  | removeTunnel tunnel => exact h.sublist (List.filter_sublist.map _)
  | updateTunnel old new =>
    rw [repoAfter]
    cases hidx : vm.repo.tunnels.findIdx? (·.id = old.id) with
    | none => exact h
    | some idx =>
      -- the entry that is replaced has the id of `old`
      obtain ⟨hlt, hold, -⟩ := List.findIdx?_eq_some_iff_getElem.mp hidx
      have hid : new.id = (vm.repo.tunnels[idx]).id :=
        (of_decide_eq_true ha).trans (of_decide_eq_true hold).symm
      show ((vm.repo.tunnels.set idx new).map (·.id)).Nodup
      rw [List.map_set_of_eq (List.getElem?_eq_getElem hlt) hid]
      exact h
  | _ => exact h

end ViewModel

/-! ## The selection -/

/-- The view model and the id of the tunnel that it was last asked to select or to start. -/
structure Selecting where
  vm : ViewModel
  last : Option Int64 := none

namespace Selecting

/-- A call or a job step, or the screen reads the store again. -/
inductive Action where
  | view (a : OpenFlux.Action)
  | refresh

/-- `updateTunnel` is called with the id unchanged, as the edit form does. -/
def step (s : Selecting) : Action → Option (Selecting × List Obs)
  | .view a =>
    if a.keepsId then
      (s.vm.step a).map fun r =>
        ({ vm := r.1, last := (s.vm.askedFor a).map (·.id) <|> s.last }, r.2)
    else none
  | .refresh => some ({ s with vm := s.vm.refresh }, [])

/-- The view model over an empty store. -/
def machine : Machine Selecting Action Obs where
  init := { vm := ViewModel.init {} }
  step

/-- The stored ids are distinct, and the tunnel that was selected or started last is the
    selected one if it is still stored. -/
structure Survives (s : Selecting) : Prop where
  distinct : s.vm.repo.Distinct
  selected : ∀ id, s.last = some id → ∀ tunnel ∈ s.vm.repo.tunnels, tunnel.id = id →
    s.vm.repo.getSelected = some tunnel

/-! ### The condition on steps -/

/-- The call is to start a tunnel. -/
def isStart : OpenFlux.Action → Bool
  | .startTunnel _ | .startCurrent => true
  | _ => false

/-- Nobody asks for a tunnel with the id `-1`, and a tunnel that is shown as running is
    started only while it is selected: such a call returns at once and selects nothing. -/
def selectable (s : Selecting) : Action → Bool
  | .view a => (s.vm.askedFor a).all fun tunnel => tunnel.id ≠ -1 &&
      (!isStart a || s.vm.active ≠ .running tunnel || s.vm.repo.selectedId = tunnel.id)
  | .refresh => true

/-! ### The invariant -/

/-- The invariant: the ids are distinct, and the last one that was asked for is the selected one. -/
structure Selected (s : Selecting) : Prop where
  distinct : s.vm.repo.Distinct
  last : ∀ id, s.last = some id → s.vm.repo.selectedId = id ∧ id ≠ -1

/-- The store is empty and nobody has asked for a tunnel. -/
theorem selected_init : Selected machine.init where
  distinct := List.nodup_nil
  last _ h := by cases h

/-- A tunnel that is started is selected, or was before. -/
theorem repoAfterStart_selectedId {vm : ViewModel} {tunnel : Tunnel}
    (h : vm.active = .running tunnel → vm.repo.selectedId = tunnel.id) :
    (vm.repoAfterStart tunnel).selectedId = tunnel.id := by
  rw [ViewModel.repoAfterStart]
  split
  · -- `startTunnel` returns at once
    rename_i hrunning
    exact h hrunning
  · rfl

/-- A call that asks for no tunnel leaves the selected id alone. -/
theorem repoAfter_selectedId_of_none {vm : ViewModel} {a : OpenFlux.Action}
    (h : vm.askedFor a = none) : (vm.repoAfter a).selectedId = vm.repo.selectedId := by
  cases a with
  | startTunnel tunnel => contradiction
  | selectTunnel tunnel => contradiction
  | startCurrent => rw [ViewModel.repoAfter, h, Option.elim_none]
  | addTunnel tunnel =>
    rw [ViewModel.repoAfter]
    split <;> rfl
  | updateTunnel old new =>
    rw [ViewModel.repoAfter]
    cases vm.repo.tunnels.findIdx? (·.id = old.id) <;> rfl
  | _ => rfl

/-- A call that asks for a tunnel selects it. -/
theorem repoAfter_selectedId {vm : ViewModel} {a : OpenFlux.Action} {tunnel : Tunnel}
    (h : vm.askedFor a = some tunnel)
    (hstart : isStart a → vm.active = .running tunnel → vm.repo.selectedId = tunnel.id) :
    (vm.repoAfter a).selectedId = tunnel.id := by
  cases a with
  | startTunnel t =>
    obtain rfl := Option.some.inj h
    exact repoAfterStart_selectedId (hstart rfl)
  | startCurrent =>
    rw [ViewModel.repoAfter, h, Option.elim_some]
    exact repoAfterStart_selectedId (hstart rfl)
  | selectTunnel t =>
    obtain rfl := Option.some.inj h
    rfl
  | _ => contradiction

/-- Every step keeps the invariant. -/
theorem Selected.step {s s' : Selecting} {a : Action} {o : List Obs} (hi : Selected s)
    (hok : s.selectable a) (h : s.step a = some (s', o)) : Selected s' := by
  cases a with
  | refresh =>
    obtain ⟨rfl, -⟩ := Prod.mk.inj (Option.some.inj h)
    exact ⟨hi.distinct, hi.last⟩
  | view a =>
    rw [Selecting.step] at h
    split at h
    · rename_i hkeeps
      obtain ⟨⟨vm', o'⟩, hstep, heq⟩ := Option.map_eq_some_iff.mp h
      obtain ⟨rfl, -⟩ := Prod.mk.inj heq
      -- the call, and what it leaves in the store
      have hrepo := ViewModel.step_repo hstep
      refine ⟨by rw [hrepo]; exact ViewModel.distinct_repoAfter hi.distinct hkeeps, ?_⟩
      intro id hid
      rw [hrepo]
      cases hasked : s.vm.askedFor a with
      | none =>
        rw [hasked] at hid
        -- nobody asks for a tunnel, so the selected id stays
        rw [repoAfter_selectedId_of_none hasked]
        exact hi.last id hid
      | some tunnel =>
        rw [hasked] at hid
        obtain rfl := Option.some.inj hid
        simp only [selectable, hasked, Option.all_some, Bool.and_eq_true, decide_eq_true_eq,
          Bool.or_eq_true, Bool.not_eq_true'] at hok
        -- the tunnel is selected now, or it was before it was started again
        refine ⟨repoAfter_selectedId hasked fun hstart hrunning => ?_, hok.1⟩
        obtain (hnot | hnot) | hsel := hok.2
        · exact Bool.noConfusion (hnot.symm.trans hstart)
        · exact (hnot hrunning).elim
        · exact hsel
    · contradiction

/-- A stored tunnel with the selected id is found. -/
theorem Selected.survives {s : Selecting} (hi : Selected s) : Survives s where
  distinct := hi.distinct
  selected id hid tunnel hmem heq := by
    obtain ⟨hsel, hne⟩ := hi.last id hid
    exact hi.distinct.getSelected hmem (hsel.trans heq.symm) (heq ▸ hne)

/-- **The selection survives every store operation**, as long as no tunnel with the id `-1` is
    selected or started. -/
theorem selection_survives {s : Selecting} {tr : List Obs}
    (h : machine.Reach (fun s a => s.selectable a) s tr) : Survives s :=
  (h.inv (P := fun s _ => Selected s) selected_init
    (fun hi hok hstep => Selected.step hi hok hstep)).survives

open ViewModel (demoTunnel)

/-- The second of two tunnels is selected and edited, and the first one removed. -/
theorem selection_survives_edits : ∃ s tr, machine.Reach (fun s a => s.selectable a) s tr ∧
    (s.last = some 2 ∧
      s.vm.repo.tunnels = [{ demoTunnel with id := 2, name := "edited" }]) ∧ Survives s := by
  obtain ⟨s, tr, hreach, hpred⟩ := Machine.exists_reach machine (fun s a => s.selectable a)
    (fun s _ => s.last = some 2 &&
      s.vm.repo.tunnels = [{ demoTunnel with id := 2, name := "edited" }])
    [.view (.addTunnel demoTunnel), .view (.addTunnel { demoTunnel with id := 2 }),
      .view (.selectTunnel { demoTunnel with id := 2 }),
      .view (.updateTunnel { demoTunnel with id := 2 }
        { demoTunnel with id := 2, name := "edited" }),
      .view (.removeTunnel demoTunnel), .refresh] (by decide +kernel)
  simp only [Bool.and_eq_true, decide_eq_true_eq] at hpred
  exact ⟨s, tr, hreach, hpred, selection_survives hreach⟩

/-- The tunnel with the id `-1` is stored and selected, and the first one is shown. -/
theorem selection_lost : ∃ s tr, machine.Reachable s tr ∧
    (s.last = some (-1) ∧ { demoTunnel with id := -1 } ∈ s.vm.repo.tunnels ∧
      s.vm.repo.getSelected = some demoTunnel) ∧ ¬ Survives s := by
  obtain ⟨s, tr, hreach, hpred⟩ := Machine.exists_reach machine (fun _ _ => True)
    (fun s _ => s.last = some (-1) && ({ demoTunnel with id := -1 } ∈ s.vm.repo.tunnels &&
      s.vm.repo.getSelected = some demoTunnel))
    -- a tunnel whose id is the one that stands for no selection
    [.view (.addTunnel demoTunnel), .view (.addTunnel { demoTunnel with id := -1 }),
      .view (.selectTunnel { demoTunnel with id := -1 })] (by decide +kernel)
  simp only [Bool.and_eq_true, decide_eq_true_eq] at hpred
  obtain ⟨hlast, hmem, hsel⟩ := hpred
  refine ⟨s, tr, hreach, ⟨hlast, hmem, hsel⟩, fun hsurvives => ?_⟩
  have hshown := hsurvives.selected (-1) hlast _ hmem rfl
  rw [hsel] at hshown
  exact absurd (Option.some.inj hshown) (by decide)

end Selecting

end OpenFlux

import Mathlib.Data.FinEnum
import OpenFlux.ForStd.Machine
import OpenFlux.Spec.BAVLOrder

/-!
# What a tree does over its whole life

`Contains` forgets the order of the nodes: it is what an owner of a tree needs to know.

The owner inserts nodes that are not in the tree and removes nodes that are, in any order.
A call may make no more rounds than a tree of its size has levels, so the logarithmic cost of
the calls is part of what the runs below show.

## Key results

- `Contains.lookupExact`, `Contains.insert`, `Contains.remove`: the tree as a set of nodes
- `Sound.step`: every call keeps the tree sound
- `owner_verifies`: no call fails, and `BAVL_Verify` finds nothing wrong at any time
- `owner_finds`: what is found is what was inserted and not removed
- `owner_in_order`: the nodes come in the order of their values
-/

namespace OpenFlux

namespace BAVL

/-! ## The tree as a set -/

/-- The tree holds the nodes, in the order of their values. -/
def Contains {P K : Type*} (cmp : K → K → Ordering) (value : P → K) (o : BAVL P)
    (nodes : List P) : Prop :=
  ∃ l, Holds cmp value o l ∧ l.Perm nodes

section Contains

variable {P K : Type*} {cmp : K → K → Ordering} {value : P → K} {o : BAVL P} {nodes : List P}
  {rounds : Nat}

/-- A tree that was just initialised. -/
theorem Contains.empty (h : o.root = none) : Contains cmp value o [] := ⟨[], .empty h, .nil⟩

/-- No node is in the tree twice. -/
theorem Contains.nodup (h : Contains cmp value o nodes) : nodes.Nodup := by
  obtain ⟨l, hl, hperm⟩ := h
  exact hperm.nodup_iff.mp hl.nodup

/-- Only the values of the nodes in the tree matter. -/
theorem Contains.congr {value' : P → K} (h : Contains cmp value o nodes)
    (heq : ∀ x ∈ nodes, value' x = value x) : Contains cmp value' o nodes := by
  obtain ⟨l, hl, hperm⟩ := h
  refine ⟨l, ⟨hl.exists_tree, hl.sorted.imp_of_mem ?_⟩, hperm⟩
  intro x y hx hy hlt
  rwa [heq x (hperm.mem_iff.mp hx), heq y (hperm.mem_iff.mp hy)]

/-- No two nodes of the tree have the same value. -/
theorem Contains.eq_of_values [Std.OrientedCmp cmp] (h : Contains cmp value o nodes) {x y : P}
    (hx : x ∈ nodes) (hy : y ∈ nodes) (heq : cmp (value x) (value y) = .eq) : x = y := by
  obtain ⟨l, hl, hperm⟩ := h
  obtain ⟨a, b, rfl⟩ := List.append_of_mem (hperm.mem_iff.mpr hx)
  have hy := hperm.mem_iff.mpr hy
  -- the list is sorted strictly, so that two of its nodes never compare equal
  by_contra hne
  have hrest : y ∈ a ++ b := by
    rw [List.mem_append, List.mem_cons] at hy
    rw [List.mem_append]
    tauto
  exact hl.ne_eq hrest heq

/-- There is at most one node for each value. -/
theorem Contains.length_le_card [Fintype K] [Std.OrientedCmp cmp]
    (h : Contains cmp value o nodes) : nodes.length ≤ Fintype.card K := by
  have hnodup : (nodes.map value).Nodup := h.nodup.map_on fun x hx y hy heq =>
    h.eq_of_values hx hy (heq ▸ Std.ReflCmp.compare_self)
  rw [← List.length_map value]
  exact List.Nodup.length_le_card hnodup

/-- More nodes may need more levels. -/
theorem levels_mono {m n : Nat} (h : m ≤ n) : levels m ≤ levels n :=
  Nat.log_mono_right (Nat.pow_le_pow_left (Nat.add_le_add_right h 1) 2)

/-- A tree over 16 bit values has at most 65536 nodes. -/
theorem Contains.length_le_uint16 {cmp : UInt16 → UInt16 → Ordering} [Std.OrientedCmp cmp]
    {value : P → UInt16} (h : Contains cmp value o nodes) : nodes.length ≤ 65536 :=
  calc nodes.length ≤ Fintype.card UInt16 := h.length_le_card
    _ = 65536 := FinEnum.card_eq_fintypeCard.symm

/-- 65536 nodes have at most 32 levels. -/
theorem levels_le_of_length {n : Nat} (h : n ≤ 65536) : levels n ≤ 32 :=
  calc levels n ≤ levels 65536 := levels_mono h
    _ = 32 := by decide +kernel

/-- `BAVL_LookupExact` finds the node with an equal value. -/
theorem Contains.lookupExact [Std.TransCmp cmp] (h : Contains cmp value o nodes)
    (hrounds : levels nodes.length ≤ rounds) (val : K) :
    o.lookupExact cmp value rounds val = some (nodes.find? fun x => cmp val (value x) = .eq) := by
  obtain ⟨l, hl, hperm⟩ := h
  rw [← hperm.length_eq] at hrounds
  rw [hl.lookupExact hrounds]
  congr 1
  -- the tree has the nodes in another order, but at most one of them has the value
  cases hfind : nodes.find? fun x => cmp val (value x) = .eq with
  | none =>
    rw [List.find?_eq_none] at hfind ⊢
    exact fun x hx => hfind x (hperm.mem_iff.mp hx)
  | some x =>
    have hx := hperm.mem_iff.mpr (List.mem_of_find?_eq_some hfind)
    have heq : cmp val (value x) = .eq := by simpa using List.find?_some hfind
    exact (ordered_of_sorted hl.sorted val).find?_eq hx heq

/-- `BAVL_IsEmpty` tells whether there are nodes. -/
theorem Contains.isEmpty (h : Contains cmp value o nodes) : o.isEmpty = nodes.isEmpty := by
  obtain ⟨l, hl, hperm⟩ := h
  rw [BAVL.isEmpty, Bool.eq_iff_iff, Option.isNone_iff_eq_none, hl.root_eq_none,
    List.isEmpty_iff, ← List.length_eq_zero_iff, hperm.length_eq, List.length_eq_zero_iff]

/-- `BAVL_GetLast` returns one of the nodes, if there are any. -/
theorem Contains.getLast (h : Contains cmp value o nodes) (hne : nodes ≠ [])
    (hrounds : levels nodes.length ≤ rounds) :
    ∃ x ∈ nodes, o.getLast rounds = some (some x) := by
  obtain ⟨l, hl, hperm⟩ := h
  rw [← hperm.length_eq] at hrounds
  have hne' : l ≠ [] := by
    rintro rfl
    exact hne hperm.nil_eq.symm
  refine ⟨l.getLast hne', hperm.mem_iff.mp (List.getLast_mem hne'), ?_⟩
  rw [hl.getLast hrounds, List.getLast?_eq_getLast_of_ne_nil hne']

variable [DecidableEq P]

/-- `BAVL_Insert` of a node that is not in the tree: it is refused if there is a node with an
    equal value. -/
theorem Contains.insert [Std.TransCmp cmp] {node : P} (h : Contains cmp value o nodes)
    (hnode : node ∉ nodes) (hrounds : levels nodes.length ≤ rounds) :
    (∃ x ∈ nodes, cmp (value node) (value x) = .eq ∧
      o.insert cmp value rounds node = some (o, some x, false)) ∨
    (∀ x ∈ nodes, cmp (value node) (value x) ≠ .eq) ∧
      ∃ o' ref, o.insert cmp value rounds node = some (o', ref, true) ∧
        Contains cmp value o' (node :: nodes) := by
  obtain ⟨l, hl, hperm⟩ := h
  rw [← hperm.length_eq] at hrounds
  obtain ⟨x, hx, heq, hinsert⟩ | ⟨o', ref, a, b, rfl, hinsert, -, hholds⟩ :=
    hl.insert (mt hperm.mem_iff.mp hnode) hrounds
  · exact .inl ⟨x, hperm.mem_iff.mp hx, heq, hinsert⟩
  · exact .inr ⟨fun x hx => hholds.ne_eq (hperm.mem_iff.mpr hx), o', ref, hinsert, _, hholds,
      List.perm_middle.trans (hperm.cons node)⟩

/-- `BAVL_Remove` takes a node of the tree out of it. -/
theorem Contains.remove {node : P} (h : Contains cmp value o nodes) (hnode : node ∈ nodes)
    (hrounds : levels nodes.length ≤ rounds) :
    ∃ o', o.remove rounds node = some o' ∧ Contains cmp value o' (nodes.erase node) := by
  obtain ⟨l, hl, hperm⟩ := h
  rw [← hperm.length_eq] at hrounds
  obtain ⟨o', hremove, hholds⟩ := hl.remove (hperm.mem_iff.mpr hnode) hrounds
  exact ⟨o', hremove, _, hholds, hperm.erase node⟩

end Contains

/-! ## Runs -/

/-- A tree, the nodes that were put into it and not taken out again, and whether a call
    dereferenced `NULL`, failed an assertion or ran out of rounds. -/
structure InUse (P : Type*) where
  tree : BAVL P := {}
  nodes : List P := []
  fault : Bool := false

/-- The calls of an owner that change the tree. -/
inductive Call (P : Type*) where
  | insert (node : P)
  | remove (node : P)
  deriving DecidableEq, Repr

variable {P : Type*} [DecidableEq P] {K : Type*}

/-- The runs of a tree.  `BAVL_Insert` tells whether it inserted the node. -/
def owner (cmp : K → K → Ordering) (value : P → K) : Machine (InUse P) (Call P) (P × Bool) where
  init := {}
  step s call :=
    if s.fault then none
    else
      match call with
      | .insert node =>
        if node ∈ s.nodes then none
        else
          match s.tree.insert cmp value (levels s.nodes.length) node with
          | some (tree, _, true) => some ({ s with tree, nodes := node :: s.nodes }, [(node, true)])
          | some (tree, _, false) => some ({ s with tree }, [(node, false)])
          | none => some ({ s with fault := true }, [])
      | .remove node =>
        if node ∉ s.nodes then none
        else
          match s.tree.remove (levels s.nodes.length) node with
          | some tree => some ({ s with tree, nodes := s.nodes.erase node }, [])
          | none => some ({ s with fault := true }, [])

/-- No call has failed, and the tree holds the nodes that it should hold. -/
structure Sound (cmp : K → K → Ordering) (value : P → K) (s : InUse P) : Prop where
  fault : s.fault = false
  contains : Contains cmp value s.tree s.nodes

variable {cmp : K → K → Ordering} {value : P → K} {s s' : InUse P} {tr out : List (P × Bool)}

/-- An insertion keeps a run sound, accepted or refused. -/
theorem Sound.insert [Std.TransCmp cmp] {node : P} (h : Sound cmp value s)
    (hstep : (owner cmp value).step s (.insert node) = some (s', out)) : Sound cmp value s' := by
  simp only [owner, h.fault, Bool.false_eq_true, if_false] at hstep
  split at hstep
  · cases hstep
  · rename_i hnode
    -- there is a node with an equal value, or there is none
    obtain ⟨x, -, -, hinsert⟩ | ⟨-, o', ref, hinsert, hcontains⟩ :=
      h.contains.insert hnode le_rfl
    · rw [hinsert] at hstep
      cases hstep
      exact ⟨rfl, h.contains⟩
    · rw [hinsert] at hstep
      cases hstep
      exact ⟨rfl, hcontains⟩

/-- A removal keeps the invariant. -/
theorem Sound.remove {node : P} (h : Sound cmp value s)
    (hstep : (owner cmp value).step s (.remove node) = some (s', out)) : Sound cmp value s' := by
  simp only [owner, h.fault, Bool.false_eq_true, if_false] at hstep
  split at hstep
  · cases hstep
  · rename_i hnode
    obtain ⟨o', hremove, hcontains⟩ := h.contains.remove (not_not.mp hnode) le_rfl
    rw [hremove] at hstep
    cases hstep
    exact ⟨rfl, hcontains⟩

/-- Any call keeps a run sound. -/
theorem Sound.step [Std.TransCmp cmp] {call : Call P} (h : Sound cmp value s)
    (hstep : (owner cmp value).step s call = some (s', out)) : Sound cmp value s' := by
  cases call with
  | insert => exact h.insert hstep
  | remove => exact h.remove hstep

/-- Every reachable tree is sound. -/
theorem reach_sound [Std.TransCmp cmp] (h : (owner cmp value).Reachable s tr) :
    Sound cmp value s :=
  h.inv (P := fun s _ => Sound cmp value s) ⟨rfl, .empty rfl⟩ fun h _ hs => h.step hs

/-- At any time of any run no call has failed, and `BAVL_Verify` passes. -/
theorem owner_verifies [Std.TransCmp cmp] (h : (owner cmp value).Reachable s tr) :
    s.fault = false ∧ s.tree.verify cmp value (levels s.nodes.length) = true := by
  have hsound := reach_sound h
  obtain ⟨l, hl, hperm⟩ := hsound.contains
  exact ⟨hsound.fault, hl.verify (by rw [hperm.length_eq])⟩

/-- A run with six nodes, of which one that had two children was removed and one had a value
    that was taken. -/
def demoCalls : List (Call Nat) :=
  [.insert 40, .insert 20, .insert 60, .insert 10, .insert 30, .insert 50, .insert 31, .remove 20,
    .insert 20, .remove 40]

/-- The run exists, and five nodes are left at its end. -/
theorem demo_reachable : ∃ s tr, (owner compare (· / 10)).Reachable s tr ∧
    s.nodes = [20, 50, 30, 10, 60] := by
  obtain ⟨s, tr, hreach, hnodes⟩ := (owner compare (· / 10)).exists_reach (fun _ _ => True)
    (fun s _ => decide (s.nodes = [20, 50, 30, 10, 60])) demoCalls (by decide +kernel)
  exact ⟨s, tr, hreach, of_decide_eq_true hnodes⟩

/-- `owner_verifies` at the end of that run. -/
theorem owner_verifies_demo : ∃ s tr, (owner compare (· / 10)).Reachable s tr ∧
    s.nodes = [20, 50, 30, 10, 60] ∧ s.fault = false ∧
    s.tree.verify compare (· / 10) (levels s.nodes.length) = true := by
  obtain ⟨s, tr, hreach, hnodes⟩ := demo_reachable
  exact ⟨s, tr, hreach, hnodes, owner_verifies hreach⟩

/-- `BAVL_LookupExact` finds the node of an equal value among those inserted and not removed,
    and `BAVL_Insert` refuses a node exactly if there is one. -/
theorem owner_finds [Std.TransCmp cmp] (h : (owner cmp value).Reachable s tr) :
    (∀ val, s.tree.lookupExact cmp value (levels s.nodes.length) val =
      some (s.nodes.find? fun x => cmp val (value x) = .eq)) ∧
    ∀ node ∉ s.nodes, ∃ tree ref,
      s.tree.insert cmp value (levels s.nodes.length) node =
        some (tree, ref, decide (∀ x ∈ s.nodes, cmp (value node) (value x) ≠ .eq)) := by
  have hcontains := (reach_sound h).contains
  refine ⟨hcontains.lookupExact le_rfl, fun node hnode => ?_⟩
  obtain ⟨x, hx, heq, hinsert⟩ | ⟨hne, o', ref, hinsert, -⟩ := hcontains.insert hnode le_rfl
  · rw [decide_eq_false fun hne => hne x hx heq]
    exact ⟨_, _, hinsert⟩
  · rw [decide_eq_true hne]
    exact ⟨_, _, hinsert⟩

/-- There the value 5 belongs to the node 50, and the value 4 to none. -/
theorem owner_finds_demo : ∃ s tr, (owner compare (· / 10)).Reachable s tr ∧
    s.tree.lookupExact compare (· / 10) (levels 5) 5 = some (some 50) ∧
    s.tree.lookupExact compare (· / 10) (levels 5) 4 = some none := by
  obtain ⟨s, tr, hreach, hnodes⟩ := demo_reachable
  have hfinds := (owner_finds hreach).1
  rw [hnodes] at hfinds
  exact ⟨s, tr, hreach, hfinds 5, hfinds 4⟩

/-- `BAVL_GetFirst`, `BAVL_GetLast`, `BAVL_GetNext` and `BAVL_GetPrev` go through the nodes in
    the order of their values, and through each of them once. -/
theorem owner_in_order [Std.TransCmp cmp] (h : (owner cmp value).Reachable s tr) :
    ∃ l, l.Perm s.nodes ∧ (l.Pairwise fun x y => cmp (value x) (value y) = .lt) ∧
      s.tree.getFirst (levels s.nodes.length) = some l.head? ∧
      s.tree.getLast (levels s.nodes.length) = some l.getLast? ∧
      ∀ a x b, l = a ++ x :: b →
        s.tree.getNext (levels s.nodes.length) x = some b.head? ∧
        s.tree.getPrev (levels s.nodes.length) x = some a.getLast? := by
  obtain ⟨l, hl, hperm⟩ := (reach_sound h).contains
  have hlevels : levels l.length ≤ levels s.nodes.length := by rw [hperm.length_eq]
  refine ⟨l, hperm, hl.sorted, hl.getFirst hlevels, hl.getLast hlevels, ?_⟩
  rintro a x b rfl
  exact hl.adjacent hlevels

/-- `owner_in_order` at the end of that run. -/
theorem owner_in_order_demo : ∃ s tr, ∃ l : List Nat, (owner compare (· / 10)).Reachable s tr ∧
    l.Perm [20, 50, 30, 10, 60] ∧ s.tree.getFirst (levels 5) = some l.head? := by
  obtain ⟨s, tr, hreach, hnodes⟩ := demo_reachable
  obtain ⟨l, hperm, -, hfirst, -⟩ := owner_in_order hreach
  rw [hnodes] at hperm hfirst
  exact ⟨s, tr, l, hreach, hperm, hfirst⟩

end BAVL

end OpenFlux

import Mathlib.Data.Nat.Log
import OpenFlux.Spec.BAVLRebalance

/-!
# Searching and inserting

A search compares with one node per level.  It ends at a node that compares equal, or at the
place where such a node would have to be: everything before that place compares less and
everything behind it greater.

## Key results

- `At.walk`: how the loop of `BAVL_LookupExact` and `BAVL_Insert` ends
- `Holds.lookupExact`: what a search finds, in the list of the nodes
- `Holds.insert`: `BAVL_Insert` inserts there, or finds an equal node
-/

namespace OpenFlux

open AvlTree (Frame branch top toList plug pathElems before after Valid ValidPath)
open BAVLNode (sided)

namespace BAVL

variable {P : Type*} {t : AvlTree P} {p : List (Frame P)} {o : BAVL P} {n c : P}
  {compareTo : P → Ordering} {rounds : Nat}

/-! ## The search loop -/

/-- What is looked for is not before `x` if it is not before a node behind `x`. -/
def Ordered (compareTo : P → Ordering) (l : List P) : Prop :=
  l.Pairwise fun x y => compareTo x ≠ .gt → compareTo y = .lt

/-- What is looked for can only be in the subtree on `p`. -/
structure Bounds (compareTo : P → Ordering) (p : List (Frame P)) : Prop where
  before : ∀ x ∈ before p, compareTo x = .gt
  after : ∀ x ∈ after p, compareTo x = .lt

/-- How a search through the subtree `t` on the path `p` can end. -/
inductive Walked (compareTo : P → Ordering) (p : List (Frame P)) (t : AvlTree P) :
    P × Ordering → Prop
  | found {x : P} : x ∈ toList t → compareTo x = .eq → Walked compareTo p t (x, .eq)
  /-- at the parent of a place without a node -/
  | ended {f : Frame P} {q : List (Frame P)} : compareTo f.elem ≠ .eq →
      decide (compareTo f.elem = .gt) = f.side → plug (f :: q) .nil = plug p t →
      Bounds compareTo (f :: q) → Walked compareTo p t (f.elem, compareTo f.elem)

/-- A search through a part of the tree is one through the tree. -/
theorem Walked.mono {p' : List (Frame P)} {t' : AvlTree P} {r : P × Ordering}
    (h : Walked compareTo p' t' r) (hsub : ∀ x ∈ toList t', x ∈ toList t)
    (hplug : plug p' t' = plug p t) : Walked compareTo p t r := by
  cases h with
  | found hx heq => exact .found (hsub _ hx) heq
  | ended hne hside heq hbounds => exact .ended hne hside (heq.trans hplug) hbounds

/-- One round: the search goes on below the node, or ends there. -/
theorem At.walk_down {s : Bool} {b : Int} {x : P} {u : AvlTree P} (h : At o p (branch s x b t u))
    (hne : compareTo x ≠ .eq) (hs : decide (compareTo x = .gt) = s)
    (hbounds : Bounds compareTo (⟨s, x, b, u⟩ :: p))
    (hrest : ∀ c, top t = some c → ∃ r, o.walk compareTo rounds c = some r ∧
      Walked compareTo (⟨s, x, b, u⟩ :: p) t r) :
    ∃ r, o.walk compareTo (rounds + 1) x = some r ∧ Walked compareTo p (branch s x b t u) r := by
  rw [BAVL.walk, if_neg hne, hs, h.node_eq, BAVLNode.link_sided]
  cases htop : top t with
  | none =>
    -- no child on this side, so this is the place
    refine ⟨_, rfl, Walked.ended (f := ⟨s, x, b, u⟩) (q := p) hne hs ?_ hbounds⟩
    rw [AvlTree.top_eq_none htop]
    rfl
  | some c =>
    obtain ⟨r, hwalk, hwalked⟩ := hrest c htop
    refine ⟨r, hwalk, hwalked.mono ?_ rfl⟩
    intro y hy
    rw [(AvlTree.toList_branch_perm s x b t u).mem_iff]
    exact List.mem_cons_of_mem _ (List.mem_append_right _ hy)

/-- The loop ends within as many rounds as the subtree has levels. -/
theorem At.walk (h : At o p t) (hc : top t = some c) (hordered : Ordered compareTo (toList t))
    (hbounds : Bounds compareTo p) (hrounds : t.height ≤ rounds) :
    ∃ r, o.walk compareTo rounds c = some r ∧ Walked compareTo p t r := by
  induction t generalizing p c rounds with
  | nil => cases hc
  | node x l r hl hr =>
    obtain ⟨x, b⟩ := x
    cases hc
    rw [BinaryTree.height] at hrounds
    obtain ⟨rounds, rfl⟩ : ∃ k, rounds = k + 1 := ⟨rounds - 1, by omega⟩
    rw [AvlTree.toList_node] at hordered
    obtain ⟨hol, hox, hlx⟩ := List.pairwise_append.mp hordered
    obtain ⟨hxr, hor⟩ := List.pairwise_cons.mp hox
    -- one comparison, at the root of the subtree
    cases hcomp : compareTo x with
    | eq =>
      refine ⟨_, ?_, .found (by simp) hcomp⟩
      rw [BAVL.walk, if_pos hcomp]
    | lt =>
      -- to the left: the root and all behind it are greater
      have hdown : At o p (branch false x b l r) := h
      have hbounds' : Bounds compareTo (⟨false, x, b, r⟩ :: p) := by
        refine ⟨by simpa [before] using hbounds.before, ?_⟩
        intro y hy
        simp only [after, Bool.false_eq_true, if_false, List.mem_append, List.mem_cons] at hy
        obtain (rfl | hy) | hy := hy
        · exact hcomp
        · exact hxr y hy (by simp [hcomp])
        · exact hbounds.after y hy
      exact hdown.walk_down (by simp [hcomp]) (by simp [hcomp]) hbounds'
        fun c hc => hl (At.down.mp hdown) hc hol hbounds' (by omega)
    | gt =>
      -- to the right: the root and all before it are less
      have hdown : At o p (branch true x b r l) := h
      have hbounds' : Bounds compareTo (⟨true, x, b, l⟩ :: p) := by
        refine ⟨?_, by simpa [after] using hbounds.after⟩
        intro y hy
        simp only [before, if_true, List.mem_append, List.mem_singleton] at hy
        obtain hy | hy | rfl := hy
        · exact hbounds.before y hy
        · by_contra hne
          exact absurd (hlx y hy x List.mem_cons_self hne) (by simp [hcomp])
        · exact hcomp
      exact hdown.walk_down (by simp [hcomp]) (by simp [hcomp]) hbounds'
        fun c hc => hr (At.down.mp hdown) hc hor hbounds' (by omega)

/-! ## The tree as a sorted list -/

/-- How many levels a tree of `n` nodes can have. -/
def levels (n : Nat) : Nat := Nat.log 2 ((n + 1) ^ 2)

/-- A valid tree has no more levels. -/
theorem height_le_levels (h : Valid t) : t.height ≤ levels (toList t).length := by
  rw [AvlTree.length_toList]
  exact Nat.le_log_of_pow_le (by omega) h.two_pow_height_le

variable {K : Type*} {cmp : K → K → Ordering} {value : P → K} {l : List P}

/-- The tree is balanced and holds the nodes `l`, in this order. -/
structure Holds (cmp : K → K → Ordering) (value : P → K) (o : BAVL P) (l : List P) : Prop where
  exists_tree : ∃ t, At o [] t ∧ Valid t ∧ toList t = l
  sorted : l.Pairwise fun x y => cmp (value x) (value y) = .lt

/-- No node is in the list twice. -/
theorem Holds.nodup (h : Holds cmp value o l) : l.Nodup := by
  obtain ⟨t, hat, -, rfl⟩ := h.exists_tree
  exact (List.nodup_append.mp hat.nodup).2.1

/-- A tree without a root holds the empty list. -/
theorem Holds.empty (h : o.root = none) : Holds cmp value o [] where
  exists_tree := ⟨.nil, ⟨h, trivial, trivial, List.nodup_nil⟩, trivial, rfl⟩
  sorted := .nil

/-- No other node has the value of a node of the tree. -/
theorem Holds.ne_eq [Std.OrientedCmp cmp] {a b : List P} (h : Holds cmp value o (a ++ n :: b))
    {x : P} (hx : x ∈ a ++ b) : cmp (value n) (value x) ≠ .eq := by
  obtain ⟨-, hb, ha⟩ := List.pairwise_append.mp h.sorted
  obtain hx | hx := List.mem_append.mp hx
  · have hlt := ha x hx n List.mem_cons_self
    rw [Std.OrientedCmp.gt_of_lt hlt]
    simp
  · rw [(List.pairwise_cons.mp hb).1 x hx]
    simp

/-- In a list sorted by value, a value is compared in order. -/
theorem ordered_of_sorted [Std.TransCmp cmp]
    (h : l.Pairwise fun x y => cmp (value x) (value y) = .lt) (val : K) :
    Ordered (fun x => cmp val (value x)) l := by
  refine h.imp ?_
  intro x y hxy hle
  exact Std.TransCmp.lt_of_isLE_of_lt (by cases hval : cmp val (value x) <;> simp_all) hxy

/-- At the root nothing is known yet. -/
theorem bounds_nil (compareTo : P → Ordering) : Bounds compareTo ([] : List (Frame P)) where
  before := by simp [before]
  after := by simp [after]

/-- Outside of the place where the search has ended nothing compares equal. -/
theorem Bounds.ne_eq {f : Frame P} (h : Bounds compareTo (f :: p)) {x : P}
    (hx : x ∈ toList (plug (f :: p) .nil)) : compareTo x ≠ .eq := by
  rw [AvlTree.toList_plug, AvlTree.toList_nil, List.append_nil, List.mem_append] at hx
  obtain hx | hx := hx
  · rw [h.before x hx]
    simp
  · rw [h.after x hx]
    simp

/-- The node that compares equal is the only one. -/
theorem Ordered.find?_eq (h : Ordered compareTo l) {x : P} (hx : x ∈ l) (heq : compareTo x = .eq) :
    l.find? (fun x => compareTo x = .eq) = some x := by
  obtain ⟨a, b, rfl⟩ := List.append_of_mem hx
  have hbefore := (List.pairwise_append.mp h).2.2
  rw [List.find?_append, List.find?_cons_of_pos (by simpa using heq), List.find?_eq_none.mpr]
  · rfl
  · intro y hy
    have hlt : compareTo y ≠ .eq := by
      -- a node before it that compares equal would put it behind what is looked for
      intro hyeq
      have hxlt := hbefore y hy x List.mem_cons_self (by simp [hyeq])
      simp [heq] at hxlt
    simpa using hlt

/-- A search ends next to the place where it leads to. -/
theorem next_to_end (f : Frame P) (q : List (Frame P)) :
    some f.elem = (before (f :: q)).getLast? ∨ some f.elem = (after (f :: q)).head? := by
  cases hs : f.side with
  | false => exact .inr (by simp [after, hs])
  | true => exact .inl (by simp [before, hs])

/-- `BAVL_LookupExact` finds the node with an equal value. -/
theorem Holds.lookupExact [Std.TransCmp cmp] (h : Holds cmp value o l)
    (hrounds : levels l.length ≤ rounds) (val : K) :
    o.lookupExact cmp value rounds val = some (l.find? fun x => cmp val (value x) = .eq) := by
  obtain ⟨t, hat, hvalid, rfl⟩ := h.exists_tree
  have hroot : o.root = top t := hat.root
  rw [BAVL.lookupExact, hroot]
  cases htop : top t with
  | none =>
    rw [AvlTree.top_eq_none htop]
    rfl
  | some c =>
    obtain ⟨r, hwalk, hwalked⟩ := hat.walk htop (ordered_of_sorted h.sorted val)
      (bounds_nil _) ((height_le_levels hvalid).trans hrounds)
    dsimp only
    rw [hwalk]
    cases hwalked with
    | @found x hx heq =>
      rw [(ordered_of_sorted h.sorted val).find?_eq hx heq]
      rfl
    | @ended f q hne hside hplug hbounds =>
      -- the search has ended without a hit: everything is before or behind the place
      have hplug' : plug (f :: q) .nil = t := hplug
      rw [List.find?_eq_none.mpr]
      · simp [hne]
      · intro y hy
        rw [← hplug'] at hy
        simpa using hbounds.ne_eq hy

/-! ## Inserting -/

variable [DecidableEq P]

/-- A leaf is linked at a place without a node. -/
theorem At.link_leaf {f : Frame P} (h : At o (f :: p) .nil) (hn : n ∉ toList (plug (f :: p) .nil)) :
    At ((o.setLink f.elem f.side (some n)).update n fun _ => { parent := some f.elem }) (f :: p)
      (.node (n, 0) .nil .nil) := by
  -- the new node is no node of the path
  have hmem : n ∉ pathElems (f :: p) := by
    intro hmem
    exact hn ((AvlTree.toList_plug_perm _ _).mem_iff.mpr (List.mem_append_left _ hmem))
  have hnf : n ≠ f.elem := by
    rintro rfl
    exact hmem List.mem_cons_self
  have hnodup : (pathElems (f :: p)).Nodup := by simpa using h.nodup
  refine ⟨h.root, ⟨?_, trivial, trivial⟩, ?_, ?_⟩
  · simp [parentOf, top]
  · refine h.path.relink hnodup ?_ ?_
    · -- its parent gets the link
      intro g hg
      cases hg
      simp [hnf.symm]
      rfl
    · -- and nothing else is written
      intro y hy hy'
      have hyn : y ≠ n := fun h => hmem (h ▸ hy)
      have hyf : y ≠ f.elem := fun h => hy' (congrArg some h.symm)
      simp [hyn, hyf]
  · rw [List.nodup_append]
    exact ⟨hnodup, by simp, by rintro a ha b hb rfl; simp at hb; exact hmem (hb ▸ ha)⟩

/-- `BAVL_Insert` at the end of the search. -/
theorem At.insertAt {f : Frame P} (h : At o (f :: p) .nil) (hvalid : Valid (plug (f :: p) .nil))
    (hn : n ∉ toList (plug (f :: p) .nil)) (hrounds : (plug (f :: p) .nil).height ≤ rounds) :
    ∃ o' t', ((o.setLink f.elem f.side (some n)).update n fun _ =>
        { parent := some f.elem }).rebalance rounds f.elem f.side 1 = some o' ∧
      At o' [] t' ∧ Valid t' ∧ toList t' = before (f :: p) ++ n :: after (f :: p) := by
  have hleaf := h.link_leaf hn
  have hpath := (AvlTree.valid_plug.mp hvalid).2
  have hvleaf : Valid (.node (n, 0) .nil .nil : AvlTree P) := by simp [Valid]
  have hlen := AvlTree.length_add_height_le (f :: p) (.nil : AvlTree P)
  rw [List.length_cons] at hlen
  -- the empty subtree has become one higher
  have hheight : ((.node (n, 0) .nil .nil : AvlTree P).height : Int) =
      ((.nil : AvlTree P).height : Nat) + 1 := rfl
  obtain ⟨o', t', hrebalance, hfun, h'⟩ := hleaf.rebalance hpath hvleaf hheight (by omega)
    (show p.length < rounds by omega)
  obtain ⟨t'', hfun', hvalid', hlist⟩ := AvlTree.rebalance_valid hpath hvleaf hheight (by omega)
  -- what the code makes is what the function on trees makes, which is valid
  rw [hfun] at hfun'
  cases hfun'
  refine ⟨o', t', hrebalance, h', hvalid', ?_⟩
  rw [hlist, AvlTree.toList_plug]
  simp

/-- `BAVL_Insert` of a node that is not in the tree: it is put where it belongs, next to the
    node that is returned, unless there is a node with an equal value. -/
theorem Holds.insert [Std.TransCmp cmp] (h : Holds cmp value o l) (hn : n ∉ l)
    (hrounds : levels l.length ≤ rounds) :
    (∃ x ∈ l, cmp (value n) (value x) = .eq ∧
      o.insert cmp value rounds n = some (o, some x, false)) ∨
    ∃ o' ref a b, l = a ++ b ∧ o.insert cmp value rounds n = some (o', ref, true) ∧
      (ref = a.getLast? ∨ ref = b.head?) ∧ Holds cmp value o' (a ++ n :: b) := by
  obtain ⟨t, hat, hvalid, rfl⟩ := h.exists_tree
  have hroot : o.root = top t := hat.root
  rw [BAVL.insert, hroot]
  cases htop : top t with
  | none =>
    right
    -- the first node becomes the root
    have hnil := AvlTree.top_eq_none htop
    subst hnil
    refine ⟨_, none, [], [], rfl, rfl, .inl rfl, ⟨.node (n, 0) .nil .nil, ?_, ?_, rfl⟩, by simp⟩
    · exact ⟨rfl, ⟨by simp [parentOf, top], trivial, trivial⟩, trivial, by simp [pathElems]⟩
    · simp [Valid]
  | some c =>
    have hheight := (height_le_levels hvalid).trans hrounds
    obtain ⟨r, hwalk, hwalked⟩ := hat.walk htop (ordered_of_sorted h.sorted (value n))
      (bounds_nil _) hheight
    dsimp only
    rw [hwalk]
    cases hwalked with
    | @found x hx heq => exact .inl ⟨x, hx, heq, by simp⟩
    | @ended f q hne hside hplug hbounds =>
      right
      -- the focus is moved to the place where the search has ended
      have hat' : At o (f :: q) .nil := by
        rw [At.focus, hplug]
        exact hat
      have hplug' : plug (f :: q) .nil = t := hplug
      rw [← hplug'] at hvalid hn hheight
      obtain ⟨o', t', hrebalance, hat'', hvalid', hlist⟩ := hat'.insertAt hvalid hn hheight
      refine ⟨o', some f.elem, before (f :: q), after (f :: q), ?_, ?_, ?_,
        ⟨t', hat'', hvalid', hlist⟩, ?_⟩
      · rw [← hplug', AvlTree.toList_plug]
        simp
      · rw [Option.bind_some]
        dsimp only
        rw [if_neg hne, hside, hrebalance]
        rfl
      · exact next_to_end f q
      · -- the place is the right one for the value
        have hsorted := h.sorted
        rw [← hplug', AvlTree.toList_plug, AvlTree.toList_nil, List.append_nil] at hsorted
        obtain ⟨hsa, hsb, hab⟩ := List.pairwise_append.mp hsorted
        refine List.pairwise_append.mpr ⟨hsa, List.pairwise_cons.mpr ⟨hbounds.after, hsb⟩, ?_⟩
        intro x hx y hy
        obtain rfl | hy := List.mem_cons.mp hy
        · exact Std.OrientedCmp.gt_iff_lt.mp (hbounds.before x hx)
        · exact hab x hx y hy

end BAVL

end OpenFlux

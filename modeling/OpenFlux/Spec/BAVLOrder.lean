import OpenFlux.Spec.BAVLRemove

/-!
# Going through a tree, and checking it

## Key results

- `Holds.getFirst`, `Holds.getLast`, `Holds.adjacent`: the nodes come in the order of the list
- `Holds.verify`: `BAVL_Verify` finds nothing wrong
-/

namespace OpenFlux

open AvlTree (Frame branch top toList plug pathElems before after Valid ValidPath)
open BAVLNode (sided)

namespace BAVL

variable {P : Type*} {t u : AvlTree P} {p q : List (Frame P)} {o : BAVL P} {x c n : P} {b : Int}
  {s : Bool} {rounds : Nat} {K : Type*} {cmp : K → K → Ordering} {value : P → K} {l : List P}

/-! ## The ends -/

/-- On a path that goes left all the way nothing is before the subtree. -/
theorem before_eq_nil (h : ∀ f ∈ q, f.side = false) : before q = [] := by
  induction q with
  | nil => rfl
  | cons f q ih =>
    rw [before, h f List.mem_cons_self, ih fun g hg => h g (List.mem_cons_of_mem _ hg)]
    rfl

/-- The element of a list that is nearest to one of its ends. -/
def endOf (s : Bool) (l : List P) : Option P := if s then l.getLast? else l.head?

/-- The loop down one side finds the end of the subtree on that side. -/
theorem At.farthest_end (h : At o p t) (hc : top t = some c) (hrounds : t.height ≤ rounds)
    (s : Bool) : o.farthest s rounds c = endOf s (toList t) := by
  obtain ⟨q, m, b, u, hfar, rfl, hside⟩ := h.farthest hc hrounds s
  rw [hfar, AvlTree.toList_plug]
  cases s with
  | false => simp [endOf, before_eq_nil hside, branch]
  | true => simp [endOf, after_eq_nil hside, branch]

/-- From the root it finds the end of the list. -/
theorem Holds.farthest_root (h : Holds cmp value o l) (hrounds : levels l.length ≤ rounds)
    (hc : o.root = some c) (s : Bool) : o.farthest s rounds c = endOf s l := by
  obtain ⟨t, hat, hvalid, rfl⟩ := h.exists_tree
  exact hat.farthest_end (hat.root.symm.trans hc) ((height_le_levels hvalid).trans hrounds) s

/-- A tree without a root is empty. -/
theorem Holds.root_eq_none (h : Holds cmp value o l) : o.root = none ↔ l = [] := by
  obtain ⟨t, hat, -, rfl⟩ := h.exists_tree
  rw [show o.root = top t from hat.root]
  cases t with
  | nil => simp [top]
  | node => simp [top]

/-- `BAVL_GetFirst` and `BAVL_GetLast` differ in the side. -/
theorem Holds.outermost (h : Holds cmp value o l) (hrounds : levels l.length ≤ rounds) (s : Bool)
    {r : Option (Option P)} (hnone : o.root = none → r = some none)
    (hsome : ∀ n, o.root = some n → r = (o.farthest s rounds n).map some) :
    r = some (endOf s l) := by
  cases hroot : o.root with
  | none =>
    rw [hnone hroot, h.root_eq_none.mp hroot]
    cases s <;> rfl
  | some n =>
    -- with a root the list has two ends
    have hne : l ≠ [] := fun hnil => by simp [h.root_eq_none.mpr hnil] at hroot
    rw [hsome n hroot, h.farthest_root hrounds hroot]
    cases s with
    | false =>
      obtain ⟨y, l, rfl⟩ := List.exists_cons_of_ne_nil hne
      rfl
    | true =>
      rw [endOf, if_pos rfl, List.getLast?_eq_some_getLast hne]
      rfl

/-- `BAVL_GetFirst` is the head of the list. -/
theorem Holds.getFirst (h : Holds cmp value o l) (hrounds : levels l.length ≤ rounds) :
    o.getFirst rounds = some l.head? := by
  refine h.outermost hrounds false ?_ ?_
  · intro hroot
    rw [BAVL.getFirst, hroot]
  · intro n hroot
    rw [BAVL.getFirst, hroot]

/-- `BAVL_GetLast` is its last element. -/
theorem Holds.getLast (h : Holds cmp value o l) (hrounds : levels l.length ≤ rounds) :
    o.getLast rounds = some l.getLast? := by
  refine h.outermost hrounds true ?_ ?_
  · intro hroot
    rw [BAVL.getLast, hroot]
  · intro n hroot
    rw [BAVL.getLast, hroot]

/-! ## The neighbours -/

/-- The first node on the way up whose subtree is not on side `s`. -/
def nextUp (s : Bool) (p : List (Frame P)) : Option P :=
  (p.find? fun f => f.side != s).map Frame.elem

/-- The node that the climb finds is the neighbour of the subtree in the list. -/
theorem nextUp_eq (s : Bool) (p : List (Frame P)) :
    nextUp s p = if s then (after p).head? else (before p).getLast? := by
  induction p with
  | nil => cases s <;> rfl
  | cons f p ih =>
    unfold nextUp at ih ⊢
    cases s <;> cases hs : f.side <;> simp_all [before, after]

/-- The link to a node on side `s`, read as the side of its frame. -/
theorem At.link_eq_iff {f : Frame P} (h : At o (f :: p) t) (hn : top t = some n) (s : Bool) :
    (o.node f.elem).link s = some n ↔ f.side = s := by
  rw [h.path.1, hn]
  by_cases hs : f.side = s
  · subst hs
    simp
  · rw [Bool.eq_not_of_ne (Ne.symm hs), BAVLNode.link_not_sided]
    refine iff_of_false ?_ (by simp)
    -- the sibling is another node
    intro htop
    have hmem : n ∈ pathElems (f :: p) :=
      List.mem_cons_of_mem _ (List.mem_append_left _ (AvlTree.top_mem_toList htop))
    exact (List.nodup_append.mp h.nodup).2.2 n hmem n (AvlTree.top_mem_toList hn) rfl

variable [DecidableEq P]

/-- The loop up the parent links ends at the first node that was reached from the other side. -/
theorem At.climb (h : At o p t) (hn : top t = some n) (hrounds : p.length < rounds) (s : Bool) :
    o.climb s rounds n = some (nextUp s p) := by
  induction p generalizing t n rounds with
  | nil =>
    obtain ⟨rounds, rfl⟩ : ∃ k, rounds = k + 1 := ⟨rounds - 1, by omega⟩
    rw [BAVL.climb, h.parent_eq hn]
    rfl
  | cons f p ih =>
    obtain ⟨rounds, rfl⟩ : ∃ k, rounds = k + 1 := ⟨rounds - 1, by omega⟩
    rw [BAVL.climb, h.parent_eq hn]
    show (if (o.node f.elem).link s = some n then o.climb s rounds f.elem
      else some (some f.elem)) = _
    rw [if_congr (h.link_eq_iff hn s) rfl rfl]
    -- from side `s` the loop goes on, and from the other side it ends here
    by_cases hs : f.side = s
    · rw [if_pos hs, ih (At.down.mpr h) (AvlTree.top_branch ..) (by simpa using hrounds)]
      simp [nextUp, hs]
    · rw [if_neg hs]
      simp [nextUp, hs]

/-- The next node on a side is the end of the subtree there, or further up. -/
theorem At.adjacent (h : At o p (branch s x b t u))
    (hrounds : (plug p (branch s x b t u)).height ≤ rounds) :
    o.adjacent s rounds x = some ((endOf (!s) (toList t)).or (nextUp s p)) := by
  have hlen := AvlTree.length_add_height_le p (branch s x b t u)
  rw [AvlTree.height_branch] at hlen
  rw [BAVL.adjacent, h.node_eq, BAVLNode.link_sided]
  cases htop : top t with
  | none =>
    -- no child on that side: the neighbour is further up
    rw [AvlTree.top_eq_none htop]
    show o.climb s rounds x = _
    rw [h.climb (AvlTree.top_branch ..) (by omega)]
    cases s <;> rfl
  | some c =>
    -- a child: the neighbour is the end of its subtree
    show (o.farthest (!s) rounds c).map some = _
    rw [(At.down.mp h).farthest_end htop (by omega)]
    have hne : toList t ≠ [] := List.ne_nil_of_mem (AvlTree.top_mem_toList htop)
    cases s with
    | false =>
      rw [Bool.not_false, endOf, if_pos rfl, List.getLast?_eq_some_getLast hne]
      rfl
    | true =>
      obtain ⟨y, l, hl⟩ := List.exists_cons_of_ne_nil hne
      rw [hl]
      rfl

/-- `BAVL_GetNext` and `BAVL_GetPrev` are the neighbours in the list. -/
theorem Holds.adjacent {a b : List P} (h : Holds cmp value o (a ++ x :: b))
    (hrounds : levels (a ++ x :: b).length ≤ rounds) :
    o.getNext rounds x = some b.head? ∧ o.getPrev rounds x = some a.getLast? := by
  have hnodup := h.nodup
  obtain ⟨t, hat, hvalid, hlist⟩ := h.exists_tree
  rw [← hlist] at hrounds
  obtain ⟨p, bal, u, v, rfl⟩ := AvlTree.exists_plug_of_mem (t := t) (x := x) (by simp [hlist])
  have hheight := (height_le_levels hvalid).trans hrounds
  -- the node splits the list in one place only
  have hsplit : (before p ++ toList u) ++ x :: (toList v ++ after p) = a ++ x :: b := by
    rw [← hlist, AvlTree.toList_plug]
    simp
  have hnotMem : x ∉ before p ++ toList u ∧ x ∉ toList v ++ after p := by
    rw [← hsplit] at hnodup
    obtain ⟨-, hright, hdisjoint⟩ := List.nodup_append.mp hnodup
    exact ⟨fun hmem => hdisjoint x hmem x List.mem_cons_self rfl, (List.nodup_cons.mp hright).1⟩
  obtain ⟨ha, -, hb⟩ := (List.append_cons_inj_of_notMem hnotMem.1 hnotMem.2).mp hsplit
  -- the same node, seen from either side
  have hright : At o p (branch true x bal v u) := At.focus.mpr hat
  have hleft : At o p (branch false x bal u v) := At.focus.mpr hat
  constructor
  · rw [getNext, hright.adjacent hheight, nextUp_eq, ← hb, List.head?_append]
    rfl
  · rw [getPrev, hleft.adjacent hheight, nextUp_eq, ← ha, List.getLast?_append]
    rfl

/-! ## Checking -/

/-- The check of a child that is linked as it should be. -/
theorem At.assertChild {f : Frame P} {height : P → Option Int} (h : At o (f :: p) t)
    (hcmp : ∀ y ∈ toList t, cmp (value y) (value f.elem) = if f.side then .gt else .lt)
    (hheight : ∀ c, top t = some c → height c = some (t.height : Int)) :
    o.assertChild cmp value f.elem f.side height = some (t.height : Int) := by
  rw [BAVL.assertChild, h.path.1, BAVLNode.link_sided]
  cases htop : top t with
  | none =>
    rw [AvlTree.top_eq_none htop]
    rfl
  -- the child points back and is on the right side
  | some c =>
    have hparent : (o.node c).parent = some f.elem := h.parent_eq htop
    show asserting _ (asserting _ (height c)) = _
    rw [asserting_pos hparent, asserting_pos (hcmp c (AvlTree.top_mem_toList htop)),
      hheight c htop]

/-- `_BAVL_assert_recurser` checks out on a valid and sorted subtree and returns its height. -/
theorem At.assertRecurser [Std.OrientedCmp cmp] (h : At o p t) (hn : top t = some n)
    (hvalid : Valid t) (hsorted : (toList t).Pairwise fun x y => cmp (value x) (value y) = .lt)
    {depth : Nat} (hdepth : t.height ≤ depth) :
    o.assertRecurser cmp value depth n = some (t.height : Int) := by
  induction t generalizing p n depth with
  | nil => cases hn
  | node x l r hl hr =>
    obtain ⟨x, b⟩ := x
    cases hn
    rw [BinaryTree.height] at hdepth
    obtain ⟨depth, rfl⟩ : ∃ k, depth = k + 1 := ⟨depth - 1, by omega⟩
    obtain ⟨hb, hlow, hhigh, hvl, hvr⟩ := hvalid
    rw [AvlTree.toList_node] at hsorted
    obtain ⟨hsl, hsx, hlx⟩ := List.pairwise_append.mp hsorted
    obtain ⟨hxr, hsr⟩ := List.pairwise_cons.mp hsx
    have hbalance : (o.node x).balance = b := congrArg BAVLNode.balance h.rep.1
    have hatl : At o (⟨false, x, b, r⟩ :: p) l := At.down.mp h
    have hatr : At o (⟨true, x, b, l⟩ :: p) r := At.down.mp h
    -- both children check out, by induction
    have hleft : o.assertChild cmp value x false (o.assertRecurser cmp value depth) =
        some (l.height : Int) :=
      hatl.assertChild (fun y hy => hlx y hy x List.mem_cons_self)
        fun c hc => hl hatl hc hvl hsl (by omega)
    have hright : o.assertChild cmp value x true (o.assertRecurser cmp value depth) =
        some (r.height : Int) :=
      hatr.assertChild (fun y hy => Std.OrientedCmp.gt_iff_lt.mpr (hxr y hy))
        fun c hc => hr hatr hc hvr hsr (by omega)
    rw [BAVL.assertRecurser, hbalance, asserting_pos ⟨hlow, hhigh⟩, hleft, hright]
    show asserting (b = (r.height : Int) - l.height) (some (max (l.height : Int) r.height + 1)) = _
    -- the balance factor is what the two heights say
    rw [asserting_pos hb, BinaryTree.height]
    exact congrArg some (by omega)

/-- `BAVL_Verify` finds nothing wrong. -/
theorem Holds.verify [Std.OrientedCmp cmp] (h : Holds cmp value o l) {depth : Nat}
    (hdepth : levels l.length ≤ depth) : o.verify cmp value depth = true := by
  obtain ⟨t, hat, hvalid, rfl⟩ := h.exists_tree
  rw [BAVL.verify, show o.root = top t from hat.root]
  cases htop : top t with
  | none => rfl
  | some n =>
    have hassert := hat.assertRecurser htop hvalid h.sorted
      ((height_le_levels hvalid).trans hdepth)
    show decide ((o.node n).parent = none ∧
      (o.assertRecurser cmp value depth n).isSome = true) = true
    rw [hassert, hat.parent_eq htop]
    rfl

end BAVL

end OpenFlux

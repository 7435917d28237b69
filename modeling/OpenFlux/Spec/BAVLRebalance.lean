import OpenFlux.Spec.BAVLHeap

/-!
# `_BAVL_rebalance` rebalances

The code walks up the parent links and decides by comparing pointers on which side it has come
from.  On a tree that was valid before one subtree became one higher or one lower, it makes the
tree that `AvlTree.rebalance` makes, and no `ASSERT` on its way fails.
-/

namespace OpenFlux

open AvlTree (Frame branch top toList plug pathElems optNeg sign Valid ValidPath)
open BAVLNode (sided)

namespace BAVL

variable {P : Type*} [DecidableEq P] {t u light heavy : AvlTree P} {p : List (Frame P)} {o : BAVL P}
  {n : P} {b d delta deltac : Int} {s : Bool}

/-- One of the transformations was made: `n'` is on top of the subtree now. -/
structure Transformed (result : Option (BAVL P × P × Int)) (p : List (Frame P)) (t : AvlTree P)
    (delta : Int) : Prop where
  exists_eq : ∃ o n, result = some (o, n, delta) ∧ At o p t ∧ top t = some n

/-- The child `c` on side `s` is rotated up, and both balance factors are set. -/
theorem At.rotate_setBalance {c : P} {cb : Int} {outer inner : AvlTree P}
    (h : At o p (branch s n b (branch s c cb outer inner) light)) (i j : Int) :
    ∃ o', o.rotate n (!s) = some o' ∧ At ((o'.setBalance n i).setBalance c j) p
      (branch (!s) c j (branch (!s) n i light inner) outer) := by
  -- the same tree, seen from the side to which the rotation goes
  have hrot : At o p (branch (!s) n b light (branch (!s) c cb inner outer)) := by
    rw [branch_not, branch_not]
    exact h
  obtain ⟨o', hrotate, h'⟩ := hrot.rotate
  have hn := (At.down.mp h').setBalance i
  exact ⟨o', hrotate, (At.down.mpr hn).setBalance j⟩

omit [DecidableEq P] in
/-- The balance factor of a child. -/
theorem At.balance_child {c : P} {cb : Int} {outer inner : AvlTree P}
    (h : At o p (branch s n b (branch s c cb outer inner) light)) : (o.node c).balance = cb := by
  rw [(At.down.mp h).node_eq, BAVLNode.balance_sided]

/-- The heavy child leans outwards: one rotation, and the subtree is as high as before. -/
theorem At.transform_single {c : P} {cb : Int} {outer inner : AvlTree P}
    (h : At o p (branch s n b (branch s c cb outer inner) light)) (hs : decide (b = 2) = s)
    (hcb : cb * sign s = 1) : Transformed (o.transform n delta) p
      (branch (!s) c 0 (branch (!s) n 0 light inner) outer) (delta - 1) := by
  obtain ⟨o', hrotate, h'⟩ := h.rotate_setBalance 0 0
  refine ⟨_, c, ?_, h', AvlTree.top_branch ..⟩
  unfold transform
  simp only [h.node_eq, BAVLNode.balance_sided, hs, BAVLNode.link_sided, AvlTree.top_branch,
    Option.bind_some, h.balance_child, hcb, if_true, hrotate, Option.map_some]

/-- The heavy child is even, which happens in a removal only: one rotation, and the height stays. -/
theorem At.transform_even {c : P} {cb : Int} {outer inner : AvlTree P}
    (h : At o p (branch s n b (branch s c cb outer inner) light)) (hs : decide (b = 2) = s)
    (hcb : cb * sign s = 0) : Transformed (o.transform n delta) p
      (branch (!s) c (-sign s) (branch (!s) n (sign s) light inner) outer) (delta + 0) := by
  obtain ⟨o', hrotate, h'⟩ := h.rotate_setBalance (sign s) (-sign s)
  refine ⟨_, c, ?_, h', AvlTree.top_branch ..⟩
  unfold transform
  simp only [h.node_eq, BAVLNode.balance_sided, hs, BAVLNode.link_sided, AvlTree.top_branch,
    Option.bind_some, h.balance_child, hcb, Int.zero_ne_one, if_false, if_true, hrotate,
    Option.map_some, Int.add_zero]

/-- The heavy child leans inwards: two rotations. -/
theorem At.transform_double {c g : P} {cb gb : Int} {outer far near : AvlTree P}
    (h : At o p (branch s n b (branch s c cb outer (branch s g gb far near)) light))
    (hs : decide (b = 2) = s) (hcb : cb * sign s = -1) : Transformed (o.transform n delta) p
      (branch (!s) g 0 (branch (!s) n (-max 0 (gb * sign s) * sign s) light near)
        (branch (!s) c (max 0 (-gb * sign s) * sign s) far outer)) (delta - 1) := by
  -- `g` goes up over `c` first, and then over `n`
  obtain ⟨o₁, hrotate₁, h₁⟩ := (At.down.mp h).rotate
  have hrot : At o₁ p
      (branch (!s) n b light (branch (!s) g gb near (branch s c cb outer far))) := by
    rw [branch_not, branch_not]
    exact At.down.mpr h₁
  obtain ⟨o₂, hrotate₂, h₂⟩ := hrot.rotate
  have hg₂ : (o₂.node g).balance = gb := by rw [h₂.node_eq, BAVLNode.balance_sided]
  -- the three balance factors, in the order in which the code sets them
  have h₃ := At.down.mpr ((At.down.mp h₂).setBalance (-max 0 (gb * sign s) * sign s))
  have hg₃ : ((o₂.setBalance n (-max 0 (gb * sign s) * sign s)).node g).balance = gb := by
    rw [h₃.node_eq, BAVLNode.balance_sided]
  rw [branch_not] at h₃
  have h₄ := At.down.mpr ((At.down.mp h₃).setBalance (max 0 (-gb * sign s) * sign s))
  have h₅ := h₄.setBalance 0
  rw [← branch_not s g, ← branch_not s c] at h₅
  refine ⟨_, g, ?_, h₅, AvlTree.top_branch ..⟩
  have hchild : (o.node c).link (!s) = some g := by
    rw [(At.down.mp h).node_eq, BAVLNode.link_not_sided, AvlTree.top_branch]
  unfold transform
  simp only [h.node_eq, BAVLNode.balance_sided, hs, BAVLNode.link_sided, AvlTree.top_branch,
    Option.bind_some, h.balance_child, hcb, hchild, hrotate₁, hrotate₂, Option.map_some, hg₂, hg₃]
  rfl

/-- Where `AvlTree.restore` rotates, the code does so in memory. -/
theorem At.transform (h : At o p (branch s n b heavy light)) (hs : decide (b = 2) = s)
    (hrestore : AvlTree.restore s n light heavy = some (t, d)) :
    Transformed (o.transform n delta) p t (delta + d) := by
  have hpos : 0 < heavy.height := by
    cases heavy with
    | nil => cases hrestore
    | node => exact Nat.succ_pos _
  -- the child on the heavy side decides
  obtain ⟨c, cb, outer, inner, rfl⟩ := AvlTree.exists_branch s hpos
  by_cases hone : cb * sign s = 1
  · rw [AvlTree.restore_single n light hone] at hrestore
    cases hrestore
    exact h.transform_single hs hone
  by_cases hzero : cb * sign s = 0
  · rw [AvlTree.restore_even n light hzero] at hrestore
    cases hrestore
    exact h.transform_even hs hzero
  · obtain ⟨hneg, hpos'⟩ := AvlTree.restore_otherwise hrestore hone hzero
    obtain ⟨g, gb, far, near, rfl⟩ := AvlTree.exists_branch s hpos'
    rw [AvlTree.restore_double n light hneg] at hrestore
    cases hrestore
    exact h.transform_double hs hneg

/-- What one round of `_BAVL_rebalance` does to the node it is at. -/
theorem At.rebalanceAt {f : Frame P} (h : At o (f :: p) t)
    (hat : AvlTree.rebalanceAt f t deltac = some (u, d)) :
    Transformed
      (if f.balance - optNeg deltac f.side = 2 ∨ f.balance - optNeg deltac f.side = -2 then
        (o.setBalance f.elem (f.balance - optNeg deltac f.side)).transform f.elem
          (max deltac (optNeg f.balance f.side) - max 0 (optNeg f.balance f.side))
      else some (o.setBalance f.elem (f.balance - optNeg deltac f.side), f.elem,
        max deltac (optNeg f.balance f.side) - max 0 (optNeg f.balance f.side))) p u d := by
  have hset := (At.down.mpr h).setBalance (f.balance - optNeg deltac f.side)
  unfold AvlTree.rebalanceAt at hat
  dsimp only at hat
  split
  · rename_i htwo
    rw [if_pos htwo] at hat
    obtain ⟨⟨v, d'⟩, hrestore, heq⟩ := Option.map_eq_some_iff.mp hat
    cases heq
    -- the heavy side is the one that has grown, or the other one if a side has shrunk
    by_cases hside : decide (f.balance - optNeg deltac f.side = 2) = f.side
    · rw [if_pos hside, if_pos hside] at hrestore
      rw [hside] at hrestore
      exact hset.transform hside hrestore
    · rw [if_neg hside, if_neg hside] at hrestore
      -- from the other side
      have hnot : decide (f.balance - optNeg deltac f.side = 2) = !f.side := by
        simpa using Bool.eq_not_of_ne hside
      rw [← branch_not] at hset
      rw [hnot] at hrestore
      exact hset.transform hnot hrestore
  · rename_i htwo
    rw [if_neg htwo] at hat
    cases hat
    exact ⟨_, _, rfl, hset, AvlTree.top_branch ..⟩

/-- The side that the code finds by comparing pointers. -/
theorem At.side_eq {g : Frame P} (h : At o (g :: p) t) (hn : top t = some n) :
    decide ((o.node g.elem).link true = some n) = g.side := by
  have hpath := h.path
  rw [hn] at hpath
  refine link_iff_side hpath ?_
  -- the sibling is another node
  intro hmem
  have hdisjoint := (List.nodup_append.mp h.nodup).2.2
  exact hdisjoint n (List.mem_cons_of_mem _ (List.mem_append_left _ hmem)) n
    (AvlTree.top_mem_toList hn) rfl

/-- The loop of `_BAVL_rebalance`, round by round, is `AvlTree.rebalance`. -/
theorem At.rebalance {f : Frame P} {k rounds : Nat} (h : At o (f :: p) t)
    (hpath : ValidPath k (f :: p)) (ht : Valid t) (hheight : (t.height : Int) = k + deltac)
    (hdeltac : -1 ≤ deltac ∧ deltac ≤ 1) (hrounds : p.length < rounds) :
    ∃ o' t', o.rebalance rounds f.elem f.side deltac = some o' ∧
      AvlTree.rebalance (f :: p) t deltac = some t' ∧ At o' [] t' := by
  induction rounds generalizing o t f p k deltac with
  | zero => exact absurd hrounds (Nat.not_lt_zero _)
  | succ rounds ih =>
    obtain ⟨hbal, hlow, hhigh, -, hpath'⟩ := id hpath
    have hbalance : (o.node f.elem).balance = f.balance := by
      rw [(At.down.mpr h).node_eq, BAVLNode.balance_sided]
    rw [BAVL.rebalance, AvlTree.rebalance]
    dsimp only
    rw [hbalance, asserting_pos ⟨hdeltac.1, hdeltac.2, hlow, hhigh⟩]
    -- a subtree that has kept its height ends the loop
    by_cases hzero : deltac = 0
    · rw [if_pos hzero, if_pos hzero]
      exact ⟨o, _, rfl, rfl, At.focus.mp h⟩
    · obtain ⟨t₁, d, hat, ht₁, hheight₁, hd, -⟩ :=
        (AvlTree.rebalanceAt_restored hpath ht hheight (by omega)).exists_eq
      obtain ⟨o₁, n, htransformed, h₁, htop⟩ := (h.rebalanceAt hat).exists_eq
      rw [if_neg hzero, if_neg hzero, asserting_pos (by omega), htransformed, hat,
        Option.bind_some, Option.bind_some]
      dsimp only
      -- the height has changed by one at most, so that the assertion of the next round holds
      rw [asserting_pos hd, h₁.parent_eq htop]
      -- the next round is at the parent, unless the root was reached
      cases p with
      | nil => exact ⟨o₁, t₁, rfl, rfl, h₁⟩
      | cons g p =>
        show ∃ o' t', o₁.rebalance rounds g.elem (decide ((o₁.node g.elem).link true = some n)) d =
          some o' ∧ AvlTree.rebalance (g :: p) t₁ d = some t' ∧ At o' [] t'
        rw [h₁.side_eq htop]
        exact ih h₁ hpath' ht₁ hheight₁ hd (by simpa using hrounds)

end BAVL

end OpenFlux

import Mathlib.Data.Tree.Basic
import Mathlib.Algebra.Order.Ring.Nat
import Mathlib.Tactic.Linarith

/-!
# AVL trees with stored balance factors

A node carries the height of its right subtree minus that of its left one.  A change of height
below a node is repaired bottom up: `rebalance` walks the path from the changed subtree to the
root, with the change so far, and rotates where a balance factor has become wrong.

Everything is stated for a side, `true` for right, so that no argument is made twice: in
`branch s x b t u` the subtree `t` is on side `s` and `u` on the other one.

## Key results

- `valid_plug`: a valid tree is a valid subtree on a path that expects its height
- `rebalance_valid`: `rebalance` restores a tree one of whose subtrees has become one higher or
  one lower, and does not reorder it
- `Valid.two_pow_height_le`: a valid tree is logarithmically high
-/

universe u

/-- A tree whose nodes carry a balance factor. -/
abbrev AvlTree (α : Type u) : Type u := BinaryTree (α × Int)

namespace AvlTree

variable {α : Type u}

/-! ## Trees -/

/-- A node with `t` on side `s` and `u` on the other one. -/
def branch (s : Bool) (x : α) (b : Int) (t u : AvlTree α) : AvlTree α :=
  if s then .node (x, b) u t else .node (x, b) t u

/-- The element at the root. -/
def top : AvlTree α → Option α
  | .nil => none
  | .node x _ _ => some x.1

/-- The elements from left to right. -/
def toList : AvlTree α → List α
  | .nil => []
  | .node x l r => toList l ++ x.1 :: toList r

@[simp]
theorem toList_nil : toList (.nil : AvlTree α) = [] := rfl

@[simp]
theorem toList_node (x : α × Int) (l r : AvlTree α) :
    toList (.node x l r) = toList l ++ x.1 :: toList r := rfl

@[simp]
theorem top_branch (s : Bool) (x : α) (b : Int) (t u : AvlTree α) :
    top (branch s x b t u) = some x := by
  cases s <;> rfl

@[simp]
theorem height_branch (s : Bool) (x : α) (b : Int) (t u : AvlTree α) :
    (branch s x b t u).height = max t.height u.height + 1 := by
  cases s
  · rfl
  · exact congrArg (· + 1) (Nat.max_comm _ _)

/-- Only the empty tree has no root. -/
theorem top_eq_none {t : AvlTree α} (h : top t = none) : t = .nil := by
  cases t with
  | nil => rfl
  | node => cases h

/-- The root is one of the elements. -/
theorem top_mem_toList {t : AvlTree α} {x : α} (h : top t = some x) : x ∈ toList t := by
  cases t with
  | nil => cases h
  | node y l r =>
    cases h
    exact List.mem_append_right _ List.mem_cons_self

/-- The list is as long as the tree has nodes. -/
theorem length_toList (t : AvlTree α) : (toList t).length = t.numNodes := by
  induction t with
  | nil => rfl
  | node x l r hl hr =>
    rw [toList_node, List.length_append, List.length_cons, hl, hr, BinaryTree.numNodes]
    omega

/-! ## Balance -/

/-- `b` as seen from side `s`: how much higher the subtree on the other side is. -/
def optNeg (b : Int) (s : Bool) : Int := if s then -b else b

@[simp]
theorem optNeg_true (b : Int) : optNeg b true = -b := rfl

@[simp]
theorem optNeg_false (b : Int) : optNeg b false = b := rfl

/-- The balance factor of a node whose subtree on side `s` is one higher than the other. -/
def sign (s : Bool) : Int := if s then 1 else -1

@[simp]
theorem sign_true : sign true = 1 := rfl

@[simp]
theorem sign_false : sign false = -1 := rfl

/-- Every balance factor is the difference of the two heights, and at most one either way. -/
def Valid : AvlTree α → Prop
  | .nil => True
  | .node x l r => x.2 = (r.height : Int) - l.height ∧ -1 ≤ x.2 ∧ x.2 ≤ 1 ∧ Valid l ∧ Valid r

/-- The same for a node that is given by its sides. -/
theorem valid_branch {s : Bool} {x : α} {b : Int} {t u : AvlTree α} :
    Valid (branch s x b t u) ↔
      optNeg b s = (u.height : Int) - t.height ∧ -1 ≤ b ∧ b ≤ 1 ∧ Valid t ∧ Valid u := by
  cases s
  · exact Iff.rfl
  · show b = (t.height : Int) - u.height ∧ -1 ≤ b ∧ b ≤ 1 ∧ Valid u ∧ Valid t ↔
      -b = (u.height : Int) - t.height ∧ -1 ≤ b ∧ b ≤ 1 ∧ Valid t ∧ Valid u
    constructor
    · rintro ⟨hb, hlow, hhigh, hu, ht⟩
      exact ⟨by omega, hlow, hhigh, ht, hu⟩
    · rintro ⟨hb, hlow, hhigh, ht, hu⟩
      exact ⟨by omega, hlow, hhigh, hu, ht⟩

/-- Two levels of a valid tree double it. -/
theorem Valid.two_pow_height_le {t : AvlTree α} (h : Valid t) :
    2 ^ t.height ≤ (t.numNodes + 1) ^ 2 := by
  induction t with
  | nil => exact le_refl 1
  | node x l r hl hr =>
    obtain ⟨hb, hlow, hhigh, hvl, hvr⟩ := h
    -- the higher subtree has height `k`, the lower one at least `k - 1`
    have hstep : ∀ {k m a c : Nat}, k ≤ m + 1 → 2 ^ k ≤ (a + 1) ^ 2 → 2 ^ m ≤ (c + 1) ^ 2 →
        2 ^ (k + 1) ≤ (a + c + 1 + 1) ^ 2 := by
      intro k m a c hkm ha hc
      have hk : 2 ^ k ≤ 2 * (c + 1) ^ 2 := by
        calc 2 ^ k ≤ 2 ^ (m + 1) := Nat.pow_le_pow_right (by omega) hkm
          _ = 2 * 2 ^ m := by rw [Nat.pow_succ, Nat.mul_comm]
          _ ≤ 2 * (c + 1) ^ 2 := Nat.mul_le_mul_left 2 hc
      rw [Nat.pow_succ]
      rcases Nat.le_total a c with hac | hac <;> nlinarith
    simp only [BinaryTree.height, BinaryTree.numNodes]
    rcases Nat.le_total l.height r.height with hle | hle
    · rw [Nat.max_eq_right hle, Nat.add_comm l.numNodes]
      exact hstep (by omega) (hr hvr) (hl hvl)
    · rw [Nat.max_eq_left hle]
      exact hstep (by omega) (hl hvl) (hr hvr)

/-! ## Paths -/

/-- A node on the path to a subtree, with what hangs on its other side. -/
structure Frame (α : Type u) where
  /-- the side of the subtree -/
  side : Bool
  elem : α
  balance : Int
  other : AvlTree α

/-- The tree around a subtree; the parent of the subtree comes first. -/
def plug : List (Frame α) → AvlTree α → AvlTree α
  | [], t => t
  | f :: p, t => plug p (branch f.side f.elem f.balance t f.other)

/-- What comes before the subtree. -/
def before : List (Frame α) → List α
  | [] => []
  | f :: p => before p ++ if f.side then toList f.other ++ [f.elem] else []

/-- What comes behind it. -/
def after : List (Frame α) → List α
  | [] => []
  | f :: p => (if f.side then [] else f.elem :: toList f.other) ++ after p

/-- The elements of a node that is given by its sides, around those of its subtree on side `s`. -/
theorem toList_branch (s : Bool) (x : α) (b : Int) (t u : AvlTree α) : toList (branch s x b t u) =
    (if s then toList u ++ [x] else []) ++ toList t ++ if s then [] else x :: toList u := by
  cases s <;> simp [branch]

/-- The elements of the whole tree, around those of the subtree. -/
theorem toList_plug (p : List (Frame α)) (t : AvlTree α) :
    toList (plug p t) = before p ++ toList t ++ after p := by
  induction p generalizing t with
  | nil => simp [plug, before, after]
  | cons f p ih =>
    rw [plug, ih, toList_branch, before, after]
    simp only [List.append_assoc]

/-- The elements of the tree around a subtree. -/
def pathElems : List (Frame α) → List α
  | [] => []
  | f :: p => f.elem :: (toList f.other ++ pathElems p)

/-- The elements of a node in some order, whatever the side. -/
theorem toList_branch_perm (s : Bool) (x : α) (b : Int) (t u : AvlTree α) :
    (toList (branch s x b t u)).Perm (x :: (toList u ++ toList t)) := by
  cases s
  · show (toList t ++ x :: toList u).Perm _
    exact List.perm_middle.trans (List.Perm.cons x List.perm_append_comm)
  · exact List.perm_middle

/-- The elements of the whole tree in some order: those of the path, then those of the subtree. -/
theorem toList_plug_perm (p : List (Frame α)) (t : AvlTree α) :
    (toList (plug p t)).Perm (pathElems p ++ toList t) := by
  induction p generalizing t with
  | nil => exact List.Perm.refl _
  | cons f p ih =>
    refine (ih _).trans ?_
    have hbranch := toList_branch_perm f.side f.elem f.balance t f.other
    refine (List.Perm.append_left _ hbranch).trans ?_
    rw [pathElems, List.cons_append, List.append_assoc]
    refine List.perm_middle.trans (List.Perm.cons _ ?_)
    rw [← List.append_assoc, ← List.append_assoc]
    exact List.Perm.append_right _ List.perm_append_comm

/-- A path in two parts. -/
theorem plug_append (p q : List (Frame α)) (t : AvlTree α) :
    plug (p ++ q) t = plug q (plug p t) := by
  induction p generalizing t with
  | nil => rfl
  | cons f p ih => exact ih _

/-- An element is somewhere in the tree. -/
theorem exists_plug_of_mem {t : AvlTree α} {x : α} (h : x ∈ toList t) :
    ∃ p b l r, t = plug p (.node (x, b) l r) := by
  induction t with
  | nil => cases h
  | node y l r hl hr =>
    rw [toList_node, List.mem_append, List.mem_cons] at h
    obtain h | rfl | h := h
    · -- the path from below is longer by the frame of this node
      obtain ⟨p, b, l', r', rfl⟩ := hl h
      refine ⟨p ++ [⟨false, y.1, y.2, r⟩], b, l', r', ?_⟩
      rw [plug_append]
      rfl
    · exact ⟨[], y.2, l, r, rfl⟩
    · obtain ⟨p, b, l', r', rfl⟩ := hr h
      refine ⟨p ++ [⟨true, y.1, y.2, l⟩], b, l', r', ?_⟩
      rw [plug_append]
      rfl

/-- A subtree is as much lower than the tree as its path is long, or lower still. -/
theorem length_add_height_le (p : List (Frame α)) (t : AvlTree α) :
    p.length + t.height ≤ (plug p t).height := by
  induction p generalizing t with
  | nil => exact Nat.le_of_eq (Nat.zero_add _)
  | cons f p ih =>
    have hle := ih (branch f.side f.elem f.balance t f.other)
    rw [height_branch] at hle
    rw [plug, List.length_cons]
    omega

/-- The balance factors on the path are those of a valid tree with a subtree of height `h`. -/
def ValidPath : Nat → List (Frame α) → Prop
  | _, [] => True
  | h, f :: p => optNeg f.balance f.side = (f.other.height : Int) - h ∧ -1 ≤ f.balance ∧
      f.balance ≤ 1 ∧ Valid f.other ∧ ValidPath (max h f.other.height + 1) p

/-- A tree is valid if the subtree is, and its path expects the height that it has. -/
theorem valid_plug {p : List (Frame α)} {t : AvlTree α} :
    Valid (plug p t) ↔ Valid t ∧ ValidPath t.height p := by
  induction p generalizing t with
  | nil => simp [plug, ValidPath]
  | cons f p ih =>
    rw [plug, ih, valid_branch, height_branch, ValidPath]
    tauto

/-! ## Rebalancing -/

/-- The rotations for a node `x` whose subtree on side `s` is too high: the new subtree, and
    what that changes about the height. -/
def restore (s : Bool) (x : α) (light : AvlTree α) : AvlTree α → Option (AvlTree α × Int)
  | .nil => none
  | .node (c, cb) l r =>
    let outer := if s then r else l
    if cb * sign s = 1 then
      let inner := if s then l else r
      some (branch (!s) c 0 (branch (!s) x 0 light inner) outer, -1)
    else if cb * sign s = 0 then
      let inner := if s then l else r
      some (branch (!s) c (-sign s) (branch (!s) x (sign s) light inner) outer, 0)
    else if cb * sign s = -1 then
      match if s then l else r with
      | .nil => none
      | .node (g, gb) gl gr =>
        -- `near` goes to `x` and `far` to `c`
        let near := if s then gl else gr
        let far := if s then gr else gl
        some (branch (!s) g 0 (branch (!s) x (-max 0 (gb * sign s) * sign s) light near)
          (branch (!s) c (max 0 (-gb * sign s) * sign s) far outer), -1)
    else none

/-- `restore` when the heavy child leans outwards. -/
theorem restore_single (x : α) (light : AvlTree α) {s : Bool} {c : α} {cb : Int}
    {outer inner : AvlTree α} (h : cb * sign s = 1) :
    restore s x light (branch s c cb outer inner) =
      some (branch (!s) c 0 (branch (!s) x 0 light inner) outer, -1) := by
  cases s <;> simp_all [restore, branch]

/-- `restore` when the heavy child leans to neither side. -/
theorem restore_even (x : α) (light : AvlTree α) {s : Bool} {c : α} {cb : Int}
    {outer inner : AvlTree α} (h : cb * sign s = 0) :
    restore s x light (branch s c cb outer inner) =
      some (branch (!s) c (-sign s) (branch (!s) x (sign s) light inner) outer, 0) := by
  cases s <;> simp_all [restore, branch]

/-- `restore` when the heavy child leans inwards. -/
theorem restore_double (x : α) (light : AvlTree α) {s : Bool} {c g : α} {cb gb : Int}
    {outer far near : AvlTree α} (h : cb * sign s = -1) :
    restore s x light (branch s c cb outer (branch s g gb far near)) =
      some (branch (!s) g 0 (branch (!s) x (-max 0 (gb * sign s) * sign s) light near)
        (branch (!s) c (max 0 (-gb * sign s) * sign s) far outer), -1) := by
  cases s <;> simp_all [restore, branch]

/-- A call of `restore` that returns leaves no fourth case. -/
theorem restore_otherwise {s : Bool} {x c : α} {cb : Int} {light outer inner : AvlTree α}
    {r : AvlTree α × Int} (h : restore s x light (branch s c cb outer inner) = some r)
    (hone : cb * sign s ≠ 1) (hzero : cb * sign s ≠ 0) :
    cb * sign s = -1 ∧ 0 < inner.height := by
  by_cases hneg : cb * sign s = -1
  · refine ⟨hneg, ?_⟩
    cases inner with
    | nil => cases s <;> simp_all [restore, branch]
    | node => exact Nat.succ_pos _
  · cases s <;> simp_all [restore, branch]

/-- One node of the path, when the height of the subtree below it has changed by `deltac`. -/
def rebalanceAt (f : Frame α) (t : AvlTree α) (deltac : Int) : Option (AvlTree α × Int) :=
  let delta := max deltac (optNeg f.balance f.side) - max 0 (optNeg f.balance f.side)
  let balance := f.balance - optNeg deltac f.side
  if balance = 2 ∨ balance = -2 then
    let s := decide (balance = 2)
    let heavy := if s = f.side then t else f.other
    let light := if s = f.side then f.other else t
    (restore s f.elem light heavy).map fun r => (r.1, delta + r.2)
  else some (branch f.side f.elem balance t f.other, delta)

/-- The walk from the changed subtree to the root; it ends where the height is the old one. -/
def rebalance : List (Frame α) → AvlTree α → Int → Option (AvlTree α)
  | [], t, _ => some t
  | f :: p, t, deltac =>
    if deltac = 0 then some (plug (f :: p) t)
    else (rebalanceAt f t deltac).bind fun r => rebalance p r.1 r.2

/-- What is needed of a repaired subtree: it is valid, its height has changed as told, by one
    down to `most` up, and it holds what there was. -/
structure Restored (result : Option (AvlTree α × Int)) (most height : Int) (elems : List α) :
    Prop where
  exists_eq : ∃ t d, result = some (t, d) ∧ Valid t ∧ (t.height : Int) = height + d ∧
    (-1 ≤ d ∧ d ≤ most) ∧ toList t = elems

/-- A tree that is not empty is a node, seen from either side. -/
theorem exists_branch (s : Bool) {t : AvlTree α} (h : 0 < t.height) :
    ∃ x b u v, t = branch s x b u v := by
  cases t with
  | nil => cases h
  | node x l r =>
    cases s
    · exact ⟨x.1, x.2, l, r, rfl⟩
    · exact ⟨x.1, x.2, r, l, rfl⟩

section Rotations

variable {s : Bool} {x c : α} {cb : Int} {light outer inner : AvlTree α}

/-- The subtree leans outwards, or not at all: a single rotation. -/
theorem restored_single (hlight : Valid light) (hheavy : Valid (branch s c cb outer inner))
    (hheight : (branch s c cb outer inner).height = light.height + 2)
    (hleans : inner.height ≤ outer.height) :
    Restored (restore s x light (branch s c cb outer inner)) 0 (light.height + 3)
      (toList (branch s x 0 (branch s c cb outer inner) light)) := by
  rw [valid_branch] at hheavy
  obtain ⟨hbal, hlow, hhigh, houter, hinner⟩ := hheavy
  rw [height_branch] at hheight
  by_cases heq : inner.height = outer.height
  · -- level: the rotated subtree stays as high as it was
    have hcb : cb * sign s = 0 := by
      cases s <;> simp only [optNeg_true, optNeg_false, sign_true, sign_false] at hbal ⊢ <;> omega
    refine ⟨_, _, restore_even x light hcb, ?_, ?_, by omega, ?_⟩
    · rw [valid_branch, valid_branch, height_branch]
      cases s <;> simp only [optNeg_true, optNeg_false, sign_true, sign_false, Bool.not_true,
        Bool.not_false] <;>
        refine ⟨?_, ?_, ?_, ⟨?_, ?_, ?_, hlight, hinner⟩, houter⟩ <;> omega
    · rw [height_branch, height_branch]
      omega
    · cases s <;> simp [branch]
  · -- outwards: it becomes one lower
    have hcb : cb * sign s = 1 := by
      cases s <;> simp only [optNeg_true, optNeg_false, sign_true, sign_false] at hbal ⊢ <;> omega
    have hone : outer.height = inner.height + 1 := by
      cases s <;> simp only [optNeg_true, optNeg_false] at hbal <;> omega
    refine ⟨_, _, restore_single x light hcb, ?_, ?_, by omega, ?_⟩
    · rw [valid_branch, valid_branch, height_branch]
      cases s <;> simp only [optNeg_true, optNeg_false, Bool.not_true, Bool.not_false] <;>
        refine ⟨?_, ?_, ?_, ⟨?_, ?_, ?_, hlight, hinner⟩, houter⟩ <;> omega
    · rw [height_branch, height_branch]
      omega
    · cases s <;> simp [branch]

/-- The heavy subtree leans inwards: a double rotation. -/
theorem restored_double (hlight : Valid light) (hheavy : Valid (branch s c cb outer inner))
    (hheight : (branch s c cb outer inner).height = light.height + 2)
    (hleans : outer.height < inner.height) :
    Restored (restore s x light (branch s c cb outer inner)) 0 (light.height + 3)
      (toList (branch s x 0 (branch s c cb outer inner) light)) := by
  obtain ⟨g, gb, far, near, rfl⟩ := exists_branch s (Nat.zero_lt_of_lt hleans)
  rw [valid_branch, valid_branch] at hheavy
  obtain ⟨hbal, hlow, hhigh, houter, hgbal, hglow, hghigh, hfar, hnear⟩ := hheavy
  rw [height_branch] at hheight hleans hbal
  rw [height_branch] at hheight
  -- the grandchild `g` becomes the root, and its subtrees are dealt out to `x` and `c`
  have hcb : cb * sign s = -1 := by
    cases s <;> simp only [optNeg_true, optNeg_false, sign_true, sign_false] at hbal ⊢ <;> omega
  have hinner : max far.height near.height = outer.height := by
    cases s <;> simp only [optNeg_true, optNeg_false] at hbal <;> omega
  refine ⟨_, _, restore_double x light hcb, ?_, ?_, by omega, ?_⟩
  · rw [valid_branch, valid_branch, valid_branch, height_branch, height_branch]
    cases s <;> simp only [optNeg_true, optNeg_false, sign_true, sign_false, Bool.not_true,
      Bool.not_false] at hgbal ⊢ <;>
      refine ⟨?_, ?_, ?_, ⟨?_, ?_, ?_, hlight, hnear⟩, ?_, ?_, ?_, hfar, houter⟩ <;> omega
  · rw [height_branch, height_branch, height_branch]
    cases s <;> simp only [optNeg_true, optNeg_false] at hgbal <;> omega
  · cases s <;> simp [branch]

/-- A subtree that is two too high is repaired, whichever way it leans. -/
theorem restored_of_heavy (hlight : Valid light) {heavy : AvlTree α} (hheavy : Valid heavy)
    (hheight : heavy.height = light.height + 2) :
    Restored (restore s x light heavy) 0 (light.height + 3)
      (toList (branch s x 0 heavy light)) := by
  obtain ⟨c, cb, outer, inner, rfl⟩ := exists_branch s (t := heavy) (by omega)
  rcases Nat.lt_or_ge outer.height inner.height with hleans | hleans
  · exact restored_double hlight hheavy hheight hleans
  · exact restored_single hlight hheavy hheight hleans

end Rotations

/-- The change of a rotation comes on top of what the node itself has gained. -/
theorem Restored.map_add {result : Option (AvlTree α × Int)} {height height' delta : Int}
    {elems : List α} (h : Restored result 0 height elems) (hheight : height = height' + delta)
    (hdelta : 0 ≤ delta ∧ delta ≤ 1) :
    Restored (result.map fun r => (r.1, delta + r.2)) 1 height' elems := by
  obtain ⟨t, d, rfl, ht, hth, hd, hlist⟩ := h.exists_eq
  exact ⟨t, delta + d, rfl, ht, by omega, by omega, hlist⟩

/-- A node whose balance factor has become wrong is too high on the side that has grown, or on
    the other one if that has shrunk. -/
theorem heavy_of_balance {balance deltac : Int} {side : Bool} {h k m : Nat}
    (hbal : optNeg balance side = (k : Int) - h) (hlow : -1 ≤ balance) (hhigh : balance ≤ 1)
    (hheight : (m : Int) = h + deltac) (hdeltac : deltac = 1 ∨ deltac = -1)
    (htwo : balance - optNeg deltac side = 2 ∨ balance - optNeg deltac side = -2) :
    decide (balance - optNeg deltac side = 2) = side ∧ m = k + 2 ∧ deltac = 1 ∨
      decide (balance - optNeg deltac side = 2) = (!side) ∧ k = m + 2 ∧ deltac = -1 := by
  cases side <;> simp only [optNeg_true, optNeg_false] at hbal htwo ⊢
  · obtain htwo | htwo := htwo <;> simp only [htwo] <;> simp <;> omega
  · obtain htwo | htwo := htwo <;> simp only [htwo] <;> simp <;> omega

/-- One round of `rebalance` repairs one node of the path. -/
theorem rebalanceAt_restored {f : Frame α} {p : List (Frame α)} {t : AvlTree α} {h : Nat}
    {deltac : Int} (hpath : ValidPath h (f :: p)) (ht : Valid t)
    (hheight : (t.height : Int) = h + deltac) (hdeltac : deltac = 1 ∨ deltac = -1) :
    Restored (rebalanceAt f t deltac) 1 (max h f.other.height + 1 : Nat)
      (toList (branch f.side f.elem f.balance t f.other)) := by
  obtain ⟨hbal, hlow, hhigh, hother, -⟩ := hpath
  unfold rebalanceAt
  dsimp only
  split
  · rename_i htwo
    rw [hbal]
    obtain ⟨hs, htall, hd⟩ | ⟨hs, htall, hd⟩ :=
      heavy_of_balance hbal hlow hhigh hheight hdeltac htwo
    · -- the changed subtree has grown and is the heavy one
      rw [hs, if_pos rfl, if_pos rfl]
      have hlist : toList (branch f.side f.elem 0 t f.other) =
          toList (branch f.side f.elem f.balance t f.other) := by
        rw [toList_branch, toList_branch]
      rw [← hlist]
      exact (restored_of_heavy hother ht htall).map_add (by omega) (by omega)
    · -- it has shrunk, and the other one is two higher now
      rw [hs, if_neg (by simp), if_neg (by simp)]
      have hlist : toList (branch (!f.side) f.elem 0 f.other t) =
          toList (branch f.side f.elem f.balance t f.other) := by
        cases f.side <;> rfl
      rw [← hlist]
      exact (restored_of_heavy ht hother htall).map_add (by omega) (by omega)
  · -- no rotation: the new balance factor is a legal one
    rename_i hne
    refine ⟨_, _, rfl, ?_, ?_, ?_, ?_⟩
    · rw [valid_branch]
      cases hside : f.side <;> simp only [hside, optNeg_true, optNeg_false] at hbal hne ⊢ <;>
        exact ⟨by omega, by omega, by omega, ht, hother⟩
    · rw [height_branch, hbal]
      omega
    · rw [hbal]
      omega
    · rw [toList_branch, toList_branch]

/-- `rebalance` makes the tree valid again and keeps the order of its elements. -/
theorem rebalance_valid {p : List (Frame α)} {t : AvlTree α} {h : Nat} {deltac : Int}
    (hpath : ValidPath h p) (ht : Valid t) (hheight : (t.height : Int) = h + deltac)
    (hdeltac : -1 ≤ deltac ∧ deltac ≤ 1) :
    ∃ t', rebalance p t deltac = some t' ∧ Valid t' ∧ toList t' = toList (plug p t) := by
  induction p generalizing t h deltac with
  | nil => exact ⟨t, rfl, ht, rfl⟩
  | cons f p ih =>
    rw [rebalance]
    by_cases hzero : deltac = 0
    · rw [if_pos hzero]
      refine ⟨_, rfl, valid_plug.mpr ⟨ht, ?_⟩, rfl⟩
      -- the path still expects the height of the subtree
      have heq : t.height = h := by omega
      rwa [heq]
    · obtain ⟨t₁, d, hat, ht₁, hheight₁, hd, hlist⟩ :=
        (rebalanceAt_restored hpath ht hheight (by omega)).exists_eq
      -- the rest of the path, with the change that this round passes on
      obtain ⟨t', hrest, ht', hlist'⟩ := ih hpath.2.2.2.2 ht₁ hheight₁ hd
      refine ⟨t', ?_, ht', ?_⟩
      · rw [if_neg hzero, hat]
        exact hrest
      · rw [hlist', plug, toList_plug, toList_plug, hlist]

end AvlTree

import OpenFlux.ForStd.Asserting
import OpenFlux.ForStd.Avl

/-!
# The AVL tree of BadVPN

The nodes of a `BAVL` lie inside other structures: a tree is a root and the memory that holds
the nodes, and a pointer `P` is whatever tells the structures apart.  The value of a node is
read through `value`, since it belongs to the structure around the node.

A function returns `none` where the code dereferences `NULL` or an `ASSERT` fails.  The loops
take the number of rounds they may make, and return `none` when these are used up.
`BAVL_COUNT` is not defined in this program.
-/

namespace OpenFlux

/-- `struct BAVLNode` -/
structure BAVLNode (P : Type*) where
  parent : Option P := none
  /-- `link[0]` -/
  left : Option P := none
  /-- `link[1]` -/
  right : Option P := none
  balance : Int := 0
  deriving DecidableEq, Repr

namespace BAVLNode

variable {P : Type*}

/-- `n->link[side]` -/
def link (n : BAVLNode P) (side : Bool) : Option P := if side then n.right else n.left

/-- `n->link[side] = c` -/
def setLink (n : BAVLNode P) (side : Bool) (c : Option P) : BAVLNode P :=
  if side then { n with right := c } else { n with left := c }

/-- `n->parent = p` -/
def setParent (n : BAVLNode P) (p : Option P) : BAVLNode P := { n with parent := p }

/-- `n->balance = b` -/
def setBalance (n : BAVLNode P) (b : Int) : BAVLNode P := { n with balance := b }

end BAVLNode

/-- `struct BAVL`, with the memory of its nodes -/
structure BAVL (P : Type*) where
  root : Option P := none
  node : P → BAVLNode P := fun _ => {}

namespace BAVL

variable {P : Type*} [DecidableEq P]

/-! ## Memory -/

/-- A write to one node. -/
def update (o : BAVL P) (x : P) (f : BAVLNode P → BAVLNode P) : BAVL P :=
  { o with node := fun y => if y = x then f (o.node x) else o.node y }

/-- `x->link[side] = c` in memory -/
def setLink (o : BAVL P) (x : P) (side : Bool) (c : Option P) : BAVL P :=
  o.update x fun n => n.setLink side c

/-- `x->parent = p` in memory -/
def setParent (o : BAVL P) (x : P) (p : Option P) : BAVL P :=
  o.update x fun n => n.setParent p

/-- `x->balance = b` in memory -/
def setBalance (o : BAVL P) (x : P) (b : Int) : BAVL P :=
  o.update x fun n => n.setBalance b

/-- `if (c) c->parent = p` -/
def setParentOf (o : BAVL P) (c : Option P) (p : Option P) : BAVL P :=
  match c with
  | some c => o.setParent c p
  | none => o

/-- `if (p) p->link[n == p->link[1]] = c; else tree->root = c` -/
def relink (o : BAVL P) (p : Option P) (n : P) (c : Option P) : BAVL P :=
  match p with
  | some p => o.setLink p ((o.node p).link true = some n) c
  | none => { o with root := c }

/-! ## Moving nodes -/

/-- `_BAVL_rotate` -/
def rotate (o : BAVL P) (r : P) (dir : Bool) : Option (BAVL P) :=
  ((o.node r).link (!dir)).map fun nr =>
  -- move the inner subtree of `nr` to `r`
  let o := o.setLink r (!dir) ((o.node nr).link dir)
  let o := o.setParentOf ((o.node r).link (!dir)) (some r)
  -- put `nr` in the place of `r`, and `r` below it
  let o := o.setLink nr dir (some r)
  let o := o.setParent nr (o.node r).parent
  let o := o.relink (o.node nr).parent r (some nr)
  o.setParent r (some nr)

/-- `while (n->link[side]) n = n->link[side]`, in `_BAVL_subtree_max`, `BAVL_GetFirst` and others -/
def farthest (o : BAVL P) (side : Bool) : Nat → P → Option P
  | 0, _ => none
  | rounds + 1, n =>
    match (o.node n).link side with
    | some c => farthest o side rounds c
    | none => some n

/-- `_BAVL_subtree_max` -/
def subtreeMax (o : BAVL P) (rounds : Nat) (n : P) : Option P := o.farthest true rounds n

/-- `_BAVL_replace_subtree` -/
def replaceSubtree (o : BAVL P) (dest : P) (n : Option P) : BAVL P :=
  let o := o.relink (o.node dest).parent dest n
  o.setParentOf n (o.node dest).parent

/-- `_BAVL_swap_nodes` for two nodes that are directly connected, `n1` above `n2` -/
def swapConnected (o : BAVL P) (n1 n2 : P) : BAVL P :=
  -- `n1` is above `n2`
  let side : Bool := (o.node n1).link true = some n2
  let c := (o.node n1).link (!side)
  -- the children of `n2` go to `n1`
  let o := o.setLink n1 false ((o.node n2).link false)
  let o := o.setParentOf ((o.node n1).link false) (some n1)
  let o := o.setLink n1 true ((o.node n2).link true)
  let o := o.setParentOf ((o.node n1).link true) (some n1)
  -- `n2` takes the place of `n1`, with `n1` and the other child below it
  let o := o.setParent n2 (o.node n1).parent
  let o := o.relink (o.node n2).parent n1 (some n2)
  let o := o.setLink n2 side (some n1)
  let o := o.setParent n1 (some n2)
  let o := o.setLink n2 (!side) c
  o.setParentOf c (some n2)

/-- `_BAVL_swap_nodes` for two other nodes -/
def swapApart (o : BAVL P) (n1 n2 : P) : BAVL P :=
  -- swap parents
  let temp := (o.node n1).parent
  let o := o.setParent n1 (o.node n2).parent
  let o := o.relink (o.node n1).parent n2 (some n1)
  let o := o.setParent n2 temp
  let o := o.relink (o.node n2).parent n1 (some n2)
  -- swap left children
  let temp := (o.node n1).link false
  let o := o.setLink n1 false ((o.node n2).link false)
  let o := o.setParentOf ((o.node n1).link false) (some n1)
  let o := o.setLink n2 false temp
  let o := o.setParentOf ((o.node n2).link false) (some n2)
  -- swap right children
  let temp := (o.node n1).link true
  let o := o.setLink n1 true ((o.node n2).link true)
  let o := o.setParentOf ((o.node n1).link true) (some n1)
  let o := o.setLink n2 true temp
  o.setParentOf ((o.node n2).link true) (some n2)

/-- `_BAVL_swap_nodes` -/
def swapNodes (o : BAVL P) (n1 n2 : P) : BAVL P :=
  let o :=
    if (o.node n2).parent = some n1 ∨ (o.node n1).parent = some n2 then
      if (o.node n1).parent = some n2 then o.swapConnected n2 n1 else o.swapConnected n1 n2
    else o.swapApart n1 n2
  let b := (o.node n1).balance
  (o.setBalance n1 (o.node n2).balance).setBalance n2 b

/-! ## Rebalancing -/

open AvlTree (optNeg sign)

/-- The transformations of `_BAVL_rebalance`, with the new `node` and `delta` -/
def transform (o : BAVL P) (node : P) (delta : Int) : Option (BAVL P × P × Int) :=
  let bside : Bool := (o.node node).balance = 2
  ((o.node node).link bside).bind fun child =>
  let lean := (o.node child).balance * sign bside
  if lean = 1 then
    -- single rotation
    (o.rotate node (!bside)).map fun o =>
    ((o.setBalance node 0).setBalance child 0, child, delta - 1)
  else if lean = 0 then
    -- single rotation that keeps the height; only after a removal
    (o.rotate node (!bside)).map fun o =>
    ((o.setBalance node (sign bside)).setBalance child (-sign bside), child, delta)
  else if lean = -1 then
    -- double rotation
    ((o.node child).link (!bside)).bind fun gchild =>
    (o.rotate child bside).bind fun o =>
    (o.rotate node (!bside)).map fun o =>
    let o := o.setBalance node (-max 0 ((o.node gchild).balance * sign bside) * sign bside)
    let o := o.setBalance child (max 0 (-(o.node gchild).balance * sign bside) * sign bside)
    (o.setBalance gchild 0, gchild, delta - 1)
  else none

/-- `_BAVL_rebalance` -/
def rebalance : Nat → BAVL P → P → Bool → Int → Option (BAVL P)
  | 0, _, _, _, _ => none
  | rounds + 1, o, node, side, deltac =>
    let balance := (o.node node).balance
    asserting (-1 ≤ deltac ∧ deltac ≤ 1 ∧ -1 ≤ balance ∧ balance ≤ 1) <|
    -- if no subtree changed its height, no more rebalancing is needed
    if deltac = 0 then some o
    else
      -- how much the height of this subtree changes
      let delta := max deltac (optNeg balance side) - max 0 (optNeg balance side)
      let balance := balance - optNeg deltac side
      let o := o.setBalance node balance
      asserting (-1 ≤ delta ∧ delta ≤ 1) <|
      -- the transformations say which node is on top now
      (if balance = 2 ∨ balance = -2 then o.transform node delta
        else some (o, node, delta)).bind fun (o, node, delta) =>
      asserting (-1 ≤ delta ∧ delta ≤ 1) <|
      match (o.node node).parent with
      -- the recursive call for the parent
      | some p => rebalance rounds o p ((o.node p).link true = some node) delta
      | none => some o

/-! ## Searching -/

/-- The loop of `BAVL_Insert` and `BAVL_LookupExact`: it ends at a node that
    compares equal, or that has no child where the search would go on. -/
def walk (o : BAVL P) (compareTo : P → Ordering) : Nat → P → Option (P × Ordering)
  | 0, _ => none
  | rounds + 1, c =>
    if compareTo c = .eq then some (c, .eq)
    else
      match (o.node c).link (compareTo c = .gt) with
      | some d => walk o compareTo rounds d
      | none => some (c, compareTo c)

section Comparator

variable {K : Type*} (comparator : K → K → Ordering) (value : P → K)

/-- `BAVL_LookupExact` -/
def lookupExact (o : BAVL P) (rounds : Nat) (val : K) : Option (Option P) :=
  match o.root with
  | none => some none
  | some c =>
    (o.walk (fun c => comparator val (value c)) rounds c).map fun r =>
      if r.2 = .eq then some r.1 else none

/-- `BAVL_Insert`; returns `*ref` and whether the node was inserted. -/
def insert (o : BAVL P) (rounds : Nat) (node : P) : Option (BAVL P × Option P × Bool) :=
  match o.root with
  -- the first node becomes the root, with no links and balance 0
  | none => some ({ o.update node (fun _ => {}) with root := some node }, none, true)
  | some c =>
    (o.walk (fun c => comparator (value node) (value c)) rounds c).bind fun (c, comp) =>
    if comp = .eq then some (o, some c, false)
    else
      -- a leaf below the last node of the search; its subtree has grown by one
      let side : Bool := comp = .gt
      let o := (o.setLink c side (some node)).update node fun _ => { parent := some c }
      (o.rebalance rounds c side 1).map fun o => (o, some c, true)

/-- What `_BAVL_assert_recurser` checks about a child, before it goes on there. -/
def assertChild (o : BAVL P) (n : P) (side : Bool) (recurse : P → Option Int) : Option Int :=
  match (o.node n).link side with
  | some c =>
    asserting ((o.node c).parent = some n) <|
    asserting (comparator (value c) (value n) = if side then .gt else .lt) <|
    recurse c
  | none => some 0

/-- `_BAVL_assert_recurser`, down to a depth; returns the height. -/
def assertRecurser (o : BAVL P) : Nat → P → Option Int
  | 0, _ => none
  | depth + 1, n =>
    asserting (-1 ≤ (o.node n).balance ∧ (o.node n).balance ≤ 1) <|
    (o.assertChild comparator value n false (assertRecurser o depth)).bind fun left =>
    (o.assertChild comparator value n true (assertRecurser o depth)).bind fun right =>
    asserting ((o.node n).balance = right - left) <|
    some (max left right + 1)

/-- `BAVL_Verify`: whether every assertion of it holds. -/
def verify (o : BAVL P) (depth : Nat) : Bool :=
  match o.root with
  | some n => (o.node n).parent = none ∧ (o.assertRecurser comparator value depth n).isSome
  | none => true

end Comparator

/-- `BAVL_Remove` of a node with at most one child -/
def unlink (o : BAVL P) (rounds : Nat) (node : P) : Option (BAVL P) :=
  let child := ((o.node node).link false).or ((o.node node).link true)
  asserting (¬ (((o.node node).link false).isSome ∧ ((o.node node).link true).isSome)) <|
  match (o.node node).parent with
  | some p =>
    -- the side has to be known before the link is overwritten
    let side : Bool := (o.node p).link true = some node
    (o.replaceSubtree node child).rebalance rounds p side (-1)
  | none => some (o.replaceSubtree node child)

/-- `BAVL_Remove` -/
def remove (o : BAVL P) (rounds : Nat) (node : P) : Option (BAVL P) :=
  match (o.node node).link false, (o.node node).link true with
  -- two children: change places with the maximum of the left subtree, which has at most one
  | some l, some _ =>
    (o.subtreeMax rounds l).bind fun m => (o.swapNodes node m).unlink rounds node
  | _, _ => o.unlink rounds node

/-- `BAVL_IsEmpty` -/
def isEmpty (o : BAVL P) : Bool := o.root.isNone

/-! ## Going through a tree -/

/-- `BAVL_GetFirst` -/
def getFirst (o : BAVL P) (rounds : Nat) : Option (Option P) :=
  match o.root with
  | none => some none
  | some n => (o.farthest false rounds n).map some

/-- `BAVL_GetLast` -/
def getLast (o : BAVL P) (rounds : Nat) : Option (Option P) :=
  match o.root with
  | none => some none
  | some n => (o.farthest true rounds n).map some

/-- `while (n->parent && n == n->parent->link[side]) n = n->parent; n = n->parent;` -/
def climb (o : BAVL P) (side : Bool) : Nat → P → Option (Option P)
  | 0, _ => none
  | rounds + 1, n =>
    match (o.node n).parent with
    | some p => if (o.node p).link side = some n then climb o side rounds p else some (some p)
    | none => some none

/-- The next node on a side. -/
def adjacent (o : BAVL P) (side : Bool) (rounds : Nat) (n : P) : Option (Option P) :=
  match (o.node n).link side with
  | some c => (o.farthest (!side) rounds c).map some
  | none => o.climb side rounds n

/-- `BAVL_GetNext` -/
def getNext (o : BAVL P) (rounds : Nat) (n : P) : Option (Option P) := o.adjacent true rounds n

/-- `BAVL_GetPrev` -/
def getPrev (o : BAVL P) (rounds : Nat) (n : P) : Option (Option P) := o.adjacent false rounds n

end BAVL

end OpenFlux

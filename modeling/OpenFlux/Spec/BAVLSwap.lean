import Mathlib.Data.List.Nodup
import Mathlib.Logic.Equiv.Basic
import OpenFlux.Spec.BAVLHeap

/-!
# `_BAVL_swap_nodes` exchanges two nodes

After the call the memory is as before with the two pointers exchanged everywhere: in the nodes
themselves and in all the nodes that point to them.  The code reaches the latter through the
two nodes, so that this rests on links and parent links that agree (`Linked`).

Two siblings would not be exchanged: the second assignment to the links of their parent looks
at what the first one has written.  `BAVL_Remove` exchanges a node with one below it.
-/

namespace OpenFlux

open AvlTree (Frame branch top toList plug pathElems)
open BAVLNode (sided)

/-- A node with all pointers renamed. -/
def BAVLNode.rename {P : Type*} (σ : P → P) (n : BAVLNode P) : BAVLNode P :=
  ⟨n.parent.map σ, n.left.map σ, n.right.map σ, n.balance⟩

namespace BAVL

variable {P : Type*} {o o' : BAVL P} {t : AvlTree P} {p : List (Frame P)} {x y n₁ n₂ : P}

/-! ## Links that agree -/

/-- The links and the parent links between the nodes of `S` agree. -/
structure Linked (o : BAVL P) (S : List P) : Prop where
  child : ∀ x ∈ S, ∀ s c, (o.node x).link s = some c → c ∈ S ∧ (o.node c).parent = some x
  parent : ∀ x ∈ S, ∀ q, (o.node x).parent = some q →
    q ∈ S ∧ q ≠ x ∧ ∃ s, (o.node q).link s = some x
  distinct : ∀ x ∈ S, ∀ c, (o.node x).link false = some c → (o.node x).link true ≠ some c
  root : ∀ x ∈ S, (o.node x).parent = none ↔ o.root = some x

/-- The nodes of a tree, with a subtree in focus. -/
theorem mem_toList_plug : x ∈ toList (plug p t) ↔ x ∈ pathElems p ∨ x ∈ toList t := by
  rw [(AvlTree.toList_plug_perm p t).mem_iff, List.mem_append]

/-- Behind a frame, the root is a node of the path. -/
theorem rootOf_mem {f : Frame P} {hole : Option P} (h : rootOf (f :: p) hole = some x) :
    x ∈ pathElems (f :: p) := by
  induction p generalizing f hole with
  | nil =>
    cases h
    exact List.mem_cons_self
  | cons g p ih =>
    -- the root does not depend on the frames below it
    have hroot : rootOf (g :: p) (some f.elem) = some x := h
    have hmem := ih hroot
    exact List.mem_cons_of_mem _ (List.mem_append_right _ hmem)

/-- The parent link of the root of a subtree. -/
theorem Rep.parent_of_top {node : P → BAVLNode P} {q : Option P} (h : Rep node q t)
    (hx : top t = some x) : (node x).parent = q := by
  cases t with
  | nil => cases hx
  | node y l r =>
    cases hx
    exact congrArg BAVLNode.parent h.1

/-- In a tree in memory the links agree. -/
theorem At.linked (h : At o [] t) : Linked o (toList t) := by
  -- each node is brought into focus
  have hfocus : ∀ x ∈ toList t, ∃ p b l r, t = plug p (.node (x, b) l r) ∧
      At o p (branch false x b l r) := by
    intro x hx
    obtain ⟨p, b, l, r, rfl⟩ := AvlTree.exists_plug_of_mem hx
    exact ⟨p, b, l, r, rfl, At.focus.mpr h⟩
  refine ⟨?_, ?_, ?_, ?_⟩
  · -- a child is in the subtree below, and its parent link is part of that subtree
    intro x hx s c hlink
    obtain ⟨p, b, l, r, rfl, hat⟩ := hfocus x hx
    rw [hat.node_eq] at hlink
    obtain ⟨-, hl, hr⟩ := hat.rep
    rw [mem_toList_plug, AvlTree.toList_node, List.mem_append, List.mem_cons]
    cases s with
    | false => exact ⟨by simp [AvlTree.top_mem_toList hlink], hl.parent_of_top hlink⟩
    | true => exact ⟨by simp [AvlTree.top_mem_toList hlink], hr.parent_of_top hlink⟩
  · -- the parent is the first frame of the path
    intro x hx q hq
    obtain ⟨p, b, l, r, rfl, hat⟩ := hfocus x hx
    rw [hat.node_eq, BAVLNode.parent_sided] at hq
    have hmem := mem_of_parentOf hq
    refine ⟨mem_toList_plug.mpr (.inl hmem), ?_, ?_⟩
    · rintro rfl
      exact (List.nodup_append.mp hat.nodup).2.2 q hmem q (by simp [branch]) rfl
    · cases p with
      | nil => cases hq
      | cons f p =>
        cases hq
        refine ⟨f.side, ?_⟩
        rw [hat.path.1, BAVLNode.link_sided]
        rfl
  · -- the two subtrees have no node in common
    -- only the root has an empty path above it
    intro x hx c hleft hright
    obtain ⟨p, b, l, r, rfl, hat⟩ := hfocus x hx
    rw [hat.node_eq] at hleft hright
    have hnodup := (List.nodup_append.mp hat.nodup).2.1
    have hdisjoint := (List.nodup_append.mp hnodup).2.2
    exact hdisjoint c (AvlTree.top_mem_toList hleft) c
      (List.mem_cons_of_mem _ (AvlTree.top_mem_toList hright)) rfl
  · intro x hx
    obtain ⟨p, b, l, r, rfl, hat⟩ := hfocus x hx
    rw [hat.node_eq, BAVLNode.parent_sided, hat.root]
    cases p with
    | nil => simp [parentOf, rootOf, branch, top]
    | cons f p =>
      refine iff_of_false (by simp [parentOf]) ?_
      intro hroot
      exact (List.nodup_append.mp hat.nodup).2.2 x (rootOf_mem hroot) x (by simp [branch]) rfl

/-! ## Renaming -/

/-- The tree with its pointers renamed; the balance factors stay in their places. -/
def relabel (σ : P → P) (t : AvlTree P) : AvlTree P := t.map (Prod.map σ id)

/-- Renaming renames the root. -/
theorem top_relabel (σ : P → P) (t : AvlTree P) : top (relabel σ t) = (top t).map σ := by
  cases t <;> rfl

/-- Renaming renames the nodes in their order. -/
theorem toList_relabel (σ : P → P) (t : AvlTree P) : toList (relabel σ t) = (toList t).map σ := by
  induction t with
  | nil => rfl
  | node x l r hl hr =>
    have hnode : relabel σ (.node x l r) = .node (σ x.1, x.2) (relabel σ l) (relabel σ r) := rfl
    rw [hnode, AvlTree.toList_node, hl, hr, AvlTree.toList_node, List.map_append, List.map_cons]

/-- A subtree with renamed pointers is in memory where all its nodes were renamed. -/
theorem Rep.relabel {σ : P → P} {node node' : P → BAVLNode P} {q : Option P} (h : Rep node q t)
    (heq : ∀ x ∈ toList t, node' (σ x) = (node x).rename σ) :
    Rep node' (q.map σ) (relabel σ t) := by
  induction t generalizing q with
  | nil => trivial
  | node x l r hl hr =>
    obtain ⟨hx, hrl, hrr⟩ := h
    simp only [AvlTree.toList_node, List.mem_append, List.mem_cons] at heq
    refine ⟨?_, hl hrl fun y hy => heq y (.inl hy), hr hrr fun y hy => heq y (.inr (.inr hy))⟩
    show node' (σ x.1) = _
    rw [heq x.1 (by simp), hx]
    -- the links of a node are the tops of its subtrees
    have hl' := top_relabel σ l
    have hr' := top_relabel σ r
    rw [BAVL.relabel] at hl' hr'
    rw [hl', hr']
    rfl

/-- If all pointers are renamed in memory, they are so in the tree. -/
theorem At.of_renamed {σ : P → P} (h : At o [] t) (hσ : Function.Injective σ)
    (hroot : o'.root = o.root.map σ)
    (heq : ∀ x ∈ toList t, o'.node (σ x) = (o.node x).rename σ) : At o' [] (relabel σ t) := by
  refine ⟨?_, h.rep.relabel heq, trivial, ?_⟩
  · rw [hroot, h.root, rootOf, rootOf, top_relabel]
  · rw [pathElems, List.nil_append, toList_relabel]
    exact List.Nodup.map hσ (List.nodup_append.mp h.nodup).2.1

/-! ## The assignments, field by field -/

section Assignments

variable [DecidableEq P] (o : BAVL P) (x y : P) (c q : Option P) (s s' : Bool)

/-- Writing a link changes no parent link. -/
theorem parent_setLink : ((o.setLink x s c).node y).parent = (o.node y).parent := by
  rw [node_setLink]
  split <;> simp

/-- Writing a link changes that link. -/
theorem link_setLink : ((o.setLink x s c).node y).link s' =
    if y = x ∧ s' = s then c else (o.node y).link s' := by
  rw [node_setLink]
  split <;> simp_all [BAVLNode.link_setLink]

/-- Writing a link changes no balance factor. -/
theorem balance_setLink : ((o.setLink x s c).node y).balance = (o.node y).balance := by
  rw [node_setLink]
  split <;> simp

/-- Writing a parent link changes that parent link. -/
theorem parent_setParent :
    ((o.setParent x q).node y).parent = if y = x then q else (o.node y).parent := by
  rw [node_setParent]
  split <;> simp

/-- Writing a parent link changes no link. -/
theorem link_setParent : ((o.setParent x q).node y).link s = (o.node y).link s := by
  rw [node_setParent]
  split <;> simp

theorem balance_setParent : ((o.setParent x q).node y).balance = (o.node y).balance := by
  rw [node_setParent]
  split <;> simp

/-- The same for a child that may be missing. -/
theorem parent_setParentOf :
    ((o.setParentOf c q).node y).parent = if c = some y then q else (o.node y).parent := by
  rw [node_setParentOf]
  split <;> simp

/-- A new parent does not change a link. -/
theorem link_setParentOf : ((o.setParentOf c q).node y).link s = (o.node y).link s := by
  rw [node_setParentOf]
  split <;> simp

theorem balance_setParentOf : ((o.setParentOf c q).node y).balance = (o.node y).balance := by
  rw [node_setParentOf]
  split <;> simp

/-- Replacing a child in its parent changes no parent link. -/
theorem parent_relink : ((o.relink q x c).node y).parent = (o.node y).parent := by
  rw [node_relink]
  split <;> simp

/-- Replacing a child in its parent changes the link that led to it. -/
theorem link_relink : ((o.relink q x c).node y).link s =
    if q = some y ∧ s = decide ((o.node y).link true = some x) then c else (o.node y).link s := by
  rw [node_relink]
  split <;> simp_all [BAVLNode.link_setLink]

theorem balance_relink : ((o.relink q x c).node y).balance = (o.node y).balance := by
  rw [node_relink]
  split <;> simp

end Assignments

/-! ## Exchanging -/

section Exchange

variable [DecidableEq P] {S : List P}

/-- The link to a node in its parent, as the code finds it. -/
theorem Linked.side_iff (h : Linked o S) (hx : x ∈ S) (hy : y ∈ S) (s : Bool) :
    (o.node y).parent = some x ∧ s = decide ((o.node x).link true = some y) ↔
      (o.node x).link s = some y := by
  constructor
  · -- the code tests the right link only, and only one of the two leads to `y`
    rintro ⟨hparent, rfl⟩
    obtain ⟨-, -, s', hs'⟩ := h.parent y hy x hparent
    cases s' <;> simp_all [h.distinct x hx y]
  · intro hlink
    refine ⟨(h.child x hx s y hlink).2, ?_⟩
    cases s <;> simp_all [h.distinct x hx y]

omit [DecidableEq P] in
/-- A node without a link to `x` is not its parent. -/
theorem Linked.parent_ne {q : P} (h : Linked o S) (hx : x ∈ S)
    (hlink : ∀ s, (o.node q).link s ≠ some x) : (o.node x).parent ≠ some q := by
  intro hparent
  obtain ⟨-, -, s, hs⟩ := h.parent x hx q hparent
  exact hlink s hs

/-- What is known about two nodes none of which is the parent of the other. -/
structure Apart (o : BAVL P) (n₁ n₂ : P) : Prop where
  ne : n₁ ≠ n₂
  parent₁ : (o.node n₁).parent ≠ some n₁ ∧ (o.node n₁).parent ≠ some n₂
  parent₂ : (o.node n₂).parent ≠ some n₁ ∧ (o.node n₂).parent ≠ some n₂
  parents : (o.node n₁).parent ≠ (o.node n₂).parent
  link₁ : ∀ s, (o.node n₁).link s ≠ some n₁ ∧ (o.node n₁).link s ≠ some n₂
  link₂ : ∀ s, (o.node n₂).link s ≠ some n₁ ∧ (o.node n₂).link s ≠ some n₂

/-- The parent links after the assignments for two nodes apart, the latest assignment first. -/
theorem Apart.parent_swapApart (h : Apart o n₁ n₂) (y : P) :
    ((o.swapApart n₁ n₂).node y).parent =
      if (o.node n₁).link true = some y then some n₂
      else if (o.node n₂).link true = some y then some n₁
      else if (o.node n₁).link false = some y then some n₂
      else if (o.node n₂).link false = some y then some n₁
      else if y = n₂ then (o.node n₁).parent
      else if y = n₁ then (o.node n₂).parent else (o.node y).parent := by
  obtain ⟨hne, hp₁, hp₂, -, -, -⟩ := h
  -- what each assignment does to this field, and then what the two nodes are not
  simp only [swapApart, parent_setParentOf, parent_setLink, parent_relink, parent_setParent,
    link_setParentOf, link_setLink, link_relink, link_setParent]
  simp [hne, hne.symm, hp₁, hp₂]

/-- The links after these assignments. -/
theorem Apart.link_swapApart (h : Apart o n₁ n₂) (y : P) (s : Bool) :
    ((o.swapApart n₁ n₂).node y).link s =
      if y = n₂ then (o.node n₁).link s
      else if y = n₁ then (o.node n₂).link s
      else if (o.node n₁).parent = some y ∧ s = decide ((o.node y).link true = some n₁) then some n₂
      else if (o.node n₂).parent = some y ∧ s = decide ((o.node y).link true = some n₂) then some n₁
      else (o.node y).link s := by
  obtain ⟨hne, hp₁, hp₂, hparents, hl₁, hl₂⟩ := h
  -- a node is the parent of one of them at most, so that it is written once
  have hparent : (o.node n₁).parent = some y → (o.node n₂).parent ≠ some y :=
    fun h₁ h₂ => hparents (h₁.trans h₂.symm)
  simp only [swapApart, parent_relink, parent_setParent, link_setParentOf, link_setLink,
    link_relink, link_setParent]
  simp only [hne, hne.symm, hp₁, hp₂, false_and, true_and, if_false, if_true]
  -- the parent of the first one, or any other node
  by_cases hy : (o.node n₁).parent = some y
  · cases s <;> by_cases hy₁ : y = n₁ <;> by_cases hy₂ : y = n₂ <;> simp_all
  · cases s <;> by_cases hy₁ : y = n₁ <;> by_cases hy₂ : y = n₂ <;> simp_all

/-- The root after these assignments. -/
theorem root_swapApart (o : BAVL P) (n₁ n₂ : P) : (o.swapApart n₁ n₂).root =
    if (o.node n₁).parent = none then some n₂
    else if (o.node n₂).parent = none then some n₁ else o.root := by
  simp [swapApart]

/-- The assignments leave the balance factors where they are. -/
theorem balance_swapApart (o : BAVL P) (n₁ n₂ y : P) :
    ((o.swapApart n₁ n₂).node y).balance = (o.node y).balance := by
  simp only [swapApart, balance_setParentOf, balance_setLink, balance_relink, balance_setParent]

/-- What is known about a node `n₁` and its child `n₂`. -/
structure Connected (o : BAVL P) (n₁ n₂ : P) (side : Bool) : Prop where
  ne : n₁ ≠ n₂
  side_eq : decide ((o.node n₁).link true = some n₂) = side
  link₁ : (o.node n₁).link side = some n₂
  other₁ : (o.node n₁).link (!side) ≠ some n₁ ∧ (o.node n₁).link (!side) ≠ some n₂
  parent₁ : (o.node n₁).parent ≠ some n₁ ∧ (o.node n₁).parent ≠ some n₂
  link₂ : ∀ s, (o.node n₂).link s ≠ some n₁ ∧ (o.node n₂).link s ≠ some n₂

/-- The parent links after the assignments for a node and its child, the latest first. -/
theorem Connected.parent_swapConnected {side : Bool} (h : Connected o n₁ n₂ side) (y : P) :
    ((o.swapConnected n₁ n₂).node y).parent =
      if (o.node n₁).link (!side) = some y then some n₂
      else if y = n₁ then some n₂
      else if y = n₂ then (o.node n₁).parent
      else if (o.node n₂).link true = some y then some n₁
      else if (o.node n₂).link false = some y then some n₁ else (o.node y).parent := by
  obtain ⟨hne, hside, -, -, -, hl₂⟩ := h
  simp only [swapConnected, parent_setParentOf, parent_setLink, parent_relink, parent_setParent,
    link_setParentOf, link_setLink, hside]
  simp [hne.symm, hl₂]

/-- The links after these assignments. -/
theorem Connected.link_swapConnected {side : Bool} (h : Connected o n₁ n₂ side) (y : P) (s : Bool) :
    ((o.swapConnected n₁ n₂).node y).link s =
      if y = n₂ then if s = side then some n₁ else (o.node n₁).link (!side)
      else if y = n₁ then (o.node n₂).link s
      else if (o.node n₁).parent = some y ∧ s = decide ((o.node y).link true = some n₁) then some n₂
      else (o.node y).link s := by
  obtain ⟨hne, hside, -, -, hp₁, hl₂⟩ := h
  simp only [swapConnected, parent_setParentOf, parent_setLink, parent_setParent,
    link_setParentOf, link_setLink, link_relink, link_setParent, hside]
  by_cases hy₂ : y = n₂
  · -- the child gets the parent on its side and the other child of the parent
    subst hy₂
    by_cases hs : s = side
    · simp [hs]
    · simp [Bool.eq_not_of_ne hs]
  · by_cases hy₁ : y = n₁
    · -- the parent gets the children of the child
      subst hy₁
      cases s <;> simp [hne, hne.symm, hp₁, hl₂]
    · simp [hy₁, hy₂, hne.symm, hl₂]

/-- The root after these assignments: only the upper one can have been the root. -/
theorem Connected.root_swapConnected {side : Bool} (h : Connected o n₁ n₂ side) :
    (o.swapConnected n₁ n₂).root =
      if (o.node n₁).parent = none then some n₂ else o.root := by
  obtain ⟨hne, -, -, -, -, hl₂⟩ := h
  simp only [swapConnected, root_setParentOf, root_setLink, root_setParent, root_relink,
    parent_setParentOf, parent_setLink, parent_setParent, link_setParentOf, link_setLink]
  simp [hne.symm, hl₂]

/-- The assignments leave the balance factors where they are. -/
theorem balance_swapConnected (o : BAVL P) (n₁ n₂ y : P) :
    ((o.swapConnected n₁ n₂).node y).balance = (o.node y).balance := by
  simp only [swapConnected, balance_setParentOf, balance_setLink, balance_relink, balance_setParent]

/-- The nodes of `S` have got all their links from `o`, with `n₁` and `n₂` exchanged. -/
structure Exchanged (o o' : BAVL P) (S : List P) (n₁ n₂ : P) : Prop where
  root : o'.root = o.root.map (Equiv.swap n₁ n₂)
  parent : ∀ x ∈ S, (o'.node (Equiv.swap n₁ n₂ x)).parent =
    (o.node x).parent.map (Equiv.swap n₁ n₂)
  link : ∀ x ∈ S, ∀ s, (o'.node (Equiv.swap n₁ n₂ x)).link s =
    ((o.node x).link s).map (Equiv.swap n₁ n₂)

/-- A pointer to neither of them stays. -/
theorem map_swap_of_ne {c : Option P} (h₁ : c ≠ some n₁) (h₂ : c ≠ some n₂) :
    c.map (Equiv.swap n₁ n₂) = c := by
  cases c with
  | none => rfl
  | some c =>
    rw [Option.map_some, Equiv.swap_apply_of_ne_of_ne (by simpa using h₁) (by simpa using h₂)]

/-- The link of any other node to one of two nodes, after they were exchanged. -/
theorem Linked.map_swap_link (h : Linked o S) (hx : x ∈ S) (h₁ : n₁ ∈ S) (h₂ : n₂ ∈ S) (s : Bool) :
    (if (o.node n₁).parent = some x ∧ s = decide ((o.node x).link true = some n₁) then some n₂
      else if (o.node n₂).parent = some x ∧ s = decide ((o.node x).link true = some n₂) then some n₁
      else (o.node x).link s) = ((o.node x).link s).map (Equiv.swap n₁ n₂) := by
  rw [if_congr (h.side_iff hx h₁ s) rfl rfl, if_congr (h.side_iff hx h₂ s) rfl rfl]
  -- with the tests of the code read as links, this is the exchange of the two pointers
  by_cases hl₁ : (o.node x).link s = some n₁
  · rw [if_pos hl₁, hl₁, Option.map_some, Equiv.swap_apply_left]
  by_cases hl₂ : (o.node x).link s = some n₂
  · rw [if_neg hl₁, if_pos hl₂, hl₂, Option.map_some, Equiv.swap_apply_right]
  · rw [if_neg hl₁, if_neg hl₂, map_swap_of_ne hl₁ hl₂]

/-- Two nodes apart are exchanged. -/
theorem Linked.swapApart (h : Linked o S) (h₁ : n₁ ∈ S) (h₂ : n₂ ∈ S) (hapart : Apart o n₁ n₂) :
    Exchanged o (o.swapApart n₁ n₂) S n₁ n₂ := by
  have hroot₁ := h.root n₁ h₁
  have hroot₂ := h.root n₂ h₂
  obtain ⟨hne, hp₁, hp₂, hparents, hl₁, hl₂⟩ := id hapart
  refine ⟨?_, ?_, ?_⟩
  · -- the root
    rw [root_swapApart]
    by_cases hr₁ : (o.node n₁).parent = none
    · rw [if_pos hr₁, hroot₁.mp hr₁, Option.map_some, Equiv.swap_apply_left]
    by_cases hr₂ : (o.node n₂).parent = none
    · rw [if_neg hr₁, if_pos hr₂, hroot₂.mp hr₂, Option.map_some, Equiv.swap_apply_right]
    · rw [if_neg hr₁, if_neg hr₂]
      exact (map_swap_of_ne (fun hr => hr₁ (hroot₁.mpr hr)) fun hr => hr₂ (hroot₂.mpr hr)).symm
  · -- the parent links: of the two nodes themselves, of their children, of all others
    intro x hx
    by_cases hx₁ : x = n₁
    · subst hx₁
      rw [Equiv.swap_apply_left, hapart.parent_swapApart, map_swap_of_ne hp₁.1 hp₁.2]
      simp [hl₁, hl₂]
    by_cases hx₂ : x = n₂
    · subst hx₂
      rw [Equiv.swap_apply_right, hapart.parent_swapApart, map_swap_of_ne hp₂.1 hp₂.2]
      simp [hl₁, hl₂, hne]
    rw [Equiv.swap_apply_of_ne_of_ne hx₁ hx₂, hapart.parent_swapApart]
    -- a child of one of them has got the other one as its parent
    by_cases hc₁ : ∃ s, (o.node n₁).link s = some x
    · obtain ⟨s, hs⟩ := hc₁
      have hparent := (h.child n₁ h₁ s x hs).2
      -- a node has one parent only
      have hn₂ : ∀ s, (o.node n₂).link s ≠ some x := by
        intro s' hs'
        exact hne (Option.some.inj (hparent.symm.trans (h.child n₂ h₂ s' x hs').2))
      rw [hparent, Option.map_some, Equiv.swap_apply_left]
      cases s <;> simp [hs, hn₂]
    by_cases hc₂ : ∃ s, (o.node n₂).link s = some x
    · obtain ⟨s, hs⟩ := hc₂
      rw [not_exists] at hc₁
      rw [(h.child n₂ h₂ s x hs).2, Option.map_some, Equiv.swap_apply_right]
      cases s <;> simp [hs, hc₁]
    · rw [not_exists] at hc₁ hc₂
      rw [map_swap_of_ne (h.parent_ne hx hc₁) (h.parent_ne hx hc₂)]
      simp [hc₁, hc₂, hx₁, hx₂]
  · -- the links: of the two nodes themselves, then of all others, their parents among them
    intro x hx s
    by_cases hx₁ : x = n₁
    · subst hx₁
      rw [Equiv.swap_apply_left, hapart.link_swapApart, if_pos rfl,
        map_swap_of_ne (hl₁ s).1 (hl₁ s).2]
    by_cases hx₂ : x = n₂
    · subst hx₂
      rw [Equiv.swap_apply_right, hapart.link_swapApart, if_neg hne, if_pos rfl,
        map_swap_of_ne (hl₂ s).1 (hl₂ s).2]
    · rw [Equiv.swap_apply_of_ne_of_ne hx₁ hx₂, hapart.link_swapApart, if_neg hx₂, if_neg hx₁,
        h.map_swap_link hx h₁ h₂]

/-- A node and its child are exchanged. -/
theorem Linked.swapConnected {side : Bool} (h : Linked o S) (h₁ : n₁ ∈ S) (h₂ : n₂ ∈ S)
    (hconn : Connected o n₁ n₂ side) : Exchanged o (o.swapConnected n₁ n₂) S n₁ n₂ := by
  have hroot₁ := h.root n₁ h₁
  have hroot₂ := h.root n₂ h₂
  obtain ⟨hne, hside, hlink, hother, hp₁, hl₂⟩ := id hconn
  have hparent₂ := (h.child n₁ h₁ side n₂ hlink).2
  refine ⟨?_, ?_, ?_⟩
  · -- the root
    rw [hconn.root_swapConnected]
    by_cases hr₁ : (o.node n₁).parent = none
    · rw [if_pos hr₁, hroot₁.mp hr₁, Option.map_some, Equiv.swap_apply_left]
    · rw [if_neg hr₁, map_swap_of_ne (fun hr => hr₁ (hroot₁.mpr hr))]
      intro hr
      exact absurd (hroot₂.mpr hr) (by simp [hparent₂])
  · -- the parent links, as for two nodes apart
    intro x hx
    by_cases hx₁ : x = n₁
    · subst hx₁
      rw [Equiv.swap_apply_left, hconn.parent_swapConnected, map_swap_of_ne hp₁.1 hp₁.2]
      simp [hother, hne.symm]
    by_cases hx₂ : x = n₂
    · subst hx₂
      rw [Equiv.swap_apply_right, hconn.parent_swapConnected, hparent₂, Option.map_some,
        Equiv.swap_apply_left]
      simp
    rw [Equiv.swap_apply_of_ne_of_ne hx₁ hx₂, hconn.parent_swapConnected]
    by_cases hc₁ : (o.node n₁).link (!side) = some x
    · rw [if_pos hc₁, (h.child n₁ h₁ _ x hc₁).2, Option.map_some, Equiv.swap_apply_left]
    -- neither the other child of `n₁` nor `n₂`, so no child of `n₁`
    have hc₁' : ∀ s, (o.node n₁).link s ≠ some x := by
      intro s hs
      by_cases hs' : s = side
      · rw [hs', hlink] at hs
        exact hx₂ (Option.some.inj hs).symm
      · rw [Bool.eq_not_of_ne hs'] at hs
        exact hc₁ hs
    by_cases hc₂ : ∃ s, (o.node n₂).link s = some x
    · obtain ⟨s, hs⟩ := hc₂
      rw [(h.child n₂ h₂ s x hs).2, Option.map_some, Equiv.swap_apply_right]
      cases s <;> simp [hs, hc₁, hx₁, hx₂]
    · rw [not_exists] at hc₂
      rw [map_swap_of_ne (h.parent_ne hx hc₁') (h.parent_ne hx hc₂)]
      simp [hc₁, hc₂, hx₁, hx₂]
  · -- the links; `n₁` and `n₂` point to each other now
    intro x hx s
    by_cases hx₁ : x = n₁
    · subst hx₁
      rw [Equiv.swap_apply_left, hconn.link_swapConnected, if_pos rfl]
      by_cases hs : s = side
      · rw [if_pos hs, hs, hlink, Option.map_some, Equiv.swap_apply_right]
      · rw [if_neg hs, Bool.eq_not_of_ne hs, map_swap_of_ne hother.1 hother.2]
    by_cases hx₂ : x = n₂
    · subst hx₂
      rw [Equiv.swap_apply_right, hconn.link_swapConnected, if_neg hne, if_pos rfl,
        map_swap_of_ne (hl₂ s).1 (hl₂ s).2]
    · rw [Equiv.swap_apply_of_ne_of_ne hx₁ hx₂, hconn.link_swapConnected, if_neg hx₂, if_neg hx₁,
        ← h.map_swap_link hx h₁ h₂]
      -- `n₂` has `n₁` as its parent, and no other node
      have hno : ¬ ((o.node n₂).parent = some x ∧
          s = decide ((o.node x).link true = some n₂)) := by
        rintro ⟨hparent, -⟩
        exact hx₁ (Option.some.inj (hparent.symm.trans hparent₂))
      rw [if_neg hno]

omit [DecidableEq P] in
/-- No node is linked to itself. -/
theorem Linked.irrefl (h : Linked o S) (hx : x ∈ S) :
    (o.node x).parent ≠ some x ∧ ∀ s, (o.node x).link s ≠ some x := by
  have hparent : (o.node x).parent ≠ some x := fun hq => (h.parent x hx x hq).2.1 rfl
  exact ⟨hparent, fun s hs => hparent (h.child x hx s x hs).2⟩

omit [DecidableEq P] in
/-- Two nodes that are neither parent and child nor siblings are apart. -/
theorem Linked.apart (h : Linked o S) (h₁ : n₁ ∈ S) (h₂ : n₂ ∈ S) (hne : n₁ ≠ n₂)
    (hup : (o.node n₁).parent ≠ some n₂) (hdown : (o.node n₂).parent ≠ some n₁)
    (hparents : (o.node n₁).parent ≠ (o.node n₂).parent) : Apart o n₁ n₂ where
  ne := hne
  parent₁ := ⟨(h.irrefl h₁).1, hup⟩
  parent₂ := ⟨hdown, (h.irrefl h₂).1⟩
  parents := hparents
  link₁ s := ⟨(h.irrefl h₁).2 s, fun hs => hdown (h.child n₁ h₁ s n₂ hs).2⟩
  link₂ s := ⟨fun hs => hup (h.child n₂ h₂ s n₁ hs).2, (h.irrefl h₂).2 s⟩

/-- A parent and its child are connected, on the side that the code finds. -/
theorem Linked.connected (h : Linked o S) (h₁ : n₁ ∈ S) (h₂ : n₂ ∈ S) (hne : n₁ ≠ n₂)
    (hup : (o.node n₁).parent ≠ some n₂) (hdown : (o.node n₂).parent = some n₁) :
    Connected o n₁ n₂ (decide ((o.node n₁).link true = some n₂)) := by
  have hlink := (h.side_iff h₁ h₂ _).mp ⟨hdown, rfl⟩
  refine ⟨hne, rfl, hlink, ⟨(h.irrefl h₁).2 _, ?_⟩, ⟨(h.irrefl h₁).1, hup⟩, ?_⟩
  · -- a second link to the child would be on the side that the code finds, too
    intro hother
    have hside := ((h.side_iff h₁ h₂ _).mpr hother).2
    simp at hside
  · exact fun s => ⟨fun hs => hup (h.child n₂ h₂ s n₁ hs).2, (h.irrefl h₂).2 s⟩

omit [DecidableEq P] in
/-- A node is its links, its parent link and its balance factor. -/
theorem node_ext {n m : BAVLNode P} (hparent : n.parent = m.parent)
    (hlink : ∀ s, n.link s = m.link s) (hbalance : n.balance = m.balance) : n = m := by
  obtain ⟨p, l, r, b⟩ := n
  obtain ⟨p', l', r', b'⟩ := m
  cases hparent
  cases hbalance
  cases show l = l' from hlink false
  cases show r = r' from hlink true
  rfl

/-- `_BAVL_swap_nodes` renames the two pointers in all of the tree. -/
theorem At.swapNodes (h : At o [] t) (h₁ : n₁ ∈ toList t) (h₂ : n₂ ∈ toList t) (hne : n₁ ≠ n₂)
    (hup : (o.node n₁).parent ≠ some n₂) (hparents : (o.node n₁).parent ≠ (o.node n₂).parent) :
    At (o.swapNodes n₁ n₂) [] (relabel (Equiv.swap n₁ n₂) t) := by
  -- the links first, which leave the balance factors where they are
  have hlinks : ∃ o₁, Exchanged o o₁ (toList t) n₁ n₂ ∧
      (∀ y, (o₁.node y).balance = (o.node y).balance) ∧
      o.swapNodes n₁ n₂ = (o₁.setBalance n₁ (o.node n₂).balance).setBalance n₂
        (o.node n₁).balance := by
    unfold BAVL.swapNodes
    -- the two variants of the code
    by_cases hdown : (o.node n₂).parent = some n₁
    · refine ⟨o.swapConnected n₁ n₂, ?_, balance_swapConnected o n₁ n₂, ?_⟩
      · exact h.linked.swapConnected h₁ h₂ (h.linked.connected h₁ h₂ hne hup hdown)
      · simp [hdown, hup, balance_swapConnected]
    · refine ⟨o.swapApart n₁ n₂, ?_, balance_swapApart o n₁ n₂, ?_⟩
      · exact h.linked.swapApart h₁ h₂ (h.linked.apart h₁ h₂ hne hup hdown hparents)
      · simp [hdown, hup, balance_swapApart]
  obtain ⟨o₁, hexchanged, hbalance, heq⟩ := hlinks
  rw [heq]
  refine h.of_renamed (Equiv.swap n₁ n₂).injective hexchanged.root ?_
  intro x hx
  have hparent := hexchanged.parent x hx
  have hlink := hexchanged.link x hx
  -- the balance factors are exchanged back into their places by the last two assignments
  have hσ : ∀ y, ((o₁.setBalance n₁ (o.node n₂).balance).setBalance n₂ (o.node n₁).balance).node y =
      (o₁.node y).setBalance (o.node (Equiv.swap n₁ n₂ y)).balance := by
    intro y
    rw [node_setBalance, node_setBalance]
    by_cases hy₂ : y = n₂
    · rw [hy₂, if_pos rfl, if_neg hne.symm, Equiv.swap_apply_right]
    by_cases hy₁ : y = n₁
    · rw [hy₁, if_neg hne, if_pos rfl, Equiv.swap_apply_left]
    · rw [if_neg hy₂, if_neg hy₁, Equiv.swap_apply_of_ne_of_ne hy₁ hy₂, ← hbalance y]
      rfl
  rw [hσ, Equiv.swap_apply_self]
  refine node_ext hparent ?_ rfl
  intro s
  rw [BAVLNode.link_setBalance, hlink]
  cases s <;> rfl

end Exchange

end BAVL

end OpenFlux

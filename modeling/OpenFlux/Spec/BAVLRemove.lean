import OpenFlux.Spec.BAVLInsert
import OpenFlux.Spec.BAVLSwap

/-!
# Removing

A node with two children is exchanged with the greatest node before it first, which has one
child at most.  Then the node is cut out and the tree is rebalanced from there.

## Key results

- `At.farthest`: the end of a subtree on one side
- `Holds.remove`: `BAVL_Remove` takes the node out of the list and changes nothing else
-/

namespace OpenFlux

open AvlTree (Frame branch top toList plug pathElems before after Valid ValidPath)
open BAVLNode (sided)

namespace BAVL

variable {P : Type*} {t u : AvlTree P} {p q : List (Frame P)} {o : BAVL P} {x c : P} {b : Int}
  {s : Bool} {rounds : Nat}

/-! ## The end of a subtree -/

/-- The loop that goes down one side ends at a node without a child there, and has gone to that
    side all the way. -/
theorem At.farthest (h : At o p t) (hc : top t = some c) (hrounds : t.height ≤ rounds) (s : Bool) :
    ∃ q m b u, o.farthest s rounds c = some m ∧ t = plug q (branch s m b .nil u) ∧
      ∀ f ∈ q, f.side = s := by
  induction rounds generalizing p t c with
  | zero =>
    cases t with
    | nil => cases hc
    | node => cases hrounds
  | succ rounds ih =>
    obtain ⟨x, b, t, u, rfl⟩ := AvlTree.exists_branch s (t := t) (by
      cases t with
      | nil => cases hc
      | node => exact Nat.succ_pos _)
    rw [AvlTree.top_branch] at hc
    cases hc
    rw [BAVL.farthest, h.node_eq, BAVLNode.link_sided]
    cases htop : top t with
    | none =>
      -- the end
      rw [AvlTree.top_eq_none htop]
      exact ⟨[], c, b, u, rfl, rfl, by simp⟩
    | some d =>
      rw [AvlTree.height_branch] at hrounds
      -- one step further down on the same side
      obtain ⟨q, m, mb, v, hfar, rfl, hside⟩ := ih (At.down.mp h) htop (by omega)
      refine ⟨q ++ [⟨s, c, b, u⟩], m, mb, v, hfar, ?_, ?_⟩
      · rw [AvlTree.plug_append]
        rfl
      · intro f hf
        obtain hf | hf := List.mem_append.mp hf
        · exact hside f hf
        · rw [List.mem_singleton.mp hf]

/-- What is before a subtree, over two parts of its path. -/
theorem before_append (p q : List (Frame P)) : before (p ++ q) = before q ++ before p := by
  induction p with
  | nil => simp [before]
  | cons f p ih => rw [List.cons_append, before, ih, before, List.append_assoc]

/-- What is behind a subtree, over two parts of its path. -/
theorem after_append (p q : List (Frame P)) : after (p ++ q) = after p ++ after q := by
  induction p with
  | nil => simp [after]
  | cons f p ih => rw [List.cons_append, after, ih, after, List.append_assoc]

/-- On a path that goes right all the way nothing is behind the subtree. -/
theorem after_eq_nil (h : ∀ f ∈ q, f.side = true) : after q = [] := by
  induction q with
  | nil => rfl
  | cons f q ih =>
    rw [after, h f List.mem_cons_self, ih fun g hg => h g (List.mem_cons_of_mem _ hg)]
    rfl

/-! ## Renaming outside of a subtree -/

/-- Renaming pointers that are not in a tree does not change it. -/
theorem relabel_eq_self {σ : P → P} (h : ∀ y ∈ toList t, σ y = y) : relabel σ t = t := by
  induction t with
  | nil => rfl
  | node x l r hl hr =>
    simp only [AvlTree.toList_node, List.mem_append, List.mem_cons] at h
    show BinaryTree.node (σ x.1, x.2) (relabel σ l) (relabel σ r) = _
    rw [hl fun y hy => h y (.inl hy), hr fun y hy => h y (.inr (.inr hy)), h x.1 (by simp)]

/-- Renaming, one node at a time. -/
theorem relabel_branch (σ : P → P) (s : Bool) (x : P) (b : Int) (t u : AvlTree P) :
    relabel σ (branch s x b t u) = branch s (σ x) b (relabel σ t) (relabel σ u) := by
  cases s <;> rfl

/-- Renaming pointers that are not on the path changes the subtree only. -/
theorem relabel_plug {σ : P → P} (h : ∀ y ∈ pathElems p, σ y = y) (t : AvlTree P) :
    relabel σ (plug p t) = plug p (relabel σ t) := by
  induction p generalizing t with
  | nil => rfl
  | cons f p ih =>
    simp only [pathElems, List.mem_cons, List.mem_append] at h
    rw [plug, ih fun y hy => h y (.inr (.inr hy)), relabel_branch, h f.elem (by simp),
      relabel_eq_self fun y hy => h y (.inr (.inl hy))]
    rfl

/-- Renaming keeps the height. -/
theorem height_relabel (σ : P → P) (t : AvlTree P) : (relabel σ t).height = t.height := by
  induction t with
  | nil => rfl
  | node x l r hl hr =>
    show max (relabel σ l).height (relabel σ r).height + 1 = _
    rw [hl, hr]
    rfl

/-- Renaming keeps the tree valid, because the balance factors stay in their places. -/
theorem valid_relabel (σ : P → P) (h : Valid t) : Valid (relabel σ t) := by
  induction t with
  | nil => trivial
  | node x l r hl hr =>
    obtain ⟨hb, hlow, hhigh, hvl, hvr⟩ := h
    refine ⟨?_, hlow, hhigh, hl hvl, hr hvr⟩
    show x.2 = ((relabel σ r).height : Int) - (relabel σ l).height
    rw [height_relabel, height_relabel]
    exact hb

/-! ## Cutting a node out -/

variable [DecidableEq P]

/-- `BAVL_Remove` of a node with one child at most. -/
theorem At.unlink (h : At o p (branch s x b t .nil)) (hvalid : Valid (plug p (branch s x b t .nil)))
    (hrounds : (plug p (branch s x b t .nil)).height ≤ rounds) :
    ∃ o' t', o.unlink rounds x = some o' ∧ At o' [] t' ∧ Valid t' ∧
      toList t' = before p ++ toList t ++ after p := by
  have hnode : o.node x = sided s (parentOf p) (top t) none b := h.node_eq
  -- the one child, on whichever side it is
  have hchild : ((o.node x).link false).or ((o.node x).link true) = top t := by
    rw [hnode]
    cases s <;> simp [BAVLNode.link, BAVLNode.sided]
  -- the assertion of the code
  have hone : ¬ (((o.node x).link false).isSome ∧ ((o.node x).link true).isSome) := by
    rw [hnode]
    cases s <;> simp [BAVLNode.link, BAVLNode.sided]
  have hcut := h.replaceSubtree
  rw [AvlTree.valid_plug, AvlTree.valid_branch] at hvalid
  obtain ⟨⟨-, -, -, ht, -⟩, hpath⟩ := hvalid
  have hheight : (branch s x b t .nil).height = t.height + 1 := by simp
  rw [BAVL.unlink, asserting_pos hone, hchild, h.parent_eq (AvlTree.top_branch ..)]
  cases p with
  | nil => exact ⟨_, t, rfl, hcut, ht, by simp [before, after]⟩
  | cons g p =>
    -- a path of this length needs no more rounds than the tree has levels
    have hlen := AvlTree.length_add_height_le (g :: p) (branch s x b t .nil)
    rw [List.length_cons] at hlen
    rw [hheight] at hpath
    obtain ⟨o', t', hrebalance, hfun, h'⟩ := hcut.rebalance hpath ht
      (show (t.height : Int) = (t.height + 1 : Nat) + -1 by omega) (by omega)
      (show p.length < rounds by omega)
    obtain ⟨t'', hfun', hvalid', hlist⟩ := AvlTree.rebalance_valid hpath ht
      (show (t.height : Int) = (t.height + 1 : Nat) + -1 by omega) (by omega)
    rw [hfun] at hfun'
    cases hfun'
    refine ⟨o', t', ?_, h', hvalid', by rw [hlist, AvlTree.toList_plug]⟩
    -- the code has found the side before it has cut the node out
    show (o.replaceSubtree x (top t)).rebalance rounds g.elem
      (decide ((o.node g.elem).link true = some x)) (-1) = some o'
    rw [h.side_eq (AvlTree.top_branch ..)]
    exact hrebalance

/-- The greatest node before a node with two children takes its place. -/
theorem At.swapMax {m : P} {mb : Int} {r : AvlTree P}
    (h : At o p (.node (x, b) (plug q (.node (m, mb) u .nil)) r)) :
    At (o.swapNodes x m) (q ++ ⟨false, m, b, r⟩ :: p) (.node (x, mb) u .nil) ∧
      relabel (Equiv.swap x m) (plug p (.node (x, b) (plug q (.node (m, mb) u .nil)) r)) =
        plug (q ++ ⟨false, m, b, r⟩ :: p) (.node (x, mb) u .nil) := by
  -- what the nodes are told apart by
  obtain ⟨-, hsub, hpath⟩ := List.nodup_append.mp h.nodup
  obtain ⟨hleft, hright, hdisjoint⟩ := List.nodup_append.mp hsub
  have hxr := (List.nodup_cons.mp hright).1
  have hperm := AvlTree.toList_plug_perm q (.node (m, mb) u .nil : AvlTree P)
  obtain ⟨-, hmax, hqm⟩ := List.nodup_append.mp (hperm.nodup_iff.mp hleft)
  have hmu : m ∉ toList u := by
    intro hmem
    exact (List.nodup_append.mp hmax).2.2 m hmem m List.mem_cons_self rfl
  have hm : m ∈ toList (.node (m, mb) u .nil : AvlTree P) := by simp
  have hmleft : ∀ y ∈ pathElems q ++ toList (.node (m, mb) u .nil : AvlTree P), y ≠ x := by
    intro y hy
    exact hdisjoint y (hperm.mem_iff.mpr hy) x List.mem_cons_self
  have hne : m ≠ x := hmleft m (List.mem_append_right _ hm)
  have hmmem : m ∈ toList (plug q (.node (m, mb) u .nil)) :=
    hperm.mem_iff.mpr (List.mem_append_right _ hm)
  have hp : ∀ y ∈ pathElems p, y ≠ x ∧ y ≠ m := by
    intro y hy
    exact ⟨hpath y hy x (by simp), hpath y hy m (List.mem_append_left _ hmmem)⟩
  -- the parents of the two
  have hfocus : At o (q ++ ⟨false, x, b, r⟩ :: p) (.node (m, mb) u .nil) := by
    rw [At.focus, AvlTree.plug_append, ← At.focus]
    exact At.down.mp h
  have hparent : (o.node x).parent = parentOf p := h.parent_eq rfl
  have hparent' : (o.node m).parent = parentOf (q ++ ⟨false, x, b, r⟩ :: p) := hfocus.parent_eq rfl
  -- they are not siblings: the parent of `m` is `x` or below it
  have hparents : (o.node x).parent ≠ (o.node m).parent := by
    rw [hparent, hparent']
    intro heq
    cases q with
    | nil => exact (hp x (mem_of_parentOf heq)).1 rfl
    | cons f q =>
      have hmem : f.elem ∈ toList (plug (f :: q) (.node (m, mb) u .nil)) :=
        hperm.mem_iff.mpr (List.mem_append_left _ List.mem_cons_self)
      exact hpath f.elem (mem_of_parentOf heq) f.elem (List.mem_append_left _ hmem) rfl
  -- nor is `m` the parent of `x`
  have hup : (o.node x).parent ≠ some m := by
    rw [hparent]
    intro heq
    exact (hp m (mem_of_parentOf heq)).2 rfl
  have hxmem : x ∈ toList (plug p (.node (x, b) (plug q (.node (m, mb) u .nil)) r)) :=
    mem_toList_plug.mpr (.inr (by simp))
  have hmmem' : m ∈ toList (plug p (.node (x, b) (plug q (.node (m, mb) u .nil)) r)) :=
    mem_toList_plug.mpr (.inr (List.mem_append_left _ hmmem))
  have hswap := (At.focus.mp h).swapNodes hxmem hmmem' hne.symm hup hparents
  -- no other pointer is renamed
  have hfix : ∀ y, y ≠ x → y ≠ m → Equiv.swap x m y = y :=
    fun y hx hm => Equiv.swap_apply_of_ne_of_ne hx hm
  have hr : relabel (Equiv.swap x m) r = r := relabel_eq_self fun y hy =>
    hfix y (fun heq => hxr (heq ▸ hy))
      fun heq => hdisjoint m hmmem m (List.mem_cons_of_mem _ (heq ▸ hy)) rfl
  have hu : relabel (Equiv.swap x m) u = u := relabel_eq_self fun y hy =>
    hfix y (hmleft y (by simp [hy])) fun heq => hmu (heq ▸ hy)
  have hq : ∀ t, relabel (Equiv.swap x m) (plug q t) = plug q (relabel (Equiv.swap x m) t) :=
    relabel_plug fun y hy => hfix y (hmleft y (List.mem_append_left _ hy))
      fun heq => hqm m (heq ▸ hy) m hm rfl
  have heq : relabel (Equiv.swap x m) (plug p (.node (x, b) (plug q (.node (m, mb) u .nil)) r)) =
      plug (q ++ ⟨false, m, b, r⟩ :: p) (.node (x, mb) u .nil) := by
    rw [relabel_plug fun y hy => hfix y (hp y hy).1 (hp y hy).2, AvlTree.plug_append]
    show plug p (.node (Equiv.swap x m x, b)
      (relabel (Equiv.swap x m) (plug q (.node (m, mb) u .nil))) (relabel (Equiv.swap x m) r)) =
      plug p (.node (m, b) (plug q (.node (x, mb) u .nil)) r)
    rw [hq, hr, Equiv.swap_apply_left]
    show plug p (.node (m, b) (plug q (.node (Equiv.swap x m m, mb)
      (relabel (Equiv.swap x m) u) .nil)) r) = _
    rw [hu, Equiv.swap_apply_right]
  rw [heq] at hswap
  exact ⟨At.focus.mpr hswap, heq⟩

/-! ## Removing a node -/

variable {K : Type*} {cmp : K → K → Ordering} {value : P → K} {l : List P}

/-- `BAVL_Remove` of the node in focus. -/
theorem At.remove (h : At o p (.node (x, b) t u)) (hvalid : Valid (plug p (.node (x, b) t u)))
    (hrounds : (plug p (.node (x, b) t u)).height ≤ rounds) :
    ∃ o' t', o.remove rounds x = some o' ∧ At o' [] t' ∧ Valid t' ∧
      toList t' = before p ++ toList t ++ toList u ++ after p := by
  have hnode : o.node x = ⟨parentOf p, top t, top u, b⟩ := h.rep.1
  have hlinks : (o.node x).link false = top t ∧ (o.node x).link true = top u := by
    rw [hnode]
    exact ⟨rfl, rfl⟩
  rw [BAVL.remove, hlinks.1, hlinks.2]
  -- a child is missing on the left, on the right, or on neither side
  cases ht : top t with
  | none =>
    have hnil := AvlTree.top_eq_none ht
    subst hnil
    obtain ⟨o', t', hunlink, h', hvalid', hlist⟩ :=
      At.unlink (s := true) (t := u) h hvalid hrounds
    exact ⟨o', t', hunlink, h', hvalid', by rw [hlist]; simp⟩
  | some c =>
    cases hu : top u with
    | none =>
      have hnil := AvlTree.top_eq_none hu
      subst hnil
      obtain ⟨o', t', hunlink, h', hvalid', hlist⟩ :=
        At.unlink (s := false) (t := t) h hvalid hrounds
      exact ⟨o', t', hunlink, h', hvalid', by rw [hlist]; simp⟩
    | some d =>
      have hheight := AvlTree.length_add_height_le p (.node (x, b) t u : AvlTree P)
      rw [BinaryTree.height] at hheight
      have hdown : At o (⟨false, x, b, u⟩ :: p) t := At.down.mp h
      obtain ⟨q, m, mb, v, hfar, rfl, hside⟩ := hdown.farthest ht
        (show t.height ≤ rounds by omega) true
      obtain ⟨hswap, hrelabel⟩ := At.swapMax h
      -- the exchange keeps the shape, so that the tree is still valid and as high as before
      have hvalid' := valid_relabel (Equiv.swap x m) hvalid
      have hrounds' := height_relabel (Equiv.swap x m)
        (plug p (.node (x, b) (plug q (branch true m mb .nil v)) u))
      rw [show branch true m mb .nil v = .node (m, mb) v .nil from rfl] at hvalid' hrounds' hrounds
      rw [hrelabel] at hvalid' hrounds'
      obtain ⟨o', t', hunlink, h', hvalid'', hlist⟩ :=
        At.unlink (s := false) (t := v) hswap hvalid' (hrounds'.trans_le hrounds)
      refine ⟨o', t', ?_, h', hvalid'', ?_⟩
      · dsimp only
        rw [subtreeMax, hfar]
        exact hunlink
      · rw [hlist, before_append, after_append, after_eq_nil hside, AvlTree.toList_plug,
          after_eq_nil hside]
        simp [before, after, branch]

/-- `BAVL_Remove` of a node in the tree. -/
theorem Holds.remove (h : Holds cmp value o l) (hx : x ∈ l) (hrounds : levels l.length ≤ rounds) :
    ∃ o', o.remove rounds x = some o' ∧ Holds cmp value o' (l.erase x) := by
  obtain ⟨t, hat, hvalid, rfl⟩ := h.exists_tree
  obtain ⟨p, b, u, v, rfl⟩ := AvlTree.exists_plug_of_mem hx
  obtain ⟨o', t', hremove, hat', hvalid', hlist⟩ := At.remove (At.focus.mpr hat) hvalid
    ((height_le_levels hvalid).trans hrounds)
  refine ⟨o', hremove, ⟨t', hat', hvalid', ?_⟩, h.sorted.sublist List.erase_sublist⟩
  have hnodup := h.nodup
  -- the list around the node, which is in it once
  have hsplit : toList (plug p (.node (x, b) u v)) =
      (before p ++ toList u) ++ x :: (toList v ++ after p) := by
    rw [AvlTree.toList_plug]
    simp
  rw [hsplit] at hnodup ⊢
  have hnot : x ∉ before p ++ toList u := by
    intro hmem
    exact (List.nodup_append.mp hnodup).2.2 x hmem x List.mem_cons_self rfl
  rw [hlist, List.erase_append_right _ hnot, List.erase_cons_head]
  simp

end BAVL

end OpenFlux

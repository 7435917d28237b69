import OpenFlux.Model.BAVL

/-!
# A BAVL in memory

`At o p t`: the memory of `o` holds the subtree `t` on the path `p`, with all links between the
nodes, the parent links and the balance factors as they are in the tree.  Then each function on
links is a function on trees: the focus can be moved to the place that changes, and everything
else is known to stay.

## Key results

- `At.focus`: the focus can be moved
- `At.rotate`: `_BAVL_rotate` is a rotation of the tree
- `At.setBalance`, `At.replaceSubtree`: the other changes that rebalancing is made of
-/

namespace OpenFlux

variable {P : Type*}

open AvlTree (Frame branch top toList plug pathElems)

namespace BAVLNode

section Fields

variable (n : BAVLNode P) (p c : Option P) (b : Int) (s : Bool)

@[simp]
theorem parent_setParent : (n.setParent p).parent = p := rfl

@[simp]
theorem link_setParent : (n.setParent p).link s = n.link s := rfl

@[simp]
theorem balance_setParent : (n.setParent p).balance = n.balance := rfl

@[simp]
theorem parent_setBalance : (n.setBalance b).parent = n.parent := rfl

@[simp]
theorem link_setBalance : (n.setBalance b).link s = n.link s := rfl

@[simp]
theorem balance_setBalance : (n.setBalance b).balance = b := rfl

@[simp]
theorem parent_setLink : (n.setLink s c).parent = n.parent := by cases s <;> rfl

@[simp]
theorem balance_setLink : (n.setLink s c).balance = n.balance := by cases s <;> rfl

/-- Setting one link leaves the other one alone. -/
theorem link_setLink (s' : Bool) :
    (n.setLink s c).link s' = if s' = s then c else n.link s' := by
  cases s <;> cases s' <;> rfl

end Fields

/-- A node with the child `c` on side `s` and `d` on the other one. -/
def sided (s : Bool) (parent c d : Option P) (b : Int) : BAVLNode P :=
  if s then ⟨parent, d, c, b⟩ else ⟨parent, c, d, b⟩

variable (s : Bool) (p c d e : Option P) (b : Int)

/-- The child on the named side. -/
@[simp]
theorem link_sided : (sided s p c d b).link s = c := by cases s <;> rfl

/-- The child on the other side. -/
@[simp]
theorem link_not_sided : (sided s p c d b).link (!s) = d := by cases s <;> rfl

@[simp]
theorem parent_sided : (sided s p c d b).parent = p := by cases s <;> rfl

@[simp]
theorem balance_sided : (sided s p c d b).balance = b := by cases s <;> rfl

/-- Setting the link on the named side replaces that child. -/
@[simp]
theorem setLink_sided : (sided s p c d b).setLink s e = sided s p e d b := by cases s <;> rfl

/-- Setting the link on the other side replaces the other child. -/
@[simp]
theorem setLink_not_sided : (sided s p c d b).setLink (!s) e = sided s p c e b := by
  cases s <;> rfl

@[simp]
theorem setParent_sided : (sided s p c d b).setParent e = sided s e c d b := by cases s <;> rfl

@[simp]
theorem setBalance_sided (b' : Int) : (sided s p c d b).setBalance b' = sided s p c d b' := by
  cases s <;> rfl

end BAVLNode

open BAVLNode (sided)

/-- A tree seen from the other side. -/
theorem branch_not (s : Bool) (x : P) (b : Int) (t u : AvlTree P) :
    branch (!s) x b t u = branch s x b u t := by
  cases s <;> rfl

namespace BAVL

/-! ## Trees in memory -/

/-- The subtree `t` below `parent`. -/
def Rep (node : P → BAVLNode P) (parent : Option P) : AvlTree P → Prop
  | .nil => True
  | .node x l r => node x.1 = ⟨parent, top l, top r, x.2⟩ ∧ Rep node (some x.1) l ∧
      Rep node (some x.1) r

/-- The node above a subtree on `p`. -/
def parentOf : List (Frame P) → Option P
  | [] => none
  | f :: _ => some f.elem

/-- The root of the tree around a subtree with the root `hole`. -/
def rootOf : List (Frame P) → Option P → Option P
  | [], hole => hole
  | f :: p, _ => rootOf p (some f.elem)

/-- The tree around a subtree with the root `hole`. -/
def RepPath (node : P → BAVLNode P) (hole : Option P) : List (Frame P) → Prop
  | [] => True
  | f :: p => node f.elem = sided f.side (parentOf p) hole (top f.other) f.balance ∧
      Rep node (some f.elem) f.other ∧ RepPath node (some f.elem) p

/-- The memory of `o` holds the tree `plug p t`, with the focus on `t`; no node is in it twice. -/
structure At (o : BAVL P) (p : List (Frame P)) (t : AvlTree P) : Prop where
  root : o.root = rootOf p (top t)
  rep : Rep o.node (parentOf p) t
  path : RepPath o.node (top t) p
  nodup : (pathElems p ++ toList t).Nodup

variable {node node' : P → BAVLNode P} {parent parent' hole hole' : Option P}
  {t u : AvlTree P} {p : List (Frame P)} {o : BAVL P} {x : P} {b : Int} {s : Bool}

/-- A node with its two subtrees in memory, whichever side is named first. -/
theorem rep_branch : Rep node parent (branch s x b t u) ↔
    node x = sided s parent (top t) (top u) b ∧ Rep node (some x) t ∧ Rep node (some x) u := by
  cases s
  · exact Iff.rfl
  · exact and_congr_right fun _ => and_comm

/-- A subtree stays in memory as long as none of its nodes changes. -/
theorem Rep.congr (h : Rep node parent t) (heq : ∀ y ∈ toList t, node' y = node y) :
    Rep node' parent t := by
  induction t generalizing parent with
  | nil => trivial
  | node x l r hl hr =>
    obtain ⟨hx, hrl, hrr⟩ := h
    simp only [AvlTree.toList_node, List.mem_append, List.mem_cons] at heq
    -- the nodes of the two subtrees are among those of the tree
    refine ⟨(heq x.1 (by simp)).trans hx, hl hrl ?_, hr hrr ?_⟩
    · exact fun y hy => heq y (.inl hy)
    · exact fun y hy => heq y (.inr (.inr hy))

/-- The root of a subtree gets another parent. -/
theorem Rep.reparent (h : Rep node parent t) (hnodup : (toList t).Nodup)
    (htop : ∀ y, top t = some y → node' y = (node y).setParent parent')
    (heq : ∀ y ∈ toList t, top t ≠ some y → node' y = node y) : Rep node' parent' t := by
  cases t with
  | nil => trivial
  | node x l r =>
    obtain ⟨hx, hrl, hrr⟩ := h
    simp only [AvlTree.toList_node] at heq hnodup
    obtain ⟨-, hright, hdisj⟩ := List.nodup_append.mp hnodup
    refine ⟨?_, hrl.congr ?_, hrr.congr ?_⟩
    · rw [htop x.1 rfl, hx]
      rfl
    · intro y hy
      refine heq y (List.mem_append_left _ hy) ?_
      -- the root is no node of its own left subtree
      intro htop'
      exact hdisj y hy x.1 List.mem_cons_self (Option.some.inj htop').symm
    · intro y hy
      refine heq y (List.mem_append_right _ (List.mem_cons_of_mem _ hy)) ?_
      -- nor of its right one
      intro htop'
      rw [Option.some.inj htop'] at hright
      exact (List.nodup_cons.mp hright).1 hy

/-- The tree around a subtree stays in memory as long as none of its nodes changes. -/
theorem RepPath.congr (h : RepPath node hole p) (heq : ∀ y ∈ pathElems p, node' y = node y) :
    RepPath node' hole p := by
  induction p generalizing hole with
  | nil => trivial
  | cons f p ih =>
    obtain ⟨hf, hother, hp⟩ := h
    simp only [pathElems, List.mem_cons, List.mem_append] at heq
    refine ⟨(heq f.elem (by simp)).trans hf, hother.congr ?_, ih hp ?_⟩
    · exact fun y hy => heq y (.inr (.inl hy))
    · exact fun y hy => heq y (.inr (.inr hy))

/-- The parent of a subtree gets another child in its place. -/
theorem RepPath.relink (h : RepPath node hole p) (hnodup : (pathElems p).Nodup)
    (hparent : ∀ f ∈ p.head?, node' f.elem = (node f.elem).setLink f.side hole')
    (heq : ∀ y ∈ pathElems p, parentOf p ≠ some y → node' y = node y) :
    RepPath node' hole' p := by
  cases p with
  | nil => trivial
  | cons f p =>
    obtain ⟨hf, hother, hp⟩ := h
    simp only [pathElems] at heq hnodup
    obtain ⟨hnot, -⟩ := List.nodup_cons.mp hnodup
    -- the parent is on the path once, so everything else on it stays
    have hne : ∀ y ∈ toList f.other ++ pathElems p, node' y = node y := by
      intro y hy
      refine heq y (List.mem_cons_of_mem _ hy) ?_
      intro hy'
      rw [Option.some.inj hy'] at hnot
      exact hnot hy
    refine ⟨?_, hother.congr ?_, hp.congr ?_⟩
    · rw [hparent f rfl, hf, BAVLNode.setLink_sided]
    · exact fun y hy => hne y (List.mem_append_left _ hy)
    · exact fun y hy => hne y (List.mem_append_right _ hy)

/-! ## Moving the focus -/

/-- The nodes are the same ones before and after a step down. -/
theorem nodup_branch : (pathElems p ++ toList (branch s x b t u)).Nodup ↔
    (pathElems (⟨s, x, b, u⟩ :: p) ++ toList t).Nodup := by
  have hleft := AvlTree.toList_plug_perm p (branch s x b t u)
  have hright := AvlTree.toList_plug_perm (⟨s, x, b, u⟩ :: p) t
  -- both are the whole tree in another order
  rw [← hleft.nodup_iff, ← hright.nodup_iff]
  rfl

/-- The focus moves from a node to its child on side `s`. -/
theorem At.down : At o p (branch s x b t u) ↔ At o (⟨s, x, b, u⟩ :: p) t := by
  constructor
  · -- down: the node becomes a frame of the path
    rintro ⟨hroot, hrep, hpath, hnodup⟩
    rw [rep_branch] at hrep
    rw [AvlTree.top_branch] at hroot hpath
    exact ⟨hroot, hrep.2.1, ⟨hrep.1, hrep.2.2, hpath⟩, nodup_branch.mp hnodup⟩
  · -- up: the first frame becomes the node above the subtree
    rintro ⟨hroot, hrep, ⟨hx, hother, hpath⟩, hnodup⟩
    refine ⟨?_, rep_branch.mpr ⟨hx, hrep, hother⟩, ?_, nodup_branch.mpr hnodup⟩
    · rw [AvlTree.top_branch]
      exact hroot
    · rw [AvlTree.top_branch]
      exact hpath

/-- The focus does not matter: `o` holds the whole tree. -/
theorem At.focus : At o p t ↔ At o [] (plug p t) := by
  induction p generalizing t with
  | nil => exact Iff.rfl
  | cons f p ih => exact At.down.symm.trans ih

/-- The node in focus, as it is in memory. -/
theorem At.node_eq (h : At o p (branch s x b t u)) :
    o.node x = sided s (parentOf p) (top t) (top u) b := (rep_branch.mp h.rep).1

/-- The parent link of the node in focus leads to the first frame of the path. -/
theorem At.parent_eq (h : At o p t) (hx : top t = some x) : (o.node x).parent = parentOf p := by
  cases t with
  | nil => cases hx
  | node y l r =>
    cases hx
    exact congrArg BAVLNode.parent h.rep.1

/-- The parent is a node of the path. -/
theorem mem_of_parentOf {y : P} (h : parentOf p = some y) : y ∈ pathElems p := by
  cases p with
  | nil => cases h
  | cons f p =>
    cases h
    exact List.mem_cons_self

/-- The nodes that take part in a rotation and those of their subtrees. -/
theorem toList_rotate_perm (dir : Bool) (r nr : P) (i j : Int) (a b c : AvlTree P) :
    (toList (branch dir r i a (branch dir nr j b c))).Perm
      (r :: nr :: (toList a ++ (toList b ++ toList c))) := by
  refine (AvlTree.toList_branch_perm dir r i a _).trans (List.Perm.cons r ?_)
  refine (List.Perm.append_right _ (AvlTree.toList_branch_perm dir nr j b c)).trans ?_
  refine List.Perm.cons nr (List.perm_append_comm.trans (List.Perm.append_left _ ?_))
  exact List.perm_append_comm

section Links

variable [DecidableEq P]

/-- A child is told from its sibling by its pointer. -/
theorem link_iff_side {f : Frame P} (h : RepPath node (some x) (f :: p))
    (hx : x ∉ toList f.other) : decide ((node f.elem).link true = some x) = f.side := by
  rw [h.1]
  cases hside : f.side
  · -- on the left the test finds the sibling, which is another node
    have hne : top f.other ≠ some x := fun htop => hx (AvlTree.top_mem_toList htop)
    simp [BAVLNode.link, BAVLNode.sided, hne]
  · simp [BAVLNode.link, BAVLNode.sided]

/-- `nr` is linked in the place of `r`. -/
theorem RepPath.relink_some {r : P} {c : Option P} (h : RepPath node (some r) p)
    (hnodup : (pathElems p).Nodup) (hr : r ∉ pathElems p)
    (hparent : ∀ y, parentOf p = some y →
      node' y = (node y).setLink ((node y).link true = some r) c)
    (heq : ∀ y ∈ pathElems p, parentOf p ≠ some y → node' y = node y) : RepPath node' c p := by
  refine h.relink hnodup ?_ heq
  intro f hf
  cases p with
  | nil => cases hf
  | cons g p =>
    -- the side of the child is read off the old link
    cases hf
    rw [hparent f.elem rfl, link_iff_side h]
    intro hmem
    exact hr (List.mem_cons_of_mem _ (List.mem_append_left _ hmem))

/-! ## What the assignments change -/

section Assignments

variable (o : BAVL P) (x y : P) (c q : Option P)

/-- An assignment to one node. -/
@[simp]
theorem node_update (f : BAVLNode P → BAVLNode P) :
    (o.update x f).node y = if y = x then f (o.node y) else o.node y := by
  unfold update
  dsimp only
  split
  · rename_i h
    rw [h]
  · rfl

@[simp]
theorem root_update (f : BAVLNode P → BAVLNode P) : (o.update x f).root = o.root := rfl

/-- An assignment to a link. -/
@[simp]
theorem node_setLink (s : Bool) :
    (o.setLink x s c).node y = if y = x then (o.node y).setLink s c else o.node y :=
  node_update o x y _

@[simp]
theorem root_setLink (s : Bool) : (o.setLink x s c).root = o.root := rfl

/-- An assignment to a parent link. -/
@[simp]
theorem node_setParent :
    (o.setParent x q).node y = if y = x then (o.node y).setParent q else o.node y :=
  node_update o x y _

@[simp]
theorem root_setParent : (o.setParent x q).root = o.root := rfl

/-- An assignment to a balance factor. -/
@[simp]
theorem node_setBalance (b : Int) :
    (o.setBalance x b).node y = if y = x then (o.node y).setBalance b else o.node y :=
  node_update o x y _

@[simp]
theorem root_setBalance (b : Int) : (o.setBalance x b).root = o.root := rfl

/-- An assignment to the parent link of a child that may be missing. -/
@[simp]
theorem node_setParentOf : (o.setParentOf c q).node y =
    if c = some y then (o.node y).setParent q else o.node y := by
  cases c with
  | none => simp [setParentOf]
  | some c => simp [setParentOf, eq_comm]

@[simp]
theorem root_setParentOf : (o.setParentOf c q).root = o.root := by
  cases c <;> rfl

/-- The link of the parent that led to `x` leads to `c`. -/
@[simp]
theorem node_relink : (o.relink q x c).node y =
    if q = some y then (o.node y).setLink ((o.node y).link true = some x) c else o.node y := by
  cases q with
  | none => simp [relink]
  | some q =>
    simp only [relink, node_setLink, Option.some.injEq, eq_comm]
    split
    · rename_i h
      rw [h]
    · rfl

/-- Without a parent it is the root that is replaced. -/
@[simp]
theorem root_relink : (o.relink q x c).root = if q = none then c else o.root := by
  cases q <;> simp [relink]

end Assignments

/-- `_BAVL_rotate`, assignment by assignment: `nr` takes the place of its parent `r`, which
    gets the child of `nr` that was between them. -/
theorem rotate_eq {r nr : P} {dir : Bool} {q a b c : Option P} {i j : Int}
    (hr : o.node r = sided dir q a (some nr) i) (hnr : o.node nr = sided dir (some r) b c j)
    (hne : r ≠ nr) (hq : q ≠ some r ∧ q ≠ some nr) (hb : b ≠ some r ∧ b ≠ some nr)
    (hqb : ∀ y, q = some y → b ≠ some y) :
    ∃ o', o.rotate r dir = some o' ∧ o'.root = (if q = none then some nr else o.root) ∧
      ∀ y, o'.node y =
        if y = r then sided dir (some nr) a b i
        else if y = nr then sided dir q (some r) c j
        else if b = some y then (o.node y).setParent (some r)
        else if q = some y then (o.node y).setLink ((o.node y).link true = some r) (some nr)
        else o.node y := by
  refine ⟨_, by rw [rotate, hr, BAVLNode.link_not_sided]; rfl, ?_, ?_⟩
  · simp [hr, hnr, hne, hne.symm, hb]
  · intro y
    -- the five cases of the statement, in its order
    by_cases hyr : y = r
    · subst hyr
      simp [hr, hnr, hne, hne.symm, hq, hb]
    by_cases hynr : y = nr
    · subst hynr
      simp [hr, hnr, hne, hne.symm, hq, hb]
    by_cases hyb : b = some y
    · subst hyb
      -- the child that changes sides is not the parent of `r`
      have hqy : q ≠ some y := fun h => hqb y h rfl
      simp [hr, hnr, hne, hne.symm, hqy, hyr, hynr]
    · by_cases hyq : q = some y
      · subst hyq
        simp_all [hne.symm]
      · simp [hr, hnr, hne, hne.symm, hb, hyr, hynr, hyb, hyq]

/-! ## Changes to the tree -/

/-- `_BAVL_rotate` is a rotation of the tree: `nr` becomes the parent of `r` and gives it the
    subtree between them. -/
theorem At.rotate {r nr : P} {dir : Bool} {i j : Int} {a b c : AvlTree P}
    (h : At o p (branch dir r i a (branch dir nr j b c))) :
    ∃ o', o.rotate r dir = some o' ∧ At o' p (branch dir nr j (branch dir r i a b) c) := by
  obtain ⟨hroot, hrep, hpath, hnodup⟩ := h
  -- a rotation keeps the order of the nodes
  have hsame : toList (branch dir nr j (branch dir r i a b) c) =
      toList (branch dir r i a (branch dir nr j b c)) := by
    cases dir <;> simp [branch]
  -- all nodes that take part are different, and none of them is on the path
  have hdisjoint : (pathElems p ++ (r :: nr :: (toList a ++ (toList b ++ toList c)))).Nodup :=
    (List.Perm.append_left _ (toList_rotate_perm dir r nr i j a b c)).nodup_iff.mp hnodup
  simp only [List.nodup_append, List.nodup_cons, List.mem_cons, List.mem_append, not_or]
    at hdisjoint
  obtain ⟨hpn, ⟨⟨hne, hra, hrb, hrc⟩, ⟨hna, hnb, hnc⟩, -, ⟨hbn, -, hbc⟩, habc⟩, hp⟩ := hdisjoint
  rw [rep_branch, rep_branch, AvlTree.top_branch] at hrep
  -- above: the parent of `r` has `nr` for its child
  rw [AvlTree.top_branch] at hroot hpath
  obtain ⟨hr, ha, hnr, hb, hc⟩ := hrep
  -- the parent of `r` is none of the nodes below it
  have hq : ∀ {y}, parentOf p = some y →
      ¬ (y = r ∨ y = nr ∨ y ∈ toList a ∨ y ∈ toList b ∨ y ∈ toList c) :=
    fun hy hmem => hp _ (mem_of_parentOf hy) _ hmem rfl
  have htop : ∀ {y}, top b = some y → y ∈ toList b := AvlTree.top_mem_toList
  obtain ⟨o', hrotate, hroot', hnode⟩ := rotate_eq hr hnr hne
    ⟨fun h => hq h (by simp), fun h => hq h (by simp)⟩
    ⟨fun h => hrb (htop h), fun h => hnb (htop h)⟩ (fun y hy hy' => hq hy (by simp [htop hy']))
  -- nothing but `r`, `nr`, the root of `b` and the parent of `r` changes
  have hrest : ∀ y, ¬ (y = r ∨ y = nr ∨ top b = some y ∨ parentOf p = some y) →
      o'.node y = o.node y := by
    intro y hy
    simp only [not_or] at hy
    rw [hnode, if_neg hy.1, if_neg hy.2.1, if_neg hy.2.2.1, if_neg hy.2.2.2]
  refine ⟨o', hrotate, ?_, ?_, ?_, hsame ▸ hnodup⟩
  · -- the root changes only if `r` was the root
    rw [hroot', AvlTree.top_branch, hroot]
    cases p <;> rfl
  · -- below: `a` and `c` keep their parents, `b` goes over from `nr` to `r`
    rw [rep_branch, rep_branch, AvlTree.top_branch, hnode, hnode, if_neg (Ne.symm hne),
      if_pos rfl, if_pos rfl]
    refine ⟨rfl, ⟨rfl, ha.congr ?_, hb.reparent hbn ?_ ?_⟩, hc.congr ?_⟩
    · intro y hy
      apply hrest
      rintro (rfl | rfl | h | h)
      · exact hra hy
      · exact hna hy
      · exact habc y hy y (.inl (htop h)) rfl
      · exact hq h (by simp [hy])
    · intro y hy
      have hyr : y ≠ r := fun h => hrb (h ▸ htop hy)
      have hynr : y ≠ nr := fun h => hnb (h ▸ htop hy)
      rw [hnode, if_neg hyr, if_neg hynr, if_pos hy]
    · intro y hy hy'
      apply hrest
      rintro (rfl | rfl | h | h)
      · exact hrb hy
      · exact hnb hy
      · exact hy' h
      · exact hq h (by simp [hy])
    · intro y hy
      apply hrest
      rintro (rfl | rfl | h | h)
      · exact hrc hy
      · exact hnc hy
      · exact hbc y (htop h) y hy rfl
      · exact hq h (by simp [hy])
  · rw [AvlTree.top_branch]
    refine hpath.relink_some hpn (fun hmem => hp r hmem r (by simp) rfl) ?_ ?_
    · intro y hy
      have hyb : top b ≠ some y := fun h => hq hy (by simp [htop h])
      rw [hnode, if_neg (fun h => hq hy (by simp [h])), if_neg (fun h => hq hy (by simp [h])),
        if_neg hyb, if_pos hy]
    · intro y hy hy'
      apply hrest
      rintro (rfl | rfl | h | h)
      · exact hp y hy y (by simp) rfl
      · exact hp y hy y (by simp) rfl
      · exact hp y hy y (by simp [htop h]) rfl
      · exact hy' h

/-- The balance factor of the node in focus is set. -/
theorem At.setBalance (h : At o p (branch s x b t u)) (b' : Int) :
    At (o.setBalance x b') p (branch s x b' t u) := by
  obtain ⟨hroot, hrep, hpath, hnodup⟩ := h
  have hsame : toList (branch s x b' t u) = toList (branch s x b t u) := by
    rw [AvlTree.toList_branch, AvlTree.toList_branch]
  have hdisjoint : (pathElems p ++ (x :: (toList u ++ toList t))).Nodup :=
    (List.Perm.append_left _ (AvlTree.toList_branch_perm s x b t u)).nodup_iff.mp hnodup
  simp only [List.nodup_append, List.nodup_cons, List.mem_cons, List.mem_append, not_or]
    at hdisjoint
  obtain ⟨-, ⟨⟨hxu, hxt⟩, -⟩, hp⟩ := hdisjoint
  -- only the node itself changes
  have hrest : ∀ y, y ≠ x → (o.setBalance x b').node y = o.node y := by
    intro y hy
    rw [node_setBalance, if_neg hy]
  rw [rep_branch] at hrep
  rw [AvlTree.top_branch] at hroot hpath
  refine ⟨?_, rep_branch.mpr ⟨?_, hrep.2.1.congr ?_, hrep.2.2.congr ?_⟩, ?_, hsame ▸ hnodup⟩
  · rw [AvlTree.top_branch]
    exact hroot
  · rw [node_setBalance, if_pos rfl, hrep.1, BAVLNode.setBalance_sided]
  · exact fun y hy => hrest y fun h => hxt (h ▸ hy)
  · exact fun y hy => hrest y fun h => hxu (h ▸ hy)
  · rw [AvlTree.top_branch]
    exact hpath.congr fun y hy => hrest y fun h => hp y hy x (by simp) h

/-- A node with one child at most is cut out. -/
theorem At.replaceSubtree (h : At o p (branch s x b t .nil)) :
    At (o.replaceSubtree x (top t)) p t := by
  obtain ⟨hroot, hrep, hpath, hnodup⟩ := h
  have hdisjoint : (pathElems p ++ (x :: ([] ++ toList t))).Nodup :=
    (List.Perm.append_left _ (AvlTree.toList_branch_perm s x b t .nil)).nodup_iff.mp hnodup
  simp only [List.nodup_append, List.nodup_cons, List.mem_cons, List.nil_append] at hdisjoint
  obtain ⟨hpn, ⟨hxt, htn⟩, hp⟩ := hdisjoint
  rw [rep_branch] at hrep
  rw [AvlTree.top_branch] at hroot hpath
  obtain ⟨hx, ht, -⟩ := hrep
  have hparent : (o.node x).parent = parentOf p := by rw [hx, BAVLNode.parent_sided]
  -- the node that is cut out is not its own parent
  have hq : parentOf p ≠ some x := fun h => hp x (mem_of_parentOf h) x (by simp) rfl
  -- the two assignments: the child gets the parent, and the parent gets the child
  have hnode : ∀ y, (o.replaceSubtree x (top t)).node y =
      if top t = some y then (o.node y).setParent (parentOf p)
      else if parentOf p = some y then (o.node y).setLink ((o.node y).link true = some x) (top t)
      else o.node y := by
    intro y
    -- the child is below the parent, so the two assignments are to different nodes
    have htq : top t = some y → parentOf p ≠ some y := by
      intro hy hy'
      exact hp y (mem_of_parentOf hy') y (.inr (AvlTree.top_mem_toList hy)) rfl
    simp only [BAVL.replaceSubtree, node_setParentOf, node_relink, hparent, if_neg hq]
    by_cases hy : top t = some y
    · rw [if_pos hy, if_pos hy, if_neg (htq hy)]
    · rw [if_neg hy, if_neg hy]
  refine ⟨?_, ht.reparent htn ?_ ?_, hpath.relink_some hpn ?_ ?_ ?_, ?_⟩
  · simp only [BAVL.replaceSubtree, root_setParentOf, root_relink, hparent, hroot]
    cases p <;> rfl
  · intro y hy
    rw [hnode, if_pos hy]
  · intro y hy hy'
    have hyq : parentOf p ≠ some y := fun h => hp y (mem_of_parentOf h) y (.inr hy) rfl
    rw [hnode, if_neg hy', if_neg hyq]
  · exact fun hmem => hp x hmem x (by simp) rfl
  · intro y hy
    have hyt : top t ≠ some y := fun h =>
      hp y (mem_of_parentOf hy) y (.inr (AvlTree.top_mem_toList h)) rfl
    rw [hnode, if_neg hyt, if_pos hy]
  · intro y hy hy'
    have hyt : top t ≠ some y := fun h => hp y hy y (.inr (AvlTree.top_mem_toList h)) rfl
    rw [hnode, if_neg hyt, if_neg hy']
  · rw [List.nodup_append]
    exact ⟨hpn, htn, fun y hy z hz => hp y hy z (.inr hz)⟩

end Links

end BAVL

end OpenFlux

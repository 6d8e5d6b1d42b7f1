import Mathlib.Logic.Function.Basic

/-!
# Red-black trees with parent pointers

The trees of the Linux kernel's `rbtree.c`, in a memory that maps a pointer to its node. Several
trees may lie in one memory. The pairs of mirrored branches are one definition with a direction.

Every function returns `none` where the original follows a null pointer, or where a loop has not
ended after `fuel` turns.

The lemmas are about small trees: `insert_empty` for an insertion into an empty tree, `insert_below`
for one below a black root, and `erase_single`.
-/

namespace Rbtree

variable {K : Type*}

inductive Dir
  | left | right

def Dir.opp : Dir → Dir
  | .left => .right
  | .right => .left

structure Node (K : Type*) where
  left : Option K
  right : Option K
  parent : Option K
  black : Bool

def Node.child (n : Node K) : Dir → Option K
  | .left => n.left
  | .right => n.right

def Node.setChild (n : Node K) (d : Dir) (x : Option K) : Node K :=
  match d with
  | .left => { n with left := x }
  | .right => { n with right := x }

structure RbTree (K : Type*) where
  mem : K → Node K
  root : Option K

/-! ## Search -/

/-- Where a search ends: at a node with the key, below a node, or in an empty tree. -/
inductive Place (K : Type*)
  | found (k : K)
  | absent (slot : Option (K × Dir))

def RbTree.descend (key : K → Int) (x : Int) (t : RbTree K) :
    Nat → Option K → Option (K × Dir) → Option (Place K)
  | 0, _, _ => none
  | _ + 1, none, slot => some (.absent slot)
  | fuel + 1, some k, _ =>
    if x < key k then t.descend key x fuel (t.mem k).left (some (k, .left))
    else if key k < x then t.descend key x fuel (t.mem k).right (some (k, .right))
    else some (.found k)

def Node.single : Node K := ⟨none, none, none, true⟩

section Search

variable {t : RbTree K} {key : K → Int} {x : Int} {k p : K} {slot : Option (K × Dir)} {fuel : Nat}

theorem descend_empty : t.descend key x (fuel + 1) none slot = some (.absent slot) := rfl

theorem descend_single (hk : t.mem k = Node.single) :
    t.descend key x (fuel + 2) (some k) slot =
      if x = key k then some (.found k)
      else some (.absent (some (k, if x < key k then .left else .right))) := by
  unfold RbTree.descend
  rw [hk]
  by_cases hlt : x < key k
  · rw [if_pos hlt, if_neg (Int.ne_of_lt hlt), if_pos hlt]
    rfl
  by_cases hgt : key k < x
  · rw [if_neg hlt, if_pos hgt, if_neg (Int.ne_of_gt hgt), if_neg hlt]
    rfl
  grind

theorem descend_below (hne : key k ≠ key p)
    (hchild : (t.mem p).child (if key k < key p then .left else .right) = some k) :
    t.descend key (key k) (fuel + 2) (some p) slot = some (.found k) := by
  have hself : ∀ slot, t.descend key (key k) (fuel + 1) (some k) slot = some (.found k) := by
    simp [RbTree.descend]
  unfold RbTree.descend
  by_cases hlt : key k < key p
  · rw [if_pos hlt] at hchild
    rw [if_pos hlt, show (t.mem p).left = some k from hchild]
    exact hself _
  · have hgt : key p < key k := by omega
    rw [if_neg hlt] at hchild
    rw [if_neg hlt, if_pos hgt, show (t.mem p).right = some k from hchild]
    exact hself _

end Search

/-! ## Changes of a node -/

variable [DecidableEq K]

def RbTree.modify (t : RbTree K) (k : K) (f : Node K → Node K) : RbTree K :=
  { t with mem := Function.update t.mem k (f (t.mem k)) }

def RbTree.setChild (t : RbTree K) (k : K) (d : Dir) (x : Option K) : RbTree K :=
  t.modify k fun n => n.setChild d x

def RbTree.setParent (t : RbTree K) (k : K) (p : Option K) : RbTree K :=
  t.modify k fun n => { n with parent := p }

/-- `rb_set_black`, `rb_set_red` and `rb_set_color`. -/
def RbTree.setBlack (t : RbTree K) (k : K) (black : Bool) : RbTree K :=
  t.modify k fun n => { n with black := black }

def RbTree.whenSome (t : RbTree K) (x : Option K) (f : RbTree K → K → RbTree K) : RbTree K :=
  match x with
  | some k => f t k
  | none => t

/-- `rb_is_red` of a pointer that may be null. -/
def RbTree.isRed (t : RbTree K) (x : Option K) : Bool :=
  match x with
  | some k => !(t.mem k).black
  | none => false

/-- `new` replaces `old` below `parent`; side `d` is looked at first. -/
def RbTree.replaceChild (t : RbTree K) (parent : Option K) (d : Dir) (old : K) (new : Option K) :
    RbTree K :=
  match parent with
  | some p =>
    if (t.mem p).child d = some old then t.setChild p d new else t.setChild p d.opp new
  | none => { t with root := new }

def RbTree.linkNode (t : RbTree K) (k : K) (slot : Option (K × Dir)) : RbTree K :=
  let t := t.modify k fun _ => ⟨none, none, slot.map Prod.fst, false⟩
  match slot with
  | some (p, d) => t.setChild p d (some k)
  | none => { t with root := some k }

/-- `__rb_rotate_left` and `__rb_rotate_right`. -/
def RbTree.rotate (t : RbTree K) (d : Dir) (node : K) : Option (RbTree K) :=
  ((t.mem node).child d.opp).map fun up =>
    let parent := (t.mem node).parent
    let inner := (t.mem up).child d
    let t := t.setChild node d.opp inner
    let t := t.whenSome inner fun t k => t.setParent k (some node)
    let t := t.setChild up d (some node)
    let t := t.setParent up parent
    let t := t.replaceChild parent d node (some up)
    t.setParent node (some up)

/-! ## Insertion -/

/-- The end of `rb_insert_color`. -/
def RbTree.blackenRoot (t : RbTree K) : Option (RbTree K) := t.root.map fun r => t.setBlack r true

def RbTree.insertColor : Nat → K → RbTree K → Option (RbTree K)
  | 0, _, _ => none
  | fuel + 1, node, t =>
    match (t.mem node).parent with
    | none => t.blackenRoot
    | some parent =>
      if (t.mem parent).black then t.blackenRoot
      else
        (t.mem parent).parent.bind fun gparent =>
          let d := if (t.mem gparent).left = some parent then Dir.left else .right
          match (t.mem gparent).child d.opp, t.isRed ((t.mem gparent).child d.opp) with
          | some uncle, true =>
            let t := ((t.setBlack uncle true).setBlack parent true).setBlack gparent false
            t.insertColor fuel gparent
          | _, _ =>
            if (t.mem parent).child d.opp = some node then
              (t.rotate d parent).bind fun t =>
                (((t.setBlack node true).setBlack gparent false).rotate d.opp gparent).bind fun t =>
                  t.insertColor fuel parent
            else
              (((t.setBlack parent true).setBlack gparent false).rotate d.opp gparent).bind fun t =>
                t.insertColor fuel node

/-! ## Deletion -/

/-- The last case of `__rb_erase_color`, with the sibling `other`. -/
def RbTree.eraseRotate (t : RbTree K) (d : Dir) (parent other : K) : Option (RbTree K) :=
  let t := t.setBlack other (t.mem parent).black
  let t := t.setBlack parent true
  let t := t.whenSome ((t.mem other).child d.opp) fun t k => t.setBlack k true
  t.rotate d parent

def RbTree.eraseColor : Nat → Option K → Option K → RbTree K → Option (RbTree K)
  | 0, _, _, _ => none
  | fuel + 1, node, parent, t =>
    if t.isRed node = false ∧ node ≠ t.root then
      parent.bind fun parent =>
        let d := if (t.mem parent).left = node then Dir.left else .right
        ((t.mem parent).child d.opp).bind fun other =>
          -- A red sibling is rotated away first.
          (if (t.mem other).black then some t
            else ((t.setBlack other true).setBlack parent false).rotate d parent).bind fun t =>
          ((t.mem parent).child d.opp).bind fun other =>
            if t.isRed (t.mem other).left = false ∧ t.isRed (t.mem other).right = false then
              let t := t.setBlack other false
              t.eraseColor fuel (some parent) (t.mem parent).parent
            else
              (if t.isRed ((t.mem other).child d.opp) then some t
                else
                  let t := t.whenSome ((t.mem other).child d) fun t k => t.setBlack k true
                  (t.setBlack other false).rotate d.opp other).bind fun t =>
              ((t.mem parent).child d.opp).bind fun other =>
                (t.eraseRotate d parent other).map fun t =>
                  t.whenSome t.root fun t k => t.setBlack k true
    else some (t.whenSome node fun t k => t.setBlack k true)

def RbTree.leftmost (t : RbTree K) : Nat → K → Option K
  | 0, _ => none
  | fuel + 1, k =>
    match (t.mem k).left with
    | none => some k
    | some l => t.leftmost fuel l

/-- The end of `rb_erase`. -/
def RbTree.eraseFinish (fuel : Nat) (black : Bool) (child parent : Option K) (t : RbTree K) :
    Option (RbTree K) :=
  if black then t.eraseColor fuel child parent else some t

/-- `rb_erase` for a node with at most one child. -/
def RbTree.eraseOne (fuel : Nat) (node : K) (child : Option K) (t : RbTree K) : Option (RbTree K) :=
  let parent := (t.mem node).parent
  let black := (t.mem node).black
  let t := t.whenSome child fun t k => t.setParent k parent
  let t := t.replaceChild parent .left node child
  t.eraseFinish fuel black child parent

/-- `rb_erase` of a node with two children: the next node replaces it. -/
def RbTree.eraseTwo (fuel : Nat) (old right : K) (t : RbTree K) : Option (RbTree K) :=
  (t.leftmost fuel right).bind fun node =>
    let child := (t.mem node).right
    let black := (t.mem node).black
    (t.mem node).parent.bind fun up =>
      let t := t.whenSome child fun t k => t.setParent k (some up)
      let parent := if up = old then node else up
      let t := if up = old then t.setChild up .right child else t.setChild up .left child
      let t := t.modify node fun _ => t.mem old
      let t := t.replaceChild (t.mem old).parent .left old (some node)
      let t := t.whenSome (t.mem old).left fun t k => t.setParent k (some node)
      let t := t.whenSome (t.mem old).right fun t k => t.setParent k (some node)
      t.eraseFinish fuel black child (some parent)

def RbTree.erase (fuel : Nat) (node : K) (t : RbTree K) : Option (RbTree K) :=
  match (t.mem node).left, (t.mem node).right with
  | none, child => t.eraseOne fuel node child
  | some l, none => t.eraseOne fuel node (some l)
  | some _, some r => t.eraseTwo fuel node r

/-! ## Small trees -/

variable {t : RbTree K} {k p : K} {fuel : Nat}

theorem insert_empty :
    (t.linkNode k none).insertColor (fuel + 1) k =
      some ⟨Function.update t.mem k Node.single, some k⟩ := by
  simp [RbTree.linkNode, RbTree.modify, RbTree.insertColor, RbTree.blackenRoot, RbTree.setBlack,
    Node.single]

theorem insert_below {d : Dir} (hne : p ≠ k) (hroot : t.root = some p)
    (hblack : (t.mem p).black = true) :
    ∃ t', (t.linkNode k (some (p, d))).insertColor (fuel + 1) k = some t' ∧
      t'.root = some p ∧ (t'.mem p).child d = some k := by
  have hp : (t.linkNode k (some (p, d))).mem p = (t.mem p).setChild d (some k) := by
    simp [RbTree.linkNode, RbTree.setChild, RbTree.modify, hne]
  have hparent : ((t.linkNode k (some (p, d))).mem k).parent = some p := by
    simp [RbTree.linkNode, RbTree.setChild, RbTree.modify, hne.symm]
  have hcolor : ((t.linkNode k (some (p, d))).mem p).black = true := by
    rw [hp]
    cases d <;> exact hblack
  have hroot' : (t.linkNode k (some (p, d))).root = some p := hroot
  refine ⟨(t.linkNode k (some (p, d))).setBlack p true, ?_, hroot', ?_⟩
  · simp_all [RbTree.insertColor, RbTree.blackenRoot]
  · have hmem : ((t.linkNode k (some (p, d))).setBlack p true).mem p =
        { (t.mem p).setChild d (some k) with black := true } := by
      simp [RbTree.setBlack, RbTree.modify, hp]
    rw [hmem]
    cases d <;> rfl

theorem erase_single (hk : t.mem k = Node.single) :
    t.erase (fuel + 1) k = some { t with root := none } := by
  unfold RbTree.erase
  simp [Node.single, RbTree.eraseOne, hk, RbTree.replaceChild, RbTree.whenSome, RbTree.eraseFinish,
    RbTree.eraseColor]

end Rbtree

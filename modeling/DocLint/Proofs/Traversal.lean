import DocLint.Proofs.Nesting
import DocLint.Tree.Walk

/-!
# A walk is the pre-order

What a walk yields step by step is the listing that the tree defines by recursion. The stack is the
invariant: whatever has been yielded, the listings of the rows that are left, top row first, are what
is still to come, and one step takes the first node of them (`Walk.next_eq`). A run of steps takes as
many from the front, and once nothing is left, nothing comes any more.

The nodes of a tree are told apart by their addresses, the way from the root by places among
siblings, since equal nodes may hang in several places. In the listing every address occurs once, and
the addresses ascend like the words of a dictionary: a node comes before what lies below it, and what
lies below it before everything else.

* `Walk.next_after` — the step after any number of steps, from any state of the walk;
* `Node.addressed` — the listing with addresses;
* `Node.mem_addressed_iff`, `Node.pairwise_addressed` — every address once, in ascending order;
* `Node.addressed_infix` — what lies below an address is listed in one stretch;
* `Walk.yields_preorder` — the theorem.
-/

namespace DocLint

namespace Walk

/-! ## Runs of steps -/

/-- A walk after some number of steps. -/
def after : Nat → Walk → Walk
  | 0, w => w
  | k + 1, w => after k w.next.2

/-- Each step takes one node from the front of what is pending, so that after some number of steps
as many nodes are gone, and the rest is as it was. -/
theorem pending_after (k : Nat) (w : Walk) : (w.after k).pending = w.pending.drop k := by
  induction k generalizing w with
  | zero => rfl
  | succ k ih => rw [after, ih, pending_next, List.drop_tail]

/-- **The step after `k` steps** yields the node at place `k` of what was pending, and nothing if
there are no more than `k`. -/
theorem next_after (k : Nat) (w : Walk) : (w.after k).next.1 = w.pending[k]? := by
  rw [next_fst, pending_after, List.head?_drop]

end Walk

namespace Node

/-! ## Addresses

Two nodes of a tree may look the same, but no two have the same address. With the addresses a
listing tells which node is where, and that each is listed once. -/

/-- The node at an address: the root at the empty one, else further down from a child. -/
def at? : List Nat → Node → Option Node
  | [], n => some n
  | i :: p, n => n.children[i]?.bind (at? p)

/-- An address that starts one level higher: behind the place of the child it lies in, it is as
before. -/
def under (i : Nat) (e : List Nat × Node) : List Nat × Node := (i :: e.1, e.2)

mutual

/-- The listing of a tree with the address of each node. -/
def addressed : Node → List (List Nat × Node)
  | ⟨kind, span, value, children⟩ =>
    ([], ⟨kind, span, value, children⟩) :: addressedFrom 0 children

/-- The listings of siblings, the first of which is in place `i`. -/
def addressedFrom (i : Nat) : List Node → List (List Nat × Node)
  | [] => []
  | c :: cs => (addressed c).map (under i) ++ addressedFrom (i + 1) cs

end

theorem addressed_eq (n : Node) : n.addressed = ([], n) :: addressedFrom 0 n.children := by
  cases n
  rw [addressed]

mutual

/-- Without the addresses it is the listing of the tree, so that they add to the listing and change
nothing of it. -/
theorem map_snd_addressed : ∀ n : Node, n.addressed.map Prod.snd = n.preorder
  | ⟨kind, span, value, children⟩ => by
    rw [addressed, preorder, List.map_cons, map_snd_addressedFrom 0 children]

theorem map_snd_addressedFrom :
    ∀ (i : Nat) (cs : List Node), (addressedFrom i cs).map Prod.snd = preorderAll cs
  | _, [] => rfl
  | i, c :: cs => by
    have hfirst : ((addressed c).map (under i)).map Prod.snd = (addressed c).map Prod.snd := by
      rw [List.map_map]
      rfl
    rw [addressedFrom, preorderAll, List.map_append, hfirst, map_snd_addressed c,
      map_snd_addressedFrom (i + 1) cs]

end

/-- What the listings of siblings hold: a node of one of them, below its place. -/
theorem mem_addressedFrom_iff {cs : List Node} {i : Nat} {q : List Nat} {m : Node} :
    (q, m) ∈ addressedFrom i cs ↔
      ∃ j c p, cs[j]? = some c ∧ q = (i + j) :: p ∧ (p, m) ∈ c.addressed := by
  induction cs generalizing i with
  | nil => simp [addressedFrom]
  | cons c cs ih =>
    -- what is below the first child is addressed by its index and the address below it
    have hfirst : (q, m) ∈ (addressed c).map (under i) ↔
        ∃ p, q = i :: p ∧ (p, m) ∈ c.addressed := by
      simp only [List.mem_map, under, Prod.mk.injEq, Prod.exists]
      constructor
      · rintro ⟨p, m', hmem, rfl, rfl⟩
        exact ⟨p, rfl, hmem⟩
      · rintro ⟨p, rfl, hmem⟩
        exact ⟨p, m, hmem, rfl, rfl⟩
    rw [addressedFrom, List.mem_append, hfirst, ih]
    constructor
    · rintro (⟨p, rfl, hmem⟩ | ⟨j, d, p, hd, rfl, hmem⟩)
      · exact ⟨0, c, p, rfl, rfl, hmem⟩
      · exact ⟨j + 1, d, p, hd, by rw [Nat.add_assoc, Nat.add_comm 1 j], hmem⟩
    · rintro ⟨j, d, p, hd, rfl, hmem⟩
      cases j with
      | zero =>
        obtain rfl := Option.some.inj hd
        exact .inl ⟨p, rfl, hmem⟩
      | succ j => exact .inr ⟨j, d, p, hd, by rw [Nat.add_assoc, Nat.add_comm 1 j], hmem⟩

/-- **Every address of the tree is listed**, with the node that is there, and no other. -/
theorem mem_addressed_iff {n m : Node} {p : List Nat} :
    (p, m) ∈ n.addressed ↔ n.at? p = some m := by
  induction n using induct generalizing p with
  | step n ih =>
    rw [addressed_eq, List.mem_cons, Prod.mk.injEq, mem_addressedFrom_iff]
    cases p with
    | nil => simp [at?, eq_comm]
    | cons i p =>
      simp only [at?, reduceCtorEq, false_and, false_or, Nat.zero_add, List.cons.injEq,
        Option.bind_eq_some_iff]
      constructor
      · rintro ⟨j, c, p', hc, ⟨rfl, rfl⟩, hmem⟩
        exact ⟨c, hc, (ih c (List.mem_of_getElem? hc)).1 hmem⟩
      · rintro ⟨c, hc, hat⟩
        exact ⟨i, c, p, hc, ⟨rfl, rfl⟩, (ih c (List.mem_of_getElem? hc)).2 hat⟩

mutual

/-- **The addresses ascend**, so each of them is listed once: a node comes before what is below it,
and that before the next of its siblings. -/
theorem pairwise_addressed :
    ∀ n : Node, n.addressed.Pairwise fun a b => List.Lex (· < ·) a.1 b.1
  | ⟨kind, span, value, children⟩ => by
    rw [addressed]
    refine List.pairwise_cons.2 ⟨?_, pairwise_addressedFrom 0 children⟩
    rintro ⟨q, m⟩ hq
    obtain ⟨j, -, p, -, rfl, -⟩ := mem_addressedFrom_iff.1 hq
    exact .nil

theorem pairwise_addressedFrom :
    ∀ (i : Nat) (cs : List Node),
      (addressedFrom i cs).Pairwise fun a b => List.Lex (· < ·) a.1 b.1
  | _, [] => .nil
  | i, c :: cs => by
    rw [addressedFrom]
    refine List.pairwise_append.2 ⟨?_, pairwise_addressedFrom (i + 1) cs, ?_⟩
    · exact List.pairwise_map.2 ((pairwise_addressed c).imp fun h => .cons h)
    · -- what lies below different siblings differs in the first place already
      rintro a ha ⟨q, m⟩ hq
      obtain ⟨e, -, rfl⟩ := List.mem_map.1 ha
      obtain ⟨j, -, p, -, rfl, -⟩ := mem_addressedFrom_iff.1 hq
      exact .rel (by omega)

end

theorem map_under_infix_addressedFrom {cs : List Node} {c : Node} {i j : Nat}
    (h : cs[j]? = some c) : c.addressed.map (under (i + j)) <:+: addressedFrom i cs := by
  induction cs generalizing i j with
  | nil => cases h
  | cons d cs ih =>
    rw [addressedFrom]
    cases j with
    | zero =>
      obtain rfl := Option.some.inj h
      exact (List.prefix_append _ _).isInfix
    | succ j =>
      have hlater := @ih (i + 1) j h
      rw [Nat.add_assoc, Nat.add_comm 1 j] at hlater
      exact hlater.trans (List.suffix_append _ _).isInfix

/-- **What lies below an address is listed in one stretch**, in the order of its own listing. -/
theorem addressed_infix {n m : Node} {p : List Nat} (h : n.at? p = some m) :
    m.addressed.map (fun e => (p ++ e.1, e.2)) <:+: n.addressed := by
  induction p generalizing n with
  | nil =>
    obtain rfl := Option.some.inj h
    have hsame : n.addressed.map (fun e => ([] ++ e.1, e.2)) = n.addressed := List.map_id _
    exact ⟨[], [], by rw [hsame, List.nil_append, List.append_nil]⟩
  | cons i p ih =>
    obtain ⟨c, hc, hat⟩ := Option.bind_eq_some_iff.1 h
    have hchild : c.addressed.map (under i) <:+: n.addressed := by
      have hrow := @map_under_infix_addressedFrom n.children c 0 i hc
      rw [Nat.zero_add] at hrow
      rw [addressed_eq n]
      exact hrow.trans (List.suffix_cons _ _).isInfix
    have hbelow := (ih hat).map (under i)
    rw [List.map_map] at hbelow
    exact hbelow.trans hchild

end Node

/-! ## The theorem -/

/-- **A walk yields the pre-order of its tree**: step by step the root and then the listings of the
children in order, and after the last node nothing, however often it is asked. The nodes come by
ascending addresses, each address of the tree once, and what lies below an address comes in one
stretch. From any state, what the steps to come yield is the root, if that is still due, and the
listings of what is left in the rows, top row first. -/
theorem Walk.yields_preorder (n : Node) :
    (∀ k, ((ofNode n).after k).next.1 = n.preorder[k]?) ∧
    n.preorder = n :: n.children.flatMap Node.preorder ∧
    n.preorder = n.addressed.map Prod.snd ∧
    (∀ p m, (p, m) ∈ n.addressed ↔ n.at? p = some m) ∧
    (n.addressed.Pairwise fun a b => List.Lex (· < ·) a.1 b.1) ∧
    (∀ p m, n.at? p = some m →
      m.addressed.map (fun e => (p ++ e.1, e.2)) <:+: n.addressed) ∧
    (∀ k, ((ofNode n).after k).next.1 = none ↔ n.addressed.length ≤ k) ∧
    (ofNode n).nodes = n.preorder ∧
    ∀ (root : Option Node) (rows : List (List Node)) (k : Nat),
      ((⟨root, rows⟩ : Walk).after k).next.1 =
        (root.toList.flatMap Node.preorder ++
          rows.flatMap fun row => row.flatMap Node.preorder)[k]? := by
  have hlist : n.preorder = n.addressed.map Prod.snd := (Node.map_snd_addressed n).symm
  have hsteps (k : Nat) : ((ofNode n).after k).next.1 = n.preorder[k]? := by
    rw [next_after, pending_ofNode]
  refine ⟨hsteps, ?_, hlist, fun p m => Node.mem_addressed_iff, Node.pairwise_addressed n,
    fun p m => Node.addressed_infix, fun k => ?_, ?_, fun root rows k => ?_⟩
  · rw [Node.preorder_eq, Node.preorderAll_eq_flatMap]
  · rw [hsteps, List.getElem?_eq_none_iff, hlist, List.length_map]
  · rw [nodes_eq, pending_ofNode]
  · rw [next_after, pending,
      show Node.preorderAll = (fun row => row.flatMap Node.preorder) from
        funext Node.preorderAll_eq_flatMap]

end DocLint

import DocLint.Tree.Basic

/-!
# Walking a tree step by step

A walk yields the nodes of a tree one at a time. It starts with the root, and from then on keeps a
stack of rows of siblings still to be visited, the innermost on top: a step takes the next sibling of
the top row and puts that node's children on top of the stack, and a row with nothing left is
dropped. A walk that has come to its end may be asked again, and has nothing to yield again.

* `Walk.next` — one step: the next node, if there is one, and the walk after it;
* `Walk.pending` — what a walk has still to yield: the listings of its rows, top row first;
* `Walk.next_eq` — a step yields the head of what is pending and leaves the tail;
* `Walk.nodes` — the nodes of a walk that is followed to its end.
-/

namespace DocLint

/-- A walk under way. -/
structure Walk where
  /-- the root, as long as it has not been yielded -/
  root : Option Node
  /-- the rows of siblings still to be visited, innermost first -/
  rows : List (List Node)

namespace Walk

/-- A walk that has yielded nothing yet. -/
def ofNode (root : Node) : Walk := ⟨some root, []⟩

/-- Drop the rows with nothing left and take the next node, whose children come next. -/
def nextOf : List (List Node) → Option Node × List (List Node)
  | [] => (none, [])
  | [] :: rows => nextOf rows
  | (n :: row) :: rows => (some n, n.children :: row :: rows)

/-- The next node and the walk after it; nothing once every row is used up. -/
def next (w : Walk) : Option Node × Walk :=
  match w.root with
  | some root => (some root, ⟨none, root.children :: w.rows⟩)
  | none => ((nextOf w.rows).1, ⟨none, (nextOf w.rows).2⟩)

/-- Everything a walk has still to yield, in order. -/
def pending (w : Walk) : List Node :=
  w.root.toList.flatMap Node.preorder ++ w.rows.flatMap Node.preorderAll

@[simp] theorem pending_ofNode (root : Node) : (ofNode root).pending = root.preorder := by
  simp [pending, ofNode]

/-- By induction on the stack: rows with nothing left list nothing. -/
theorem nextOf_eq (rows : List (List Node)) :
    ((nextOf rows).1, (nextOf rows).2.flatMap Node.preorderAll) =
      ((rows.flatMap Node.preorderAll).head?, (rows.flatMap Node.preorderAll).tail) := by
  induction rows with
  | nil => rfl
  | cons row rows ih =>
    cases row with
    | nil => simpa [nextOf] using ih
    | cons n row => simp [nextOf, Node.preorder_eq]

/-- **A step yields the first pending node and leaves the others pending.** -/
theorem next_eq (w : Walk) :
    (w.next.1, w.next.2.pending) = (w.pending.head?, w.pending.tail) := by
  obtain ⟨root, rows⟩ := w
  cases root with
  | some root => simp [next, pending, Node.preorder_eq]
  | none => simpa [next, pending] using nextOf_eq rows

@[simp] theorem next_fst (w : Walk) : w.next.1 = w.pending.head? := congrArg Prod.fst w.next_eq

@[simp] theorem pending_next (w : Walk) : w.next.2.pending = w.pending.tail :=
  congrArg Prod.snd w.next_eq

/-- The nodes of a walk, step by step until there are no more. -/
def nodes (w : Walk) : List Node :=
  match _h : w.next with
  | (some n, w') => n :: nodes w'
  | (none, _) => []
termination_by w.pending.length
decreasing_by
  have hfirst : w.next.1 = some n := by rw [_h]
  have hrest : w.next.2 = w' := by rw [_h]
  rw [next_fst] at hfirst
  obtain ⟨rest, hpending⟩ := List.head?_eq_some_iff.1 hfirst
  rw [← hrest, pending_next, hpending]
  simp

/-- A walk followed to its end yields what was pending. -/
theorem nodes_eq (w : Walk) : w.nodes = w.pending := by
  have hfirst := w.next_fst
  have hrest := w.pending_next
  rw [nodes]
  split
  · rename_i n w' h
    rw [h] at hfirst hrest
    obtain ⟨rest, hpending⟩ := List.head?_eq_some_iff.1 hfirst.symm
    have hlt : w'.pending.length < w.pending.length := by
      rw [hrest, hpending]
      simp
    rw [nodes_eq w', hrest, hpending, List.tail_cons]
  · rename_i w' h
    rw [h] at hfirst
    exact (List.head?_eq_none_iff.1 hfirst.symm).symm
termination_by w.pending.length

end Walk

end DocLint

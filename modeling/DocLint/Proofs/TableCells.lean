import DocLint.Proofs.Reach

/-!
# Passing over table cells

The suppressor skips table cells, and a directive that waits is not spent on one. That would be of no
account if nothing ever waited at a cell: its row comes first, and takes what waits. But a directive
may be written in an earlier cell of the same row, after the row has been visited. Then it waits while
the next cell is passed over, and what lies first in that cell takes it in place of the cell.

This is the only way. Whatever comes before a row is spent on the row at the latest, so what waits at
a cell comes from the part of its row that lies before it.

* `Node.exists_parent` — where a node other than the root stands in a listing: behind its parent and
  all that lies below its earlier siblings;
* `Node.CellsInRows` — table cells hang in table rows only;
* `Suppressor.pending_at_cell` — what waits when a cell is reached;
* `Suppressor.cells_divert_own_row_only` — the theorem;
* `Suppressor.sharedRow_diverts` — a directive in one cell and the cell after it.
-/

namespace DocLint

namespace Node

/-! ## Parents in a listing -/

/-- A place in the joined listings of some trees is a place in one of them. What is before it are
the whole listings of the earlier trees, and a front of its own. -/
theorem exists_tree_of_preorderAll {ns before after : List Node} {m : Node}
    (h : preorderAll ns = before ++ m :: after) :
    ∃ earlier c later front back, ns = earlier ++ c :: later ∧
      before = preorderAll earlier ++ front ∧ c.preorder = front ++ m :: back := by
  induction ns generalizing before with
  | nil =>
    rw [preorderAll_nil] at h
    exact absurd h (List.append_ne_nil_of_right_ne_nil _ (List.cons_ne_nil _ _)).symm
  | cons n ns ih =>
    rw [preorderAll_cons] at h
    rcases List.append_eq_append_iff.1 h with ⟨gap, rfl, hrest⟩ | ⟨back, hfirst, hback⟩
    · obtain ⟨earlier, c, later, front, back, rfl, rfl, hc⟩ := ih hrest
      exact ⟨n :: earlier, c, later, front, back, rfl, by simp, hc⟩
    · cases back with
      | nil =>
        -- the place is the very first one in what comes after this tree
        rw [List.append_nil] at hfirst
        obtain ⟨earlier, c, later, front, back, rfl, hfront, hc⟩ := @ih [] hback.symm
        obtain ⟨hearlier, rfl⟩ := List.append_eq_nil_iff.1 hfront.symm
        exact ⟨n :: earlier, c, later, [], back, rfl, by simp [hearlier, hfirst], hc⟩
      | cons d back =>
        obtain ⟨rfl, -⟩ := List.cons.inj hback
        exact ⟨[], n, ns, before, back, rfl, rfl, hfirst⟩

/-- **A node of a listing is its root, or stands behind its parent** and what lies below the earlier
children of that one. -/
theorem exists_parent {n m : Node} {before after : List Node}
    (h : n.preorder = before ++ m :: after) :
    (before = [] ∧ m = n) ∨ ∃ front parent earlier later, parent ∈ n.preorder ∧
      parent.children = earlier ++ m :: later ∧
      before = front ++ parent :: preorderAll earlier := by
  induction n using induct generalizing before after with
  | step n ih =>
    cases before with
    | nil =>
      rw [preorder_eq] at h
      exact .inl ⟨rfl, (List.cons.inj h).1.symm⟩
    | cons b before =>
      rw [preorder_eq] at h
      obtain ⟨rfl, hbelow⟩ := List.cons.inj h
      -- the node is below one of the children, or it is that child
      obtain ⟨earlier, c, later, front, back, hchildren, rfl, hc⟩ :=
        exists_tree_of_preorderAll hbelow
      have hmem : c ∈ n.children := by
        rw [hchildren]
        exact List.mem_append_right _ (List.mem_cons_self ..)
      right
      rcases ih c hmem hc with ⟨rfl, rfl⟩ | ⟨front', parent, earlier', later', hp, hps, rfl⟩
      · exact ⟨[], n, earlier, later, self_mem_preorder n, hchildren, by simp⟩
      · exact ⟨n :: (preorderAll earlier ++ front'), parent, earlier', later',
          mem_preorder_iff.2 (.inr ⟨c, hmem, hp⟩), hps, by simp⟩

/-- Table cells hang in table rows only: a cell has a row around it, whatever else is in the
tree. -/
def CellsInRows (document : Node) : Prop :=
  document.kind ≠ .tableCell ∧
    ∀ n ∈ document.preorder, ∀ c ∈ n.children, c.kind = .tableCell → n.kind = .tableRow

instance (document : Node) : Decidable document.CellsInRows :=
  inferInstanceAs (Decidable (_ ∧ ∀ n ∈ document.preorder, _))

/-- A cell stands behind its row and what lies below the earlier children of the row. -/
theorem CellsInRows.exists_row {document cell : Node} (hdoc : document.CellsInRows)
    {before after : List Node} (hplace : document.preorder = before ++ cell :: after)
    (hcell : cell.kind = .tableCell) :
    ∃ front row earlier later, row ∈ document.preorder ∧ row.kind = .tableRow ∧
      row.children = earlier ++ cell :: later ∧ before = front ++ row :: preorderAll earlier := by
  rcases exists_parent hplace with ⟨-, rfl⟩ | ⟨front, row, earlier, later, hrow, hchildren, rfl⟩
  · exact absurd hcell hdoc.1
  · have hmem : cell ∈ row.children := by
      rw [hchildren]
      exact List.mem_append_right _ (List.mem_cons_self ..)
    exact ⟨front, row, earlier, later, hrow, hdoc.2 row hrow cell hmem hcell, hchildren, rfl⟩

theorem directive?_of_tableRow {row : Node} (h : row.kind = .tableRow) (source : List Char)
    (keyword : String) : row.directive? source keyword = none := by
  rw [directive?, h]

end Node

namespace Suppressor

/-! ## What waits at a cell

A row takes what waits before it, and a cell takes nothing. So what waits where a cell is reached
was handed on inside the row, by what is below the cells before it. -/

/-- The directive that the last visited one of some nodes hands on. From a fresh start, it is the
one that waits behind them. -/
def lastHanded (source : List Char) (keyword : String) (nodes : List Node) : Option Directive :=
  (visited nodes).getLast?.bind fun v => v.directive? source keyword

theorem pending_run (f : NextNodeFilter) (source : List Char) (marked : List IgnoreRange)
    (nodes : List Node) :
    ((f.start source marked).run nodes).pending =
      Pending.ofDirective? (lastHanded source f.keyword nodes) := by
  rw [run_fresh, lastHanded]

/-- A row takes what waits before it, so only what comes after it is left to hand something on. -/
theorem lastHanded_append_row {row : Node} (hrow : row.kind = .tableRow) (source : List Char)
    (keyword : String) (front inside : List Node) :
    lastHanded source keyword (front ++ row :: inside) = lastHanded source keyword inside := by
  have hvisited : visited (front ++ row :: inside) = visited front ++ row :: visited inside := by
    simp [visited, hrow, NodeKind.role]
  have hnone := Node.directive?_of_tableRow hrow source keyword
  rw [lastHanded, lastHanded, hvisited, List.getLast?_append, List.getLast?_cons]
  cases (visited inside).getLast? with
  | none => exact hnone
  | some v => rfl

/-- Where no node holds a directive, nothing is handed on. So a row without one in its earlier cells
has nothing waiting at a cell. -/
theorem lastHanded_eq_none {source : List Char} {keyword : String} {nodes : List Node}
    (h : ∀ n ∈ nodes, n.directive? source keyword = none) :
    lastHanded source keyword nodes = none := by
  rw [lastHanded, Option.bind_eq_none_iff]
  intro v hv
  exact h v (List.mem_filter.1 (List.mem_of_getLast? hv)).1

/-- **What waits when a cell is reached** was written in its own row, before the cell: it is what
the last visited node there hands on. -/
theorem pending_at_cell {document cell : Node} (hdoc : document.CellsInRows)
    {before after : List Node} (hplace : document.preorder = before ++ cell :: after)
    (hcell : cell.kind = .tableCell) (f : NextNodeFilter) (source : List Char)
    (marked : List IgnoreRange) :
    ∃ front row earlier later, row.kind = .tableRow ∧ row.children = earlier ++ cell :: later ∧
      before = front ++ row :: Node.preorderAll earlier ∧
      ((f.start source marked).run before).pending =
        Pending.ofDirective? (lastHanded source f.keyword (Node.preorderAll earlier)) := by
  obtain ⟨front, row, earlier, later, -, hrow, hchildren, rfl⟩ := hdoc.exists_row hplace hcell
  refine ⟨front, row, earlier, later, hrow, hchildren, rfl, ?_⟩
  rw [pending_run, lastHanded_append_row hrow]

/-- A node that hands on a directive comes right before the next visited node, or right before a
cell of a row that it lies in. -/
theorem next_or_in_row {document u v : Node} (hdoc : document.CellsInRows) {source : List Char}
    {keyword : String} (huv : NextVisited document.preorder u v)
    (hu : u.directive? source keyword ≠ none) :
    (∃ before after, document.preorder = before ++ u :: v :: after) ∨
      ∃ before cell after row earlier later, document.preorder = before ++ u :: cell :: after ∧
        row ∈ document.preorder ∧ row.kind = .tableRow ∧ cell.kind = .tableCell ∧
        row.children = earlier ++ cell :: later ∧ u ∈ Node.preorderAll earlier := by
  obtain ⟨before, between, after, hplace, hbetween, -⟩ := huv
  cases between with
  | nil => exact .inl ⟨before, after, hplace⟩
  | cons cell between =>
    right
    have hcell : cell.kind = .tableCell := hbetween cell (List.mem_cons_self ..)
    have hcut : document.preorder = (before ++ [u]) ++ cell :: (between ++ v :: after) := by
      rw [hplace, List.append_assoc]
      rfl
    -- only a table cell is passed over, and a cell has its row and the cells before it in front
    obtain ⟨front, row, earlier, later, hmem, hrow, hchildren, hbefore⟩ :=
      hdoc.exists_row hcut hcell
    refine ⟨before, cell, between ++ v :: after, row, earlier, later, hplace, hmem, hrow, hcell,
      hchildren, ?_⟩
    -- `u` is the last node before the cell, and the row itself holds no directive
    have hlast := congrArg List.getLast? hbefore
    rw [List.getLast?_concat, List.getLast?_append, List.getLast?_cons] at hlast
    cases hinside : (Node.preorderAll earlier).getLast? with
    | none =>
      rw [hinside] at hlast
      obtain rfl : u = row := Option.some.inj hlast
      exact absurd (Node.directive?_of_tableRow hrow source keyword) hu
    | some w =>
      rw [hinside] at hlast
      obtain rfl : u = w := Option.some.inj hlast
      exact List.mem_of_getLast? hinside

/-! ## The theorem -/

/-- **A cell diverts no directive but those of its own row.** In a tree with table cells in table
rows only, what waits when a cell is reached is what the last visited node before it in the same row
hands on; if no node there holds a directive, nothing waits. So a directive takes the very next node
of the document, unless that is a cell of the row that the directive is written in. -/
theorem cells_divert_own_row_only {document : Node} (hdoc : document.CellsInRows)
    (f : NextNodeFilter) (source : List Char) (marked : List IgnoreRange) :
    (∀ before cell after, document.preorder = before ++ cell :: after → cell.kind = .tableCell →
      ∃ front row earlier later, row.kind = .tableRow ∧ row.children = earlier ++ cell :: later ∧
        before = front ++ row :: Node.preorderAll earlier ∧
        ((f.start source marked).run before).pending =
          Pending.ofDirective? (lastHanded source f.keyword (Node.preorderAll earlier)) ∧
        ((∀ n ∈ Node.preorderAll earlier, n.directive? source f.keyword = none) →
          ((f.start source marked).run before).pending = ⟨false, []⟩)) ∧
    ∀ u v, NextVisited document.preorder u v → u.directive? source f.keyword ≠ none →
      (∃ before after, document.preorder = before ++ u :: v :: after) ∨
        ∃ before cell after row earlier later, document.preorder = before ++ u :: cell :: after ∧
          row ∈ document.preorder ∧ row.kind = .tableRow ∧ cell.kind = .tableCell ∧
          row.children = earlier ++ cell :: later ∧ u ∈ Node.preorderAll earlier := by
  refine ⟨fun before cell after hplace hcell => ?_, fun u v huv hu => next_or_in_row hdoc huv hu⟩
  obtain ⟨front, row, earlier, later, hrow, hchildren, hbefore, hpending⟩ :=
    pending_at_cell hdoc hplace hcell f source marked
  refine ⟨front, row, earlier, later, hrow, hchildren, hbefore, hpending, fun hnone => ?_⟩
  rw [hpending, lastHanded_eq_none hnone]
  rfl

/-! ## A directive in a cell -/

/-- The source of a table with one row, whose first cell holds a directive. -/
def sharedSource : List Char := "|<!--k-->|*a* b|".toList

/-- The first cell of the row. The comment in it is the last thing that is visited before the second
cell. -/
def directiveCell : Node :=
  .parent .tableCell ⟨⟨1, 1, 0⟩, ⟨1, 10, 9⟩⟩ [.leaf .html ⟨⟨1, 2, 1⟩, ⟨1, 10, 9⟩⟩ "<!--k-->"]

/-- The second cell, in which emphasis comes first and plain text after it. The directive is spent
on the emphasis. -/
def followingCell : Node :=
  .parent .tableCell ⟨⟨1, 10, 9⟩, ⟨1, 17, 16⟩⟩
    [.parent .emphasis ⟨⟨1, 11, 10⟩, ⟨1, 14, 13⟩⟩ [.leaf .str ⟨⟨1, 12, 11⟩, ⟨1, 13, 12⟩⟩ "a"],
      .leaf .str ⟨⟨1, 14, 13⟩, ⟨1, 16, 15⟩⟩ " b"]

/-- The row of the two cells. -/
def sharedRow : Node :=
  .parent .tableRow ⟨⟨1, 1, 0⟩, ⟨1, 17, 16⟩⟩ [directiveCell, followingCell]

/-- The table with that row, as a document. A table needs a row to have cells, and nothing else is
in it. -/
def sharedTable : Node :=
  .parent .document ⟨⟨1, 1, 0⟩, ⟨1, 17, 16⟩⟩
    [.parent .table ⟨⟨1, 1, 0⟩, ⟨1, 17, 16⟩⟩ [sharedRow]]

/-- What a walk visits before the second cell. -/
def beforeFollowing : List Node :=
  sharedTable :: .parent .table ⟨⟨1, 1, 0⟩, ⟨1, 17, 16⟩⟩ [sharedRow] :: sharedRow ::
    directiveCell.preorder

/-- The second cell is reached behind the first one, which lies in the same row. -/
theorem followingCell_reached :
    sharedTable.CellsInRows ∧ followingCell.kind = .tableCell ∧
    ∃ front row earlier later, row.kind = .tableRow ∧
      row.children = earlier ++ followingCell :: later ∧
      beforeFollowing = front ++ row :: Node.preorderAll earlier ∧
      ((NextNodeFilter.start ⟨"k"⟩ sharedSource).run beforeFollowing).pending =
        Pending.ofDirective? (lastHanded sharedSource "k" (Node.preorderAll earlier)) := by
  have hdoc : sharedTable.CellsInRows := by decide
  refine ⟨hdoc, rfl, ?_⟩
  obtain ⟨front, row, earlier, later, hrow, hchildren, hbefore, hpending, -⟩ :=
    (cells_divert_own_row_only hdoc ⟨"k"⟩ sharedSource []).1 beforeFollowing followingCell
      (Node.preorderAll followingCell.children) rfl rfl
  exact ⟨front, row, earlier, later, hrow, hchildren, hbefore, hpending⟩

/-- **A directive in a cell waits while the next cell is passed over**, and is spent on what comes
first in there: the emphasis is suppressed, but not the text after it in the same cell. -/
theorem sharedRow_diverts :
    sharedTable.CellsInRows ∧ followingCell.kind = .tableCell ∧
    sharedTable.preorder =
      beforeFollowing ++ followingCell :: Node.preorderAll followingCell.children ∧
    ((NextNodeFilter.start ⟨"k"⟩ sharedSource).run beforeFollowing).pending = ⟨true, []⟩ ∧
    NextNodeFilter.ranges ⟨"k"⟩ sharedSource sharedTable = [⟨10, 13, .all⟩] := by
  refine ⟨by decide, rfl, rfl, ?_, ?_⟩
  · decide +kernel
  · decide +kernel

end Suppressor

end DocLint

import DocLint.Markdown.Leaf

/-!
# Reading rows

The rows of a document are read one after the other. Each row first shows which of the open
containers it belongs to, then may start new ones; what is left of it goes to the open leaf or
starts a leaf of its own. A row of text that lacks the marks of its containers belongs to them
nevertheless if it goes on with a paragraph: such a row is lazy.

* `Reader` — what is open between two rows, and the outline so far;
* `Reader.read` — one row;
* `outline` — the outline of all rows.
-/

namespace DocLint.Markdown

/-- What is open between two rows. -/
structure Reader where
  /-- the outline so far, last entry first -/
  entries : List Entry := []
  /-- the open containers, outermost first -/
  containers : List Container := []
  leaf : Leaf := .closed
  /-- whether what comes next would interrupt a paragraph -/
  interrupting : Bool := false
  /-- whether the last row may be followed by a lazy one -/
  accepting : Bool := false
  /-- whether the last row lacked marks of containers -/
  lazy : Bool := false
  /-- where the last row ends -/
  last : Point := ⟨1, 1, 0, 0, 0⟩
  /-- where the line ending after the last row ends -/
  next : Point := ⟨1, 1, 0, 0, 0⟩
  /-- whether containers are read at all -/
  nesting : Bool := true
deriving Inhabited

namespace Reader

/-- Add to the outline. -/
def emit (st : Reader) (es : List Entry) : Reader := { st with entries := es.reverse ++ st.entries }

/-- End the leaf. -/
def endLeaf (s : Source) (whole : Bool) (st : Reader) : Reader :=
  { st.emit (st.leaf.entries s whole) with leaf := .closed }

/-- End the innermost containers but for the first `kept` ones. -/
def endContainers (kept : Nat) (stop : Point) (st : Reader) : Reader :=
  { st.emit (List.replicate (st.containers.length - kept) (.exit stop)) with
    containers := st.containers.take kept
    interrupting := false }

/-- End the leaf and the innermost containers. A concrete leaf takes the last line ending, unless
the last row was lazy, and then the containers end after it too. -/
def leave (s : Source) (kept : Nat) (st : Reader) : Reader :=
  let whole := !st.lazy
  let stop := match st.leaf with
    | .fenced _ _ _ => if whole then st.next else st.last
    | .html kind _ => if whole && kind.isMarked then st.next else st.last
    | _ => st.last
  (st.endLeaf s whole).endContainers kept stop

/-- The containers that a row belongs to, and what is left of the row. -/
def matching (r : Row) : List Container → List Container × Row
  | [] => ([], r)
  | c :: cs =>
    match c.continue? r with
    | some (c, rest) =>
      let (cs, rest) := matching rest cs
      (c :: cs, rest)
    | none => ([], r)

/-- Start the containers that a row starts, at most `fuel` of them. `kept` containers belong to the
row; the others end when a new one starts. The result says what is left of the row, and whether a
container starts. -/
def start (s : Source) : Nat → Bool → Nat → Row → Reader → Reader × Row × Bool
  | 0, pierced, _, r, st => (st, r, pierced)
  | fuel + 1, pierced, kept, r, st =>
    let all := kept == st.containers.length
    if all && st.leaf.isConcrete then (st, r, pierced)
    else
      match Container.start? (all && st.interrupting) r with
      | none => (st, r, pierced)
      | some (c, rest, label) =>
        let st := if all then st.endLeaf s false else st.leave s kept
        let key := label.map fun gs => labelKey (s.text gs)
        let st := { st.emit [.enter c r.start key] with containers := st.containers ++ [c] }
        start s fuel true st.containers.length rest st

/-- Start a leaf with a row. -/
def startLeaf (s : Source) (lazy pierced : Bool) (r : Row) (st : Reader) : RowStart → Reader
  | .blank => { st with interrupting := false }
  | .indented =>
    let leaf := Leaf.indented r.start [r.withGlyphs (r.glyphs.drop tabSize)] []
    let st := { st with leaf, interrupting := false }
    if lazy || pierced then st.endLeaf s false else st
  | .fenced f => { st with leaf := .fenced f r [] }
  | .html kind ended =>
    let st := { st with leaf := .html kind [r] }
    if ended then { st.endLeaf s false with interrupting := false } else st
  | .heading text =>
    let heading := Block.text .heading r.start r.stop false .never text
    { st.emit [.block heading] with interrupting := false }
  | .underline => { st.emit [.underline r] with leaf := .underline, interrupting := false }
  | .thematicBreak =>
    { st.emit [.block (.leaf .thematicBreak r.start r.stop none)] with interrupting := false }
  | .tableRow => st
  | .content cells => { st with leaf := .content [r] cells, interrupting := true }

/-- Give what is left of a row to the open leaf, or start a new one. -/
def flow (s : Source) (kept : Nat) (pierced : Bool) (r : Row) (st : Reader) : Reader :=
  let lazy := kept != st.containers.length
  match st.leaf.take? s lazy pierced r with
  | some (es, leaf) =>
    { st.emit es with leaf, interrupting := leaf.isConcrete && st.interrupting }
  | none =>
    let st := match st.leaf with
      | .content _ cells => { st with interrupting := cells.isSome || st.interrupting }
      | .fenced _ _ _ | .html _ _ | .indented _ _ _ =>
        { st.endLeaf s false with interrupting := false }
      | _ => st
    let what := RowStart.of st.leaf st.interrupting lazy pierced r
    let stays := !lazy || st.accepting && what.isContent
    match what, st.leaf, stays with
    | .content cells, .content rows _, true =>
      { st with leaf := .content (rows ++ [r]) cells, interrupting := true }
    | .tableRow, .table rows _, _ => { st with leaf := .table (rows ++ [r]) r.stop }
    | what, _, true => (st.endLeaf s false).startLeaf s lazy pierced r what
    | what, _, false =>
      let st := ((st.endLeaf s false).endContainers kept st.last).startLeaf s lazy pierced r what
      { st with interrupting := false }

/-- Read a row. -/
def read (s : Source) (st : Reader) (r : Row) : Reader :=
  let (containers, rest) := matching r st.containers
  let kept := containers.length
  let st := { st with containers := containers ++ st.containers.drop kept }
  let (st, rest, pierced) :=
    if st.nesting then start s (r.glyphs.length + 1) false kept rest st else (st, rest, false)
  let kept := if pierced then st.containers.length else kept
  let lazy := kept != st.containers.length
  let st := st.flow s kept pierced rest
  { st with lazy, accepting := st.leaf.isAccepting, last := r.stop, next := r.next }

/-- Read the end of the document. -/
def finish (s : Source) (st : Reader) : List Entry := (st.leave s 0).entries.reverse

end Reader

/-- The outline of some rows. -/
def outline (s : Source) (nesting : Bool) (rows : List Row) : List Entry :=
  (rows.foldl (Reader.read s) { nesting : Reader }).finish s

end DocLint.Markdown

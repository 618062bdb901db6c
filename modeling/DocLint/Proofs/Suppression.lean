import DocLint.Lint.Suppressor

/-!
# What a run of the suppressor marks

The suppressor is a loop over nodes with a pending directive. Here the loop is traded for a formula:
of the nodes that are not skipped, each hands its directive to the next one, which takes it and
nothing else.

* `Node.directive?` — the directive a node hands on;
* `Suppressor.handedOn` — the ranges that follow from it, over adjacent pairs of visited nodes;
* `Pending.Settled` — the invariant: where nothing waits, no rule ids are left over;
* `Suppressor.fresh_run_exact` — a run marks what is handed on, and ends with the directive of the
  last node pending.
-/

namespace DocLint

/-! ## The formula -/

/-- The directive a node hands on: that of the value of a comment node, or of the last comment in
raw markup whose body is one. -/
def Node.directive? (source : List Char) (keyword : String) (node : Node) : Option Directive :=
  match node.kind with
  | .comment => Directive.parse? keyword (Suppressor.valueText node)
  | .html =>
    (Comments.bodies (Suppressor.markupText source node)).reverse.findSome?
      (Directive.parse? keyword)
  | _ => none

/-- The ranges over a span that a directive asks for: one for every rule if it names none, else one
for each rule it names. -/
def Directive.marks (span : Span) : Option Directive → List IgnoreRange
  | none => []
  | some d =>
    if d.ruleIds = [] then [⟨span.start.offset, span.stop.offset, .all⟩]
    else d.ruleIds.map fun id => ⟨span.start.offset, span.stop.offset, .rule id⟩

/-- What is pending after a node that hands on some directive, or none. -/
def Pending.ofDirective? : Option Directive → Pending
  | none => ⟨false, []⟩
  | some d => ⟨true, d.ruleIds⟩

namespace Suppressor

/-- The nodes that are not skipped. -/
def visited (nodes : List Node) : List Node := nodes.filter fun n => n.kind.role ≠ .skipped

/-- The ranges that follow when each visited node hands its directive to the next one. A node that
is skipped is passed over, and neither takes nor hands on anything. -/
def handedOn (source : List Char) (keyword : String) (nodes : List Node) : List IgnoreRange :=
  ((visited nodes).zip (visited nodes).tail).flatMap fun (u, v) =>
    Directive.marks v.span (u.directive? source keyword)

end Suppressor

/-! ## The invariant

`take` clears the rule ids together with the flag, and `arm` sets both, so rule ids without a
directive never arise. Without this, spending a directive would not lead back to a fresh start. -/

namespace Pending

/-- Where nothing waits, no rule ids are left over from a directive that was handed on. Every state
of a run is settled, and so the ids need not be looked at where nothing waits. -/
def Settled (p : Pending) : Prop := p.active = false → p.ruleIds = []

theorem settled_default : Settled {} := fun _ => rfl

theorem settled_ofDirective? (d : Option Directive) : (ofDirective? d).Settled := by
  cases d with
  | none => exact settled_default
  | some d => exact fun h => by cases h

theorem arm_eq (p : Pending) (d : Directive) : p.arm d = ofDirective? (some d) := rfl

/-- Nothing is pending once a settled state is spent, and no ids are left over. -/
theorem Settled.take_snd {p : Pending} (hp : p.Settled) : p.take.2 = ofDirective? none := by
  rcases p with ⟨active, ruleIds⟩
  cases active with
  | false =>
    have hids : ruleIds = [] := hp rfl
    subst hids
    rfl
  | true => rfl

end Pending

namespace Suppressor

/-! ## One step

What a visit does is told by the role of the node in four ways, but comes to one: what waits is
spent on the node, and the directive of the node waits then, if it has one. -/

/-- Marking a span for some rules, one after the other, adds one range for each of them. -/
theorem foldl_ignore (span : Span) (ids : List String) (s : Suppressor) :
    ids.foldl (fun s id => s.ignore span (.rule id)) s =
      { s with ranges := s.ranges ++ ids.map fun id => IgnoreRange.ofSpan span (.rule id) } := by
  induction ids generalizing s with
  | nil => simp
  | cons id ids ih =>
    rw [List.foldl_cons, ih]
    simp [ignore]

/-- Spending what is pending on a node marks the span of the node, and nothing else changes. -/
theorem consume_eq (s : Suppressor) (node : Node) :
    s.consume node =
      { s with
        pending := s.pending.take.2
        ranges := s.ranges ++ Directive.marks node.span s.waiting } := by
  rcases s with ⟨source, keyword, ⟨active, ruleIds⟩, ranges⟩
  cases active with
  | false => simp [consume, Pending.take, waiting, Directive.marks]
  | true =>
    cases ruleIds with
    | nil => simp [consume, Pending.take, waiting, Directive.marks, ignore, IgnoreRange.ofSpan]
    | cons id ids =>
      have hloop := foldl_ignore node.span (id :: ids) ⟨source, keyword, ⟨false, []⟩, ranges⟩
      rw [show consume ⟨source, keyword, ⟨true, id :: ids⟩, ranges⟩ node = _ from hloop]
      simp [Pending.take, waiting, Directive.marks, IgnoreRange.ofSpan]

/-- Reading a body only changes what is pending: the ranges that were marked, the source and the
keyword stay as they are. -/
theorem armFrom_eq (s : Suppressor) (body : List Char) :
    s.armFrom body =
      { s with
        pending := ((Directive.parse? s.keyword body).map (s.pending.arm ·)).getD s.pending } := by
  rw [armFrom]
  cases Directive.parse? s.keyword body <;> rfl

/-- After some bodies the last directive among them is pending; without one, what was pending
before. -/
theorem foldl_armFrom (bodies : List (List Char)) (s : Suppressor) :
    bodies.foldl armFrom s =
      { s with
        pending := ((bodies.reverse.findSome? (Directive.parse? s.keyword)).map
          (s.pending.arm ·)).getD s.pending } := by
  induction bodies generalizing s with
  | nil => rfl
  | cons body bodies ih =>
    rw [List.foldl_cons, ih, armFrom_eq, List.reverse_cons, List.findSome?_append]
    -- a later directive replaces that of the first body, whatever it was
    cases bodies.reverse.findSome? (Directive.parse? s.keyword) with
    | some d => simp [Pending.arm_eq]
    | none => cases h : Directive.parse? s.keyword body <;> simp [h]

/-- Reading raw markup reads the bodies of its comments, of which there may be none. To ask first
whether there is a comment, as is done, makes no difference. -/
theorem scanMarkup_eq (s : Suppressor) (node : Node) :
    s.scanMarkup node = (Comments.bodies (markupText s.source node)).foldl armFrom s := by
  rw [scanMarkup]
  cases hc : Comments.hasComment (markupText s.source node) with
  | true => rfl
  | false =>
    have hnone : Comments.first? (markupText s.source node) = none := by
      simpa [Comments.hasComment] using hc
    rw [Comments.bodies_eq_nil hnone]
    rfl

/-- After raw markup its last directive is pending, or what is left of the one before if it has
none. -/
theorem pending_visit_html {node : Node} (hkind : node.kind = .html) (s : Suppressor) :
    (s.visit node).pending =
      ((Comments.bodies (markupText s.source node)).reverse.findSome?
        (Directive.parse? s.keyword)).elim s.pending.take.2 fun d => ⟨true, d.ruleIds⟩ := by
  have hrole : node.kind.role = .markup := by rw [hkind]; rfl
  have hvisit : s.visit node = (s.consume node).scanMarkup node := by
    rw [visit, hrole]
  rw [hvisit, scanMarkup_eq, foldl_armFrom, consume_eq]
  cases (Comments.bodies (markupText s.source node)).reverse.findSome?
    (Directive.parse? s.keyword) <;> rfl

theorem visit_of_skipped (s : Suppressor) {node : Node} (h : node.kind.role = .skipped) :
    s.visit node = s := by
  rw [visit, h]

/-- **One step**: from a settled state, a node that is not skipped takes the directive that waits,
and then the directive it hands on itself is all that is pending. -/
theorem visit_eq {s : Suppressor} (hs : s.pending.Settled) {node : Node}
    (h : node.kind.role ≠ .skipped) :
    s.visit node =
      { s with
        pending := Pending.ofDirective? (node.directive? s.source s.keyword)
        ranges := s.ranges ++ Directive.marks node.span s.waiting } := by
  have hnone := hs.take_snd
  rcases hk : node.kind <;> simp only [hk, NodeKind.role, ne_eq, not_true_eq_false,
    not_false_eq_true, reduceCtorEq] at h
  case html =>
    simp only [visit, hk, NodeKind.role, scanMarkup_eq, foldl_armFrom, consume_eq, hnone,
      Node.directive?]
    cases (Comments.bodies (markupText s.source node)).reverse.findSome?
      (Directive.parse? s.keyword) <;> simp [Pending.arm_eq]
  case comment =>
    simp only [visit, hk, NodeKind.role, armFrom_eq, consume_eq, hnone, Node.directive?]
    cases Directive.parse? s.keyword (valueText node) <;> simp [Pending.arm_eq]
  all_goals simp only [visit, hk, NodeKind.role, consume_eq, hnone, Node.directive?]

@[simp] theorem waiting_ofDirective? (source : List Char) (keyword : String)
    (d : Option Directive) (ranges : List IgnoreRange) :
    waiting ⟨source, keyword, Pending.ofDirective? d, ranges⟩ = d := by
  cases d <;> rfl

/-! ## A run

Skipped nodes leave no trace, so a run is a run over the visited nodes. By induction on these, each
of them spends what the one before it handed on; the first one spends what was pending before. -/

theorem run_visited (nodes : List Node) (s : Suppressor) : s.run (visited nodes) = s.run nodes := by
  induction nodes generalizing s with
  | nil => rfl
  | cons n ns ih =>
    by_cases h : n.kind.role = .skipped
    · have hskip : visited (n :: ns) = visited ns := by simp [visited, h]
      rw [hskip, ih, run_cons, visit_of_skipped s h]
    · have hkeep : visited (n :: ns) = n :: visited ns := by simp [visited, h]
      rw [hkeep, run_cons, run_cons, ih]

/-- **A run over nodes none of which is skipped**, from a settled state: every node takes what the
node before it hands on, and what the last one hands on is pending in the end. -/
theorem run_eq {s : Suppressor} (hs : s.pending.Settled) {nodes : List Node}
    (hnodes : ∀ n ∈ nodes, n.kind.role ≠ .skipped) :
    s.run nodes =
      { s with
        pending := Pending.ofDirective?
          ((nodes.getLast?.map (·.directive? s.source s.keyword)).getD s.waiting)
        ranges := s.ranges ++
          ((s.waiting :: nodes.map (·.directive? s.source s.keyword)).zip nodes).flatMap
            fun (d, n) => Directive.marks n.span d } := by
  induction nodes generalizing s with
  | nil =>
    rcases s with ⟨source, keyword, ⟨active, ruleIds⟩, ranges⟩
    cases active with
    | false =>
      have hids : ruleIds = [] := hs rfl
      subst hids
      simp [waiting, Pending.ofDirective?]
    | true => simp [waiting, Pending.ofDirective?]
  | cons n ns ih =>
    have hn : n.kind.role ≠ .skipped := hnodes n (List.mem_cons_self ..)
    have hns : ∀ m ∈ ns, m.kind.role ≠ .skipped := fun m hm => hnodes m (List.mem_cons_of_mem _ hm)
    -- the directive of a node waits for the next one, so that the two lists run one step apart
    rw [run_cons, visit_eq hs hn, ih (Pending.settled_ofDirective? _) hns]
    rw [List.getLast?_cons]
    cases ns.getLast? <;> simp

/-- Of a list of nodes joined with what each of them hands on, only the neighbours matter when
nothing is handed to the first one. -/
theorem zip_handedOn (source : List Char) (keyword : String) (nodes : List Node) :
    ((none :: nodes.map (·.directive? source keyword)).zip nodes).flatMap
        (fun (d, n) => Directive.marks n.span d) =
      (nodes.zip nodes.tail).flatMap
        fun (u, v) => Directive.marks v.span (u.directive? source keyword) := by
  cases nodes with
  | nil => rfl
  | cons n ns =>
    rw [List.map_cons, List.zip_cons_cons, List.flatMap_cons, List.tail_cons, ← List.map_cons,
      List.zip_map_left, List.flatMap_map]
    rfl

theorem role_of_mem_visited {nodes : List Node} {n : Node} (h : n ∈ visited nodes) :
    n.kind.role ≠ .skipped := by
  simpa using (List.mem_filter.1 h).2

/-- The state after a run from a fresh start, in which nothing waits for the first node. -/
theorem run_fresh (f : NextNodeFilter) (source : List Char) (marked : List IgnoreRange)
    (nodes : List Node) :
    (f.start source marked).run nodes =
      { source := source
        keyword := f.keyword
        pending := Pending.ofDirective?
          ((visited nodes).getLast?.bind fun v => v.directive? source f.keyword)
        ranges := marked ++ handedOn source f.keyword nodes } := by
  have hstart : (f.start source marked).pending.Settled := Pending.settled_default
  rw [← run_visited, run_eq hstart fun n hn => role_of_mem_visited hn]
  have hwaiting : (f.start source marked).waiting = none := rfl
  rw [hwaiting, show (f.start source marked).source = source from rfl,
    show (f.start source marked).keyword = f.keyword from rfl, zip_handedOn]
  cases (visited nodes).getLast? <;> rfl

-- Of two directives in a row the first is spent on the comment that holds the second.
example : ((NextNodeFilter.start ⟨"k"⟩ []).run
      [.leaf .comment ⟨⟨1, 1, 0⟩, ⟨1, 4, 3⟩⟩ "k a", .leaf .comment ⟨⟨2, 1, 4⟩, ⟨2, 4, 7⟩⟩ "k b",
        .leaf .str ⟨⟨3, 1, 8⟩, ⟨3, 2, 9⟩⟩ "x"]).ranges =
    [⟨4, 7, .rule "a"⟩, ⟨8, 9, .rule "b"⟩] := by decide

end Suppressor

end DocLint

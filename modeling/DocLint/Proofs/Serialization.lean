import DocLint.Lint.Linter
import DocLint.Proofs.Nesting
import DocLint.Tree.Serial

/-!
# Trees read back from JSON

The object of a node leaves out what the node does not have: there is no field for a value that is
missing, and none for an empty list of children. A value that is the empty text is not missing, and
has its field. So each field of the object tells its part of the node, also by not being there, and
reading looks at each field by its name.

* `Node.fields` — the object of a node, and `field?_value`, `field?_children`: the two fields of it
  that may be missing;
* `Node.ofJson?_obj` — reading a node, told by the four fields that are looked at;
* `Node.ofJson?_toJson` — by induction on the tree, a node is read back;
* `Node.serialization_exact` — so its object stands for this node only, whatever the order of the
  fields, and a linter cannot tell the node that is read from the one that was written.
-/

namespace DocLint

theorem Position.ofJson?_toJson (p : Position) : Position.ofJson? p.toJson = some p := by
  simp [toJson, ofJson?, number?, Json.field?]

theorem Span.ofJson?_toJson (s : Span) : Span.ofJson? s.toJson = some s := by
  simp [toJson, ofJson?, Json.field?, Position.ofJson?_toJson]

namespace Node

/-! ## The fields of a node -/

theorem toJsonAll_eq_map (ns : List Node) : toJsonAll ns = ns.map toJson := by
  induction ns with
  | nil => rfl
  | cons n ns ih => rw [toJsonAll, ih, List.map_cons]

/-- The fields of a node, its children among them if there are any. Their order is the one in which
they are written, and reading does not depend on it. -/
def fields (n : Node) : List (String × Json) :=
  ownFields n.kind n.span n.value ++
    if n.children = [] then [] else [("children", .arr (n.children.map toJson))]

theorem toJson_eq (n : Node) : n.toJson = .obj n.fields := by
  obtain ⟨kind, span, value, children⟩ := n
  rw [toJson, toJsonAll_eq_map, fields]
  cases children with
  | nil => rw [if_pos rfl, List.append_nil]; rfl
  | cons c cs => rw [if_neg (List.cons_ne_nil c cs)]; rfl

theorem field?_kind (n : Node) : Json.field? n.fields "node_type" = some (.str n.kind.name) := by
  simp [fields, ownFields, Json.field?]

theorem field?_span (n : Node) : Json.field? n.fields "span" = some n.span.toJson := by
  simp [fields, ownFields, Json.field?]

/-- **A value has its field**, also if it is the empty text: only a node without any value is
written without it. -/
theorem field?_value (n : Node) : Json.field? n.fields "value" = n.value.map .str := by
  cases hvalue : n.value with
  | none => by_cases h : n.children = [] <;> simp [fields, ownFields, Json.field?, hvalue, h]
  | some v => simp [fields, ownFields, Json.field?, hvalue]

/-- **Children have their field** as soon as there is one of them. An empty list is not written, and
its absence is read as one. -/
theorem field?_children (n : Node) :
    Json.field? n.fields "children" =
      if n.children = [] then none else some (.arr (n.children.map toJson)) := by
  by_cases h : n.children = [] <;> cases hvalue : n.value <;>
    simp [fields, ownFields, Json.field?, hvalue, h]

/-! ## Reading

Fields are looked up by name, so that all there is to show of an object is what the look-ups find.
They find the same in every order, and with any other fields beside these. -/

theorem allOf?_eq_mapM (vs : List Json) : allOf? vs = vs.mapM ofJson? := by
  induction vs with
  | nil => rfl
  | cons v vs ih =>
    rw [allOf?, ih, List.mapM_cons]
    cases ofJson? v with
    | none => rfl
    | some n => cases vs.mapM ofJson? <;> rfl

theorem childrenOf?_eq (fields : List (String × Json)) :
    childrenOf? fields = (Json.field? fields "children").elim (some []) listOf? := by
  induction fields with
  | nil => rfl
  | cons f fields ih =>
    obtain ⟨name, v⟩ := f
    rw [childrenOf?, Json.field?, List.find?_cons]
    dsimp only
    cases hname : name == "children" with
    | true => rfl
    | false => exact ih

/-- **Reading a node** looks at four fields, each by its name. What is said of reading below goes
through these look-ups. -/
theorem ofJson?_obj (fields : List (String × Json)) :
    ofJson? (.obj fields) = do
      let kind ← kindOf? fields
      let span ← (Json.field? fields "span").bind Span.ofJson?
      let value ← valueOf? fields
      let children ← (Json.field? fields "children").elim (some []) listOf?
      return ⟨kind, span, value, children⟩ := by
  rw [ofJson?, childrenOf?_eq]
  cases kindOf? fields with
  | none => rfl
  | some kind =>
    cases (Json.field? fields "span").bind Span.ofJson? with
    | none => rfl
    | some span =>
      cases valueOf? fields with
      | none => rfl
      | some value => cases (Json.field? fields "children").elim (some []) listOf? <;> rfl

/-- The names of the fields that are looked at. A field of any other name is never noticed. -/
def fieldNames : List String := ["node_type", "span", "value", "children"]

/-- What else is in an object, and in which order, makes no difference. -/
theorem ofJson?_congr {fs gs : List (String × Json)}
    (h : ∀ name ∈ fieldNames, Json.field? fs name = Json.field? gs name) :
    ofJson? (.obj fs) = ofJson? (.obj gs) := by
  simp only [fieldNames, List.forall_mem_cons] at h
  obtain ⟨hkind, hspan, hvalue, hchildren, -⟩ := h
  rw [ofJson?_obj, ofJson?_obj, kindOf?, kindOf?, valueOf?, valueOf?, hkind, hspan, hvalue,
    hchildren]

theorem kindOf?_fields (n : Node) : kindOf? n.fields = some n.kind := by
  rw [kindOf?, field?_kind]
  exact NodeKind.ofName?_name n.kind

theorem valueOf?_fields (n : Node) : valueOf? n.fields = some n.value := by
  rw [valueOf?, field?_value]
  cases n.value <;> rfl

/-- If each child is read back, so is the list of children, whether it has a field or not. -/
theorem children_read {n : Node} (h : ∀ c ∈ n.children, ofJson? c.toJson = some c) :
    (Json.field? n.fields "children").elim (some []) listOf? = some n.children := by
  rw [field?_children]
  by_cases hnone : n.children = []
  · rw [if_pos hnone, hnone]
    rfl
  · have hall : (n.children.map toJson).mapM ofJson? = some n.children := by
      generalize n.children = cs at h
      induction cs with
      | nil => rfl
      | cons c cs ih =>
        obtain ⟨hc, hcs⟩ := List.forall_mem_cons.1 h
        rw [List.map_cons, List.mapM_cons, hc, ih hcs]
        rfl
    rw [if_neg hnone, Option.elim_some, listOf?, allOf?_eq_mapM, hall]

/-- **A node is read back from its object**: by induction, its children are. -/
theorem ofJson?_toJson (n : Node) : ofJson? n.toJson = some n := by
  induction n using induct with
  | step n ih =>
    have hspan : (Json.field? n.fields "span").bind Span.ofJson? = some n.span := by
      rw [field?_span, Option.bind_some, Span.ofJson?_toJson]
    rw [toJson_eq, ofJson?_obj, kindOf?_fields, hspan, valueOf?_fields, children_read ih]
    cases n
    rfl

/-- **Trees survive serialization.** A tree of whatever depth is read back from its object, and
from every object that has the same under the names of a node, with other fields or in another
order. So no other tree has the object of this one, and a tree that was read again is checked as the
one that was written: the same is found, the same ranges are marked, and the same remains and is
counted. -/
theorem serialization_exact (n : Node) :
    ofJson? n.toJson = some n ∧
    (∀ fs : List (String × Json),
      (∀ name ∈ fieldNames, Json.field? fs name = Json.field? n.fields name) →
      ofJson? (.obj fs) = some n) ∧
    (∀ m : Node, m.toJson = n.toJson → m = n) ∧
    ∀ m : Node, ofJson? n.toJson = some m → ∀ (l : Linter) (source : List Char),
      l.check source m = l.check source n ∧ l.ranges source m = l.ranges source n ∧
        (l.lint source m).diagnostics = (l.lint source n).diagnostics ∧
        (l.lint source m).ignored = (l.lint source n).ignored := by
  have hback := ofJson?_toJson n
  refine ⟨hback, ?_, ?_, ?_⟩
  · intro fs hfs
    rw [ofJson?_congr hfs, ← toJson_eq, hback]
  · intro m hm
    have hread := ofJson?_toJson m
    rw [hm, hback] at hread
    exact (Option.some.inj hread).symm
  · intro m hm l source
    rw [hback] at hm
    obtain rfl := Option.some.inj hm
    exact ⟨rfl, rfl, rfl, rfl⟩

-- a value that is missing, one that is empty, and one that spells the sign for a missing one
example :
    ([none, some "", some "null"].map fun value =>
      (Node.mk .lineBreak default value []).toJson.compact).Nodup := by
  decide +kernel

end Node

end DocLint

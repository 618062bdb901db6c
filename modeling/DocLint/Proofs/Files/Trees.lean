import DocLint.Proofs.Files.Walking

/-!
# What lies below a directory

A file tree gives each entry of a directory a name of its own. So the names under which something is
listed below a directory are a way down that leads to it, and to nothing else. Only to what is sealed
does no way lead, though it is listed as well: to read its name it is enough to look at the directory
that it is in.

* `Entry.IsTree` — names as they can be on a disk;
* `Spot.InTree` — such a tree at a place and around it, wherever a path leads;
* `mem_contents_iff` — what is listed below a place, and not sealed, is what a way down leads to.
-/

namespace DocLint.Files

/-- **A file tree**: whatever is in a directory has a name that a path can spell, and nothing else
in the directory has that name. -/
inductive Entry.IsTree : Entry → Prop
  | leaf {e : Entry} (h : e.isDirectory = false) : IsTree e
  | directory {entries : List (String × Entry)}
      (named : ∀ p ∈ entries, Disk.IsName p.1)
      (distinct : (entries.map Prod.fst).Nodup)
      (below : ∀ p ∈ entries, IsTree p.2) : IsTree (.directory entries)

namespace Entry

/-! ## One level down -/

theorem lookup_eq_some_iff_mem {entries : List (String × Entry)}
    (hdistinct : (entries.map Prod.fst).Nodup) {name : String} {e : Entry} :
    entries.lookup name = some e ↔ (name, e) ∈ entries := by
  induction entries with
  | nil => simp
  | cons p entries ih =>
    obtain ⟨n, f⟩ := p
    rw [List.map_cons, List.nodup_cons] at hdistinct
    obtain ⟨hn, hdistinct⟩ := hdistinct
    rw [List.lookup_cons, List.mem_cons, Prod.mk.injEq]
    by_cases hname : name = n
    · subst hname
      -- no other entry has the name
      have hother : (name, e) ∉ entries := fun h => hn (List.mem_map.2 ⟨(name, e), h, rfl⟩)
      simp only [beq_self_eq_true, Option.some_inj, true_and, hother, or_false]
      exact eq_comm
    · simp only [beq_eq_false_iff_ne.2 hname, hname, false_and, false_or]
      exact ih hdistinct

theorem entries_eq_nil {e : Entry} (h : e.isDirectory = false) : e.entries = [] := by
  cases e with
  | directory entries => cases h
  | _ => rfl

namespace IsTree

variable {e child : Entry} {name : String}

theorem child?_eq_some_iff (h : e.IsTree) :
    e.child? name = some child ↔ (name, child) ∈ e.entries := by
  rw [Entry.child?]
  cases h with
  | leaf h =>
    rw [entries_eq_nil h]
    exact ⟨nofun, nofun⟩
  | directory _ hdistinct _ => exact lookup_eq_some_iff_mem hdistinct

theorem isName_of_mem (h : e.IsTree) (hmem : (name, child) ∈ e.entries) : Disk.IsName name := by
  cases h with
  | leaf h =>
    rw [entries_eq_nil h] at hmem
    cases hmem
  | directory hnamed _ _ => exact hnamed _ hmem

theorem of_mem (h : e.IsTree) (hmem : (name, child) ∈ e.entries) : child.IsTree := by
  cases h with
  | leaf h =>
    rw [entries_eq_nil h] at hmem
    cases hmem
  | directory _ _ hbelow => exact hbelow _ hmem

end IsTree

/-! ## All levels

What is listed below an entry goes by recursion over the entries, and a way down by its names. The
first of the names is where both begin, and the entry it leads to is where they go on. -/

theorem mem_contentsOf_iff {entries : List (String × Entry)} {names : List String} {e : Entry} :
    (names, e) ∈ contentsOf entries ↔
      ∃ name child, (name, child) ∈ entries ∧
        (names = [name] ∧ e = child ∨
          ∃ more, names = name :: more ∧ (more, e) ∈ contents child) := by
  induction entries with
  | nil => simp [contentsOf]
  | cons p entries ih =>
    obtain ⟨n, f⟩ := p
    simp only [contentsOf, List.mem_append, List.mem_cons, List.mem_map, Prod.mk.injEq,
      Prod.exists, ih, or_and_right, exists_or]
    refine or_congr ?_ Iff.rfl
    constructor
    · rintro (⟨rfl, rfl⟩ | ⟨more, g, hg, rfl, rfl⟩)
      · exact ⟨n, e, ⟨rfl, rfl⟩, .inl ⟨rfl, rfl⟩⟩
      · exact ⟨n, f, ⟨rfl, rfl⟩, .inr ⟨more, rfl, hg⟩⟩
    · rintro ⟨name, child, ⟨rfl, rfl⟩, ⟨rfl, rfl⟩ | ⟨more, rfl, hg⟩⟩
      · exact .inl ⟨rfl, rfl⟩
      · exact .inr ⟨more, e, hg, rfl, rfl⟩

theorem contents_eq (e : Entry) : e.contents = contentsOf e.entries := by
  cases e <;> simp only [contents, Entry.entries, contentsOf]

theorem nil_not_mem_contents (e f : Entry) : ([], f) ∉ e.contents := by
  rw [contents_eq, mem_contentsOf_iff]
  rintro ⟨name, child, -, ⟨h, -⟩ | ⟨more, h, -⟩⟩ <;> cases h

/-- What is listed below an entry is in it, or below something in it. The first of the names tells
which, and the other ones the rest. -/
theorem mem_contents_cons_iff {e f : Entry} {name : String} {more : List String} :
    (name :: more, f) ∈ e.contents ↔
      ∃ child, (name, child) ∈ e.entries ∧
        (more = [] ∧ f = child ∨ (more, f) ∈ child.contents) := by
  rw [contents_eq, mem_contentsOf_iff]
  constructor
  · rintro ⟨n, child, hmem, ⟨hnames, rfl⟩ | ⟨rest, hnames, hf⟩⟩
    · obtain ⟨rfl, rfl⟩ := List.cons.inj hnames
      exact ⟨f, hmem, .inl ⟨rfl, rfl⟩⟩
    · obtain ⟨rfl, rfl⟩ := List.cons.inj hnames
      exact ⟨child, hmem, .inr hf⟩
  · rintro ⟨child, hmem, ⟨rfl, rfl⟩ | hf⟩
    · exact ⟨name, f, hmem, .inl ⟨rfl, rfl⟩⟩
    · exact ⟨name, child, hmem, .inr ⟨more, rfl, hf⟩⟩

/-- What is listed below an entry has names that a path can spell: none of them has a slash in it,
or is a dot or two. -/
theorem IsTree.isName_of_mem_contents {e f : Entry} {names : List String} (h : e.IsTree)
    (hmem : (names, f) ∈ e.contents) : ∀ name ∈ names, Disk.IsName name := by
  induction names generalizing e with
  | nil => exact absurd hmem (nil_not_mem_contents e f)
  | cons name more ih =>
    obtain ⟨child, hchild, hf⟩ := mem_contents_cons_iff.1 hmem
    rw [List.forall_mem_cons]
    refine ⟨h.isName_of_mem hchild, ?_⟩
    rcases hf with ⟨rfl, -⟩ | hf
    · exact List.forall_mem_nil _
    · exact ih (h.of_mem hchild) hf

end Entry

/-! ## Places in a tree -/

namespace Spot

/-- A place in a file tree: what is there and what it is in are file trees. -/
structure InTree (s : Spot) : Prop where
  here : s.here.IsTree
  above : ∀ p ∈ s.above, p.2.IsTree

variable {s t : Spot}

theorem InTree.step (h : s.InTree) {next : Step} (hstep : s.step next = .ok t) : t.InTree := by
  obtain ⟨here, above⟩ := s
  cases here with
  | directory entries =>
    cases next with
    | stay =>
      obtain rfl := eq_of_step_stay hstep
      exact h
    | up =>
      cases above with
      | nil =>
        obtain rfl := Except.ok.inj hstep
        exact h
      | cons p above =>
        obtain rfl := Except.ok.inj hstep
        obtain ⟨hp, habove⟩ := List.forall_mem_cons.1 h.above
        exact ⟨hp, habove⟩
    | down name =>
      obtain ⟨e, he, -, rfl⟩ := step_down_eq_ok_iff.1 hstep
      exact ⟨h.here.of_mem (h.here.child?_eq_some_iff.1 he),
        List.forall_mem_cons.2 ⟨h.here, h.above⟩⟩
  | _ => cases hstep

theorem InTree.follow (h : s.InTree) {steps : List Step} (hfollow : s.follow steps = .ok t) :
    t.InTree := by
  induction steps generalizing s with
  | nil =>
    obtain rfl := Except.ok.inj hfollow
    exact h
  | cons next steps ih =>
    rw [Spot.follow] at hfollow
    split at hfollow
    · rename_i u hu
      exact ih (h.step hu) hfollow
    · cases hfollow

/-- **What is listed below a place**, and not sealed, is what a way down leads to. -/
theorem mem_contents_iff (h : s.here.IsTree) {names : List String} (hne : names ≠ []) {e : Entry} :
    (names, e) ∈ s.here.contents ∧ e.isSealed = false ↔
      ∃ t, s.follow (names.map .down) = .ok t ∧ t.here = e := by
  induction names generalizing s with
  | nil => exact absurd rfl hne
  | cons name more ih =>
    rw [Entry.mem_contents_cons_iff]
    constructor
    · rintro ⟨⟨child, hchild, hbelow⟩, hopen⟩
      -- there is a way to the first name, as nothing is below what is sealed
      have hchildOpen : child.isSealed = false := by
        rcases hbelow with ⟨-, rfl⟩ | hbelow
        · exact hopen
        · cases child with
          | sealed fault => simp [Entry.contents] at hbelow
          | _ => rfl
      have hstep : s.step (.down name) = .ok ⟨child, (name, s.here) :: s.above⟩ :=
        step_down_eq_ok_iff.2 ⟨child, h.child?_eq_some_iff.2 hchild, hchildOpen, rfl⟩
      rw [List.map_cons, follow, hstep]
      rcases hbelow with ⟨rfl, rfl⟩ | hbelow
      · exact ⟨_, rfl, rfl⟩
      · have hmore : more ≠ [] := by
          rintro rfl
          exact Entry.nil_not_mem_contents child e hbelow
        exact (ih (h.of_mem hchild) hmore).1 ⟨hbelow, hopen⟩
    · rintro ⟨t, ht, rfl⟩
      rw [List.map_cons, follow] at ht
      split at ht
      · rename_i u hu
        obtain ⟨child, hchild, hchildOpen, rfl⟩ := step_down_eq_ok_iff.1 hu
        have hmem := h.child?_eq_some_iff.1 hchild
        by_cases hmore : more = []
        · subst hmore
          obtain rfl := Except.ok.inj ht
          exact ⟨⟨child, hmem, .inl ⟨rfl, rfl⟩⟩, hchildOpen⟩
        · obtain ⟨hbelow, hopen⟩ := (ih (h.of_mem hmem) hmore).2 ⟨t, ht, rfl⟩
          exact ⟨⟨child, hmem, .inr hbelow⟩, hopen⟩
      · cases ht

/-- A way down goes by names that a path can spell, as it goes by what is listed. -/
theorem isName_of_follow (h : s.here.IsTree) {names : List String}
    (hfollow : s.follow (names.map .down) = .ok t) : ∀ name ∈ names, Disk.IsName name := by
  by_cases hne : names = []
  · rw [hne]
    exact List.forall_mem_nil _
  · exact h.isName_of_mem_contents ((mem_contents_iff h hne).2 ⟨t, hfollow, rfl⟩).1

end Spot

/-- Wherever a path leads on a disk with a file tree, there is a file tree. Two dots lead back to
directories that were passed, which are trees as well. -/
theorem Disk.inTree_of_find {d : Disk} (htree : d.root.IsTree) {path : String} {s : Spot}
    (h : d.find path = .ok s) : s.InTree := by
  obtain ⟨-, -, start, hstart, hfollow⟩ := d.find_eq_ok_iff.1 h
  have hroot : Spot.InTree ⟨d.root, []⟩ := ⟨htree, List.forall_mem_nil _⟩
  exact (hroot.follow hstart).follow hfollow

end DocLint.Files

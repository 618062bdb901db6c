import DocLint.Lint.Linter
import DocLint.Proofs.Suppression

/-!
# Filtering loses nothing

The filters of a linter write into one list of ranges, and diagnostics are sifted once, at the end.
Sifting depends on the ranges only through what they cover, and sifting by two lists of ranges
joined is sifting by the one and then by the other. So the order of the filters does not matter, no
diagnostic is counted twice, and each rule keeps what it would keep alone.

* `sift_append_ranges` — two lists of ranges, joined or one after the other;
* `Linter.ranges_eq` — the shared list is the ranges of the filters, each on its own, joined;
* `Linter.Spared` — what a diagnostic must be to remain;
* `Linter.lint_keeps_spared` — the theorem.
-/

namespace DocLint

/-! ## Sifting

Of each diagnostic it is asked whether some range drops it, and of the ranges nothing else. So lists
can be sifted in parts, and ranges be added in any order. -/

namespace IgnoreRange

theorem drops_append (a b : List IgnoreRange) (d : Diagnostic) :
    drops (a ++ b) d = (drops a d || drops b d) := by
  rcases h : d.offset with _ | offset
  · simp [drops, h]
  · simp [drops, h, anyCovers]

/-- A diagnostic is kept if it has no offset, or none of the ranges covers it. This is what a reader
would check by hand, range by range. -/
theorem drops_eq_false_iff {ranges : List IgnoreRange} {d : Diagnostic} :
    drops ranges d = false ↔ ∀ offset ∈ d.offset, ∀ r ∈ ranges, r.covers d.rule offset = false := by
  rcases h : d.offset with _ | offset
  · simp [drops, h]
  · simp [drops, h, anyCovers]

/-- Only which ranges there are matters, not where they stand. So the filters that mark them may
come in any order. -/
theorem drops_perm {a b : List IgnoreRange} (h : a.Perm b) : drops a = drops b := by
  funext d
  rcases ho : d.offset with _ | offset
  · simp [drops, ho]
  · simp only [drops, ho, anyCovers]
    exact h.any_eq

end IgnoreRange

/-- Without ranges everything is kept, and nothing is counted. -/
theorem sift_nil_ranges (ds : List Diagnostic) : sift [] ds = ⟨ds, 0⟩ := by
  induction ds with
  | nil => rfl
  | cons d ds ih =>
    have hd : IgnoreRange.drops [] d = false := IgnoreRange.drops_eq_false_iff.2 (by simp)
    simp [sift, ih, hd]

/-- Sifting sees of the ranges only what they drop. How often or in which order they were marked
makes no difference. -/
theorem sift_congr {a b : List IgnoreRange} (h : IgnoreRange.drops a = IgnoreRange.drops b)
    (ds : List Diagnostic) : sift a ds = sift b ds := by
  induction ds with
  | nil => rfl
  | cons d ds ih => rw [sift, sift, ih, h]

/-- **Every diagnostic is kept or counted**, and none is both: the count and what is left make up
what was found. -/
theorem sift_ignored_add_length (ranges : List IgnoreRange) (ds : List Diagnostic) :
    (sift ranges ds).ignored + (sift ranges ds).diagnostics.length = ds.length := by
  rw [sift_ignored, sift_diagnostics]
  induction ds with
  | nil => rfl
  | cons d ds ih => cases h : IgnoreRange.drops ranges d <;> simp [h] <;> omega

/-- **One pass or two**: sifting by joined ranges is sifting by the first ones, then sifting what
remains by the others, and adding the counts. -/
theorem sift_append_ranges (a b : List IgnoreRange) (ds : List Diagnostic) :
    sift (a ++ b) ds =
      ⟨(sift b (sift a ds).diagnostics).diagnostics,
        (sift a ds).ignored + (sift b (sift a ds).diagnostics).ignored⟩ := by
  induction ds with
  | nil => rfl
  | cons d ds ih =>
    cases ha : IgnoreRange.drops a d with
    | true => simp [sift, IgnoreRange.drops_append, ha, ih, Nat.add_right_comm]
    | false =>
      cases hb : IgnoreRange.drops b d <;>
        simp [sift, IgnoreRange.drops_append, ha, hb, ih, Nat.add_assoc]

/-- What remains of several lists remains of each of them. So what one rule reports is sifted as if
no other rule reported anything. -/
theorem sift_flatMap_diagnostics {α : Type} (ranges : List IgnoreRange) (xs : List α)
    (f : α → List Diagnostic) :
    (sift ranges (xs.flatMap f)).diagnostics =
      xs.flatMap fun x => (sift ranges (f x)).diagnostics := by
  simp only [sift_diagnostics, List.filter_flatMap]

/-! ## The ranges of the filters

A filter is handed the ranges that are marked already, and puts its own behind them. As it does not
look at those, the filters could as well be asked one by one. -/

namespace NextNodeFilter

/-- A filter adds its own ranges, whatever is marked already. The ranges that are there are handed
through, and never looked at. -/
theorem apply_eq (f : NextNodeFilter) (source : List Char) (document : Node)
    (marked : List IgnoreRange) :
    f.apply source document marked = marked ++ f.ranges source document := by
  simp [ranges, apply, Suppressor.run_fresh]

end NextNodeFilter

namespace Linter

variable (rules : List Rule) (filters : List NextNodeFilter) (source : List Char) (document : Node)

/-- The loop over the filters joins what each of them marks. By induction on the filters: each of
them starts with what the ones before it have marked. -/
theorem foldl_apply_eq (marked : List IgnoreRange) :
    filters.foldl (fun marked f => f.apply source document marked) marked =
      marked ++ filters.flatMap fun f => f.ranges source document := by
  induction filters generalizing marked with
  | nil => simp
  | cons f fs ih => rw [List.foldl_cons, ih, NextNodeFilter.apply_eq]; simp

theorem ranges_eq :
    ranges ⟨rules, filters⟩ source document =
      filters.flatMap fun f => f.ranges source document := by
  rw [ranges, foldl_apply_eq, List.nil_append]

/-- A diagnostic that has no offset, or that no range marked by any filter covers. Neither the order
of the filters nor the way they are gone through is part of it. -/
def Spared (d : Diagnostic) : Prop :=
  ∀ offset ∈ d.offset, ∀ f ∈ filters, ∀ r ∈ f.ranges source document, r.covers d.rule offset = false

instance (d : Diagnostic) : Decidable (Spared filters source document d) :=
  inferInstanceAs (Decidable (∀ offset ∈ d.offset, _))

theorem drops_ranges_eq_false_iff {d : Diagnostic} :
    IgnoreRange.drops (ranges ⟨rules, filters⟩ source document) d = false ↔
      Spared filters source document d := by
  rw [IgnoreRange.drops_eq_false_iff, ranges_eq]
  simp only [List.mem_flatMap, forall_exists_index, and_imp, Spared]
  exact ⟨fun h o ho f hf r hr => h o ho r f hf hr, fun h o ho r f hf hr => h o ho f hf r hr⟩

/-- One filter after the other, each with ranges of its own, on what the ones before it left. -/
def lintInTurn : Report → List NextNodeFilter → Report
  | report, [] => report
  | report, f :: fs =>
    let left := sift (f.ranges source document) report.diagnostics
    lintInTurn ⟨left.diagnostics, report.ignored + left.ignored⟩ fs

theorem lintInTurn_eq (report : Report) :
    lintInTurn source document report filters =
      ⟨(sift (filters.flatMap fun f => f.ranges source document) report.diagnostics).diagnostics,
        report.ignored + (sift (filters.flatMap fun f => f.ranges source document)
          report.diagnostics).ignored⟩ := by
  induction filters generalizing report with
  | nil => simp [lintInTurn, sift_nil_ranges]
  | cons f fs ih => simp [lintInTurn, ih, sift_append_ranges, Nat.add_assoc]

/-- **The linter loses nothing and its filters are independent.** What remains is the spared part
of what is found, in order and as often as it is found, and what does not remain is counted. The
filters may be permuted, or run one after the other on what is left each time. What remains of a
rule is what remains of it when it is the only one. -/
theorem lint_keeps_spared {filters' : List NextNodeFilter} (hperm : filters.Perm filters') :
    (lint ⟨rules, filters⟩ source document).diagnostics =
      (check ⟨rules, filters⟩ source document).filter (Spared filters source document ·) ∧
    (lint ⟨rules, filters⟩ source document).ignored +
        (lint ⟨rules, filters⟩ source document).diagnostics.length =
      (check ⟨rules, filters⟩ source document).length ∧
    lint ⟨rules, filters'⟩ source document = lint ⟨rules, filters⟩ source document ∧
    lintInTurn source document ⟨check ⟨rules, filters⟩ source document, 0⟩ filters =
      lint ⟨rules, filters⟩ source document ∧
    (lint ⟨rules, filters⟩ source document).diagnostics =
      rules.flatMap fun r => (lint ⟨[r], filters⟩ source document).diagnostics := by
  refine ⟨?_, sift_ignored_add_length _ _, ?_, ?_, ?_⟩
  · rw [lint, sift_diagnostics]
    refine List.filter_congr fun d _ => ?_
    rw [Bool.eq_iff_iff, Bool.not_eq_true', decide_eq_true_iff, drops_ranges_eq_false_iff]
  · refine sift_congr (IgnoreRange.drops_perm ?_) _
    rw [ranges_eq, ranges_eq]
    exact hperm.symm.flatMap_right _
  · rw [lintInTurn_eq, lint, ranges_eq]
    simp
  · rw [lint, check, sift_flatMap_diagnostics]
    simp [lint, check, ranges_eq]

/-- Two comments with different keywords, each before a text of its own. -/
def twoNotes : Node :=
  .parent .document ⟨⟨1, 1, 0⟩, ⟨1, 9, 8⟩⟩
    [.leaf .comment ⟨⟨1, 1, 0⟩, ⟨1, 3, 2⟩⟩ "x", .leaf .str ⟨⟨1, 3, 2⟩, ⟨1, 5, 4⟩⟩ "ab",
      .leaf .comment ⟨⟨1, 5, 4⟩, ⟨1, 8, 7⟩⟩ "y k", .leaf .str ⟨⟨1, 8, 7⟩, ⟨1, 9, 8⟩⟩ "c"]

/-- Two filters drop one diagnostic each, whichever of them comes first, and both are counted. -/
theorem twoNotes_either_order :
    [⟨"x"⟩, ⟨"y"⟩].Perm ([⟨"y"⟩, ⟨"x"⟩] : List NextNodeFilter) ∧
    lint ⟨[.nodeKinds "k" [.str]], [⟨"y"⟩, ⟨"x"⟩]⟩ [] twoNotes =
      lint ⟨[.nodeKinds "k" [.str]], [⟨"x"⟩, ⟨"y"⟩]⟩ [] twoNotes ∧
    (lint ⟨[.nodeKinds "k" [.str]], [⟨"x"⟩, ⟨"y"⟩]⟩ [] twoNotes).ignored = 2 := by
  have hperm : [⟨"x"⟩, ⟨"y"⟩].Perm ([⟨"y"⟩, ⟨"x"⟩] : List NextNodeFilter) := by decide
  exact ⟨hperm, (lint_keeps_spared _ _ _ _ hperm).2.2.1, by decide⟩

end Linter

end DocLint

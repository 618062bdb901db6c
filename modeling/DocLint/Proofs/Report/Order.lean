import DocLint.Report.Basic

/-!
# The order of a report

Reports are put in order by a comparison of places in which lines and columns may be missing. The
comparison decides a relation that is total and transitive whatever is missing, so sorting by it
gives one list only: the diagnostics by line and column, those at the same place as they were found.
Both formats go through that list from front to back, and both count what is in it.

* `Diagnostic.NotAfter`, `Diagnostic.SamePlace` — the order of places, told by lines and columns;
* `Diagnostic.isLE_comparePlace_iff`, `Diagnostic.comparePlace_eq_eq_iff` — what the comparison says;
* `Arranged` — a list of diagnostics in the order of their places, and `Arranged.unique`;
* `Report.arranged_sorted` — sorting arranges the diagnostics;
* `Report.count_add_count` — the errors and the warnings are all there is;
* `Report.formats_arranged_alike` — the theorem.
-/

namespace DocLint

namespace Diagnostic

/-! ## Places

What is missing comes last, of lines as well as of columns, and without a line the column is not
looked at. The comparison is opened once to say so, and the laws of the order are shown of what it
says. -/

/-- A diagnostic may come before another: its line is not the greater one, and on one line its
column is not. What is missing comes last, and without a line the column does not matter. -/
structure NotAfter (a b : Diagnostic) : Prop where
  line_last : a.line = none → b.line = none
  line_le : ∀ l ∈ a.line, ∀ m ∈ b.line, l ≤ m
  column_last : a.line = b.line → a.line ≠ none → a.column = none → b.column = none
  column_le : a.line = b.line → a.line ≠ none → ∀ j ∈ a.column, ∀ k ∈ b.column, j ≤ k

/-- Two diagnostics are at the same place: on the same line and in the same column, or both on no
line. -/
def SamePlace (a b : Diagnostic) : Prop := a.line = b.line ∧ (a.line ≠ none → a.column = b.column)

instance (a b : Diagnostic) : Decidable (SamePlace a b) :=
  inferInstanceAs (Decidable (_ ∧ (_ → _)))

variable {a b c : Diagnostic}

theorem isLE_missingLast_iff {m n : Option Nat} :
    (missingLast m n).isLE ↔ (m = none → n = none) ∧ ∀ j ∈ m, ∀ k ∈ n, j ≤ k := by
  cases m <;> cases n <;> simp [missingLast, Nat.isLE_compare]

theorem missingLast_eq_eq_iff {m n : Option Nat} : missingLast m n = .eq ↔ m = n := by
  cases m <;> cases n <;> simp [missingLast]

theorem missingLast_swap (m n : Option Nat) : (missingLast m n).swap = missingLast n m := by
  cases m with
  | none => cases n <;> rfl
  | some j =>
    cases n with
    | none => rfl
    | some k => exact (Nat.compare_swap j k)

/-- Where both lines are known and equal the columns decide; everywhere else the lines do. -/
theorem comparePlace_eq (a b : Diagnostic) :
    a.comparePlace b = (missingLast a.line b.line).then
      (if a.line = none then .eq else missingLast a.column b.column) := by
  rw [comparePlace]
  cases a.line <;> cases b.line <;> rfl

/-- **The comparison decides the order of places.** The order is told by lines and columns from here
on, and not by the way they are compared. -/
theorem isLE_comparePlace_iff : (a.comparePlace b).isLE ↔ a.NotAfter b := by
  rw [comparePlace_eq, Ordering.isLE_then_iff_or]
  constructor
  · rintro (hlt | ⟨heq, hcolumn⟩)
    · have hline := isLE_missingLast_iff.1 (Ordering.isLE_of_eq_lt hlt)
      have hne : a.line ≠ b.line := fun h => by
        rw [missingLast_eq_eq_iff.2 h] at hlt
        cases hlt
      exact ⟨hline.1, hline.2, fun h => absurd h hne, fun h => absurd h hne⟩
    · have hline := isLE_missingLast_iff.1 (Ordering.isLE_of_eq_eq heq)
      refine ⟨hline.1, hline.2, fun _ hknown => ?_, fun _ hknown => ?_⟩
      · rw [if_neg hknown] at hcolumn
        exact (isLE_missingLast_iff.1 hcolumn).1
      · rw [if_neg hknown] at hcolumn
        exact (isLE_missingLast_iff.1 hcolumn).2
  · intro h
    have hline : (missingLast a.line b.line).isLE :=
      isLE_missingLast_iff.2 ⟨h.line_last, h.line_le⟩
    rcases Ordering.isLE_iff_eq_lt_or_eq_eq.1 hline with hlt | heq
    · exact .inl hlt
    · refine .inr ⟨heq, ?_⟩
      have hsame := missingLast_eq_eq_iff.1 heq
      split
      · rfl
      · rename_i hknown
        exact isLE_missingLast_iff.2 ⟨h.column_last hsame hknown, h.column_le hsame hknown⟩

/-- **The comparison tells places apart**: it finds no difference exactly between diagnostics at the
same place. -/
theorem comparePlace_eq_eq_iff : a.comparePlace b = .eq ↔ a.SamePlace b := by
  rw [comparePlace_eq, Ordering.then_eq_eq, missingLast_eq_eq_iff, SamePlace]
  refine and_congr_right fun _ => ?_
  split
  · rename_i hnone
    exact ⟨fun _ hknown => absurd hnone hknown, fun _ => rfl⟩
  · rename_i hknown
    rw [missingLast_eq_eq_iff]
    exact ⟨fun h _ => h, fun h => h hknown⟩

/-- Compared the other way round, two diagnostics are in the opposite order. So no two of them can
each come before the other. -/
theorem comparePlace_swap (a b : Diagnostic) : (a.comparePlace b).swap = b.comparePlace a := by
  rw [comparePlace_eq, comparePlace_eq, Ordering.swap_then, missingLast_swap]
  by_cases hline : a.line = b.line
  · rw [hline]
    split
    · rfl
    · rw [missingLast_swap]
  · -- the lines differ, and the columns are not looked at
    have hne : missingLast b.line a.line ≠ .eq := fun h => hline (missingLast_eq_eq_iff.1 h).symm
    cases h : missingLast b.line a.line with
    | eq => exact absurd h hne
    | lt => rfl
    | gt => rfl

namespace NotAfter

/-- What comes between two diagnostics of one line is on that line, too, so that all three can be
compared by their columns. -/
theorem line_eq (hab : a.NotAfter b) (hbc : b.NotAfter c) (h : a.line = c.line) :
    a.line = b.line := by
  cases ha : a.line with
  | none => exact (hab.line_last ha).symm
  | some l =>
    rw [ha] at h
    cases hb : b.line with
    | none =>
      rw [hbc.line_last hb] at h
      cases h
    | some m =>
      have hlm := hab.line_le l ha m hb
      have hml := hbc.line_le m hb l h.symm
      rw [Nat.le_antisymm hlm hml]

theorem trans (hab : a.NotAfter b) (hbc : b.NotAfter c) : a.NotAfter c where
  line_last := fun ha => hbc.line_last (hab.line_last ha)
  line_le := by
    intro l hl n hn
    cases hb : b.line with
    | none =>
      rw [hbc.line_last hb] at hn
      cases hn
    | some m => exact Nat.le_trans (hab.line_le l hl m hb) (hbc.line_le m hb n hn)
  column_last := by
    intro hac hknown ha
    have heq := hab.line_eq hbc hac
    exact hbc.column_last (heq.symm.trans hac) (heq ▸ hknown) (hab.column_last heq hknown ha)
  column_le := by
    intro hac hknown i hi k hk
    have heq := hab.line_eq hbc hac
    have hbc_line := heq.symm.trans hac
    have hb_known : b.line ≠ none := heq ▸ hknown
    cases hb : b.column with
    | none =>
      rw [hbc.column_last hbc_line hb_known hb] at hk
      cases hk
    | some j =>
      exact Nat.le_trans (hab.column_le heq hknown i hi j hb)
        (hbc.column_le hbc_line hb_known j hb k hk)

/-- Of two diagnostics one may always come first. -/
theorem total (a b : Diagnostic) : a.NotAfter b ∨ b.NotAfter a := by
  rw [← isLE_comparePlace_iff, ← isLE_comparePlace_iff, ← comparePlace_swap a b]
  cases a.comparePlace b with
  | lt => exact .inl rfl
  | eq => exact .inl rfl
  | gt => exact .inr rfl

/-- If either may come first, they are at the same place. They may differ in everything else, and
stay in the order in which they were found. -/
theorem antisymm (hab : a.NotAfter b) (hba : b.NotAfter a) : a.SamePlace b := by
  rw [← comparePlace_eq_eq_iff]
  rw [← isLE_comparePlace_iff] at hab hba
  rw [← comparePlace_swap a b] at hba
  cases h : a.comparePlace b with
  | lt => rw [h] at hba; cases hba
  | eq => rfl
  | gt => rw [h] at hab; cases hab

end NotAfter

namespace SamePlace

theorem refl (a : Diagnostic) : a.SamePlace a := ⟨rfl, fun _ => rfl⟩

theorem symm (h : a.SamePlace b) : b.SamePlace a :=
  ⟨h.1.symm, fun hknown => (h.2 (h.1 ▸ hknown)).symm⟩

theorem trans (hab : a.SamePlace b) (hbc : b.SamePlace c) : a.SamePlace c :=
  ⟨hab.1.trans hbc.1, fun hknown => (hab.2 hknown).trans (hbc.2 (hab.1 ▸ hknown))⟩

theorem notAfter (h : a.SamePlace b) : a.NotAfter b := by
  rw [← isLE_comparePlace_iff, comparePlace_eq_eq_iff.2 h]
  rfl

end SamePlace

end Diagnostic

/-! ## Arranged lists

Lists in order that hold the same can differ only among diagnostics at one place. If these stand as
they were found, there is one such list, and it is the one that sorting gives. -/

/-- The diagnostics that were found, arranged for a report: all of them and no others, in the order
of their places, and those at the same place as they were found. -/
structure Arranged (found shown : List Diagnostic) : Prop where
  perm : shown.Perm found
  ordered : shown.Pairwise Diagnostic.NotAfter
  stable : ∀ d : Diagnostic, shown.filter (d.SamePlace ·) = found.filter (d.SamePlace ·)

/-- The first of some diagnostics in order may come before all of them. -/
theorem notAfter_of_mem_cons {a b : Diagnostic} {ds : List Diagnostic}
    (h : (a :: ds).Pairwise Diagnostic.NotAfter) (hb : b ∈ a :: ds) : a.NotAfter b := by
  rcases List.mem_cons.1 hb with rfl | hb
  · exact (Diagnostic.SamePlace.refl b).notAfter
  · exact (List.pairwise_cons.1 h).1 b hb

/-- Lists in order that hold the same, and the same at each place, are equal. -/
theorem eq_of_ordered {ds es : List Diagnostic} (hperm : ds.Perm es)
    (hds : ds.Pairwise Diagnostic.NotAfter) (hes : es.Pairwise Diagnostic.NotAfter)
    (hsame : ∀ d : Diagnostic, ds.filter (d.SamePlace ·) = es.filter (d.SamePlace ·)) : ds = es := by
  induction ds generalizing es with
  | nil => exact hperm.nil_eq
  | cons a ds ih =>
    cases es with
    | nil => exact absurd hperm.eq_nil (List.cons_ne_nil a ds)
    | cons b es =>
      -- each of the two heads is in the other list, so neither may come only later
      have hab : a.SamePlace b :=
        (notAfter_of_mem_cons hds (hperm.mem_iff.2 (List.mem_cons_self ..))).antisymm
          (notAfter_of_mem_cons hes (hperm.mem_iff.1 (List.mem_cons_self ..)))
      have hheads := hsame a
      simp only [List.filter_cons, Diagnostic.SamePlace.refl a, hab, decide_true, if_true] at hheads
      obtain ⟨rfl, -⟩ := List.cons.inj hheads
      refine congrArg (a :: ·) (ih hperm.cons_inv hds.of_cons hes.of_cons fun d => ?_)
      have hd := hsame d
      rw [List.filter_cons, List.filter_cons] at hd
      split at hd
      · exact (List.cons.inj hd).2
      · exact hd

/-- **There is one arrangement only**: what is at one place keeps its order, and places that differ
have theirs, so that no two diagnostics could change places. -/
theorem Arranged.unique {found ds es : List Diagnostic} (hd : Arranged found ds)
    (he : Arranged found es) : ds = es :=
  eq_of_ordered (hd.perm.trans he.perm.symm) hd.ordered he.ordered fun d =>
    (hd.stable d).trans (he.stable d).symm

namespace Report

/-- **Sorting arranges the diagnostics**: merge sort gives back all of them, by place, and is
stable, so that those at one place stay in the order they were found in. -/
theorem arranged_sorted (r : Report) : Arranged r.diagnostics r.sorted := by
  -- the order of places is total and transitive, which is all that merge sort asks for
  have htrans : ∀ a b c : Diagnostic, (a.comparePlace b).isLE → (b.comparePlace c).isLE →
      (a.comparePlace c).isLE := by
    intro a b c
    rw [Diagnostic.isLE_comparePlace_iff, Diagnostic.isLE_comparePlace_iff,
      Diagnostic.isLE_comparePlace_iff]
    exact Diagnostic.NotAfter.trans
  have htotal : ∀ a b : Diagnostic, ((a.comparePlace b).isLE || (b.comparePlace a).isLE) = true := by
    intro a b
    rw [Bool.or_eq_true, Diagnostic.isLE_comparePlace_iff, Diagnostic.isLE_comparePlace_iff]
    exact Diagnostic.NotAfter.total a b
  have hperm : r.sorted.Perm r.diagnostics := List.mergeSort_perm _ _
  refine ⟨hperm, ?_, fun d => ?_⟩
  · exact (List.pairwise_mergeSort htrans htotal r.diagnostics).imp
      Diagnostic.isLE_comparePlace_iff.1
  · -- what is at one place stays together in its order, and sorting adds nothing to it
    have hplace : (r.diagnostics.filter (d.SamePlace ·)).Pairwise
        fun a b => (a.comparePlace b).isLE = true := by
      refine List.pairwise_iff_forall_sublist.2 fun {a b} hab => ?_
      have hat : ∀ e ∈ [a, b], d.SamePlace e := fun e he =>
        of_decide_eq_true (List.mem_filter.1 (hab.subset he)).2
      have hda := hat a (List.mem_cons_self ..)
      have hdb := hat b (List.mem_cons_of_mem a (List.mem_singleton_self b))
      exact Diagnostic.isLE_comparePlace_iff.2 (hda.symm.trans hdb).notAfter
    have hsub := (List.sublist_mergeSort htrans htotal hplace List.filter_sublist).filter
      fun e => decide (d.SamePlace e)
    rw [List.filter_filter] at hsub
    simp only [Bool.and_self] at hsub
    exact (hsub.eq_of_length (hperm.filter _).length_eq.symm).symm

/-- Diagnostics with every part of their places missing or known, as they were found. -/
def scattered : List Diagnostic :=
  [⟨"a", "c", "", .error, none, some 1, none⟩, ⟨"b", "c", "", .error, some 2, none, none⟩,
    ⟨"c", "c", "", .warning, some 2, some 7, none⟩, ⟨"d", "c", "", .error, none, none, none⟩,
    ⟨"e", "c", "", .warning, some 1, none, none⟩]

example : (Report.sorted ⟨scattered, 0⟩).map (·.rule) = ["e", "c", "b", "a", "d"] := by
  cbv

/-! ## What is counted -/

/-- **Errors and warnings are all there is.** So the summary counts every diagnostic once. -/
theorem count_add_count (r : Report) :
    r.count .error + r.count .warning = r.diagnostics.length := by
  rw [count, count, Diagnostic.count, Diagnostic.count]
  induction r.diagnostics with
  | nil => rfl
  | cons d ds ih =>
    rw [List.countP_cons, List.countP_cons, List.length_cons, ← ih]
    cases d.severity with
    | error => simp; omega
    | warning => simp; omega

/-- A number with what it counts; nothing is said of none. -/
def announced (n : Nat) (what : String) : List String := if n = 0 then [] else [toString n ++ what]

/-- What a summary of some numbers says. -/
def announcement (errors warnings ignored : Nat) : List String :=
  announced errors " error(s)" ++ announced warnings " warning(s)" ++ announced ignored " ignored"

/-- What ends a text report: a blank line and the summary, or nothing. -/
def ending (errors warnings ignored : Nat) : List String :=
  if announcement errors warnings ignored = [] then []
  else ["", "Found " ++ ", ".intercalate (announcement errors warnings ignored)]

theorem totals_eq (r : Report) :
    r.totals = announcement (r.count .error) (r.count .warning) r.ignored := by
  rw [totals, announcement, announced, announced, announced]
  by_cases herror : r.count .error = 0 <;> by_cases hwarning : r.count .warning = 0 <;>
    by_cases hignored : r.ignored = 0 <;> simp [herror, hwarning, hignored]

theorem summary_eq (r : Report) :
    r.summary = ending (r.count .error) (r.count .warning) r.ignored := by
  rw [summary, ending, ← totals_eq]
  simp only [List.isEmpty_iff]

/-! ## The theorem -/

/-- **Reports go from the top of a document to its bottom, in both formats alike.** The comparison
of places is total and transitive whatever is missing, compares the other way round when its sides
change, and finds no difference exactly between diagnostics at the same place. Both formats show the
one arrangement of the diagnostics that were found, and count errors and warnings that add up to
them. -/
theorem formats_arranged_alike :
    (∀ a b : Diagnostic, ((a.comparePlace b).isLE ↔ a.NotAfter b) ∧
      (a.comparePlace b = .eq ↔ a.SamePlace b) ∧
      (a.comparePlace b).swap = b.comparePlace a ∧
      ((a.comparePlace b).isLE ∨ (b.comparePlace a).isLE) ∧
      ((a.comparePlace b).isLE → (b.comparePlace a).isLE → a.comparePlace b = .eq) ∧
      ∀ c, (a.comparePlace b).isLE → (b.comparePlace c).isLE → (a.comparePlace c).isLE) ∧
    ∀ (r : Report) (style : ReportStyle) (path : String), ∃ shown errors warnings,
      Arranged r.diagnostics shown ∧ (∀ ds, Arranged r.diagnostics ds → ds = shown) ∧
      errors = r.diagnostics.countP (·.severity = .error) ∧
      warnings = r.diagnostics.countP (·.severity = .warning) ∧
      errors + warnings = r.diagnostics.length ∧
      r.render { style with format := .text } path =
        String.join ((shown.map (·.shown style path) ++ ending errors warnings r.ignored).map
          (· ++ "\n")) ∧
      r.render { style with format := .json } path =
        (Json.obj [("file", .str path), ("errors", .arr (shown.map Diagnostic.toJson)),
          ("summary", .obj [("errors", .num errors), ("warnings", .num warnings),
            ("ignored", .num r.ignored)])]).pretty ++ "\n" := by
  refine ⟨fun a b => ?_, fun r style path => ?_⟩
  · simp only [Diagnostic.isLE_comparePlace_iff, Diagnostic.comparePlace_eq_eq_iff,
      Diagnostic.comparePlace_swap, true_and]
    exact ⟨Diagnostic.NotAfter.total a b, Diagnostic.NotAfter.antisymm, fun c =>
      Diagnostic.NotAfter.trans⟩
  · refine ⟨r.sorted, r.count .error, r.count .warning, r.arranged_sorted, ?_, rfl, rfl,
      r.count_add_count, ?_, rfl⟩
    · exact fun ds hds => hds.unique r.arranged_sorted
    · rw [← summary_eq]
      rfl

end Report

end DocLint

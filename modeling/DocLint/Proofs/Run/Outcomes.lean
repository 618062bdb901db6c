import DocLint.Command.Check
import DocLint.Proofs.Files.Selection

/-!
# How a run over documents ends

The documents of a run are gone through in their order. Each one that has a report is printed, and
nothing stops that: one that cannot be read, or that is rejected, is announced and passed over. How
the run ends is told by asking of each document alone whether it is unreadable, and whether it wants
mending; so the order of the documents makes no difference, nor does what was suppressed in them.

* `Checked.wantsMending`, `exitOf_eq` — how a run ends, told by its documents one by one;
* `code_exitOf` — a run ends as the worst of its documents;
* `Checked.report?`, `reports_checkFile` — what is reported of files, one report for each that is
  readable;
* `Concludes`, `conclude_exact` — what is printed of the documents, and when each exit code arises.
-/

namespace DocLint.Command

open Files

/-! ## Something to mend -/

theorem needMending_append (b : Bool) (ds es : List Diagnostic) :
    needMending b (ds ++ es) = (needMending b ds || needMending b es) := by
  cases b with
  | true => exact List.any_append
  | false => cases ds <;> cases es <;> rfl

theorem needMending_flatMap (b : Bool) (cs : List Checked) :
    needMending b (cs.flatMap Checked.diagnostics) =
      cs.any fun c => needMending b c.diagnostics := by
  induction cs with
  | nil => cases b <;> rfl
  | cons c cs ih => rw [List.flatMap_cons, needMending_append, ih, List.any_cons]

theorem needMending_iff (b : Bool) (ds : List Diagnostic) :
    needMending b ds = true ↔ (∃ e ∈ ds, e.severity = .error) ∨ b = false ∧ ds ≠ [] := by
  cases b with
  | true => simp [needMending]
  | false =>
    simp only [needMending, Bool.false_eq_true, if_false, true_and]
    constructor
    · intro h
      exact .inr (by simpa using h)
    · rintro (⟨e, he, -⟩ | h)
      · simpa using List.ne_nil_of_mem he
      · simpa using h

/-! ## Documents one by one -/

namespace Checked

/-- Whether a document wants mending: it was rejected, or something is to be mended in it. -/
def wantsMending (noFailOnWarnings : Bool) (c : Checked) : Bool :=
  c.isRejected || needMending noFailOnWarnings c.diagnostics

theorem wantsMending_iff (b : Bool) (c : Checked) :
    c.wantsMending b = true ↔
      c.isRejected = true ∨ (∃ e ∈ c.diagnostics, e.severity = .error) ∨
        b = false ∧ c.diagnostics ≠ [] := by
  rw [wantsMending, Bool.or_eq_true, needMending_iff]

/-- A document without what was counted as suppressed in it. All that it says of its diagnostics is
as before. -/
def shown : Checked → Checked
  | unreadable path fault => unreadable path fault
  | rejected path message => rejected path message
  | reported path report => reported path { report with ignored := 0 }

theorem isUnreadable_shown (c : Checked) : c.shown.isUnreadable = c.isUnreadable := by
  cases c <;> rfl

theorem wantsMending_shown (b : Bool) (c : Checked) :
    c.shown.wantsMending b = c.wantsMending b := by
  cases c <;> rfl

/-- The report of a document under its path, if it has one. -/
def report? : Checked → Option (String × Report)
  | unreadable _ _ => none
  | rejected _ _ => none
  | reported path report => some (path, report)

end Checked

/-- **How a run ends**, told by its documents one by one: it fails if one of them cannot be read,
and has issues if one of them needs mending. -/
theorem exitOf_eq (b : Bool) (cs : List Checked) :
    exitOf b cs =
      if cs.any Checked.isUnreadable then .failure
      else if cs.any (Checked.wantsMending b) then .issues
      else .success := by
  have hany : cs.any (Checked.wantsMending b) =
      (cs.any Checked.isRejected || cs.any fun c => needMending b c.diagnostics) := by
    induction cs with
    | nil => rfl
    | cons c cs ih =>
      rw [List.any_cons, List.any_cons, List.any_cons, ih, Checked.wantsMending]
      cases c.isRejected <;> cases cs.any Checked.isRejected <;>
        cases needMending b c.diagnostics <;> rfl
  rw [exitOf, needMending_flatMap, hany]

theorem exitOf_reported (b : Bool) (path : String) (r : Report) :
    exitOf b [.reported path r] = if needMending b r.diagnostics then .issues else .success := by
  rw [exitOf_eq, List.any_cons, List.any_nil, Bool.or_false, List.any_cons, List.any_nil,
    Bool.or_false]
  rfl

theorem code_exitOf_cons (b : Bool) (c : Checked) (cs : List Checked) :
    (exitOf b (c :: cs)).code = max (exitOf b [c]).code (exitOf b cs).code := by
  rw [exitOf_eq, exitOf_eq, exitOf_eq, List.any_cons, List.any_cons, List.any_cons, List.any_cons,
    List.any_nil, List.any_nil, Bool.or_false, Bool.or_false]
  generalize c.isUnreadable = bad, cs.any Checked.isUnreadable = bads, c.wantsMending b = sore,
    cs.any (Checked.wantsMending b) = sores
  cases bad <;> cases bads <;> cases sore <;> cases sores <;> rfl

/-- **A run ends as the worst of its documents** would let it end alone. -/
theorem code_exitOf (b : Bool) (cs : List Checked) :
    (exitOf b cs).code = (cs.map fun c => (exitOf b [c]).code).foldr max 0 := by
  induction cs with
  | nil => cases b <;> rfl
  | cons c cs ih => rw [code_exitOf_cons, ih, List.map_cons, List.foldr_cons]

/-- Which documents there are decides how a run ends, and not the order in which they were
checked. -/
theorem exitOf_perm (b : Bool) {cs ds : List Checked} (h : cs.Perm ds) :
    exitOf b cs = exitOf b ds := by
  rw [exitOf_eq, exitOf_eq, h.any_eq, h.any_eq]

/-- What was suppressed makes no difference: a diagnostic that is only counted as ignored does not
keep a run from ending well. -/
theorem exitOf_shown (b : Bool) (cs : List Checked) :
    exitOf b (cs.map Checked.shown) = exitOf b cs := by
  have hunreadable : Checked.isUnreadable ∘ Checked.shown = Checked.isUnreadable :=
    funext Checked.isUnreadable_shown
  have hmending : Checked.wantsMending b ∘ Checked.shown = Checked.wantsMending b :=
    funext (Checked.wantsMending_shown b)
  rw [exitOf_eq, exitOf_eq, List.any_map, List.any_map, hunreadable, hmending]

/-! ## Reports -/

/-- What is reported of a file, if it can be read. It depends on the file alone, and not on those
that are checked with it. -/
def reportOf? (d : Disk) (l : Linter) (path : String) : Option (String × Report) :=
  (d.readText path).toOption.map fun source => (path, l.report (.ofPath path) source)

theorem report?_checkFile (d : Disk) (l : Linter) (path : String) :
    (checkFile d l path).report? = reportOf? d l path := by
  rw [checkFile, reportOf?]
  cases d.readText path <;> rfl

/-- **Every readable file has a report**, in the order of the files. -/
theorem reports_checkFile (d : Disk) (l : Linter) (paths : List String) :
    (paths.map (checkFile d l)).filterMap Checked.report? = paths.filterMap (reportOf? d l) := by
  rw [List.filterMap_map]
  exact List.filterMap_congr fun p _ => report?_checkFile d l p

theorem fst_reportOf? {d : Disk} {l : Linter} {path : String} {r : String × Report}
    (h : reportOf? d l path = some r) : r.1 = path := by
  obtain ⟨source, -, rfl⟩ := Option.map_eq_some_iff.1 h
  rfl

/-- A readable file is reported as often as it is listed. No report is lost, and none is made up. -/
theorem filter_reports (d : Disk) (l : Linter) (paths : List String) (p : String) :
    (paths.filterMap (reportOf? d l)).filter (·.1 == p) =
      (List.replicate (paths.count p) p).filterMap (reportOf? d l) := by
  rw [List.filter_filterMap, ← List.filter_beq, List.filterMap_filter]
  refine List.filterMap_congr fun q _ => ?_
  cases hreport : reportOf? d l q with
  | none => simp
  | some r => simp [Option.filter, fst_reportOf? hreport]

theorem isUnreadable_checkFile_iff (d : Disk) (l : Linter) (path : String) :
    (checkFile d l path).isUnreadable = true ↔ ∃ fault, d.readText path = .error fault := by
  rw [checkFile]
  cases d.readText path with
  | error fault => exact ⟨fun _ => ⟨fault, rfl⟩, fun _ => rfl⟩
  | ok source => exact ⟨nofun, fun ⟨_, h⟩ => by cases h⟩

/-! ## The end of a run

Nothing is asked of the documents of a run together. Whether it fails, and whether it has issues, is
told by asking them one by one, and what it prints is what they have to say in their order. -/

/-- **How the outcome of a run is told from its documents**: what is printed, and when each exit
code arises. -/
structure Concludes (o : CheckOptions) (style : ReportStyle) (documents : List Checked)
    (outcome : Outcome) : Prop where
  output_eq : outcome.output =
    String.join ((documents.filterMap Checked.report?).map fun r => r.2.render style r.1)
  failure_iff : outcome.exit.code = 2 ↔ ∃ c ∈ documents, c.isUnreadable = true
  issues_iff : outcome.exit.code = 1 ↔
    (∀ c ∈ documents, c.isUnreadable = false) ∧
      ((∃ c ∈ documents, c.isRejected = true) ∨
        (∃ c ∈ documents, ∃ e ∈ c.diagnostics, e.severity = .error) ∨
        o.noFailOnWarnings = false ∧ ∃ c ∈ documents, c.diagnostics ≠ [])
  success_iff : outcome.exit.code = 0 ↔ outcome.exit.code ≠ 2 ∧ outcome.exit.code ≠ 1

theorem output_eq_of_report? (style : ReportStyle) (c : Checked) :
    c.output style = (c.report?.map fun r => r.2.render style r.1).getD "" := by
  cases c <;> rfl

/-- A document without a report adds nothing to what is printed. What is wrong with it is said
elsewhere. -/
theorem join_output (style : ReportStyle) (cs : List Checked) :
    String.join (cs.map (·.output style)) =
      String.join ((cs.filterMap Checked.report?).map fun r => r.2.render style r.1) := by
  induction cs with
  | nil => rfl
  | cons c cs ih =>
    rw [List.map_cons, String.join_cons, ih, output_eq_of_report?, List.filterMap_cons]
    cases c.report? with
    | none => exact String.empty_append
    | some r => exact (String.join_cons ..).symm

/-- Some document of a run wants mending for one of three reasons. -/
theorem any_wantsMending_iff (b : Bool) (cs : List Checked) :
    cs.any (Checked.wantsMending b) = true ↔
      (∃ c ∈ cs, c.isRejected = true) ∨
        (∃ c ∈ cs, ∃ e ∈ c.diagnostics, e.severity = .error) ∨
        b = false ∧ ∃ c ∈ cs, c.diagnostics ≠ [] := by
  rw [List.any_eq_true]
  constructor
  · rintro ⟨c, hc, hmending⟩
    rcases (c.wantsMending_iff b).1 hmending with h | h | ⟨hb, h⟩
    · exact .inl ⟨c, hc, h⟩
    · exact .inr (.inl ⟨c, hc, h⟩)
    · exact .inr (.inr ⟨hb, c, hc, h⟩)
  · rintro (⟨c, hc, h⟩ | ⟨c, hc, h⟩ | ⟨hb, c, hc, h⟩)
    · exact ⟨c, hc, (c.wantsMending_iff b).2 (.inl h)⟩
    · exact ⟨c, hc, (c.wantsMending_iff b).2 (.inr (.inl h))⟩
    · exact ⟨c, hc, (c.wantsMending_iff b).2 (.inr (.inr ⟨hb, h⟩))⟩

theorem concludes (o : CheckOptions) (style : ReportStyle) (documents : List Checked) :
    Concludes o style documents (conclude o style documents) := by
  have hexit : (conclude o style documents).exit = exitOf o.noFailOnWarnings documents := rfl
  have hunreadable : documents.any Checked.isUnreadable = true ↔
      ∃ c ∈ documents, c.isUnreadable = true := List.any_eq_true
  have hreadable : documents.any Checked.isUnreadable = false ↔
      ∀ c ∈ documents, c.isUnreadable = false := by
    simp only [List.any_eq_false, Bool.not_eq_true]
  have hmending := any_wantsMending_iff o.noFailOnWarnings documents
  refine ⟨join_output style documents, ?_, ?_, ?_⟩
  · rw [hexit, exitOf_eq, ← hunreadable]
    cases documents.any Checked.isUnreadable <;>
      cases documents.any (Checked.wantsMending o.noFailOnWarnings) <;> decide
  · rw [hexit, exitOf_eq, ← hreadable, ← hmending]
    cases documents.any Checked.isUnreadable <;>
      cases documents.any (Checked.wantsMending o.noFailOnWarnings) <;> decide
  · cases (conclude o style documents).exit <;> decide

/-- **What a run over documents prints and how it ends.** Whatever became of each document, the ones
with a report are printed in their order, whatever became of the others. The exit code is 2 exactly
if some document could not be read; else 1 exactly if one was rejected, if some diagnostic is an
error, or if there are diagnostics and these are not tolerated as warnings; else 0. No other order of
the documents and nothing that was suppressed in them changes how the run ends. For files, the
documents with a report are those that can be read, each of them as often as it is listed. -/
theorem conclude_exact (o : CheckOptions) (style : ReportStyle) (documents : List Checked) :
    Concludes o style documents (conclude o style documents) ∧
    (∀ other : List Checked, other.Perm documents →
      (conclude o style other).exit = (conclude o style documents).exit) ∧
    (∀ other : List Checked, other.map Checked.shown = documents.map Checked.shown →
      (conclude o style other).exit = (conclude o style documents).exit) ∧
    ∀ (d : Disk) (l : Linter) (paths : List String), documents = paths.map (checkFile d l) →
      (checkFiles d o style l paths).exit = (conclude o style documents).exit ∧
      (checkFiles d o style l paths).output = (conclude o style documents).output ∧
      documents.filterMap Checked.report? = paths.filterMap (reportOf? d l) ∧
      (∀ p, (documents.filterMap Checked.report?).filter (·.1 == p) =
        (List.replicate (paths.count p) p).filterMap (reportOf? d l)) ∧
      (∀ arguments, selectFiles d arguments = .ok paths → ∀ p ∈ paths, paths.count p = 1) ∧
      ((∃ c ∈ documents, c.isUnreadable = true) ↔
        ∃ p ∈ paths, ∃ fault, d.readText p = .error fault) := by
  refine ⟨concludes o style documents, ?_, ?_, ?_⟩
  · intro other hperm
    exact exitOf_perm o.noFailOnWarnings hperm
  · intro other hshown
    change exitOf o.noFailOnWarnings other = exitOf o.noFailOnWarnings documents
    rw [← exitOf_shown, hshown, exitOf_shown]
  · rintro d l paths rfl
    have hreports := reports_checkFile d l paths
    refine ⟨rfl, rfl, hreports, ?_, ?_, ?_⟩
    · intro p
      rw [hreports, filter_reports]
    · intro arguments hselect p hp
      exact List.count_eq_one_of_mem (nodup_of_selectFiles hselect) hp
    · -- a document is unreadable exactly if its text is: checking looks at the text first
      constructor
      · rintro ⟨c, hc, hunreadable⟩
        obtain ⟨p, hp, rfl⟩ := List.mem_map.1 hc
        exact ⟨p, hp, (isUnreadable_checkFile_iff d l p).1 hunreadable⟩
      · rintro ⟨p, hp, hfault⟩
        exact ⟨checkFile d l p, List.mem_map_of_mem hp, (isUnreadable_checkFile_iff d l p).2 hfault⟩

end DocLint.Command

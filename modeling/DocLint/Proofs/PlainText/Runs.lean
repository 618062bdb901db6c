import DocLint.Proofs.PlainText.Lines

/-!
# The runs of lines that become paragraphs

The reader of plain text is a loop with a buffer: visible lines wait in it until a blank one, or the
end of the source, makes a paragraph of them. What the loop has done at any moment is described by
the lines seen so far: `Reader.Kept` says that complete runs and buffer together are the visible
lines, that they are unbroken stretches of the lines seen, and that another line lies between any
two of them. Every line read keeps this (`Kept.read`), so it holds at the end
(`exists_runs`).
-/

namespace DocLint.Document.Plain

/-- Two runs are apart if another line lies between them. That line is blank, or else it would be in
one of the runs. -/
def Apart (p q : List Line) : Prop := ∀ a ∈ p, ∀ b ∈ q, a.start.line + 1 < b.start.line

/-- The maximal runs of visible lines among some lines: together they are all the visible lines,
each is a part of the lines, and a blank line parts any two of them. -/
structure IsRuns (ls : List Line) (runs : List (List Line)) : Prop where
  /-- the runs hold the visible lines, in order -/
  flatten : runs.flatten = ls.filter fun l => !l.isBlank
  /-- a run is not empty, and its lines are neighbours -/
  part : ∀ p ∈ runs, p ≠ [] ∧ p <:+: ls
  /-- runs are apart -/
  apart : runs.Pairwise Apart

/-- A line is in one run only: of two runs, one comes before the other, and a line lies between
them. -/
theorem IsRuns.eq_of_mem {ls : List Line} {runs : List (List Line)} (h : IsRuns ls runs)
    {p q : List Line} (hp : p ∈ runs) (hq : q ∈ runs) {a : Line} (hap : a ∈ p) (haq : a ∈ q) :
    p = q := by
  have hsymm : Std.Symm fun p q : List Line => a ∈ p → a ∉ q := ⟨fun _ _ h hq hp => h hp hq⟩
  have hdisjoint : runs.Pairwise fun p q => a ∈ p → a ∉ q := h.apart.imp fun hpq hp hq => by
    have hlt := hpq a hp a hq
    omega
  by_contra hne
  exact hdisjoint.forall hp hq hne hap haq

namespace Reader

/-! ## The invariant

The reader keeps the paragraphs that are complete and the lines of the one under way. Said of the
lines that were seen: it has cut the visible ones into maximal runs, the last of which may still go
on if it ends with the last line. -/

/-- What the reader has made of the lines seen so far: the complete runs, and the run under way. -/
structure Kept (seen : List Line) (runs : List (List Line)) (r : Reader) : Prop where
  /-- every complete run is a paragraph -/
  paragraphs : r.paragraphs = runs.map paragraph
  /-- complete runs and the one under way hold the visible lines, in order -/
  flatten : runs.flatten ++ r.pending = seen.filter fun l => !l.isBlank
  /-- a complete run is not empty, and its lines are neighbours -/
  part : ∀ p ∈ runs, p ≠ [] ∧ p <:+: seen
  /-- the run under way ends with the last line seen -/
  pending : r.pending <:+ seen
  /-- runs are apart -/
  apart : (runs ++ [r.pending]).Pairwise Apart
  /-- a line lies between complete runs and the next line -/
  behind : ∀ p ∈ runs, ∀ a ∈ p, a.start.line + 1 < r.start.line
  /-- the next line comes after those seen -/
  before : ∀ a ∈ seen, a.start.line < r.start.line

theorem kept_start : Kept [] [] {} where
  paragraphs := rfl
  flatten := rfl
  part := by simp
  pending := List.suffix_refl _
  apart := List.pairwise_singleton _ _
  behind := by simp
  before := by simp

variable {seen : List Line} {runs : List (List Line)} {r : Reader}

/-- All runs are apart from one that has no lines. So the run under way may be empty, as it is
behind a blank line. -/
theorem pairwise_apart_nil (h : runs.Pairwise Apart) : (runs ++ [[]]).Pairwise Apart := by
  refine List.pairwise_append.2 ⟨h, List.pairwise_singleton _ _, fun p _ q hq a _ b hb => ?_⟩
  obtain rfl := List.mem_singleton.1 hq
  cases hb

/-! ## One line

Two steps keep the invariant, one for a visible line and one for a blank one. Only the latter
completes a run, so that only there the runs change. -/

/-- A run stays a stretch of the lines seen when another line is seen. What is seen later comes
behind it. -/
theorem Kept.part_append (h : Kept seen runs r) (l : Line) :
    ∀ p ∈ runs, p ≠ [] ∧ p <:+: seen ++ [l] := by
  intro p hp
  obtain ⟨hne, hpart⟩ := h.part p hp
  exact ⟨hne, hpart.trans (List.prefix_append _ _).isInfix⟩

/-- Reading moves past the line read: the next one has a number that is higher by one. -/
theorem Kept.before_read (h : Kept seen runs r) (line : List Char) :
    ∀ a ∈ seen ++ [⟨r.start, content line⟩], a.start.line < (r.read line).start.line := by
  intro a ha
  have hstart : (r.read line).start.line = r.start.line + 1 := rfl
  rcases List.mem_append.1 ha with ha | ha
  · have hlt := h.before a ha
    omega
  · obtain rfl := List.mem_singleton.1 ha
    exact Nat.lt_succ_self _

/-- A visible line joins the run under way, or begins one if there is none. -/
theorem Kept.read_visible (h : Kept seen runs r) {line : List Char}
    (hl : (Line.isBlank ⟨r.start, content line⟩) = false) :
    Kept (seen ++ [⟨r.start, content line⟩]) runs (r.read line) := by
  have hpending : (r.read line).pending = r.pending ++ [⟨r.start, content line⟩] := by
    simp [read, take, hl]
  have hparagraphs : (r.read line).paragraphs = r.paragraphs := by simp [read, take, hl]
  have hstart : (r.read line).start.line = r.start.line + 1 := rfl
  -- in the order of the fields, with `paragraphs` done
  refine ⟨hparagraphs.trans h.paragraphs, ?_, h.part_append _, ?_, ?_, fun p hp a ha => ?_,
    h.before_read line⟩
  · rw [hpending, List.filter_append, ← h.flatten, ← List.append_assoc]
    simp [hl]
  · rw [hpending]
    obtain ⟨front, hfront⟩ := h.pending
    exact ⟨front, by rw [← hfront, List.append_assoc]⟩
  · rw [hpending]
    obtain ⟨hruns, -, hlast⟩ := List.pairwise_append.1 h.apart
    refine List.pairwise_append.2
      ⟨hruns, List.pairwise_singleton _ _, fun p hp q hq a ha b hb => ?_⟩
    obtain rfl := List.mem_singleton.1 hq
    rcases List.mem_append.1 hb with hb | hb
    · exact hlast p hp _ (List.mem_singleton_self _) a ha b hb
    · obtain rfl := List.mem_singleton.1 hb
      exact h.behind p hp a ha
  · have hlt := h.behind p hp a ha
    omega

/-- A blank line completes the run under way, if there is one. From then on that run is apart from
all that follows, as the blank line lies in between. -/
theorem Kept.read_blank (h : Kept seen runs r) {line : List Char}
    (hl : (Line.isBlank ⟨r.start, content line⟩) = true) :
    ∃ runs', Kept (seen ++ [⟨r.start, content line⟩]) runs' (r.read line) := by
  have hstart : (r.read line).start.line = r.start.line + 1 := rfl
  have hfilter : (seen ++ [(⟨r.start, content line⟩ : Line)]).filter (fun l => !l.isBlank) =
      seen.filter fun l => !l.isBlank := by
    simp [hl]
  -- a blank line ends the run that is being read, if there is one
  by_cases hempty : r.pending = []
  · have hread : (r.read line).pending = [] ∧ (r.read line).paragraphs = r.paragraphs := by
      simp [read, take, hl, flush, hempty]
    refine ⟨runs, hread.2.trans h.paragraphs, ?_, h.part_append _, ?_, ?_, fun p hp a ha => ?_,
      h.before_read line⟩
    · rw [hfilter, ← h.flatten, hread.1, hempty]
    · rw [hread.1]
      exact List.nil_suffix
    · rw [hread.1, ← hempty]
      exact h.apart
    · have hlt := h.behind p hp a ha
      omega
  · have hread : (r.read line).pending = [] ∧
        (r.read line).paragraphs = r.paragraphs ++ [paragraph r.pending] := by
      simp [read, take, hl, flush, hempty]
    refine ⟨runs ++ [r.pending], ?_, ?_, fun p hp => ?_, ?_, ?_, fun p hp a ha => ?_,
      h.before_read line⟩
    · rw [hread.2, h.paragraphs, List.map_append]
      rfl
    · rw [hfilter, ← h.flatten, hread.1]
      simp
    · rcases List.mem_append.1 hp with hp | hp
      · exact h.part_append _ p hp
      · obtain rfl := List.mem_singleton.1 hp
        exact ⟨hempty, h.pending.isInfix.trans (List.prefix_append _ _).isInfix⟩
    · rw [hread.1]
      exact List.nil_suffix
    · rw [hread.1]
      exact pairwise_apart_nil h.apart
    · rcases List.mem_append.1 hp with hp | hp
      · have hlt := h.behind p hp a ha
        omega
      · obtain rfl := List.mem_singleton.1 hp
        have hlt := h.before a (h.pending.subset ha)
        omega

/-- **Every line read keeps the invariant**: a visible line joins the run under way, a blank one
completes it, and what was read before stays as it is. -/
theorem Kept.read (h : Kept seen runs r) (line : List Char) :
    ∃ runs', Kept (seen ++ [⟨r.start, content line⟩]) runs' (r.read line) := by
  cases hl : Line.isBlank ⟨r.start, content line⟩ with
  | true => exact h.read_blank hl
  | false => exact ⟨runs, h.read_visible hl⟩

/-! ## The whole source -/

/-- The lines read are the lines laid out from where the reader stands. By induction on the lines,
with the two steps above for a line that is visible and for one that is blank. -/
theorem Kept.foldl_read (h : Kept seen runs r) (ls : List (List Char)) :
    ∃ runs', Kept (seen ++ layOut r.start ls) runs' (ls.foldl Reader.read r) := by
  induction ls generalizing seen runs r with
  | nil => exact ⟨runs, by simpa [layOut] using h⟩
  | cons line ls ih =>
    obtain ⟨runs', h'⟩ := h.read line
    obtain ⟨runs'', h''⟩ := ih h'
    refine ⟨runs'', ?_⟩
    rw [List.append_assoc] at h''
    exact h''

/-- At the end the run under way is a paragraph too, unless it has no lines. -/
theorem Kept.flush (h : Kept seen runs r) :
    ∃ runs', IsRuns seen runs' ∧ r.flush.paragraphs = runs'.map paragraph := by
  by_cases hp : r.pending = []
  · refine ⟨runs, ⟨?_, h.part, (List.pairwise_append.1 h.apart).1⟩, ?_⟩
    · rw [← h.flatten, hp, List.append_nil]
    · simp [Reader.flush, hp, h.paragraphs]
  · refine ⟨runs ++ [r.pending], ⟨?_, fun p hmem => ?_, h.apart⟩, ?_⟩
    · rw [← h.flatten]
      simp
    · rcases List.mem_append.1 hmem with hmem | hmem
      · exact h.part p hmem
      · obtain rfl := List.mem_singleton.1 hmem
        exact ⟨hp, h.pending.isInfix⟩
    · simp [Reader.flush, hp, h.paragraphs]

end Reader

/-- **The paragraphs of a plain text** are the maximal runs of its visible lines. -/
theorem exists_runs (source : List Char) :
    ∃ runs, IsRuns (sourceLines source) runs ∧
      parse source = Node.parent .document (extent source) (runs.map paragraph) := by
  obtain ⟨runs, h⟩ := Reader.kept_start.foldl_read (lines source)
  obtain ⟨runs', hruns, hparagraphs⟩ := h.flush
  exact ⟨runs', hruns, by rw [parse, hparagraphs]⟩

end DocLint.Document.Plain

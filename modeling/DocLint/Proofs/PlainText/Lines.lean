import DocLint.Document.Plain
import Mathlib.Data.List.Chain

/-!
# Lines of a plain text and where they lie

A source is cut into lines, and each line into its content and what ends it. Laid out from some
position, the lines get the places at which the source holds them. The facts below say that slicing
the source at these places gives the lines back.

* `flatten_lines`, `isChain_lines` — lines make up the source, and all but the last end in the one
  line feed they have;
* `exists_ending` — what ends a line is a run of carriage returns and a line feed;
* `layOut` — lines with the places they start at;
* `slice?_of_mem_layOut` — the content of each line is a slice of the source;
* `isChain_layOut` — between the contents of two neighbours lies exactly what ends the first;
* `exists_line_of_visible` — every visible character lies in the content of some line.
-/

namespace DocLint.Document.Plain

/-! ## Cutting -/

/-- The lines of a source make it up: cutting it at the line feeds leaves nothing out. -/
theorem flatten_lines (cs : List Char) : (lines cs).flatten = cs := by
  induction cs with
  | nil => rfl
  | cons c cs ih =>
    rw [lines]
    split
    · rw [List.flatten_cons, ih]
      rfl
    · split
      · rename_i hnil
        rw [hnil] at ih
        rw [← ih]
        rfl
      · rename_i l ls hcons
        rw [hcons] at ih
        rw [← ih]
        rfl

/-- A line with the line feed that ends it, and no other. Only the last line of a source may be
without one. -/
def Ended (line : List Char) : Prop := ∃ body, line = body ++ ['\n'] ∧ '\n' ∉ body

/-- A line with a line after it has ended, as what comes behind a line without a line feed is
nothing. -/
theorem isChain_lines (cs : List Char) : (lines cs).IsChain fun line _ => Ended line := by
  induction cs with
  | nil => exact List.isChain_nil
  | cons c cs ih =>
    rw [lines]
    split
    · rename_i hc
      exact List.isChain_cons.2 ⟨fun _ _ => ⟨[], by rw [hc]; rfl, by simp⟩, ih⟩
    · rename_i hc
      split
      · exact List.isChain_singleton _
      · rename_i l ls hcons
        rw [hcons, List.isChain_cons] at ih
        refine List.isChain_cons.2 ⟨fun m hm => ?_, ih.2⟩
        obtain ⟨body, rfl, hbody⟩ := ih.1 m hm
        exact ⟨c :: body, rfl, by simp [hbody, Ne.symm hc]⟩

/-- A line is its content and a rest without a visible character. What is in the rest are carriage
returns and the line feed, and they are blank. -/
theorem exists_rest (line : List Char) :
    ∃ rest, line = content line ++ rest ∧ ∀ c ∈ rest, Text.isBlank c = true := by
  obtain ⟨rest, heq, hrest⟩ :=
    Text.exists_eq_dropTrailing_append (fun c => c == '\r' || c == '\n') line
  refine ⟨rest, heq, fun c hc => ?_⟩
  have hend := hrest c hc
  simp only [Bool.or_eq_true, beq_iff_eq] at hend
  rcases hend with rfl | rfl <;> decide

/-- What ends a line is a run of carriage returns and the line feed. There may be none of the
former, as in most texts, or more than one. -/
theorem exists_ending {line : List Char} (h : Ended line) :
    ∃ k, line = content line ++ (List.replicate k '\r' ++ ['\n']) := by
  obtain ⟨body, rfl, hbody⟩ := h
  obtain ⟨rest, heq, hrest⟩ :=
    Text.exists_eq_dropTrailing_append (fun c => c == '\r' || c == '\n') body
  have hcr : ∀ c ∈ rest, c = '\r' := by
    intro c hc
    have hend := hrest c hc
    simp only [Bool.or_eq_true, beq_iff_eq] at hend
    refine hend.resolve_right ?_
    rintro rfl
    exact hbody (by rw [heq]; exact List.mem_append_right _ hc)
  refine ⟨rest.length, ?_⟩
  rw [← List.eq_replicate_iff.2 ⟨rfl, hcr⟩, content, Text.dropTrailing_append_singleton,
    if_pos (by decide), ← List.append_assoc, ← heq]

/-- A line is blank if no character of it is visible. A line with nothing in it is. -/
theorem Line.isBlank_iff {l : Line} :
    l.isBlank = true ↔ ∀ c ∈ l.content, Text.isBlank c = true := by
  rw [isBlank, List.isEmpty_iff, Text.trim_eq_nil_iff]

/-! ## Laying out -/

/-- Lines with the places they start at, the first of them at `start`. -/
def layOut (start : Position) : List (List Char) → List Line
  | [] => []
  | line :: ls =>
    ⟨start, content line⟩ :: layOut ⟨start.line + 1, 1, start.offset + Text.byteSize line⟩ ls

/-- The lines of a source at their places. -/
def sourceLines (source : List Char) : List Line := layOut Position.origin (lines source)

/-- Laid out, lines keep their order and are numbered one after the other. So a line is told by its
number as well as by its place. -/
theorem map_layOut (start : Position) (ls : List (List Char)) :
    (layOut start ls).map (fun l => (l.content, l.start.line)) =
      (ls.map content).zipIdx start.line := by
  induction ls generalizing start with
  | nil => rfl
  | cons line ls ih => rw [layOut, List.map_cons, ih, List.map_cons, List.zipIdx_cons]

theorem Line.offset_stop (l : Line) :
    l.stop.offset = l.start.offset + Text.byteSize l.content := Position.offset_advance _ _

/-- `m` is the line after `l`: between the contents there are carriage returns and one line feed. -/
structure Follows (source : List Char) (l m : Line) : Prop where
  line : m.start.line = l.start.line + 1
  between : ∃ k, Text.slice? source l.stop.offset m.start.offset =
    some (List.replicate k '\r' ++ ['\n'])

theorem Follows.offset {source : List Char} {l m : Line} (h : Follows source l m) :
    l.stop.offset < m.start.offset := by
  obtain ⟨k, hk⟩ := h.between
  have hsize := Text.byteSize_of_slice? hk
  rw [Text.byteSize_append] at hsize
  have hfeed : Text.byteSize ['\n'] = 1 := rfl
  omega

variable {source before : List Char} {start : Position} {ls : List (List Char)}

/-- The content of each line is the slice of the source between its places. Offsets count the bytes
of all that comes before, whichever characters those are. -/
theorem slice?_of_mem_layOut (hsource : source = before ++ ls.flatten)
    (hstart : start.offset = Text.byteSize before) {l : Line} (hl : l ∈ layOut start ls) :
    Text.slice? source l.start.offset l.stop.offset = some l.content := by
  induction ls generalizing before start with
  | nil => cases hl
  | cons line ls ih =>
    rcases List.mem_cons.1 hl with rfl | hl
    · obtain ⟨rest, heq, -⟩ := exists_rest line
      have hcut : source = before ++ (content line ++ (rest ++ ls.flatten)) := by
        rw [hsource, List.flatten_cons, ← List.append_assoc (content line), ← heq]
      rw [Line.offset_stop, hstart, hcut]
      exact Text.slice?_append _ _ _
    · have hrest : source = (before ++ line) ++ ls.flatten := by
        rw [hsource, List.flatten_cons, List.append_assoc]
      exact ih hrest (by rw [Text.byteSize_append, hstart]) hl

/-- Each line follows the one before it, with nothing but the end of that one in between. -/
theorem isChain_layOut (hsource : source = before ++ ls.flatten)
    (hstart : start.offset = Text.byteSize before) (hls : ls.IsChain fun line _ => Ended line) :
    (layOut start ls).IsChain (Follows source) := by
  induction ls generalizing before start with
  | nil => exact List.isChain_nil
  | cons line ls ih =>
    obtain ⟨hline, hls⟩ := List.isChain_cons.1 hls
    have hrest : source = (before ++ line) ++ ls.flatten := by
      rw [hsource, List.flatten_cons, List.append_assoc]
    refine List.isChain_cons.2
      ⟨fun m hm => ?_, ih hrest (by rw [Text.byteSize_append, hstart]) hls⟩
    cases ls with
    | nil => cases hm
    | cons next ls =>
      obtain rfl := Option.some.inj hm
      obtain ⟨k, heq⟩ := exists_ending (hline next rfl)
      refine ⟨rfl, k, ?_⟩
      -- what stands between two lines is the line ending that the first of them ends with
      have hcut : source = (before ++ content line) ++
          ((List.replicate k '\r' ++ ['\n']) ++ (next :: ls).flatten) := by
        rw [hsource, List.flatten_cons, List.append_assoc, ← List.append_assoc (content line),
          ← heq]
      have hsize := congrArg Text.byteSize heq
      rw [Text.byteSize_append] at hsize
      have hslice := Text.slice?_append (before ++ content line)
        (List.replicate k '\r' ++ ['\n']) (next :: ls).flatten
      rw [← hcut, Text.byteSize_append, Nat.add_assoc, ← hsize] at hslice
      rw [Line.offset_stop, hstart]
      exact hslice

/-- A visible character of a line lies in its content, since all that is cut off the end of a line
is blank. -/
theorem exists_content_of_visible {line x y : List Char} {c : Char} (hx : line = x ++ c :: y)
    (hc : Text.isBlank c = false) : ∃ z, content line = x ++ c :: z := by
  obtain ⟨rest, heq, hrest⟩ := exists_rest line
  have hnot : c ∉ rest := fun hmem => by simp [hrest c hmem] at hc
  rcases List.append_eq_append_iff.1 (heq.symm.trans hx) with ⟨gap, -, hgap⟩ | ⟨gap, hgap, hy⟩
  · exact absurd (by simp [hgap]) hnot
  · cases gap with
    | nil => exact absurd (by rw [List.nil_append] at hy; simp [← hy]) hnot
    | cons d gap =>
      obtain ⟨rfl, -⟩ := List.cons.inj hy
      exact ⟨gap, hgap⟩

/-- Every visible character of the lines lies in the content of one of them. The offsets say where
in the content it is, so that it can be found again in the source. -/
theorem exists_line_of_visible {x y : List Char} {c : Char} (hx : ls.flatten = x ++ c :: y)
    (hc : Text.isBlank c = false) :
    ∃ l ∈ layOut start ls, c ∈ l.content ∧ l.start.offset ≤ start.offset + Text.byteSize x ∧
      start.offset + Text.byteSize x + c.utf8Size ≤ l.stop.offset := by
  induction ls generalizing start x with
  | nil => simp at hx
  | cons line ls ih =>
    -- a character behind the first line is in one of the others
    have hlater (w : List Char) (hw : ls.flatten = w ++ c :: y) (hwx : x = line ++ w) :
        ∃ l ∈ layOut start (line :: ls), c ∈ l.content ∧
          l.start.offset ≤ start.offset + Text.byteSize x ∧
          start.offset + Text.byteSize x + c.utf8Size ≤ l.stop.offset := by
      obtain ⟨l, hl, hmem, hbounds⟩ :=
        @ih ⟨start.line + 1, 1, start.offset + Text.byteSize line⟩ w hw
      rw [hwx, Text.byteSize_append, ← Nat.add_assoc]
      exact ⟨l, List.mem_cons_of_mem _ hl, hmem, hbounds⟩
    rw [List.flatten_cons] at hx
    rcases List.append_eq_append_iff.1 hx with ⟨w, hwx, hw⟩ | ⟨w, hline, hy⟩
    · exact hlater w hw hwx
    · cases w with
      | nil => exact hlater [] hy.symm (by simpa using hline.symm)
      | cons d w =>
        obtain ⟨rfl, -⟩ := List.cons.inj hy
        obtain ⟨z, hz⟩ := exists_content_of_visible hline hc
        refine ⟨_, List.mem_cons_self .., by simp [hz], Nat.le_add_right _ _, ?_⟩
        rw [Line.offset_stop, hz, Text.byteSize_append, Text.byteSize_cons]
        change start.offset + _ + _ ≤ start.offset + _
        omega

end DocLint.Document.Plain

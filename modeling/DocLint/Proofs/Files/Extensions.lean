import DocLint.Document.Format
import DocLint.Proofs.Files.Selection
import Mathlib.Data.List.TakeWhile

/-!
# Markdown documents below a directory

A document is Markdown in whatever case its extension is written, but the patterns for the documents
below a directory are held against names as they are spelled. So a document whose extension is not
written in small letters is left out, though it would be taken for Markdown if it was named itself.
The two disagree about nothing else: the name at the end of a path is all that both of them look at.

* `fileName?_foldl_join`, `suffix_dot_iff` — the name at the end of a path, and its extension;
* `MarkdownBelow` — a Markdown document below a directory;
* `markdown_below_exact` — which of them are selected;
* `capitals_left_out` — one that is not.
-/

namespace DocLint.Files

open Document (Format)

/-! ## The name at the end of a path -/

namespace Path

theorem fileName?_join {name : String} (hname : Disk.IsName name) (path : String) :
    fileName? (join path name) = some name := by
  have hlast : (components (join path name)).getLast? = some (.name name) := by
    by_cases hne : path.toList = []
    · rw [Disk.join_relative hname.no_slash, if_pos hne, components_eq,
        parts_of_not_mem hname.no_slash, hname.componentOf?_eq]
      exact List.getLast?_concat
    · rw [Disk.components_join hname.no_slash hne, hname.componentOf?_eq]
      exact List.getLast?_concat
  rw [fileName?, hlast]

theorem fileName?_foldl_join {names : List String} (hnames : ∀ n ∈ names, Disk.IsName n)
    {last : String} (hlast : names.getLast? = some last) (path : String) :
    fileName? (names.foldl join path) = some last := by
  obtain ⟨front, rfl⟩ := List.getLast?_eq_some_iff.1 hlast
  rw [List.foldl_append]
  exact fileName?_join (hnames last (by simp)) _

theorem fileName?_of_same {p q : String} (h : same p q = true) : fileName? p = fileName? q := by
  rw [fileName?, fileName?, beq_iff_eq.1 h]

/-- Paths with one name at their end are read alike, since the format of a document is told by the
extension of that name only. -/
theorem ofPath_congr {p q : String} (h : fileName? p = fileName? q) :
    Format.ofPath p = Format.ofPath q := by
  rw [Format.ofPath, Format.ofPath, extension?, extension?, h]

/-- **The extension of a path** is at the end of its name, behind a dot. It is what follows the last
dot, as there is no other dot in it, and a dot at the start of the name is not such a one. -/
theorem exists_stem {p e : String} (h : extension? p = some e) :
    ∃ name stem, fileName? p = some name ∧ name.toList = stem ++ '.' :: e.toList ∧
      '.' ∉ e.toList := by
  rw [extension?] at h
  cases hname : fileName? p with
  | none =>
    rw [hname] at h
    cases h
  | some name =>
    rw [hname, Option.bind_some] at h
    dsimp only at h
    split at h
    · rename_i hdot
      obtain rfl := Option.some.inj h
      have hcut := List.takeWhile_append_dropWhile (p := (· != '.')) (l := name.toList.reverse)
      cases hrest : name.toList.reverse.dropWhile (· != '.') with
      | nil =>
        rw [hrest, List.append_nil] at hcut
        rw [hcut, List.length_reverse] at hdot
        exact absurd hdot.1 (Nat.lt_irrefl _)
      | cons c stem =>
        have hc := List.head?_dropWhile_not (· != '.') name.toList.reverse
        rw [hrest] at hc
        obtain rfl : c = '.' := by simpa using hc
        refine ⟨name, stem.reverse, rfl, ?_, ?_⟩
        · rw [hrest] at hcut
          have hname := congrArg List.reverse hcut.symm
          rw [List.reverse_reverse, List.reverse_append, List.reverse_cons,
            List.append_assoc] at hname
          rw [String.toList_ofList]
          exact hname
        · rw [String.toList_ofList, List.mem_reverse]
          intro hmem
          simpa using List.mem_takeWhile_imp hmem
    · cases h

end Path

/-- Only one text without a dot is behind a dot at the end of another. So of all extensions in the
patterns only one can be at the end of a name. -/
theorem suffix_dot_iff {stem e cs : List Char} (he : '.' ∉ e) (hcs : '.' ∉ cs) :
    '.' :: cs <:+ stem ++ '.' :: e ↔ cs = e := by
  constructor
  · rintro ⟨front, h⟩
    rcases List.append_eq_append_iff.1 h with ⟨more, -, hmore⟩ | ⟨more, -, hmore⟩
    · cases more with
      | nil => exact (List.cons.inj hmore).2
      | cons c more =>
        obtain ⟨-, hmore⟩ := List.cons.inj hmore
        exact absurd (hmore ▸ List.mem_append_right _ (List.mem_cons_self ..)) hcs
    · cases more with
      | nil => exact (List.cons.inj hmore).2.symm
      | cons c more =>
        obtain ⟨-, hmore⟩ := List.cons.inj hmore
        exact absurd (hmore ▸ List.mem_append_right _ (List.mem_cons_self ..)) he
  · rintro rfl
    exact List.suffix_append ..

/-! ## What is selected for a directory

A document is one way down from the directory, and a search gives it one path. Whether it does
depends on the end of the last name, in which only the letter case can go wrong. -/

variable {d : Disk} {directory : String} {s : Spot}

theorem expandArgument_directory (hplain : isPattern directory = false)
    (hdirectory : d.isDirectory directory = true) :
    expandArgument d directory = .ok (filePaths d (documentsBelow d directory)) := by
  rw [expandArgument, hplain, if_neg Bool.false_ne_true, if_pos hdirectory]

/-- A Markdown document below a place: the names that lead there, and its extension. The path of the
directory with the names behind it is short enough to be looked up. -/
structure MarkdownBelow (directory : String) (s : Spot) (names : List String) (t : Spot)
    (e : String) : Prop where
  leads : s.follow (names.map .down) = .ok t
  fits : Path.fits (names.foldl Path.join directory) = true
  isFile : t.here.isFile = true
  markdown : Format.ofPath (names.foldl Path.join directory) = .markdown
  extension : Path.extension? (names.foldl Path.join directory) = some e

variable {names : List String} {t : Spot} {e : String}

/-- **The extension of a Markdown document** is one that documents are looked for by if it is
written in small letters. -/
theorem mem_documentExtensions_iff {p : String} (hmarkdown : Format.ofPath p = .markdown)
    (he : Path.extension? p = some e) : e ∈ documentExtensions ↔ Format.asciiLower e = e := by
  have hlower : Format.asciiLower e ∈ Format.markdownExtensions := by
    rw [Format.ofPath, he] at hmarkdown
    dsimp only at hmarkdown
    split at hmarkdown
    · assumption
    · cases hmarkdown
  constructor
  · have hall : ∀ e ∈ documentExtensions, Format.asciiLower e = e := by decide
    exact hall e
  · intro hsmall
    have hall : ∀ e ∈ Format.markdownExtensions, e ∈ documentExtensions := by decide
    exact hall e (hsmall ▸ hlower)

/-- **The name of a Markdown document** ends as one that documents are looked for by if its
extension is written in small letters. -/
theorem MarkdownBelow.exists_suffix_iff (htree : s.here.IsTree)
    (hdirectory : s.here.isDirectory = true) (hbelow : MarkdownBelow directory s names t e) :
    ∃ last, names.getLast? = some last ∧
      (∀ path, Path.fileName? (names.foldl Path.join path) = some last) ∧
      ((∃ e ∈ documentExtensions, '.' :: e.toList <:+ last.toList) ↔ Format.asciiLower e = e) := by
  have hne : names ≠ [] := by
    rintro rfl
    obtain rfl := Except.ok.inj hbelow.leads
    have hfile := hbelow.isFile
    generalize s.here = here at hdirectory hfile
    cases here with
    | directory entries => cases hfile
    | _ => cases hdirectory
  have hlast := List.getLast?_eq_some_getLast hne
  have hname (path : String) := Path.fileName?_foldl_join
    (Spot.isName_of_follow htree hbelow.leads) hlast path
  obtain ⟨name, stem, hfile, htext, hdot⟩ := Path.exists_stem hbelow.extension
  obtain rfl := Option.some.inj (hfile.symm.trans (hname directory))
  refine ⟨_, hlast, hname, ?_⟩
  rw [← mem_documentExtensions_iff hbelow.markdown hbelow.extension, htext]
  constructor
  · rintro ⟨x, hx, hsuffix⟩
    rw [suffix_dot_iff hdot (Pattern.isExtension hx).no_dot, String.toList_inj] at hsuffix
    rwa [← hsuffix]
  · intro he
    exact ⟨e, he, List.suffix_append ..⟩

section below

variable (htree : d.root.IsTree) (hsearchable : Searchable directory)
  (h : d.find directory = .ok s) (hdirectory : s.here.isDirectory = true)
  (hbelow : MarkdownBelow directory s names t e)

include h hdirectory in
theorem isDirectory_of_find : d.isDirectory directory = true := by
  rw [Disk.isDirectory, Disk.entry, h]
  exact hdirectory

include htree hsearchable h hdirectory hbelow

/-- The path that a search gives a document leads to it: it is not longer than the one by which the
document could be named. -/
theorem MarkdownBelow.find_searchedAs :
    d.find (names.foldl Path.join (searchedAs directory)) = .ok t := by
  have hhere := (Disk.inTree_of_find htree h).here
  obtain ⟨last, hlast, -⟩ := hbelow.exists_suffix_iff hhere hdirectory
  have hne : names ≠ [] := by
    rintro rfl
    cases hlast
  have hnames := Spot.isName_of_follow hhere hbelow.leads
  have hle := byteSize_front_searchedAs (mt String.toList_eq_nil_iff.1 (d.ne_empty_of_find h))
  exact (d.find_foldl_join (reach_searchedAs hsearchable h) hnames hne).2
    ⟨Path.fits_foldl_join hnames hne hle hbelow.fits, hbelow.leads⟩

/-- **What a directory stands for**: a Markdown document below it, if the extension of that is
written in small letters, and by one path only, which is the one that a search gives it. -/
theorem MarkdownBelow.standsFor_iff {p : String} :
    StandsFor d directory p ∧ d.find p = .ok t ↔
      Format.asciiLower e = e ∧ p = names.foldl Path.join (searchedAs directory) := by
  have hhere := (Disk.inTree_of_find htree h).here
  have hisDirectory := isDirectory_of_find h hdirectory
  have hfind := hbelow.find_searchedAs htree hsearchable h hdirectory
  obtain ⟨last, hlast, -, hsuffix⟩ := hbelow.exists_suffix_iff hhere hdirectory
  rw [← hsuffix]
  constructor
  · rintro ⟨hfor, hp⟩
    rcases hfor with ⟨hpattern, -⟩ |
      ⟨-, -, s', t', names', last', x, hs', hfollow, -, hlast', hx, hend, hpath, ht'⟩ | ⟨-, hfile, -⟩
    · rw [hsearchable.plain] at hpattern
      cases hpattern
    · -- one place is below another in one way only
      obtain rfl := Except.ok.inj (hs'.symm.trans h)
      obtain rfl := Except.ok.inj (hp.symm.trans ht')
      have hnames := (Spot.names_of_follow hbelow.leads).symm.trans (Spot.names_of_follow hfollow)
      obtain rfl := List.append_cancel_left hnames
      obtain rfl := Option.some.inj (hlast.symm.trans hlast')
      exact ⟨⟨x, hx, hend⟩, hpath⟩
    · rw [isFile_eq_false hisDirectory] at hfile
      cases hfile
  · rintro ⟨⟨x, hx, hend⟩, rfl⟩
    exact ⟨.inr (.inl ⟨hsearchable.plain, hisDirectory, s, t, names, last, x, h, hbelow.leads,
      hbelow.isFile, hlast, hx, hend, rfl, hfind⟩), hfind⟩

end below

/-- **Which Markdown documents below a directory are selected**: those whose extension is written in
small letters. They are selected whatever else is named, and are taken for Markdown then. -/
theorem markdown_below_exact (htree : d.root.IsTree) (hsearchable : Searchable directory)
    (h : d.find directory = .ok s) (hdirectory : s.here.isDirectory = true)
    (hbelow : MarkdownBelow directory s names t e) :
    (∃ below, selectFiles d [directory] = .ok below ∧
      ((∃ p ∈ below, d.find p = .ok t) ↔ Format.asciiLower e = e)) ∧
    (Format.asciiLower e = e → ∀ arguments paths, directory ∈ arguments →
      selectFiles d arguments = .ok paths →
        ∃ p ∈ paths, d.find p = .ok t ∧ Format.ofPath p = .markdown) := by
  have hhere := (Disk.inTree_of_find htree h).here
  have hlocated : IsLocated d directory := fun _ _ => hsearchable
  have hstands (p : String) := hbelow.standsFor_iff htree hsearchable h hdirectory (p := p)
  obtain ⟨last, -, hname, -⟩ := hbelow.exists_suffix_iff hhere hdirectory
  have hselected : Format.asciiLower e = e → ∀ arguments paths, directory ∈ arguments →
      selectFiles d arguments = .ok paths →
        ∃ p ∈ paths, d.find p = .ok t ∧ Format.ofPath p = .markdown := by
    intro hsmall arguments paths hargument hselect
    obtain ⟨hfor, hfind⟩ := (hstands _).2 ⟨hsmall, rfl⟩
    obtain ⟨q, hq, hsame, hfindq⟩ :=
      (isSelection htree hselect).complete directory hargument hlocated _ hfor
    refine ⟨q, hq, hfindq.trans hfind, ?_⟩
    -- the path that is kept may be another one, but it ends with the same name
    rw [← hbelow.markdown]
    refine Path.ofPath_congr ?_
    rw [← Path.fileName?_of_same hsame, hname, hname]
  have hselect := selectFiles_singleton
    (expandArgument_directory hsearchable.plain (isDirectory_of_find h hdirectory))
  refine ⟨⟨_, hselect, ?_, ?_⟩, hselected⟩
  · rintro ⟨p, hp, hpt⟩
    obtain ⟨a, ha, hfor⟩ :=
      (isSelection htree hselect).named (List.forall_mem_singleton.2 hlocated) p hp
    obtain rfl := List.mem_singleton.1 ha
    exact ((hstands p).1 ⟨hfor, hpt⟩).1
  · intro hsmall
    obtain ⟨p, hp, hpt, -⟩ := hselected hsmall _ _ (List.mem_singleton_self directory) hselect
    exact ⟨p, hp, hpt⟩

/-- A shelf with three Markdown documents, one of them in capitals and one in a directory with a
backslash in its name. -/
def shelf : Disk where
  root := .directory
    [("d", .directory [("a.MD", .file []), ("e", .directory [("b.md", .file [])])]),
      ("c\\f", .directory [("g.md", .file [])])]

theorem isTree_shelf : shelf.root.IsTree := by
  have hname {name : String} (h : '/' ∉ name.toList ∧ Step.ofPiece name.toList = .down name) :
      Disk.IsName name := ⟨h.1, h.2⟩
  have he : (Entry.directory [("b.md", .file [])]).IsTree :=
    .directory (List.forall_mem_singleton.2 (hname (by decide))) (by decide)
      (List.forall_mem_singleton.2 (.leaf rfl))
  have hd : (Entry.directory [("a.MD", .file []), ("e", .directory [("b.md", .file [])])]).IsTree :=
    .directory (List.forall_mem_cons.2 ⟨hname (by decide),
        List.forall_mem_singleton.2 (hname (by decide))⟩) (by decide)
      (List.forall_mem_cons.2 ⟨.leaf rfl, List.forall_mem_singleton.2 he⟩)
  have hf : (Entry.directory [("g.md", .file [])]).IsTree :=
    .directory (List.forall_mem_singleton.2 (hname (by decide))) (by decide)
      (List.forall_mem_singleton.2 (.leaf rfl))
  exact .directory (List.forall_mem_cons.2 ⟨hname (by decide),
      List.forall_mem_singleton.2 (hname (by decide))⟩) (by decide)
    (List.forall_mem_cons.2 ⟨hd, List.forall_mem_singleton.2 hf⟩)

/-- The document in small letters is selected, the other one beside it is not. -/
theorem smallLetters_selected :
    shelf.root.IsTree ∧ Searchable "d" ∧ ∃ below, selectFiles shelf ["d"] = .ok below ∧
      (∃ p ∈ below, shelf.find p = shelf.find "d/e/b.md") ∧
      ¬ ∃ p ∈ below, shelf.find p = shelf.find "d/a.MD" := by
  have hsearchable : Searchable "d" := ⟨by decide, by decide, .inr (by unfold Ungapped; decide)⟩
  obtain ⟨s, t, u, hs, hdirectory, ht, hsmall, hu, hcapital⟩ : ∃ s t u, shelf.find "d" = .ok s ∧
      s.here.isDirectory = true ∧
      shelf.find "d/e/b.md" = .ok t ∧ MarkdownBelow "d" s ["e", "b.md"] t "md" ∧
      shelf.find "d/a.MD" = .ok u ∧ MarkdownBelow "d" s ["a.MD"] u "MD" :=
    ⟨_, _, _, rfl, rfl, rfl, ⟨rfl, by decide, rfl, by decide, by decide⟩, rfl,
      ⟨rfl, by decide, rfl, by decide, by decide⟩⟩
  obtain ⟨⟨below, hselect, hb⟩, -⟩ :=
    markdown_below_exact isTree_shelf hsearchable hs hdirectory hsmall
  obtain ⟨⟨below', hselect', ha⟩, -⟩ :=
    markdown_below_exact isTree_shelf hsearchable hs hdirectory hcapital
  obtain rfl := Except.ok.inj (hselect'.symm.trans hselect)
  rw [ht, hu]
  exact ⟨isTree_shelf, hsearchable, _, hselect, hb.2 (by decide),
    fun h => absurd (ha.1 h) (by decide)⟩

/-- **A document in capitals is left out**, and with it every document below a directory with a
backslash in its name, or of a path with an empty part behind a dot at its start. -/
theorem capitals_left_out :
    (shelf.isFile "d/a.MD" = true ∧ Format.ofPath "d/a.MD" = .markdown ∧
      selectFiles shelf ["d"] = .ok ["d/e/b.md"]) ∧
    (shelf.isFile "c\\f/g.md" = true ∧ Format.ofPath "c\\f/g.md" = .markdown ∧
      (selectFiles shelf ["c\\f"]).toOption = some []) ∧
    (shelf.isFile ".//d/e/b.md" = true ∧ Format.ofPath ".//d/e/b.md" = .markdown ∧
      (selectFiles shelf [".//d"]).toOption = some []) := by
  have hargument : expandArgument shelf "d" = .ok ["d/e/b.md"] := by
    have hfound : ((documentsBelow shelf "d").map (·.path)).filter shelf.isFile = ["d/e/b.md"] := by
      decide +kernel
    rw [expandArgument_directory (by decide) (by decide), filePaths, hfound,
      List.mergeSort_singleton]
  refine ⟨⟨?_, ?_, selectFiles_singleton hargument⟩, ?_, ?_⟩ <;> decide +kernel

end DocLint.Files

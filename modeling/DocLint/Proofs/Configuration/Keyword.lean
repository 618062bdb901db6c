import DocLint.Command.Check
import DocLint.Proofs.Filtering

/-!
# Another keyword for directives

The keyword is a setting of the filter that reads directives, and a filter runs without any settings
too. So to set the keyword of a filter that has none, settings have to be put where there were none,
and what is not set there must be as before: a look-up that finds the new settings has to answer as
one that finds nothing. Everything that asks a configuration asks by look-up, and so does the proof.

* `Config.filter?_setKeyword` — what a look-up finds once the keyword is set;
* `Config.foldl_setKeyword` — of several keywords, one after the other, the last one is left;
* `Linter.ofConfig_setKeyword` — the linter for the other keyword;
* `Config.setKeyword_exact` — the theorem.
-/

namespace DocLint

namespace Config

/-! ## Settings -/

/-- What is put under a name takes the place of what was put there before. The names keep their
order, as the place of the first is kept. -/
theorem put_put {α : Type} (settings : List (String × α)) (name : String) (a b : α) :
    put (put settings name a) name b = put settings name b := by
  induction settings with
  | nil => simp [put]
  | cons e rest ih =>
    obtain ⟨n, c⟩ := e
    by_cases hn : name == n
    · simp [put, hn]
    · simp [put, hn, ih]

variable (c : Config) (keyword : String)

@[simp] theorem rules_setKeyword : (c.setKeyword keyword).rules = c.rules := rfl

@[simp] theorem palette_setKeyword : (c.setKeyword keyword).palette = c.palette := rfl

/-- The settings of the filter for directives are those it had, or the ones it has if nothing is
set, with the keyword; those of any other filter are the same. -/
theorem filter?_setKeyword (name : String) :
    (c.setKeyword keyword).filter? name =
      if name = NextNodeFilter.name then
        some { (c.filter? name).getD {} with keyword := some keyword }
      else c.filter? name := by
  rw [setKeyword, filter?, lookup_put]
  by_cases hname : name = NextNodeFilter.name
  · subst hname
    simp
  · simp [hname, filter?]

/-- The keyword that was set is the one that is found, whether the filter had settings before or
not. -/
@[simp] theorem keyword?_setKeyword : (c.setKeyword keyword).keyword? = some keyword := by
  simp [keyword?, filter?_setKeyword]

@[simp] theorem ruleEnabled_setKeyword (name : String) :
    (c.setKeyword keyword).ruleEnabled name = c.ruleEnabled name := rfl

/-- No filter is enabled or disabled by setting the keyword: settings that were not there before
enable their filter, and so does it if there are none. -/
@[simp] theorem filterEnabled_setKeyword (name : String) :
    (c.setKeyword keyword).filterEnabled name = c.filterEnabled name := by
  rw [filterEnabled, filter?_setKeyword, filterEnabled]
  by_cases hname : name = NextNodeFilter.name
  · rw [if_pos hname]
    cases c.filter? name <;> rfl
  · rw [if_neg hname]

/-- The second of two keywords is left, as the first was written over: so of several overrides the
last one decides. -/
theorem setKeyword_setKeyword (other : String) :
    (c.setKeyword other).setKeyword keyword = c.setKeyword keyword := by
  have hown := filter?_setKeyword c other NextNodeFilter.name
  rw [if_pos rfl] at hown
  have hput := put_put c.filters NextNodeFilter.name
  rw [setKeyword, hown]
  simp [setKeyword, hput]

/-- **The last keyword decides alone**, by induction on those before it. No keyword leaves anything
behind that the next one does not write over. -/
theorem foldl_setKeyword (earlier : List String) :
    (earlier ++ [keyword]).foldl setKeyword c = c.setKeyword keyword := by
  induction earlier generalizing c with
  | nil => rfl
  | cons other earlier ih =>
    rw [List.cons_append, List.foldl_cons, ih]
    exact setKeyword_setKeyword c keyword other

/-- What a configuration with another keyword has in common with the one before: everything but the
keyword in the settings of the filter for directives. -/
structure Rekeyed (c' : Config) : Prop where
  rules : c'.rules = c.rules
  palette : c'.palette = c.palette
  others : ∀ name, name ≠ NextNodeFilter.name → c'.filter? name = c.filter? name
  own : c'.filter? NextNodeFilter.name =
    some ⟨((c.filter? NextNodeFilter.name).map (·.enabled)).getD true, some keyword⟩
  ruleEnabled : ∀ name, c'.ruleEnabled name = c.ruleEnabled name
  filterEnabled : ∀ name, c'.filterEnabled name = c.filterEnabled name

theorem rekeyed_setKeyword : c.Rekeyed keyword (c.setKeyword keyword) where
  rules := rules_setKeyword c keyword
  palette := palette_setKeyword c keyword
  others name hname := by rw [filter?_setKeyword, if_neg hname]
  own := by
    rw [filter?_setKeyword, if_pos rfl]
    cases c.filter? NextNodeFilter.name <;> rfl
  ruleEnabled := ruleEnabled_setKeyword c keyword
  filterEnabled := filterEnabled_setKeyword c keyword

end Config

/-! ## The linter -/

/-- The empty keyword is never in force, since the default takes its place. An empty keyword would
be found in every comment. -/
theorem Directive.effectiveKeyword_ne_empty (keyword : String) : effectiveKeyword keyword ≠ "" := by
  rw [effectiveKeyword]
  split
  · decide
  · rename_i hkeyword
    rintro rfl
    exact hkeyword rfl

namespace Linter

/-- The linter for another keyword has the same rules, and the filter for that keyword if there was
a filter. -/
theorem ofConfig_setKeyword (c : Config) (keyword : String) :
    ofConfig (c.setKeyword keyword) =
      { rules := (ofConfig c).rules
        filters := (ofConfig c).filters.map fun _ => NextNodeFilter.ofKeyword keyword } := by
  rw [ofConfig, ofConfig, Config.filterEnabled_setKeyword, Config.keyword?_setKeyword]
  cases c.filterEnabled NextNodeFilter.name <;> rfl

/-- A linter for a configuration has the filter for directives once, or not at all. So there is one
filter at most to compare with the one for another keyword. -/
theorem filters_ofConfig (c : Config) :
    (ofConfig c).filters = [] ∨ ∃ f, (ofConfig c).filters = [f] := by
  cases h : c.filterEnabled NextNodeFilter.name with
  | false => exact .inl (by simp [ofConfig, h])
  | true => exact .inr ⟨.ofKeyword (c.keyword?.getD ""), by simp [ofConfig, h]⟩

/-- What a linter for another keyword has in common with the one before, and what it does with that
keyword, for which the default one stands if it is empty. -/
structure Rekeyed (keyword : String) (l l' : Linter) : Prop where
  check : ∀ source document, l'.check source document = l.check source document
  filters : l'.filters.length = l.filters.length
  ranges : ∀ source document, l'.ranges source document =
    if l.filters = [] then []
    else NextNodeFilter.ranges ⟨if keyword = "" then Directive.defaultKeyword else keyword⟩
      source document
  inForce : ∀ f ∈ l'.filters, f.keyword ≠ ""

theorem rekeyed_setKeyword (c : Config) (keyword : String) :
    (ofConfig c).Rekeyed keyword (ofConfig (c.setKeyword keyword)) := by
  have heffective : Directive.effectiveKeyword keyword =
      if keyword = "" then Directive.defaultKeyword else keyword := by
    simp [Directive.effectiveKeyword]
  rw [ofConfig_setKeyword]
  refine ⟨fun source document => rfl, List.length_map _, fun source document => ?_, fun f hf => ?_⟩
  · rw [ranges_eq, ← heffective]
    rcases filters_ofConfig c with hnone | ⟨f, hone⟩
    · simp [hnone]
    · simp [hone, NextNodeFilter.ofKeyword]
  · obtain ⟨_, -, rfl⟩ := List.mem_map.1 hf
    exact Directive.effectiveKeyword_ne_empty keyword

end Linter

/-! ## The theorem -/

open Command in
/-- **Another keyword changes the keyword and nothing else.** Of a configuration that was found, or
of the one that stands for none, all settings stay but that one, and so does what is enabled. The
linter finds what it found, and if it has a filter for directives, which it has if it had one, that
filter marks what the directives with the other keyword ask for. Of several keywords the last one
decides. On the command line reports look as they do without the option. -/
theorem Config.setKeyword_exact (found : Option Config) (earlier : List String) (keyword : String) :
    let c := found.getD {}
    c.Rekeyed keyword (c.setKeyword keyword) ∧
    (Linter.ofConfig c).Rekeyed keyword (Linter.ofConfig (c.setKeyword keyword)) ∧
    (earlier ++ [keyword]).foldl setKeyword c = c.setKeyword keyword ∧
    ∀ (s : Surroundings) (o : CheckOptions),
      withKeyword { o with keyword := some keyword } found = some (c.setKeyword keyword) ∧
      styleOf s o (some (c.setKeyword keyword)) = styleOf s o found := by
  intro c
  refine ⟨c.rekeyed_setKeyword keyword, Linter.rekeyed_setKeyword c keyword,
    c.foldl_setKeyword keyword earlier, fun s o => ⟨rfl, ?_⟩⟩
  cases found with
  | none => rfl
  | some found => rfl

/-- A filter that is off stays off. -/
example : (Linter.ofConfig (Config.setKeyword
    { filters := [(NextNodeFilter.name, { enabled := false })] } "k")).filters = [] := by decide

/-- A filter without settings stays on, and the default keyword stands for the empty one. -/
example : (Linter.ofConfig (Config.setKeyword {} "")).filters =
    [⟨Directive.defaultKeyword⟩] := by decide

end DocLint

import DocLint.Files.Path
import Mathlib.Data.String.Basic

/-!
# The order of paths

Paths are put in order by their components: those of different sorts by their sort, names by their
characters, and a path before what is below it. Of two paths one comes first, or they have the same
components.

* `Path.lt_trans`, `Path.lt_trichotomous` — the order of paths;
* `Path.not_lt_trans`, `Path.not_lt_total` — not coming behind, as paths are sorted by it;
* `Path.same_comm`, `Path.same_trans` — having the same components.
-/

namespace DocLint.Files

namespace Component

theorem lt_irrefl (a : Component) : a.lt a = false := by
  cases a with
  | name s => simp [lt]
  | _ => rfl

theorem lt_trans {a b c : Component} (hab : a.lt b = true) (hbc : b.lt c = true) :
    a.lt c = true := by
  by_cases hnames : ∃ s t u, a = name s ∧ b = name t ∧ c = name u
  · obtain ⟨s, t, u, rfl, rfl, rfl⟩ := hnames
    exact decide_eq_true (String.lt_trans (of_decide_eq_true hab) (of_decide_eq_true hbc))
  · cases a <;> cases b <;> cases c <;> simp [lt, rank] at hab hbc hnames ⊢

theorem lt_or_lt_of_ne {a b : Component} (h : a ≠ b) : a.lt b = true ∨ b.lt a = true := by
  cases a with
  | name s =>
    cases b with
    | name t =>
      have hst : s ≠ t := fun hst => h (congrArg name hst)
      exact (lt_or_gt_of_ne hst).imp decide_eq_true decide_eq_true
    | _ => simp [lt, rank]
  | _ => cases b <;> simp [lt, rank] at h ⊢

end Component

namespace Path

theorem componentsLt_trans {as bs cs : List Component} (hab : componentsLt as bs = true)
    (hbc : componentsLt bs cs = true) : componentsLt as cs = true := by
  induction as generalizing bs cs with
  | nil =>
    cases bs with
    | nil => cases hab
    | cons b bs =>
      cases cs with
      | nil => cases hbc
      | cons c cs => rfl
  | cons a as ih =>
    cases bs with
    | nil => cases hab
    | cons b bs =>
      cases cs with
      | nil => cases hbc
      | cons c cs =>
        rw [componentsLt] at hab hbc ⊢
        -- the first components decide unless they are equal; each equality passes the question on
        by_cases h : a = b
        · subst h
          rw [if_pos rfl] at hab
          by_cases h : a = c
          · rw [if_pos h] at hbc ⊢
            exact ih hab hbc
          · rw [if_neg h] at hbc ⊢
            exact hbc
        · rw [if_neg h] at hab
          by_cases h' : b = c
          · subst h'
            rw [if_neg h]
            exact hab
          · rw [if_neg h'] at hbc
            have hac := Component.lt_trans hab hbc
            have hne : a ≠ c := by
              rintro rfl
              rw [Component.lt_irrefl] at hac
              cases hac
            rw [if_neg hne]
            exact hac

theorem componentsLt_trichotomous (as bs : List Component) :
    as = bs ∨ componentsLt as bs = true ∨ componentsLt bs as = true := by
  induction as generalizing bs with
  | nil =>
    cases bs with
    | nil => exact .inl rfl
    | cons b bs => exact .inr (.inl rfl)
  | cons a as ih =>
    cases bs with
    | nil => exact .inr (.inr rfl)
    | cons b bs =>
      rw [componentsLt, componentsLt]
      by_cases h : a = b
      · subst h
        rw [if_pos rfl, if_pos rfl, List.cons.injEq]
        simpa using ih bs
      · rw [if_neg h, if_neg (Ne.symm h)]
        exact .inr (Component.lt_or_lt_of_ne h)

theorem componentsLt_irrefl (as : List Component) : componentsLt as as = false := by
  induction as with
  | nil => rfl
  | cons a as ih => rw [componentsLt, if_pos rfl, ih]

theorem lt_trans {p q r : String} (hpq : lt p q = true) (hqr : lt q r = true) : lt p r = true :=
  componentsLt_trans hpq hqr

/-- **Of two paths, one comes first**, or they have the same components. The comparison sees no more
of them than that. -/
theorem lt_trichotomous (p q : String) : same p q = true ∨ lt p q = true ∨ lt q p = true := by
  rcases componentsLt_trichotomous (components p) (components q) with h | h
  · exact .inl (beq_iff_eq.2 h)
  · exact .inr h

theorem lt_asymm {p q : String} (h : lt p q = true) : lt q p = false := by
  rw [Bool.eq_false_iff]
  intro hqp
  have hpp := lt_trans h hqp
  rw [lt, componentsLt_irrefl] at hpp
  cases hpp

/-- **Not coming behind** is transitive: if the last came before the first, it would come before the
one between them. -/
theorem not_lt_trans {p q r : String} (hpq : lt q p = false) (hqr : lt r q = false) :
    lt r p = false := by
  rw [Bool.eq_false_iff]
  intro hrp
  rcases lt_trichotomous p q with hsame | hlt | hlt
  · rw [lt, ← beq_iff_eq.1 hsame] at hqr
    rw [lt, hqr] at hrp
    cases hrp
  · rw [lt_trans hrp hlt] at hqr
    cases hqr
  · rw [hlt] at hpq
    cases hpq

theorem not_lt_total (p q : String) : lt q p = false ∨ lt p q = false := by
  cases hpq : lt p q with
  | false => exact .inr rfl
  | true => exact .inl (lt_asymm hpq)

theorem same_self (p : String) : same p p = true := beq_self_eq_true _

theorem same_comm (p q : String) : same p q = same q p := Bool.beq_comm

theorem same_trans {p q r : String} (hpq : same p q = true) (hqr : same q r = true) :
    same p r = true := by
  rw [same, beq_iff_eq] at hpq hqr ⊢
  exact hpq.trans hqr

end Path

end DocLint.Files

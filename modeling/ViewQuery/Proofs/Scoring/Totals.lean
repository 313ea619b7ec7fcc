import Mathlib.Algebra.BigOperators.Group.List.Basic
import Mathlib.Algebra.GroupWithZero.Nat
import ViewQuery.Scoring

set_option autoImplicit false

namespace ViewQuery

namespace Counts

@[simp]
theorem add_eq (a b : Counts) : a + b = add a b := rfl

def totals (examples : Nat) (parts : List Counts) : Counts where
  examples := examples
  valid := (parts.map valid).sum
  syntaxErrors := (parts.map syntaxErrors).sum
  unknownFilters := (parts.map unknownFilters).sum
  filters := (parts.map filters).sum
  unknownActions := (parts.map unknownActions).sum
  actions := (parts.map actions).sum

def crashed : Counts := ⟨1, 0, 0, 0, 0, 0, 0⟩

theorem foldl_add (c : Counts) (parts : List Counts) :
    parts.foldl add c = c + totals (parts.map examples).sum parts := by
  induction parts generalizing c with
  | nil => rfl
  | cons d parts ih => simp [ih, add, totals, Nat.add_assoc]

theorem ofResults_eq_totals (examples : Nat) (results : List (Option Counts)) :
    ofResults examples results = totals examples (results.filterMap id) := by
  simp [ofResults, sum, foldl_add, add, totals, zero]

theorem totals_append (m n : Nat) (as bs : List Counts) :
    totals (m + n) (as ++ bs) = totals m as + totals n bs := by
  simp [totals, add]

theorem totals_perm (examples : Nat) {as bs : List Counts} (same : as.Perm bs) :
    totals examples as = totals examples bs := by
  have sums (f : Counts → Nat) : (as.map f).sum = (bs.map f).sum := (same.map f).sum_eq
  simp only [totals, sums]

end Counts

namespace Validator

variable (v : Validator) (view : View)

def totals (es : List Example) : Counts := .totals es.length (es.filterMap (v.score? view))

theorem scoreAll_eq_totals (es : List Example) : v.scoreAll view es = v.totals view es := by
  rw [scoreAll, Counts.ofResults_eq_totals, List.filterMap_map]
  rfl

theorem totals_append (es fs : List Example) :
    v.totals view (es ++ fs) = v.totals view es + v.totals view fs := by
  rw [totals, List.length_append, List.filterMap_append, Counts.totals_append]
  rfl

theorem examples_of_score {e : Example} {c : Counts} (scored : v.score? view e = some c) :
    c.examples = 1 := by
  simp only [score?] at scored
  split at scored
  · exact Option.some.inj scored ▸ rfl
  · exact Option.some.inj scored ▸ rfl
  · cases scored

theorem totals_single (e : Example) :
    v.totals view [e] = (v.score? view e).getD .crashed := by
  cases scored : v.score? view e with
  | none => simp [totals, Counts.totals, Counts.crashed, scored]
  | some c => simp [totals, Counts.totals, scored, ← v.examples_of_score view scored]

theorem totals_perm {es fs : List Example} (same : es.Perm fs) :
    v.totals view es = v.totals view fs := by
  rw [totals, totals, same.length_eq, Counts.totals_perm _ (same.filterMap (v.score? view))]

end Validator

end ViewQuery

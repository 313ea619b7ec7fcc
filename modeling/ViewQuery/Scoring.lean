import ViewQuery.Dataset
import ViewQuery.Grammar.Mention
import ViewQuery.Validation

set_option autoImplicit false

namespace ViewQuery

open Json.Read

structure Counts where
  examples : Nat
  valid : Nat
  syntaxErrors : Nat
  unknownFilters : Nat
  filters : Nat
  unknownActions : Nat
  actions : Nat
  deriving DecidableEq

namespace Counts

def zero : Counts := ⟨0, 0, 0, 0, 0, 0, 0⟩

def add (a b : Counts) : Counts where
  examples := a.examples + b.examples
  valid := a.valid + b.valid
  syntaxErrors := a.syntaxErrors + b.syntaxErrors
  unknownFilters := a.unknownFilters + b.unknownFilters
  filters := a.filters + b.filters
  unknownActions := a.unknownActions + b.unknownActions
  actions := a.actions + b.actions

instance : Zero Counts := ⟨zero⟩

instance : Add Counts := ⟨add⟩

theorem add_assoc (a b c : Counts) : a + b + c = a + (b + c) := by
  simp only [HAdd.hAdd, Add.add, add, Counts.mk.injEq]
  exact ⟨Nat.add_assoc .., Nat.add_assoc .., Nat.add_assoc .., Nat.add_assoc .., Nat.add_assoc ..,
    Nat.add_assoc .., Nat.add_assoc ..⟩

theorem add_comm (a b : Counts) : a + b = b + a := by
  simp only [HAdd.hAdd, Add.add, add, Counts.mk.injEq]
  exact ⟨Nat.add_comm .., Nat.add_comm .., Nat.add_comm .., Nat.add_comm .., Nat.add_comm ..,
    Nat.add_comm .., Nat.add_comm ..⟩

def sum (parts : List Counts) : Counts := parts.foldl add zero

-- Adds up results in the order in which they come in; a crash gives none.
def ofResults (examples : Nat) (results : List (Option Counts)) : Counts :=
  { sum (results.filterMap id) with examples := examples }

def toList (c : Counts) : List (String × Nat) :=
  [("examples", c.examples), ("valid", c.valid), ("syntax_errors", c.syntaxErrors),
    ("hallucinated_filters", c.unknownFilters), ("total_filters", c.filters),
    ("hallucinated_actions", c.unknownActions), ("total_actions", c.actions)]

def toJson (c : Counts) : Json := .obj (c.toList.map fun p => (p.1, .int p.2))

def shape : Shape Reader Counts where
  name := "MetricCounts"
  fields :=
    [ .of "examples" count fun c n => { c with examples := n },
      .of "valid" count fun c n => { c with valid := n },
      .of "syntax_errors" count fun c n => { c with syntaxErrors := n },
      .of "hallucinated_filters" count fun c n => { c with unknownFilters := n },
      .of "total_filters" count fun c n => { c with filters := n },
      .of "hallucinated_actions" count fun c n => { c with unknownActions := n },
      .of "total_actions" count fun c n => { c with actions := n } ]
  default := zero

end Counts

structure Rates where
  valid : Float
  unknownFilters : Float
  unknownActions : Float
  syntaxErrors : Float

namespace Rates

def float (n : Nat) : Float := Decimal.toFloat (Decimal.double.ofNat n)

def ratio (part whole : Nat) : Float := if whole = 0 then 0.0 else float part / float whole

def ofCounts (c : Counts) : Rates where
  valid := ratio c.valid c.examples
  unknownFilters := ratio c.unknownFilters c.filters
  unknownActions := ratio c.unknownActions c.actions
  syntaxErrors := ratio c.syntaxErrors c.examples

def toList (r : Rates) : List (String × Float) :=
  [("valid_iql", r.valid), ("hallucinated_filters", r.unknownFilters),
    ("hallucinated_actions", r.unknownActions), ("syntax_errors", r.syntaxErrors)]

def toJson (r : Rates) : Json := .obj (r.toList.map fun p => (p.1, .float p.2))

end Rates

namespace OperationSet

def mentions (ops : OperationSet) (source : String) : Nat × Nat :=
  match mentionedNames? source with
  | some names => (names.countP fun name => !ops.contains name, names.length)
  | none => (0, 0)

theorem mentions_fst_le (ops : OperationSet) (source : String) :
    (ops.mentions source).1 ≤ (ops.mentions source).2 := by
  unfold mentions
  split
  · exact List.countP_le_length
  · exact Nat.le_refl 0

end OperationSet

namespace Validator

variable (v : Validator)

def score? (view : View) (e : Example) : Option Counts :=
  let filters := view.filters.mentions e.filters
  let actions := view.actions.mentions e.actions
  let counts (valid syntaxErrors : Nat) : Counts :=
    ⟨1, valid, syntaxErrors, filters.1, filters.2, actions.1, actions.2⟩
  match v.checkQuery e.filters e.actions view with
  | .ok _ => some (counts 1 0)
  | .error (.error error) => some (counts 0 error.kind.isSyntax.toNat)
  | .error .crash => none

def scoreAll (view : View) (es : List Example) : Counts :=
  .ofResults es.length (es.map (v.score? view))

def greatestConcurrency : Nat := Decimal.twoTo 61 - 1

-- The counts of a dataset of which a number of examples are scored at a time. Too large a number
-- crashes; otherwise it makes no difference.
def scoreConcurrently (limit : Nat) (view : View) (es : List Example) : Option Counts :=
  if greatestConcurrency < limit then none else some (v.scoreAll view es)

end Validator

end ViewQuery

import ViewQuery.Scoring

/-!
Scoring the examples of a dataset side by side.

Every example is queued as a task, in the order of the dataset. A task waits for a permit, scores
its example while it holds it, and gives it back when it ends, also if the check crashes. Once all
examples are queued, ended tasks are collected one at a time. Tasks share nothing but the permits.
What moves when is not said here: the moves of a run may come in every order in which each of them
is possible.
-/

set_option autoImplicit false

namespace ViewQuery

inductive Task where
  | waiting (e : Example)
  | running (e : Example)
  | ended (result : Option Counts)
  deriving DecidableEq

def Task.isRunning : Task → Bool
  | .running _ => true
  | _ => false

structure Pool where
  unqueued : List Example
  tasks : List Task
  permits : Nat
  -- of the tasks collected, in their order of arrival
  results : List (Option Counts)
  deriving DecidableEq

inductive Move where
  | queue
  | start (task : Nat)
  | finish (task : Nat)
  | collect (task : Nat)
  deriving DecidableEq

namespace Pool

-- There is at least one permit, and too many crash.
def ofDataset (limit : Nat) (es : List Example) : Option Pool :=
  if Validator.greatestConcurrency < limit then none else some ⟨es, [], max limit 1, []⟩

def running (p : Pool) : Nat := p.tasks.countP Task.isRunning

def isDone (p : Pool) : Bool := p.unqueued.isEmpty && p.tasks.isEmpty

variable (v : Validator) (view : View)

/-- The pool after a move; nothing if the move is not possible. -/
def step (p : Pool) : Move → Option Pool
  | .queue =>
    match p.unqueued with
    | [] => none
    | e :: es => some { p with unqueued := es, tasks := p.tasks ++ [.waiting e] }
  | .start i =>
    match p.tasks[i]?, p.permits with
    | some (.waiting e), permits + 1 =>
      some { p with tasks := p.tasks.set i (.running e), permits := permits }
    | _, _ => none
  | .finish i =>
    match p.tasks[i]? with
    | some (.running e) =>
      some { p with tasks := p.tasks.set i (.ended (v.score? view e)), permits := p.permits + 1 }
    | _ => none
  | .collect i =>
    match p.unqueued, p.tasks[i]? with
    | [], some (.ended result) =>
      some { p with tasks := p.tasks.eraseIdx i, results := p.results ++ [result] }
    | _, _ => none

def run (p : Pool) : List Move → Option Pool
  | [] => some p
  | m :: ms => (p.step v view m).bind (run · ms)

end Pool

/-- Some order of moves scores the dataset to the end, and these are its counts. -/
def Validator.Scores (v : Validator) (view : View) (limit : Nat) (es : List Example) (c : Counts) :
    Prop :=
  ∃ start moves p, Pool.ofDataset limit es = some start ∧ start.run v view moves = some p ∧
    p.isDone ∧ c = .ofResults es.length p.results

end ViewQuery

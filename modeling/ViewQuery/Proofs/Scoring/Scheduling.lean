import ViewQuery.Proofs.Scoring.Totals
import ViewQuery.Schedule

set_option autoImplicit false

namespace ViewQuery

theorem exists_split_of_getElem? {α : Type} {xs : List α} {i : Nat} {x : α}
    (found : xs[i]? = some x) :
    ∃ before after, xs = before ++ x :: after ∧ i = before.length := by
  obtain ⟨inside, rfl⟩ := List.getElem?_eq_some_iff.1 found
  refine ⟨xs.take i, xs.drop (i + 1), ?_, ?_⟩
  · rw [List.cons_getElem_drop_succ, List.take_append_drop]
  · rw [List.length_take, Nat.min_eq_left (Nat.le_of_lt inside)]

namespace Task

variable (v : Validator) (view : View)

def outcome : Task → Option Counts
  | .waiting e => v.score? view e
  | .running e => v.score? view e
  | .ended result => result

def remaining : Task → Nat
  | .waiting _ => 3
  | .running _ => 2
  | .ended _ => 1

end Task

namespace Pool

variable {v : Validator} {view : View} {limit : Nat} {es : List Example} {p q : Pool}

-- A move, with the task it is about between those before and those after it.
inductive Moved (v : Validator) (view : View) : Pool → Pool → Prop where
  | queue (e es tasks permits results) :
      Moved v view ⟨e :: es, tasks, permits, results⟩
        ⟨es, tasks ++ [.waiting e], permits, results⟩
  | start (e es before after permits results) :
      Moved v view ⟨es, before ++ .waiting e :: after, permits + 1, results⟩
        ⟨es, before ++ .running e :: after, permits, results⟩
  | finish (e es before after permits results) :
      Moved v view ⟨es, before ++ .running e :: after, permits, results⟩
        ⟨es, before ++ .ended (v.score? view e) :: after, permits + 1, results⟩
  | collect (result before after permits results) :
      Moved v view ⟨[], before ++ .ended result :: after, permits, results⟩
        ⟨[], before ++ after, permits, results ++ [result]⟩

theorem moved_of_step {m : Move} (stepped : p.step v view m = some q) : Moved v view p q := by
  obtain ⟨unqueued, tasks, permits, results⟩ := p
  cases m with
  | queue =>
    simp only [step] at stepped
    split at stepped
    · cases stepped
    · obtain rfl := Option.some.inj stepped
      exact .queue ..
  | start i =>
    simp only [step] at stepped
    split at stepped
    · next found =>
      obtain ⟨before, after, rfl, rfl⟩ := exists_split_of_getElem? found
      obtain rfl := Option.some.inj stepped
      simpa using Moved.start ..
    · cases stepped
  | finish i =>
    simp only [step] at stepped
    split at stepped
    · next found =>
      obtain ⟨before, after, rfl, rfl⟩ := exists_split_of_getElem? found
      obtain rfl := Option.some.inj stepped
      simpa using Moved.finish ..
    · cases stepped
  | collect i =>
    simp only [step] at stepped
    split at stepped
    · next found =>
      obtain ⟨before, after, rfl, rfl⟩ := exists_split_of_getElem? found
      obtain rfl := Option.some.inj stepped
      simpa [List.eraseIdx_append_of_length_le] using Moved.collect ..
    · cases stepped

theorem exists_step_of_moved (moved : Moved v view p q) : ∃ m, p.step v view m = some q := by
  cases moved with
  | queue => exact ⟨.queue, rfl⟩
  | start e es before after => exact ⟨.start before.length, by simp [step]⟩
  | finish e es before after => exact ⟨.finish before.length, by simp [step]⟩
  | collect result before after =>
    exact ⟨.collect before.length, by simp [step, List.eraseIdx_append_of_length_le]⟩

-- No move changes these but for their order.
def outcomes (v : Validator) (view : View) (p : Pool) : List (Option Counts) :=
  p.results ++ (p.tasks.map (Task.outcome v view) ++ p.unqueued.map (v.score? view))

def remaining (p : Pool) : Nat := (p.tasks.map Task.remaining).sum + 4 * p.unqueued.length

structure Follows (v : Validator) (view : View) (p : Pool) (count : Nat) (q : Pool) : Prop where
  outcomes : (q.outcomes v view).Perm (p.outcomes v view)
  permits : q.permits + q.running = p.permits + p.running
  remaining : q.remaining + count = p.remaining

theorem follows_of_moved (moved : Moved v view p q) : Follows v view p 1 q := by
  cases moved with
  | queue e es tasks permits results =>
    refine ⟨?_, ?_, ?_⟩
    · simp [outcomes, Task.outcome]
    · simp [running, Task.isRunning]
    · simp [remaining, Task.remaining]
      omega
  | start e es before after permits results =>
    refine ⟨?_, ?_, ?_⟩
    · simp [outcomes, Task.outcome]
    · simp [running, List.countP_cons, Task.isRunning]
      omega
    · simp [remaining, Task.remaining]
      omega
  | finish e es before after permits results =>
    refine ⟨?_, ?_, ?_⟩
    · simp [outcomes, Task.outcome]
    · simp [running, List.countP_cons, Task.isRunning]
      omega
    · simp [remaining, Task.remaining]
      omega
  | collect result before after permits results =>
    refine ⟨?_, ?_, ?_⟩
    · -- The only move that changes the order: a result goes ahead of the tasks before it.
      simp only [outcomes, List.map_append, List.map_cons, Task.outcome, List.append_assoc,
        List.cons_append, List.nil_append]
      exact List.perm_middle.symm.append_left results
    · simp [running, Task.isRunning]
    · simp [remaining, Task.remaining]
      omega

theorem Follows.trans {r : Pool} {m n : Nat} (first : Follows v view p m q)
    (rest : Follows v view q n r) : Follows v view p (m + n) r where
  outcomes := rest.outcomes.trans first.outcomes
  permits := rest.permits.trans first.permits
  remaining := by rw [← first.remaining, ← rest.remaining, Nat.add_assoc, Nat.add_comm n m]

theorem follows_of_run {moves : List Move} (ran : p.run v view moves = some q) :
    Follows v view p moves.length q := by
  induction moves generalizing p with
  | nil =>
    obtain rfl := Option.some.inj ran
    exact ⟨.refl _, rfl, rfl⟩
  | cons m moves ih =>
    obtain ⟨next, stepped, ran⟩ := Option.bind_eq_some_iff.1 ran
    rw [List.length_cons, Nat.add_comm]
    exact (follows_of_moved (moved_of_step stepped)).trans (ih ran)

theorem isDone_iff : p.isDone = true ↔ p.unqueued = [] ∧ p.tasks = [] := by
  simp [isDone]

theorem exists_moved (v : Validator) (view : View) (permitted : 0 < p.permits + p.running)
    (undone : p.isDone = false) : ∃ q, Moved v view p q := by
  obtain ⟨unqueued, tasks, permits, results⟩ := p
  cases unqueued with
  | cons e es => exact ⟨_, .queue ..⟩
  | nil =>
    by_cases wait : ∀ t ∈ tasks, ∃ e, t = .waiting e
    · -- No task holds a permit, so one is free.
      cases tasks with
      | nil => cases undone
      | cons t tasks =>
        have idle : List.countP Task.isRunning (t :: tasks) = 0 := by
          refine List.countP_eq_zero.2 fun u member => ?_
          obtain ⟨e, rfl⟩ := wait u member
          exact Bool.false_ne_true
        obtain ⟨e, rfl⟩ := wait t List.mem_cons_self
        cases permits with
        | zero =>
          rw [running, idle] at permitted
          cases permitted
        | succ n => exact ⟨_, .start e [] [] tasks n results⟩
    · push Not at wait
      obtain ⟨t, member, busy⟩ := wait
      obtain ⟨before, after, rfl⟩ := List.append_of_mem member
      cases t with
      | waiting e => exact absurd rfl (busy e)
      | running e => exact ⟨_, .finish ..⟩
      | ended result => exact ⟨_, .collect ..⟩

theorem exists_run_to_end (v : Validator) (view : View) (permitted : 0 < p.permits + p.running) :
    ∃ moves q, p.run v view moves = some q ∧ q.isDone = true := by
  -- Each move uses up one of those that remain.
  induction left : p.remaining using Nat.strongRecOn generalizing p with
  | ind n ih =>
    cases done : p.isDone with
    | true => exact ⟨[], p, rfl, done⟩
    | false =>
      obtain ⟨q, moved⟩ := exists_moved v view permitted done
      obtain ⟨m, stepped⟩ := exists_step_of_moved moved
      obtain ⟨-, permits, used⟩ := follows_of_moved moved
      obtain ⟨moves, r, ran, done⟩ := ih q.remaining (by omega) (permits ▸ permitted) rfl
      exact ⟨m :: moves, r, by rw [run, stepped, Option.bind_some, ran], done⟩

-- The invariant of a run: permits are free or held by running tasks.
structure Scoring (v : Validator) (view : View) (limit : Nat) (es : List Example) (count : Nat)
    (p : Pool) : Prop where
  outcomes : (p.outcomes v view).Perm (es.map (v.score? view))
  permits : p.permits + p.running = max limit 1
  remaining : p.remaining + count = 4 * es.length

theorem scoring_of_run {start : Pool} {moves : List Move}
    (begins : ofDataset limit es = some start) (ran : start.run v view moves = some p) :
    Scoring v view limit es moves.length p := by
  unfold ofDataset at begins
  split at begins
  · cases begins
  · obtain rfl := Option.some.inj begins
    obtain ⟨outcomes, permits, remaining⟩ := follows_of_run ran
    exact ⟨outcomes, permits, by simpa [Pool.remaining] using remaining⟩

namespace Scoring

variable {count : Nat}

theorem running_le (state : Scoring v view limit es count p) : p.running ≤ max limit 1 :=
  state.permits ▸ Nat.le_add_left ..

theorem moves_le (state : Scoring v view limit es count p) : count ≤ 4 * es.length :=
  state.remaining ▸ Nat.le_add_left ..

theorem permitted (state : Scoring v view limit es count p) : 0 < p.permits + p.running := by
  rw [state.permits]
  exact Nat.le_max_right limit 1

theorem ofResults_eq (state : Scoring v view limit es count p) (done : p.isDone = true) :
    Counts.ofResults es.length p.results = v.totals view es := by
  obtain ⟨unqueued, tasks⟩ := isDone_iff.1 done
  have same : p.results.Perm (es.map (v.score? view)) := by
    have outcomes := state.outcomes
    rwa [Pool.outcomes, tasks, unqueued, List.map_nil, List.map_nil, List.append_nil,
      List.append_nil] at outcomes
  rw [Counts.ofResults_eq_totals, Counts.totals_perm _ (same.filterMap id), List.filterMap_map]
  rfl

end Scoring

end Pool

namespace Validator

variable {v : Validator} {view : View} {limit : Nat} {es : List Example} {c : Counts}

theorem scores_iff : v.Scores view limit es c ↔ v.scoreConcurrently limit view es = some c := by
  constructor
  · rintro ⟨start, moves, p, begins, ran, done, rfl⟩
    have fits : ¬ greatestConcurrency < limit := by
      intro large
      rw [Pool.ofDataset, if_pos large] at begins
      cases begins
    rw [(Pool.scoring_of_run begins ran).ofResults_eq done, scoreConcurrently, if_neg fits,
      scoreAll_eq_totals]
  · intro scored
    unfold scoreConcurrently at scored
    split at scored
    · cases scored
    · next fits =>
      obtain rfl := Option.some.inj scored
      have begins : Pool.ofDataset limit es = some ⟨es, [], max limit 1, []⟩ := if_neg fits
      obtain ⟨moves, p, ran, done⟩ := Pool.exists_run_to_end (p := ⟨es, [], max limit 1, []⟩) v view
        (Nat.le_max_right limit 1)
      refine ⟨_, moves, p, begins, ran, done, ?_⟩
      rw [scoreAll_eq_totals, (Pool.scoring_of_run begins ran).ofResults_eq done]

theorem scoreConcurrently_eq (fits : limit ≤ greatestConcurrency) :
    v.scoreConcurrently limit view es = some (v.totals view es) := by
  rw [scoreConcurrently, if_neg (Nat.not_lt.2 fits), scoreAll_eq_totals]

theorem scores_iff_eq (fits : limit ≤ greatestConcurrency) :
    v.Scores view limit es c ↔ c = v.totals view es := by
  rw [scores_iff, scoreConcurrently_eq fits, Option.some_inj, eq_comm]

/-- Scoring a dataset ends under every schedule, with the sums over the examples whose checks end;
neither the order of the examples nor how many are scored at a time has a part in them. -/
theorem scores_every_schedule (v : Validator) (view : View) (limit : Nat) (es : List Example)
    (fits : limit ≤ greatestConcurrency) :
    (∃ start, Pool.ofDataset limit es = some start ∧
      ∀ moves p, start.run v view moves = some p →
        p.running ≤ max limit 1 ∧ moves.length ≤ 4 * es.length ∧
        (p.isDone = false → ∃ m q, p.step v view m = some q) ∧
        (p.isDone = true → Counts.ofResults es.length p.results = v.totals view es)) ∧
    v.scoreConcurrently limit view es = some (v.totals view es) ∧
    (∀ c, v.Scores view limit es c ↔ c = v.totals view es) ∧
    (∀ fs limit' c, es.Perm fs → limit' ≤ greatestConcurrency →
      (v.Scores view limit es c ↔ v.Scores view limit' fs c)) ∧
    ∀ fs a b, v.Scores view limit es a → v.Scores view limit fs b →
      ∀ c, v.Scores view limit (es ++ fs) c ↔ c = a + b := by
  have begins : Pool.ofDataset limit es = some ⟨es, [], max limit 1, []⟩ :=
    if_neg (Nat.not_lt.2 fits)
  refine ⟨⟨_, begins, fun moves p ran => ?_⟩, scoreConcurrently_eq fits,
    fun c => scores_iff_eq fits, fun fs limit' c same fits' => ?_, fun fs a b left right c => ?_⟩
  · have state := Pool.scoring_of_run begins ran
    refine ⟨state.running_le, state.moves_le, fun undone => ?_, state.ofResults_eq⟩
    obtain ⟨q, moved⟩ := Pool.exists_moved v view state.permitted undone
    obtain ⟨m, stepped⟩ := Pool.exists_step_of_moved moved
    exact ⟨m, q, stepped⟩
  · rw [scores_iff_eq fits, scores_iff_eq fits', totals_perm v view same]
  · rw [scores_iff_eq fits] at left right
    rw [scores_iff_eq fits, totals_append, left, right]

theorem scores_every_schedule_crash :
    let foo : Operation := ⟨"method_foo", [⟨"idx", .int, none⟩], ""⟩
    let fromCity : Operation := ⟨"from_city", [⟨"city", .str, some "city"⟩], ""⟩
    let view : View :=
      ⟨"Cities", "", ⟨[foo, fromCity], by decide, by decide⟩, ⟨[], by decide, by decide⟩⟩
    let v := Validator.default.withResolver "city" .crashing
    let good : Example := { Example.blank with filters := "method_foo(1)" }
    let crash : Example := { Example.blank with filters := "from_city('Paris') and ghost(1)" }
    (∀ c, v.Scores view 0 [crash, good] c ↔ c = ⟨2, 1, 0, 0, 1, 0, 0⟩) ∧
      v.Scores view greatestConcurrency [good, crash] ⟨2, 1, 0, 0, 1, 0, 0⟩ := by
  intro foo fromCity view v good crash
  have all := scores_every_schedule v view 0 [crash, good] (Nat.zero_le _)
  have counts : v.totals view [crash, good] = ⟨2, 1, 0, 0, 1, 0, 0⟩ := by decide +kernel
  have first (c : Counts) : v.Scores view 0 [crash, good] c ↔ c = ⟨2, 1, 0, 0, 1, 0, 0⟩ := by
    rw [← counts]
    exact all.2.2.1 c
  have swapped : [crash, good].Perm [good, crash] := .swap ..
  exact ⟨first, (all.2.2.2.1 _ _ _ swapped (Nat.le_refl _)).1 ((first _).2 rfl)⟩

end Validator

end ViewQuery

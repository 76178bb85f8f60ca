import KeyNotation.Proofs.Join.Binding
import KeyNotation.Proofs.Join.Created

/-!
# Runs of steps

What a join has become after any number of steps, told from the steps and from what they gave. A
step does one of three things: it adds the clauses that it returns, it sets the alias, or it sets
the count. A step that fails does nothing.

* `Join.Made j` — the join `j` was just made;
* `Join.Advances j step after` — the step can make of `j` what `after` says;
* `Join.advance_fst`, `Join.advance_fst_of_error` — the join after one step;
* `Join.run_fst` — the join after all steps;
* `Join.oneToMany_iff`, `Join.oneToOne_iff` — the rows that a join may return;
* `Join.ReachedBy start steps j results` — what holds of `j` if it was made as `start` and `steps`
  gave `results`;
* `Join.reachedBy_run` — it holds after every run.
-/

namespace KeyNotation

namespace Join

inductive Made : Join → Prop
  | ofEntry {entry : Text} {j : Join} (h : ofEntry entry = .ok j) : Made j
  | create {path mark table : Text} {j : Join} (h : create path mark table = .ok j) : Made j

namespace Step

def newAlias? : Step → Option Text
  | push _ => none
  | bind _ _ => none
  | setAlias a => some a
  | setCount _ => none

def newCount? : Step → Option UInt32
  | push _ => none
  | bind _ _ => none
  | setAlias _ => none
  | setCount n => some n

end Step

/-- The clauses that a step returned, none if it failed. -/
def returned : Except KeyError Outcome → List Clause
  | .ok outcome => outcome.clauses
  | .error _ => []

/-! ## one step -/

theorem advance_push_of_ok {j : Join} {key : Text} {c : Clause}
    (h : Clause.read j.kind j.source.table key = .ok c) :
    j.advance (.push key) = (j.append [c], .ok (.pushed c)) := by
  simp only [advance, apply, push, h]

theorem advance_push_of_error {j : Join} {key : Text} {e : KeyError}
    (h : Clause.read j.kind j.source.table key = .error e) :
    j.advance (.push key) = (j, .error e) := by
  simp only [advance, apply, push, h]

/-- What a step can do to the join `j`, and what it gives then. -/
inductive Advances (j : Join) : Step → Join × Except KeyError Outcome → Prop
  | pushed {key : Text} {c : Clause} (h : Clause.read j.kind j.source.table key = .ok c) :
      Advances j (.push key) (j.append [c], .ok (.pushed c))
  | notPushed {key : Text} {e : KeyError} (h : Clause.read j.kind j.source.table key = .error e) :
      Advances j (.push key) (j, .error e)
  | bound {reader : NegationReader} {request : Entries Json} {bs : List Binding}
      (h : List.Forall₂ (Binds reader j) (references request) bs) :
      Advances j (.bind reader request) (j.append (bs.map (·.clause)), .ok (.bound bs))
  | notBound {reader : NegationReader} {request : Entries Json} {e : KeyError}
      (h : FirstRefusal reader j (references request) e) :
      Advances j (.bind reader request) (j, .error e)
  | setAlias (a : Text) : Advances j (.setAlias a) (j.setAlias a, .ok .done)
  | setCount (n : UInt32) : Advances j (.setCount n) (j.setCount n, .ok .done)

theorem advances (j : Join) (step : Step) : Advances j step (j.advance step) := by
  cases step with
  | push key =>
    cases h : Clause.read j.kind j.source.table key with
    | ok c =>
      rw [advance_push_of_ok h]
      exact .pushed h
    | error e =>
      rw [advance_push_of_error h]
      exact .notPushed h
  | bind reader request =>
    cases h : bindings reader j request with
    | ok bs =>
      rw [advance_bind_of_ok h]
      exact .bound (bindings_eq_ok_iff.1 h)
    | error e =>
      rw [advance_bind_of_error h]
      exact .notBound (bindings_eq_error_iff.1 h)
  | setAlias a => exact .setAlias a
  | setCount n => exact .setCount n

theorem append_nil (j : Join) : j.append [] = j := by
  rw [append, List.append_nil]

/-- Each part of the join after a step. -/
theorem advance_fst (j : Join) (step : Step) :
    (j.advance step).1 =
      { j with
        source := ⟨j.source.table, step.newAlias?.or j.source.aliased⟩
        count := step.newCount?.getD j.count
        clauses := j.clauses ++ returned (j.advance step).2 } := by
  have h := advances j step
  generalize j.advance step = after at h ⊢
  cases h with
  | pushed h => rfl
  | notPushed h => exact (append_nil j).symm
  | bound h => rfl
  | notBound h => exact (append_nil j).symm
  | setAlias a => exact (append_nil (j.setAlias a)).symm
  | setCount n => exact (append_nil (j.setCount n)).symm

theorem advance_fst_of_error {j : Join} {step : Step} {e : KeyError}
    (he : (j.advance step).2 = .error e) : (j.advance step).1 = j := by
  have h := advances j step
  generalize j.advance step = after at h he ⊢
  cases h with
  | pushed h => cases he
  | notPushed h => rfl
  | bound h => cases he
  | notBound h => rfl
  | setAlias a => cases he
  | setCount n => cases he

theorem valid_of_advance {j : Join} {step : Step} :
    ∀ c ∈ returned (j.advance step).2, c.Valid := by
  have h := advances j step
  generalize j.advance step = after at h ⊢
  intro c hc
  cases h with
  | pushed h =>
    obtain rfl := List.mem_singleton.1 hc
    exact Clause.valid_of_readWith h
  | notPushed h => cases hc
  | bound h =>
    -- whatever took the negation off, the field is a name
    obtain ⟨b, hb, rfl⟩ := List.mem_map.1 hc
    obtain ⟨e, -, hbinds⟩ := exists_mem_of_forall₂ h hb
    exact Clause.valid_of_readWith hbinds.clause_eq
  | notBound h => cases hc
  | setAlias a => cases hc
  | setCount n => cases hc

/-! ## all steps -/

theorem run_cons (j : Join) (step : Step) (steps : List Step) :
    j.run (step :: steps) =
      (((j.advance step).1.run steps).1, (j.advance step).2 :: ((j.advance step).1.run steps).2) :=
  rfl

theorem getLast?_filterMap_cons {α β : Type} (f : α → Option β) (a : α) (l : List α) :
    ((a :: l).filterMap f).getLast? = (l.filterMap f).getLast?.or (f a) := by
  rw [List.filterMap_cons]
  cases f a with
  | none => rw [Option.or_none]
  | some b => rw [List.getLast?_cons, Option.or_some]

/-- The alias and the count are those that were set last. -/
theorem run_fst (j : Join) (steps : List Step) :
    (j.run steps).1 =
      { j with
        source := ⟨j.source.table, (steps.filterMap Step.newAlias?).getLast?.or j.source.aliased⟩
        count := (steps.filterMap Step.newCount?).getLast?.getD j.count
        clauses := j.clauses ++ (j.run steps).2.flatMap returned } := by
  induction steps generalizing j with
  | nil => exact (append_nil j).symm
  | cons step steps ih =>
    rw [run_cons, ih]
    -- what the other steps gave is the same on both sides
    generalize ((j.advance step).1.run steps).2 = results
    rw [advance_fst j step]
    simp only [getLast?_filterMap_cons, Option.or_assoc, Option.getD_or, List.flatMap_cons,
      List.append_assoc]

theorem valid_of_run (j : Join) (steps : List Step) :
    ∀ c ∈ (j.run steps).2.flatMap returned, c.Valid := by
  induction steps generalizing j with
  | nil => nofun
  | cons step steps ih =>
    rw [run_cons, List.flatMap_cons, List.forall_mem_append]
    exact ⟨valid_of_advance, ih _⟩

/-- Every step is taken by the join that the steps before it have led to. -/
theorem getElem?_run (j : Join) (steps : List Step) (i : Nat) :
    (j.run steps).2[i]? =
      steps[i]?.map fun step => ((j.run (steps.take i)).1.advance step).2 := by
  induction steps generalizing j i with
  | nil => rfl
  | cons step steps ih =>
    cases i with
    | zero => rfl
    | succ i => exact ih (j.advance step).1 i

theorem run_take_succ {j : Join} {steps : List Step} {i : Nat} {step : Step}
    (h : steps[i]? = some step) :
    (j.run (steps.take (i + 1))).1 = ((j.run (steps.take i)).1.advance step).1 := by
  induction steps generalizing j i with
  | nil => cases h
  | cons step' steps ih =>
    cases i with
    | zero =>
      cases h
      rfl
    | succ i => exact ih h

/-! ## joins that were made -/

theorem clauses_of_made {j : Join} (h : Made j) : j.clauses = [] := by
  cases h with
  | ofEntry h => exact (ofEntry_eq_ok_iff.1 h).clauses_eq
  | create h => rw [(create_eq_ok_iff.1 h).2]

theorem oneToMany_iff {j : Join} : j.oneToMany = true ↔ j.count ≠ 1 ∨ listMark <:+: j.path := by
  rw [oneToMany, Bool.or_eq_true, bne_iff_ne, hasListMark_iff]

theorem oneToOne_iff {j : Join} : j.oneToOne = true ↔ j.count = 1 ∧ ¬ listMark <:+: j.path := by
  rw [oneToOne, Bool.not_eq_true', ← Bool.not_eq_true, oneToMany_iff, not_or, not_not]

/-- The join `start` has become `j` by `steps`, which gave `results`. Path, kind and table never
change. -/
structure ReachedBy (start : Join) (steps : List Step) (j : Join)
    (results : List (Except KeyError Outcome)) : Prop where
  path_eq : j.path = start.path
  kind_eq : j.kind = start.kind
  table_eq : j.source.table = start.source.table
  /-- The alias is the last one that was set. -/
  aliased_eq : j.source.aliased =
    (steps.filterMap Step.newAlias?).getLast?.or start.source.aliased
  /-- The count is the last one that was set. -/
  count_eq : j.count = (steps.filterMap Step.newCount?).getLast?.getD start.count
  /-- Every step is taken by the join that the steps before it have led to. -/
  result_eq (i : Nat) : results[i]? =
    steps[i]?.map fun step => ((start.run (steps.take i)).1.advance step).2
  /-- The clauses are those that the steps returned, in their order. -/
  clauses_eq : j.clauses = results.flatMap returned
  /-- A step that fails leaves all of the join as it was. -/
  failed (i : Nat) (e : KeyError) : results[i]? = some (.error e) →
    (start.run (steps.take (i + 1))).1 = (start.run (steps.take i)).1
  valid : ∀ c ∈ j.clauses, c.Valid
  oneToMany_iff : j.oneToMany = true ↔ j.count ≠ 1 ∨ listMark <:+: start.path

theorem reachedBy_run {start : Join} (h : Made start) (steps : List Step) :
    ReachedBy start steps (start.run steps).1 (start.run steps).2 := by
  have hrun := run_fst start steps
  have hclauses : (start.run steps).1.clauses = (start.run steps).2.flatMap returned := by
    rw [hrun, clauses_of_made h, List.nil_append]
  have hpath : (start.run steps).1.path = start.path := by rw [hrun]
  constructor
  case path_eq => exact hpath
  case kind_eq => rw [hrun]
  case table_eq => rw [hrun]
  case aliased_eq => rw [hrun]
  case count_eq => rw [hrun]
  case result_eq => exact getElem?_run start steps
  case clauses_eq => exact hclauses
  case failed =>
    intro i e he
    rw [getElem?_run, Option.map_eq_some_iff] at he
    obtain ⟨step, hstep, he⟩ := he
    rw [run_take_succ hstep, advance_fst_of_error he]
  case valid =>
    rw [hclauses]
    exact valid_of_run start steps
  case oneToMany_iff => rw [oneToMany_iff, hpath]

/-- A key without its terminator and a request with a value that is no reference change nothing
between the steps that succeed. -/
theorem reachedBy_run_order :
    let start : Join := ⟨"/Order[]", .app, ⟨"Order", none⟩, 1, []⟩
    let steps : List Step := [.push "id", .push "userId@", .setCount 3,
      .bind .bang [("!a<>@", .str "/A/b"), ("c", .null)], .setAlias "o",
      .bind .bang [("d@", .str "/D/e"), ("f@", .str "f")], .setCount 1]
    Made start ∧
      (start.run steps).1 = ⟨"/Order[]", .app, ⟨"Order", some "o"⟩, 1,
        [⟨false, .exact, "userId"⟩, ⟨true, .manyToOne, "a"⟩]⟩ ∧
      ReachedBy start steps (start.run steps).1 (start.run steps).2 := by
  intro start steps
  have hmade : Made start := @Made.ofEntry "@/Order[]" start rfl
  exact ⟨hmade, rfl, reachedBy_run hmade steps⟩

end Join

end KeyNotation

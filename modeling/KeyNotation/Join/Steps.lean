import KeyNotation.Join

/-!
# Steps of a join

What is done to a join after it is made, one step after the other.

* `Join.advance j step` — the join after the step, and what the step gave. A step that fails gives
  its error and leaves the join as it was;
* `Join.run j steps` — the join after all steps, and what each gave.
-/

namespace KeyNotation

namespace Join

inductive Step where
  | push (key : Text)
  | bind (reader : NegationReader) (request : Entries Json)
  | setAlias (a : Text)
  | setCount (n : UInt32)

inductive Outcome where
  | pushed (clause : Clause)
  | bound (bindings : List Binding)
  | done

def Outcome.clauses : Outcome → List Clause
  | pushed clause => [clause]
  | bound bindings => bindings.map (·.clause)
  | done => []

def apply (j : Join) : Step → Except KeyError (Outcome × Join)
  | .push key =>
    match j.push key with
    | .ok (clause, j) => .ok (.pushed clause, j)
    | .error e => .error e
  | .bind reader request =>
    match j.bind reader request with
    | .ok (bindings, j) => .ok (.bound bindings, j)
    | .error e => .error e
  | .setAlias a => .ok (.done, j.setAlias a)
  | .setCount n => .ok (.done, j.setCount n)

def advance (j : Join) (step : Step) : Join × Except KeyError Outcome :=
  match j.apply step with
  | .ok (outcome, j) => (j, .ok outcome)
  | .error e => (j, .error e)

def run (j : Join) : List Step → Join × List (Except KeyError Outcome)
  | [] => (j, [])
  | step :: steps =>
    let (j, outcome) := j.advance step
    let (j, outcomes) := j.run steps
    (j, outcome :: outcomes)

end Join

end KeyNotation

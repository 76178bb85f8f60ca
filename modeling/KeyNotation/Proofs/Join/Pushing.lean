import KeyNotation.Proofs.Join.Run

/-!
# Binding and pushing

A request can be bound as a whole, or its keys that refer to other tables can be pushed one after
the other. Where every value is a reference, the two differ only in what a failure leaves behind:
the pushes keep the clauses of those that came before it, binding keeps none.

* `Join.pushAll j keys` — the join after the pushes of `keys`, and what each gave;
* `Join.pushAll_snd` — what a push gives does not depend on the pushes before it;
* `Join.pushAll_fst` — the clauses that are returned are those that are added;
* `Join.bind_eq_pushAll` — a request that is bound, and one whose keys are pushed.
-/

namespace KeyNotation

namespace Join

/-! ## pushing keys -/

def pushAll (j : Join) (keys : List Text) : Join × List (Except KeyError Outcome) :=
  j.run (keys.map .push)

/-- What pushes give that return the clauses `cs`. -/
def pushed (cs : List Clause) : List (Except KeyError Outcome) := cs.map fun c => .ok (.pushed c)

/-- The key is read as the clause `c` by the kind and the table of `j`. -/
def Reads (j : Join) (key : Text) (c : Clause) : Prop :=
  Clause.read j.kind j.source.table key = .ok c

variable {j : Join} {keys : List Text} {cs : List Clause}

/-- No push changes the kind and the table that the next one reads its key by. -/
theorem pushAll_snd (j : Join) (keys : List Text) :
    (j.pushAll keys).2 =
      keys.map fun key => (Clause.read j.kind j.source.table key).map .pushed := by
  induction keys generalizing j with
  | nil => rfl
  | cons key keys ih =>
    rw [pushAll, List.map_cons, run_cons, List.map_cons]
    cases h : Clause.read j.kind j.source.table key with
    | ok c =>
      rw [advance_push_of_ok h]
      exact congrArg _ (ih (j.append [c]))
    | error e =>
      rw [advance_push_of_error h]
      exact congrArg _ (ih j)

theorem pushAll_fst (j : Join) (keys : List Text) :
    (j.pushAll keys).1 = j.append ((j.pushAll keys).2.flatMap returned) := by
  have halias : (keys.map Step.push).filterMap Step.newAlias? = [] := by
    rw [List.filterMap_map]
    exact List.filterMap_eq_nil_iff.2 fun _ _ => rfl
  have hcount : (keys.map Step.push).filterMap Step.newCount? = [] := by
    rw [List.filterMap_map]
    exact List.filterMap_eq_nil_iff.2 fun _ _ => rfl
  rw [pushAll, run_fst, halias, hcount]
  rfl

theorem flatMap_returned_pushed (cs : List Clause) : (pushed cs).flatMap returned = cs := by
  rw [pushed, List.flatMap_map]
  exact List.flatMap_singleton' cs

theorem map_pushed_eq_ok_iff {key : Text} {c : Clause} :
    (Clause.read j.kind j.source.table key).map Outcome.pushed = .ok (.pushed c) ↔
      Reads j key c := by
  unfold Reads
  cases Clause.read j.kind j.source.table key <;> simp [Except.map]

theorem map_pushed_eq_error_iff {key : Text} {err : KeyError} :
    (Clause.read j.kind j.source.table key).map Outcome.pushed = .error err ↔
      Clause.read j.kind j.source.table key = .error err := by
  cases Clause.read j.kind j.source.table key <;> simp [Except.map]

theorem pushAll_snd_eq_pushed_iff :
    (j.pushAll keys).2 = pushed cs ↔ List.Forall₂ (Reads j) keys cs := by
  rw [pushAll_snd, pushed, ← List.forall₂_eq_eq_eq, List.forall₂_map_left_iff,
    List.forall₂_map_right_iff]
  simp only [map_pushed_eq_ok_iff]

theorem pushAll_of_reads (h : List.Forall₂ (Reads j) keys cs) :
    j.pushAll keys = (j.append cs, pushed cs) := by
  have hsnd : (j.pushAll keys).2 = pushed cs := pushAll_snd_eq_pushed_iff.2 h
  have hfst : (j.pushAll keys).1 = j.append cs := by
    rw [pushAll_fst, hsnd, flatMap_returned_pushed]
  exact Prod.ext hfst hsnd

/-! ## the first failure -/

/-- The result in place `i` is the error `err`, and no result before it is one. -/
def FirstFailure (results : List (Except KeyError Outcome)) (i : Nat) (err : KeyError) : Prop :=
  results[i]? = some (.error err) ∧ ∀ i' < i, ∀ err', results[i']? ≠ some (.error err')

theorem forall_ok_or_firstFailure (results : List (Except KeyError Outcome)) :
    (∀ r ∈ results, ∃ outcome, r = .ok outcome) ∨ ∃ i err, FirstFailure results i err := by
  induction results with
  | nil => exact .inl nofun
  | cons r results ih =>
    cases r with
    | error err => exact .inr ⟨0, err, rfl, nofun⟩
    | ok outcome =>
      rcases ih with hok | ⟨i, err, herr, hbefore⟩
      · exact .inl (List.forall_mem_cons.2 ⟨⟨outcome, rfl⟩, hok⟩)
      · refine .inr ⟨i + 1, err, herr, fun i' hi' => ?_⟩
        cases i' with
        | zero => exact nofun
        | succ i' => exact hbefore i' (Nat.lt_of_succ_lt_succ hi')

theorem exists_pushed_or_firstFailure (j : Join) (keys : List Text) :
    (∃ cs, (j.pushAll keys).2 = pushed cs) ∨ ∃ i err, FirstFailure (j.pushAll keys).2 i err := by
  refine (forall_ok_or_firstFailure (j.pushAll keys).2).imp_left fun hok => ?_
  simp only [pushAll_snd_eq_pushed_iff]
  refine exists_forall₂_iff.2 fun key hkey => ?_
  have hmem : (Clause.read j.kind j.source.table key).map Outcome.pushed ∈ (j.pushAll keys).2 := by
    rw [pushAll_snd]
    exact List.mem_map_of_mem hkey
  obtain ⟨outcome, houtcome⟩ := hok _ hmem
  cases hread : Clause.read j.kind j.source.table key with
  | ok c => exact ⟨c, hread⟩
  | error err =>
    rw [hread] at houtcome
    cases houtcome

/-- Where the first failure is, a key is not read, and all keys before it are. -/
theorem reads_of_firstFailure {i : Nat} {err : KeyError}
    (h : FirstFailure (j.pushAll keys).2 i err) :
    (∃ key, keys[i]? = some key ∧ Clause.read j.kind j.source.table key = .error err) ∧
      ∃ cs, List.Forall₂ (Reads j) (keys.take i) cs := by
  obtain ⟨herr, hbefore⟩ := h
  rw [pushAll_snd] at herr hbefore
  constructor
  · rw [List.getElem?_map, Option.map_eq_some_iff] at herr
    obtain ⟨key, hkey, herr⟩ := herr
    exact ⟨key, hkey, map_pushed_eq_error_iff.1 herr⟩
  · refine exists_forall₂_iff.2 fun key hkey => ?_
    obtain ⟨i', hi', rfl⟩ := List.mem_take_iff_getElem.1 hkey
    cases hread : Clause.read j.kind j.source.table keys[i'] with
    | ok c => exact ⟨c, hread⟩
    | error err' =>
      refine absurd ?_ (hbefore i' (by omega) err')
      rw [List.getElem?_map, List.getElem?_eq_getElem (by omega), Option.map_some,
        map_pushed_eq_error_iff.2 hread]

/-! ## binding -/

/-- The value of the entry is a reference. -/
def HoldsReference (e : Text × Json) : Prop :=
  ∃ path target, e.2 = .str path ∧ Reference.ofPath? path = some target

theorem exists_binds_of_reads {e : Text × Json} {c : Clause} (he : HoldsReference e)
    (h : Reads j e.1 c) : ∃ b, Binds .bang j e b ∧ b.clause = c := by
  obtain ⟨path, target, hvalue, htarget⟩ := he
  exact ⟨⟨e.1, path, c, target⟩, ⟨rfl, hvalue, htarget, h⟩, rfl⟩

theorem exists_bindings_of_reads {es : Entries Json} (hes : ∀ e ∈ es, HoldsReference e)
    (h : List.Forall₂ (Reads j) (es.map (·.1)) cs) :
    ∃ bs, List.Forall₂ (Binds .bang j) es bs ∧ bs.map (·.clause) = cs := by
  rw [List.forall₂_map_left_iff] at h
  induction h with
  | nil => exact ⟨[], .nil, rfl⟩
  | cons hc _ ih =>
    obtain ⟨he, hes⟩ := List.forall_mem_cons.1 hes
    obtain ⟨b, hb, rfl⟩ := exists_binds_of_reads he hc
    obtain ⟨bs, hbs, rfl⟩ := ih hes
    exact ⟨b :: bs, .cons hb hbs, rfl⟩

/-- A clause is written as the key that it was read from. -/
theorem render_of_binds {e : Text × Json} {b : Binding} (h : Binds .bang j e b) :
    b.clause.render = b.key := by
  have hread : Clause.read j.kind j.source.table b.key = .ok b.clause := by
    rw [h.key_eq]
    exact h.clause_eq
  exact (Clause.wellFormed_of_read hread).2.symm

theorem firstRefusal_of_reads {es : Entries Json} (hes : ∀ e ∈ es, HoldsReference e) {i : Nat}
    {key : Text} {err : KeyError} (hkey : (es.map (·.1))[i]? = some key)
    (herr : Clause.read j.kind j.source.table key = .error err)
    (hbefore : List.Forall₂ (Reads j) ((es.map (·.1)).take i) cs) :
    FirstRefusal .bang j es err := by
  rw [List.getElem?_map, Option.map_eq_some_iff] at hkey
  obtain ⟨e, he, rfl⟩ := hkey
  obtain ⟨hi, rfl⟩ := List.getElem?_eq_some_iff.1 he
  obtain ⟨path, target, hvalue, htarget⟩ := hes _ (List.getElem_mem hi)
  have hrefuses : Refuses .bang j es[i] err := by
    rw [show es[i] = (es[i].1, es[i].2) from rfl, hvalue]
    exact .notClause htarget herr
  refine ⟨es.take i, es[i], es.drop (i + 1), ?_, ?_, not_good_of_refuses hrefuses, hrefuses,
    site?_of_refuses hrefuses⟩
  · rw [← List.drop_eq_getElem_cons hi, List.take_append_drop]
  · intro e' he'
    rw [← List.map_take] at hbefore
    obtain ⟨bs, hbs, -⟩ := exists_bindings_of_reads
      (fun e he => hes e (List.mem_of_mem_take he)) hbefore
    exact exists_forall₂_iff.1 ⟨bs, hbs⟩ e' he'

theorem pushAll_take_succ {i : Nat} {key : Text} {err : KeyError} (hkey : keys[i]? = some key)
    (herr : Clause.read j.kind j.source.table key = .error err)
    (hbefore : List.Forall₂ (Reads j) (keys.take i) cs) :
    (j.pushAll (keys.take (i + 1))).1 = j.append cs := by
  have hstep : (keys.map Step.push)[i]? = some (.push key) := by
    rw [List.getElem?_map, hkey, Option.map_some]
  have htake : (j.run ((keys.map Step.push).take i)).1 = j.append cs := by
    rw [← List.map_take, ← pushAll, pushAll_of_reads hbefore]
  have herr' : Clause.read (j.append cs).kind (j.append cs).source.table key = .error err := herr
  rw [pushAll, List.map_take, run_take_succ hstep, htake, advance_push_of_error herr']

/-- Where all values are references, binding a request and pushing its keys come to the same, as
long as all keys are read. With a key that is not, both give the error of the first such key, but
binding leaves the join as it was and the pushes have added the clauses of the keys before it. -/
theorem bind_eq_pushAll {request : Entries Json}
    (h : ∀ e ∈ references request, HoldsReference e) :
    let keys := (references request).map (·.1)
    ((∃ cs, (j.pushAll keys).2 = pushed cs) ∨ ∃ i err, FirstFailure (j.pushAll keys).2 i err) ∧
    (∀ cs, (j.pushAll keys).2 = pushed cs →
      ∃ bs, j.advance (.bind .bang request) = ((j.pushAll keys).1, .ok (.bound bs)) ∧
        bs.map (·.clause) = cs ∧ ∀ b ∈ bs, b.clause.render = b.key) ∧
    ∀ i err, FirstFailure (j.pushAll keys).2 i err →
      j.advance (.bind .bang request) = (j, .error err) ∧
      ∃ cs, List.Forall₂ (Reads j) (keys.take i) cs ∧
        j.pushAll (keys.take i) = ({ j with clauses := j.clauses ++ cs }, pushed cs) ∧
        (j.pushAll (keys.take (i + 1))).1 = { j with clauses := j.clauses ++ cs } := by
  intro keys
  refine ⟨exists_pushed_or_firstFailure j keys, ?_, ?_⟩
  · intro cs hcs
    have hreads : List.Forall₂ (Reads j) keys cs := pushAll_snd_eq_pushed_iff.1 hcs
    obtain ⟨bs, hbs, rfl⟩ := exists_bindings_of_reads h hreads
    refine ⟨bs, ?_, rfl, ?_⟩
    · rw [pushAll_of_reads hreads]
      exact advance_bind_eq_ok_iff.2 ⟨hbs, rfl⟩
    · intro b hb
      obtain ⟨e, -, hbinds⟩ := exists_mem_of_forall₂ hbs hb
      exact render_of_binds hbinds
  · intro i err hfail
    obtain ⟨⟨key, hkey, herr⟩, cs, hbefore⟩ := reads_of_firstFailure hfail
    have hrefusal := firstRefusal_of_reads h hkey herr hbefore
    exact ⟨advance_bind_eq_error_iff.2 ⟨hrefusal, rfl⟩, cs, hbefore, pushAll_of_reads hbefore,
      pushAll_take_succ hkey herr hbefore⟩

/-- The second of three references has a key that is not read. -/
theorem bind_eq_pushAll_repeatedWildcard :
    let j : Join := ⟨"/User", .app, ⟨"User", none⟩, 1, []⟩
    let request : Entries Json := [("!id<>@", .str "/A/b"), ("name~", .null),
      ("k%%$@", .str "/C:d/e"), ("f@", .str "/F/g")]
    let keys := (references request).map (·.1)
    let err : KeyError := .malformed ⟨"@", "User", "k%%$@"⟩ (.repeatedWildcard .percent)
    (∀ e ∈ references request, HoldsReference e) ∧ FirstFailure (j.pushAll keys).2 1 err ∧
      j.advance (.bind .bang request) = (j, .error err) ∧
      (j.pushAll (keys.take 2)).1 = { j with clauses := [⟨true, .manyToOne, "id"⟩] } := by
  intro j request keys err
  have h : ∀ e ∈ references request, HoldsReference e := by
    change ∀ e ∈ ([_, _, _] : Entries Json), HoldsReference e
    simp only [List.forall_mem_cons]
    exact ⟨⟨_, _, rfl, rfl⟩, ⟨_, _, rfl, rfl⟩, ⟨_, _, rfl, rfl⟩, nofun⟩
  have hfail : FirstFailure (j.pushAll keys).2 1 err := by
    refine ⟨rfl, fun i' hi' => ?_⟩
    obtain rfl : i' = 0 := by omega
    exact nofun
  exact ⟨h, hfail, ((bind_eq_pushAll h).2.2 1 err hfail).1, rfl⟩

end Join

end KeyNotation

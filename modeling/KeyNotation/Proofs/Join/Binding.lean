import KeyNotation.Join.Steps
import KeyNotation.Proofs.Clause.Reading
import KeyNotation.Proofs.Traversal

/-!
# Requests that are bound

Binding a request is all or nothing. Every entry whose key ends in `@` gives a binding, in the order
of the request, or the first that does not is reported and the join stays as it was.

* `Join.references request` — the entries that are bound, and `Join.isReferenceKey_iff` how their keys
  are told;
* `Join.Binds reader j e b` — the entry `e` gives the binding `b`;
* `Join.Refuses reader j e err` — the entry `e` gives none, and `err` says why;
* `Join.FirstRefusal reader j es err` — `err` is about the first of the entries `es` that gives none;
* `Join.advance_bind` — what the join is after a request was bound to it, and what is returned.
-/

namespace KeyNotation

namespace Join

/-- The entries of a request that refer to other tables have a key that ends in `@`. -/
def references (request : Entries Json) : Entries Json := request.filter fun e => ['@'] <:+ e.1

/-- The binding `b` is what the entry `e` says, its value read as a reference and its key as a
clause. -/
structure Binds (reader : NegationReader) (j : Join) (e : Text × Json) (b : Binding) : Prop where
  key_eq : b.key = e.1
  value_eq : e.2 = .str b.value
  target_eq : Reference.ofPath? b.value = some b.target
  clause_eq : Clause.readWith reader j.kind j.source.table e.1 = .ok b.clause

def Good (reader : NegationReader) (j : Join) (e : Text × Json) : Prop := ∃ b, Binds reader j e b

/-- The error is that of the first thing wrong with the entry: its value is no text, its value is no
reference, or its key is no clause. -/
inductive Refuses (reader : NegationReader) (j : Join) : Text × Json → KeyError → Prop
  | notText {key : Text} {value : Json} (h : ∀ path, value ≠ .str path) :
      Refuses reader j (key, value)
        (.malformed ⟨j.kind.symbol, j.source.table, key⟩ .valueNotText)
  | notReference {key path : Text} (h : Reference.ofPath? path = none) :
      Refuses reader j (key, .str path)
        (.malformed ⟨j.kind.symbol, j.source.table, key⟩ .valueNotReference)
  | notClause {key path : Text} {target : Reference} {err : KeyError}
      (htarget : Reference.ofPath? path = some target)
      (h : Clause.readWith reader j.kind j.source.table key = .error err) :
      Refuses reader j (key, .str path) err

/-- All entries before the one that `err` is about are good. -/
def FirstRefusal (reader : NegationReader) (j : Join) (es : Entries Json) (err : KeyError) : Prop :=
  ∃ before e after, es = before ++ e :: after ∧ (∀ e' ∈ before, Good reader j e') ∧
    ¬ Good reader j e ∧ Refuses reader j e err ∧
    err.site? = some ⟨j.kind.symbol, j.source.table, e.1⟩

variable {reader : NegationReader} {j : Join}

/-! ## one entry -/

theorem bindEntry_eq_ok_iff {key : Text} {value : Json} {b : Binding} :
    bindEntry reader j key value = .ok b ↔ Binds reader j (key, value) b := by
  constructor
  · intro h
    unfold bindEntry at h
    split at h
    · rename_i path
      split at h
      · cases h
      · rename_i target htarget
        split at h
        · rename_i clause hclause
          cases h
          exact ⟨rfl, rfl, htarget, hclause⟩
        · cases h
    · cases h
  · intro h
    obtain ⟨key', path, clause, target⟩ := b
    obtain rfl : key' = key := h.key_eq
    obtain rfl : value = .str path := h.value_eq
    simp only [bindEntry, h.target_eq, h.clause_eq]

theorem bindEntry_eq_error_iff {key : Text} {value : Json} {err : KeyError} :
    bindEntry reader j key value = .error err ↔ Refuses reader j (key, value) err := by
  constructor
  · intro h
    unfold bindEntry at h
    split at h
    · rename_i path
      split at h
      · rename_i htarget
        cases h
        exact .notReference htarget
      · rename_i target htarget
        split at h
        · cases h
        · rename_i hclause
          cases h
          exact .notClause htarget hclause
    · rename_i hvalue
      cases h
      exact .notText hvalue
  · intro h
    cases h with
    | notText h =>
      unfold bindEntry
      split
      · rename_i path
        exact absurd rfl (h path)
      · rfl
    | notReference h => simp only [bindEntry, h]
    | notClause htarget h => simp only [bindEntry, htarget, h]

theorem site?_of_refuses {e : Text × Json} {err : KeyError} (h : Refuses reader j e err) :
    err.site? = some ⟨j.kind.symbol, j.source.table, e.1⟩ := by
  cases h with
  | notText h => rfl
  | notReference h => rfl
  | notClause htarget h => exact Clause.site?_of_readWith h

theorem not_good_of_refuses {e : Text × Json} {err : KeyError} (h : Refuses reader j e err) :
    ¬ Good reader j e := by
  rintro ⟨b, hb⟩
  have hok := bindEntry_eq_ok_iff.2 hb
  rw [bindEntry_eq_error_iff.2 h] at hok
  cases hok

/-! ## all entries -/

theorem isReferenceKey_iff {key : Text} : isReferenceKey key = true ↔ ['@'] <:+ key := by
  rw [isReferenceKey, beq_iff_eq, List.getLast?_eq_some_iff]
  simp only [List.IsSuffix, eq_comm]

theorem references_eq_filter (request : Entries Json) :
    references request = request.filter (isReferenceKey ·.1) := by
  refine List.filter_congr fun e _ => Bool.eq_iff_iff.2 ?_
  rw [decide_eq_true_eq, isReferenceKey_iff]

theorem bindings_eq_mapM (request : Entries Json) :
    bindings reader j request =
      (references request).mapM fun e => bindEntry reader j e.1 e.2 := by
  rw [references_eq_filter]
  rfl

theorem bindings_eq_ok_iff {request : Entries Json} {bs : List Binding} :
    bindings reader j request = .ok bs ↔
      List.Forall₂ (Binds reader j) (references request) bs := by
  have hbinds : Binds reader j = fun e b => bindEntry reader j e.1 e.2 = .ok b := by
    funext e b
    exact propext bindEntry_eq_ok_iff.symm
  rw [bindings_eq_mapM, hbinds]
  exact mapM_eq_ok_iff

theorem bindings_eq_error_iff {request : Entries Json} {err : KeyError} :
    bindings reader j request = .error err ↔ FirstRefusal reader j (references request) err := by
  rw [bindings_eq_mapM, mapM_eq_error_iff]
  simp only [bindEntry_eq_ok_iff, bindEntry_eq_error_iff]
  constructor
  · rintro ⟨before, e, after, hes, hgood, hrefuses⟩
    exact ⟨before, e, after, hes, hgood, not_good_of_refuses hrefuses, hrefuses,
      site?_of_refuses hrefuses⟩
  · rintro ⟨before, e, after, hes, hgood, -, hrefuses, -⟩
    exact ⟨before, e, after, hes, hgood, hrefuses⟩

theorem references_references (request : Entries Json) :
    references (references request) = references request :=
  List.filter_eq_self.2 fun _ he => (List.mem_filter.1 he).2

theorem bindings_references (request : Entries Json) :
    bindings reader j (references request) = bindings reader j request := by
  rw [bindings_eq_mapM, bindings_eq_mapM, references_references]

/-! ## the join -/

theorem advance_bind_of_ok {request : Entries Json} {bs : List Binding}
    (h : bindings reader j request = .ok bs) :
    j.advance (.bind reader request) = (j.append (bs.map (·.clause)), .ok (.bound bs)) := by
  simp only [advance, apply, bind, h]

theorem advance_bind_of_error {request : Entries Json} {err : KeyError}
    (h : bindings reader j request = .error err) :
    j.advance (.bind reader request) = (j, .error err) := by
  simp only [advance, apply, bind, h]

theorem advance_bind_eq_ok_iff {request : Entries Json} {bs : List Binding} {j' : Join} :
    j.advance (.bind reader request) = (j', .ok (.bound bs)) ↔
      List.Forall₂ (Binds reader j) (references request) bs ∧
        j' = { j with clauses := j.clauses ++ bs.map (·.clause) } := by
  rw [← bindings_eq_ok_iff]
  constructor
  · intro h
    cases hb : bindings reader j request with
    | error err =>
      rw [advance_bind_of_error hb] at h
      cases h
    | ok bs' =>
      rw [advance_bind_of_ok hb] at h
      cases h
      exact ⟨rfl, rfl⟩
  · rintro ⟨hb, rfl⟩
    exact advance_bind_of_ok hb

theorem advance_bind_eq_error_iff {request : Entries Json} {err : KeyError} {j' : Join} :
    j.advance (.bind reader request) = (j', .error err) ↔
      FirstRefusal reader j (references request) err ∧ j' = j := by
  rw [← bindings_eq_error_iff]
  constructor
  · intro h
    cases hb : bindings reader j request with
    | error err' =>
      rw [advance_bind_of_error hb] at h
      cases h
      exact ⟨rfl, rfl⟩
    | ok bs =>
      rw [advance_bind_of_ok hb] at h
      cases h
  · rintro ⟨hb, rfl⟩
    exact advance_bind_of_error hb

theorem exists_advance_bind_eq_ok_iff {request : Entries Json} :
    (∃ bs j', j.advance (.bind reader request) = (j', .ok (.bound bs))) ↔
      ∀ e ∈ references request, Good reader j e := by
  simp only [advance_bind_eq_ok_iff, Good]
  rw [← exists_forall₂_iff]
  constructor
  · rintro ⟨bs, j', h, -⟩
    exact ⟨bs, h⟩
  · rintro ⟨bs, h⟩
    exact ⟨bs, _, h, rfl⟩

/-- There is no third way out. -/
theorem exists_advance_bind_eq_error_iff {request : Entries Json} :
    (∃ err j', j.advance (.bind reader request) = (j', .error err)) ↔
      ¬ ∀ e ∈ references request, Good reader j e := by
  rw [← exists_advance_bind_eq_ok_iff]
  cases hb : bindings reader j request with
  | error err =>
    rw [advance_bind_of_error hb]
    simp
  | ok bs =>
    rw [advance_bind_of_ok hb]
    simp

theorem advance_bind_references (request : Entries Json) :
    j.advance (.bind reader (references request)) = j.advance (.bind reader request) := by
  simp only [advance, apply, bind, bindings_references]

/-- All or nothing: either every reference gives a binding and the join gets their clauses, or the
join stays and the first reference that gives none is reported. The other entries are not looked
at. -/
theorem advance_bind (reader : NegationReader) (j : Join) (request : Entries Json) :
    ((∃ bs j', j.advance (.bind reader request) = (j', .ok (.bound bs))) ↔
      ∀ e ∈ references request, Good reader j e) ∧
    (∀ bs j', j.advance (.bind reader request) = (j', .ok (.bound bs)) ↔
      List.Forall₂ (Binds reader j) (references request) bs ∧
        j' = { j with clauses := j.clauses ++ bs.map (·.clause) }) ∧
    ((∃ err j', j.advance (.bind reader request) = (j', .error err)) ↔
      ¬ ∀ e ∈ references request, Good reader j e) ∧
    (∀ err j', j.advance (.bind reader request) = (j', .error err) ↔
      FirstRefusal reader j (references request) err ∧ j' = j) ∧
    j.advance (.bind reader (references request)) = j.advance (.bind reader request) := by
  refine ⟨exists_advance_bind_eq_ok_iff, ?_, exists_advance_bind_eq_error_iff, ?_,
    advance_bind_references request⟩
  · intro bs j'
    exact advance_bind_eq_ok_iff
  · intro err j'
    exact advance_bind_eq_error_iff

end Join

end KeyNotation

import KeyNotation.Proofs.Clause.RoundTrip

/-!
# Clauses that are read

What a reference key gives when any function may take its negation off. Such a function has its say
about the field alone: the relation is read before it is asked, and its field is checked after.

* `Clause.Valid c` — the field of `c` is a name and its relation one that a key can write;
* `Clause.valid_of_readWith` — every clause that is read is valid;
* `Clause.site?_of_readWith` — every error says which join, table and key it is about.
-/

namespace KeyNotation

/-- Where the key stands that an error is about. -/
def KeyError.site? : KeyError → Option Site
  | malformed site _ => some site
  | badName site _ => some site
  | unknownJoin _ _ _ => none
  | settings _ => none
  | file _ => none

namespace Clause

/-- The relation may not be a pattern with a leading mark alone, a question mark alone, or one mark
twice. -/
def Valid (c : Clause) : Prop := isName c.key = true ∧ c.relation.Canonical

variable {reader : NegationReader} {kind : JoinKind} {table raw : Text}

theorem canonical_of_cut {stem : Text} {r : Relation} (h : cut raw = .ok (stem, r)) :
    r.Canonical := by
  obtain ⟨body, -, hsplit, -, -⟩ := cut_eq_ok_iff.1 h
  exact (Relation.canonical_of_split hsplit).1

theorem valid_of_readWith {c : Clause} (h : readWith reader kind table raw = .ok c) : c.Valid := by
  obtain ⟨stem, hcut, -, hname⟩ := readWith_eq_ok_iff.1 h
  exact ⟨hname, canonical_of_cut hcut⟩

theorem site?_of_readWith {e : KeyError} (h : readWith reader kind table raw = .error e) :
    e.site? = some ⟨kind.symbol, table, raw⟩ := by
  cases hcut : cut raw with
  | error fault =>
    rw [readWith_of_cut_error hcut] at h
    cases h
    rfl
  | ok p =>
    rw [readWith_of_cut hcut] at h
    split at h
    · cases h
    · cases h
      rfl

end Clause

end KeyNotation

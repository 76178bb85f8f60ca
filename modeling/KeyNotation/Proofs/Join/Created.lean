import KeyNotation.Proofs.Join.Entry

/-!
# Joins created and joins asked for

A join is created from its parts, or read from an entry. Both learn its kind from a mark: for
`create` the mark is a text of its own, for `ofEntry` it is the first character of the entry. They
take the same marks, and the joins that they give to one mark and path differ in their source alone.

* `Join.create_eq_ok_iff`, `Join.create_eq_error_iff` — the joins that are created;
* `Join.Unmarked made mark` — no join was made, because `mark` marks no kind;
* `Join.create_of_asks`, `Join.ofEntry_symbol_append` — a join that was asked for can be created
  from its parts, and asked for again by them;
* `Join.create_agrees` — what `create` and `ofEntry` say of the same parts.
-/

namespace KeyNotation

namespace Join

variable {entry path mark table : Text} {c : Char} {j : Join} {e : KeyError}

/-! ## creating a join -/

theorem create_eq_ok_iff :
    create path mark table = .ok j ↔
      j.kind.MarkedBy mark ∧ j = ⟨path, j.kind, ⟨table, none⟩, 1, []⟩ := by
  rw [← JoinKind.read_ok_iff]
  cases hread : JoinKind.read mark with
  | ok kind =>
    simp only [create, hread, Except.ok.injEq]
    constructor
    · rintro rfl
      exact ⟨rfl, rfl⟩
    · rintro ⟨hkind, hj⟩
      rw [hj, hkind]
  | error e => simp only [create, hread, reduceCtorEq, false_and]

theorem create_eq_error_iff :
    create path mark table = .error e ↔
      (∀ kind : JoinKind, ¬ kind.MarkedBy mark) ∧ e = .unknownJoin mark table path := by
  cases hread : JoinKind.read mark with
  | ok kind =>
    simp only [create, hread, reduceCtorEq, false_iff]
    rintro ⟨hmark, -⟩
    exact hmark kind (JoinKind.read_ok_iff.1 hread)
  | error e' =>
    obtain ⟨hmark, rfl⟩ := JoinKind.read_error_iff.1 hread
    simp only [create, hread, KeyError.locate, Except.error.injEq]
    constructor
    · rintro rfl
      exact ⟨hmark, rfl⟩
    · rintro ⟨-, rfl⟩
      rfl

/-! ## marks that are not known -/

/-- No join was made, because the text `mark` marks none. -/
def Unmarked (made : Except KeyError Join) (mark : Text) : Prop :=
  ∃ table path, made = .error (.unknownJoin mark table path)

theorem unmarked_create_iff :
    Unmarked (create path [c] table) mark ↔ mark = [c] ∧ ∀ kind : JoinKind, c ≠ kind.mark := by
  simp only [Unmarked, create_eq_error_iff, JoinKind.markedBy_singleton_iff]
  constructor
  · rintro ⟨table', path', hmark, he⟩
    cases he
    exact ⟨rfl, hmark⟩
  · rintro ⟨rfl, hmark⟩
    exact ⟨table, path, hmark, rfl⟩

theorem unmarked_ofEntry_iff (hslash : c ≠ '/') :
    Unmarked (ofEntry (c :: path)) mark ↔ mark = [c] ∧ ∀ kind : JoinKind, c ≠ kind.mark := by
  simp only [Unmarked, ofEntry_eq_error_iff]
  constructor
  · rintro ⟨table', path', h⟩
    cases h with
    | unknownMark _ hmark => exact ⟨rfl, hmark⟩
  · rintro ⟨rfl, hmark⟩
    exact ⟨[], c :: path, .unknownMark hslash hmark⟩

/-! ## joins that were asked for -/

theorem parts_of_asks (hslash : c ≠ '/') (h : Asks (c :: path) j) :
    c = j.kind.mark ∧ path = j.path := by
  obtain ⟨-, -, -, n, mark, tail, -, -, hpath, hentry | ⟨-, hn, hentry⟩⟩ := h
  · exact List.cons.inj hentry
  · -- a path that is all of the entry opens with a slash
    obtain ⟨n, rfl⟩ := Nat.exists_eq_add_of_le' hn
    rw [hpath, List.replicate_succ] at hentry
    exact absurd (List.cons.inj hentry).1 hslash

theorem create_of_asks (h : Asks entry j) :
    create j.path j.kind.symbol j.source.table =
      .ok { j with source := ⟨j.source.table, none⟩ } := by
  refine create_eq_ok_iff.2 ⟨.inl rfl, ?_⟩
  rw [h.count_eq, h.clauses_eq]

theorem setAlias_of_aliased (j : Join) :
    let unaliased : Join := { j with source := ⟨j.source.table, none⟩ }
    j.source.aliased.elim unaliased unaliased.setAlias = j := by
  obtain ⟨path, kind, ⟨table, _ | a⟩, count, clauses⟩ := j
  · rfl
  · rfl

theorem ofEntry_symbol_append (h : Asks entry j) : ofEntry (j.kind.symbol ++ j.path) = .ok j := by
  obtain ⟨hcount, hclauses, hnamed, n, mark, tail, hmark, htail, hpath, -⟩ := h
  have hwritten : Asks (j.kind.symbol ++ j.path) j :=
    ⟨hcount, hclauses, hnamed, n, mark, tail, hmark, htail, hpath, .inl rfl⟩
  exact ofEntry_of_asks hwritten

/-- The joins made with one mark and path agree on all but their source, and a join that was asked
for can be created, or asked for again with its mark in front. -/
theorem create_agrees :
    (∀ mark kind, JoinKind.read mark = .ok kind ↔ kind.MarkedBy mark) ∧
    (∀ mark e, JoinKind.read mark = .error e ↔
      (∀ kind : JoinKind, ¬ kind.MarkedBy mark) ∧ e = .unknownJoin mark [] []) ∧
    (∀ (c : Char) (path table : Text), c ≠ '/' →
      ((∃ mark, Unmarked (ofEntry (c :: path)) mark) ↔
        ∃ mark, Unmarked (create path [c] table) mark) ∧
      (∀ mark, Unmarked (ofEntry (c :: path)) mark → mark = [c]) ∧
      (∀ mark, Unmarked (create path [c] table) mark → mark = [c]) ∧
      ∀ j j', ofEntry (c :: path) = .ok j → create path [c] table = .ok j' →
        j.kind = j'.kind ∧ j.path = j'.path ∧ j.count = j'.count ∧ j.clauses = j'.clauses) ∧
    ∀ entry j, ofEntry entry = .ok j →
      (create j.path j.kind.symbol j.source.table).map
          (fun made => j.source.aliased.elim made made.setAlias) = .ok j ∧
        ofEntry (j.kind.symbol ++ j.path) = .ok j := by
  refine ⟨fun mark kind => JoinKind.read_ok_iff, fun mark e => JoinKind.read_error_iff,
    ?_, ?_⟩
  · intro c path table hslash
    simp only [unmarked_ofEntry_iff hslash, unmarked_create_iff, true_and]
    refine ⟨fun mark h => h.1, fun mark h => h.1, fun j j' hj hj' => ?_⟩
    have hasks := ofEntry_eq_ok_iff.1 hj
    obtain ⟨hmark, rfl⟩ := parts_of_asks hslash hasks
    obtain ⟨hmark', hj'⟩ := create_eq_ok_iff.1 hj'
    have hkind : j.kind = j'.kind :=
      JoinKind.mark_injective (hmark.symm.trans (JoinKind.markedBy_singleton_iff.1 hmark'))
    rw [hj']
    exact ⟨hkind, rfl, hasks.count_eq, hasks.clauses_eq⟩
  · intro entry j hj
    have hasks := ofEntry_eq_ok_iff.1 hj
    refine ⟨?_, ofEntry_symbol_append hasks⟩
    rw [create_of_asks hasks, Except.map, setAlias_of_aliased]

/-- The parts of an entry with a mark, a table and an alias. -/
theorem create_agrees_aliased :
    let j : Join := ⟨"/User:owner/id@", .left, ⟨"User", some "owner"⟩, 1, []⟩
    ofEntry "</User:owner/id@" = .ok j ∧
      (∃ j', create "/User:owner/id@" ['<'] "Moment" = .ok j' ∧ j.kind = j'.kind ∧
        j.path = j'.path ∧ j.count = j'.count ∧ j.clauses = j'.clauses) ∧
      (create j.path j.kind.symbol j.source.table).map (fun made => made.setAlias "owner") =
        .ok j := by
  intro j
  have hentry : ofEntry "</User:owner/id@" = .ok j := rfl
  obtain ⟨-, -, hparts, hagain⟩ := create_agrees
  obtain ⟨-, -, -, hboth⟩ := hparts '<' "/User:owner/id@" "Moment" (by decide)
  exact ⟨hentry, ⟨_, rfl, hboth j _ hentry rfl⟩, (hagain _ j hentry).1⟩

end Join

end KeyNotation

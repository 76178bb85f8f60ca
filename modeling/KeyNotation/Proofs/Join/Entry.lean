import KeyNotation.Join
import KeyNotation.Proofs.KeyPolicy.Settled
import KeyNotation.Proofs.TableKey

/-!
# Entries that ask for joins

An entry is the mark of a join and a path. The first segment of the path is the table key, which may
carry a list mark; what follows the segment is kept in the path and not looked at.

* `JoinKind.MarkedBy kind mark` — the texts that mark a kind of join;
* `JoinKind.read_ok_iff`, `JoinKind.read_error_iff` — these are read, and no others;
* `Join.OpensWith path segment` — `segment` stands between the slashes in front of `path` and the
  next slash;
* `Join.Parted entry kind path` — `entry` is the mark of `kind` and `path`, or `path` alone;
* `Join.Asks entry j` — `entry` is written as the grammar says for the join `j`;
* `Join.Declines entry e` — why `entry` asks for no join;
* `Join.ofEntry_grammar` — these are the joins that are read, and the errors.
-/

namespace KeyNotation

/-! ## marks -/

namespace JoinKind

/-- A full join goes without a mark as well. -/
def MarkedBy (kind : JoinKind) (mark : Text) : Prop :=
  mark = kind.symbol ∨ mark = [] ∧ kind = .full

variable {mark : Text} {kind : JoinKind}

theorem markedBy_singleton_iff {c : Char} : kind.MarkedBy [c] ↔ c = kind.mark := by
  simp [MarkedBy, symbol]

theorem ofText?_eq_some_iff : ofText? mark = some kind ↔ kind.MarkedBy mark := by
  match mark with
  | [] => simp [ofText?, MarkedBy, symbol, eq_comm]
  | [c] => rw [markedBy_singleton_iff, ofText?, ofChar?_eq_some_iff]
  | c :: d :: t => simp [ofText?, MarkedBy, symbol]

theorem read_ok_iff : JoinKind.read mark = .ok kind ↔ kind.MarkedBy mark := by
  rw [← ofText?_eq_some_iff, JoinKind.read]
  cases ofText? mark <;> simp

theorem read_error_iff {e : KeyError} :
    JoinKind.read mark = .error e ↔
      (∀ kind : JoinKind, ¬ kind.MarkedBy mark) ∧ e = .unknownJoin mark [] [] := by
  have hnone : (∀ kind : JoinKind, ¬ kind.MarkedBy mark) ↔ ofText? mark = none := by
    simp only [Option.eq_none_iff_forall_ne_some, ne_eq, ofText?_eq_some_iff]
  rw [hnone, JoinKind.read]
  cases ofText? mark <;> simp [eq_comm]

theorem read_mark (k : JoinKind) : JoinKind.read [k.mark] = .ok k := read_ok_iff.2 (.inl rfl)

theorem read_of_ne_mark {c : Char} (h : ∀ k : JoinKind, c ≠ k.mark) :
    JoinKind.read [c] = .error (.unknownJoin [c] [] []) :=
  read_error_iff.2 ⟨fun k hk => h k (markedBy_singleton_iff.1 hk), rfl⟩

theorem mark_ne_slash (k : JoinKind) : k.mark ≠ '/' := by cases k <;> decide

end JoinKind

/-- A list mark is no part of a table key. -/
theorem withoutMark_render_append {k : TableKey} (h : k.Named) {mark : Text}
    (hmark : mark = [] ∨ mark = listMark) : withoutMark (k.render ++ mark) = k.render := by
  rcases hmark with rfl | rfl
  · rw [List.append_nil]
    refine withoutMark_of_not_suffix fun hs => ?_
    exact TableKey.not_mem_render h (x := ']') (by decide) (by decide)
      (hs.subset (by simp [listMark]))
  · exact withoutMark_append _

theorem slash_not_mem_listMark : '/' ∉ listMark := by decide

namespace Join

/-! ## paths -/

/-- The slashes in front are left out, and so is all from the next slash on. A segment is empty only
where nothing but slashes is left. -/
def OpensWith (path segment : Text) : Prop :=
  ∃ n tail, path = List.replicate n '/' ++ segment ++ tail ∧ '/' ∉ segment ∧
    (tail = [] ∨ ∃ t, tail = '/' :: t) ∧ (segment = [] → tail = [])

theorem firstSegment_eq_iff {path segment : Text} :
    firstSegment path = segment ↔ OpensWith path segment := by
  constructor
  · intro h
    have hfront : path.dropWhile (· == '/') = path.dropWhile (· == '/') := rfl
    obtain ⟨n, hpath, hhead⟩ := dropWhile_eq_iff.1 hfront
    obtain ⟨tail, hrest, hsegment, htail⟩ := takeWhile_eq_iff.1 h
    rw [hrest, ← List.append_assoc] at hpath
    rw [hrest] at hhead
    refine ⟨n, tail, hpath, hsegment, htail, ?_⟩
    rintro rfl
    rcases htail with rfl | ⟨t, rfl⟩
    · rfl
    · -- the slash would be one of those in front
      exact absurd rfl hhead
  · rintro ⟨n, tail, rfl, hsegment, htail, hempty⟩
    have hhead : (segment ++ tail).head? ≠ some '/' := by
      cases segment with
      | nil => simp [hempty rfl]
      | cons c segment =>
        intro hc
        exact hsegment (by simp [Option.some.inj hc])
    rw [firstSegment, dropWhile_eq_iff.2 ⟨n, List.append_assoc .., hhead⟩]
    exact takeWhile_eq_iff.2 ⟨tail, rfl, hsegment, htail⟩

/-! ## marks of joins in front -/

/-- An entry without a mark is a full join, and has a slash in front or no characters at all. -/
inductive Parted : Text → JoinKind → Text → Prop
  | marked (kind : JoinKind) (path : Text) : Parted (kind.mark :: path) kind path
  | path (t : Text) : Parted ('/' :: t) .full ('/' :: t)
  | empty : Parted [] .full []

theorem openEntry_of_ne_mark {c : Char} {t : Text} (hslash : c ≠ '/')
    (hmark : ∀ k : JoinKind, c ≠ k.mark) :
    openEntry (c :: t) = .error (.unknownJoin [c] [] (c :: t)) := by
  simp only [openEntry, if_neg hslash, JoinKind.read_of_ne_mark hmark, KeyError.locate]

theorem openEntry_of_parted {entry path : Text} {kind : JoinKind} (h : Parted entry kind path) :
    openEntry entry = .ok (kind, path) := by
  cases h with
  | marked => simp only [openEntry, if_neg kind.mark_ne_slash, JoinKind.read_mark]
  | path t => rfl
  | empty => rfl

/-- The first character of an entry is a mark, begins a path, or is not known. -/
theorem parted_or_unknown (entry : Text) :
    (∃ kind path, Parted entry kind path) ∨
      ∃ c t, entry = c :: t ∧ c ≠ '/' ∧ ∀ k : JoinKind, c ≠ k.mark := by
  cases entry with
  | nil => exact .inl ⟨_, _, .empty⟩
  | cons c t =>
    by_cases hslash : c = '/'
    · subst hslash
      exact .inl ⟨_, _, .path t⟩
    · by_cases hmark : ∃ k : JoinKind, c = k.mark
      · obtain ⟨kind, rfl⟩ := hmark
        exact .inl ⟨_, _, .marked kind t⟩
      · exact .inr ⟨c, t, rfl, hslash, by simpa using hmark⟩

/-! ## the grammar -/

/-- The entry is written as the join `j` is asked for, and `j` has nothing that an entry cannot
say. -/
structure Asks (entry : Text) (j : Join) : Prop where
  count_eq : j.count = 1
  clauses_eq : j.clauses = []
  named : j.source.Named
  written : ∃ n mark tail, (mark = [] ∨ mark = listMark) ∧ (tail = [] ∨ ∃ t, tail = '/' :: t) ∧
    j.path = List.replicate n '/' ++ j.source.render ++ mark ++ tail ∧
      (entry = j.kind.symbol ++ j.path ∨ j.kind = .full ∧ 1 ≤ n ∧ entry = j.path)

/-- What is wrong is that the first character marks no join, that the path has no table, or that the
table is no table key. -/
inductive Declines : Text → KeyError → Prop
  | unknownMark {c : Char} {t : Text} (hslash : c ≠ '/') (hmark : ∀ k : JoinKind, c ≠ k.mark) :
      Declines (c :: t) (.unknownJoin [c] [] (c :: t))
  | noTable {entry path segment : Text} {kind : JoinKind} (hparted : Parted entry kind path)
      (hsegment : OpensWith path segment) (hempty : segment = [] ∨ segment = listMark) :
      Declines entry (.malformed ⟨kind.symbol, [], entry⟩ .noTable)
  | badName {entry path segment : Text} {kind : JoinKind} (hparted : Parted entry kind path)
      (hsegment : OpensWith path segment) (hne : ¬ (segment = [] ∨ segment = listMark))
      (hname : ∀ k : TableKey, k.Named → withoutMark segment ≠ k.render) :
      Declines entry
        (.badName ⟨kind.symbol, withoutMark segment, entry⟩ (withoutMark segment))

/-! ## reading an entry -/

variable {entry path segment : Text} {kind : JoinKind} {j : Join} {e : KeyError}

/-- Of a path with a table, slashes in front say as well as a mark that it is a path. -/
theorem parted_iff {n : Nat} {tail : Text} (hpath : path = List.replicate n '/' ++ segment ++ tail)
    (hslash : '/' ∉ segment) (hne : segment ≠ []) :
    Parted entry kind path ↔
      entry = kind.symbol ++ path ∨ kind = .full ∧ 1 ≤ n ∧ entry = path := by
  obtain ⟨c, body, rfl⟩ := List.exists_cons_of_ne_nil hne
  constructor
  · intro h
    cases h with
    | marked => exact .inl rfl
    | path t =>
      refine .inr ⟨rfl, ?_, rfl⟩
      by_contra hn
      obtain rfl : n = 0 := by omega
      obtain ⟨rfl, -⟩ := List.cons.inj hpath
      exact hslash (List.mem_cons_self ..)
    | empty => simp at hpath
  · rintro (rfl | ⟨rfl, hn, rfl⟩)
    · exact .marked kind path
    · obtain ⟨n, rfl⟩ := Nat.exists_eq_add_of_le' hn
      rw [List.replicate_succ, List.cons_append, List.cons_append] at hpath
      rw [hpath]
      exact .path _

theorem sourceText_of_opensWith (h : OpensWith path segment) :
    sourceText path = withoutMark segment := by
  rw [← firstSegment_eq_iff.2 h]
  rfl

theorem ofEntry_of_asks (h : Asks entry j) : ofEntry entry = .ok j := by
  obtain ⟨path, kind, source, count, clauses⟩ := j
  obtain ⟨hcount, hclauses, hnamed, n, mark, tail, hmark, htail, hpath, hentry⟩ := h
  dsimp only at hcount hclauses hnamed hpath hentry
  subst hcount hclauses
  have hne : source.render ++ mark ≠ [] :=
    List.append_ne_nil_of_left_ne_nil (TableKey.render_ne_nil hnamed) mark
  have hslash : '/' ∉ source.render ++ mark := by
    rw [List.mem_append, not_or]
    refine ⟨TableKey.not_mem_render hnamed (by decide) (by decide), ?_⟩
    rcases hmark with rfl | rfl
    · exact List.not_mem_nil
    · exact slash_not_mem_listMark
  rw [List.append_assoc (List.replicate n '/')] at hpath
  have hparted : Parted entry kind path := (parted_iff hpath hslash hne).2 hentry
  have hsegment : OpensWith path (source.render ++ mark) :=
    ⟨n, tail, hpath, hslash, htail, fun h => absurd h hne⟩
  have htext : TableKey.ofText? source.render = some source :=
    TableKey.ofText?_eq_some_iff.2 ⟨hnamed, rfl⟩
  have hsource : sourceText path = source.render := by
    rw [sourceText_of_opensWith hsegment, withoutMark_render_append hnamed hmark]
  simp only [ofEntry, openEntry_of_parted hparted, hsource,
    if_neg (TableKey.render_ne_nil hnamed), htext]

theorem ofEntry_of_declines (h : Declines entry e) : ofEntry entry = .error e := by
  cases h with
  | unknownMark hslash hmark => simp only [ofEntry, openEntry_of_ne_mark hslash hmark]
  | noTable hparted hsegment hempty =>
    have hsource : sourceText _ = [] :=
      (sourceText_of_opensWith hsegment).trans (withoutMark_eq_nil_iff.2 hempty)
    simp only [ofEntry, openEntry_of_parted hparted, hsource, if_true]
  | badName hparted hsegment hne hname =>
    rename_i segment _
    have hnone : TableKey.ofText? (withoutMark segment) = none := by
      rw [Option.eq_none_iff_forall_ne_some]
      intro k hk
      obtain ⟨hnamed, hrender⟩ := TableKey.ofText?_eq_some_iff.1 hk
      exact hname k hnamed hrender
    simp only [ofEntry, openEntry_of_parted hparted, sourceText_of_opensWith hsegment,
      if_neg (mt withoutMark_eq_nil_iff.1 hne), hnone]

theorem asks_of_parted (hparted : Parted entry kind path) (hsegment : OpensWith path segment)
    (hne : segment ≠ []) {k : TableKey} (hnamed : k.Named) (hk : withoutMark segment = k.render) :
    Asks entry ⟨path, kind, k, 1, []⟩ := by
  obtain ⟨n, tail, hpath, hslash, htail, -⟩ := hsegment
  have hentry := (parted_iff hpath hslash hne).1 hparted
  refine ⟨rfl, rfl, hnamed, ?_⟩
  rcases withoutMark_eq_iff.1 hk with rfl | ⟨-, rfl⟩
  · refine ⟨n, listMark, tail, .inr rfl, htail, ?_, hentry⟩
    rw [hpath]
    simp only [List.append_assoc]
  · refine ⟨n, [], tail, .inl rfl, htail, ?_, hentry⟩
    rw [hpath, List.append_nil]

theorem asks_or_declines (entry : Text) : (∃ j, Asks entry j) ∨ ∃ e, Declines entry e := by
  rcases parted_or_unknown entry with ⟨kind, path, hparted⟩ | ⟨c, t, rfl, hslash, hmark⟩
  · have hsegment : OpensWith path (firstSegment path) := firstSegment_eq_iff.1 rfl
    generalize firstSegment path = segment at hsegment
    by_cases hempty : segment = [] ∨ segment = listMark
    · exact .inr ⟨_, .noTable hparted hsegment hempty⟩
    · by_cases hname : ∃ k : TableKey, k.Named ∧ withoutMark segment = k.render
      · obtain ⟨k, hnamed, hk⟩ := hname
        exact .inl ⟨_, asks_of_parted hparted hsegment (fun h => hempty (.inl h)) hnamed hk⟩
      · refine .inr ⟨_, .badName hparted hsegment hempty fun k hnamed hk => ?_⟩
        exact hname ⟨k, hnamed, hk⟩
  · exact .inr ⟨_, .unknownMark hslash hmark⟩

theorem ofEntry_eq_ok_iff : ofEntry entry = .ok j ↔ Asks entry j := by
  refine ⟨fun h => ?_, ofEntry_of_asks⟩
  rcases asks_or_declines entry with ⟨j', hasks⟩ | ⟨e, hdeclines⟩
  · rw [ofEntry_of_asks hasks] at h
    cases h
    exact hasks
  · rw [ofEntry_of_declines hdeclines] at h
    cases h

theorem ofEntry_eq_error_iff : ofEntry entry = .error e ↔ Declines entry e := by
  refine ⟨fun h => ?_, ofEntry_of_declines⟩
  rcases asks_or_declines entry with ⟨j, hasks⟩ | ⟨e', hdeclines⟩
  · rw [ofEntry_of_asks hasks] at h
    cases h
  · rw [ofEntry_of_declines hdeclines] at h
    cases h
    exact hdeclines

/-- An entry asks for the join that is read from it, and an entry that is not read asks for none. -/
theorem ofEntry_grammar (entry : Text) :
    (∀ j, ofEntry entry = .ok j ↔ Asks entry j) ∧
    (∀ e, ofEntry entry = .error e ↔ Declines entry e) ∧
    ((∃ e, Declines entry e) ↔ ∀ j, ¬ Asks entry j) := by
  refine ⟨fun j => ofEntry_eq_ok_iff, fun e => ofEntry_eq_error_iff, ?_, ?_⟩
  · rintro ⟨e, hdeclines⟩ j hasks
    have hok := ofEntry_of_asks hasks
    rw [ofEntry_of_declines hdeclines] at hok
    cases hok
  · intro hnone
    rcases asks_or_declines entry with ⟨j, hasks⟩ | hdeclines
    · exact absurd hasks (hnone j)
    · exact hdeclines

/-- Of two list marks the second alone is taken off. -/
example : ofEntry "&//A[][]/b" = .error (.badName ⟨"&", "A[]", "&//A[][]/b"⟩ "A[]") := rfl

end Join

end KeyNotation

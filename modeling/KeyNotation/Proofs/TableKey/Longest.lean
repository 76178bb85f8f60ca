import Mathlib.Computability.Language
import Mathlib.Data.Char
import Mathlib.Order.Interval.Set.Defs
import KeyNotation.Proofs.TableKey

/-!
# The longest name in front

The names are a regular language, and a reader that works from the front of a text takes the longest
word of it that stands there. Behind that word no character of names follows, so there is only one
place to cut the text. A colon behind a table is read if a name follows it, and is left if none does.

* `names` — the language `[A-Za-z_][A-Za-z0-9_]*`;
* `isName_iff_mem_names`, `isName_iff_read` — whole texts that are names;
* `Name.Fronts t name rest` — the text `t` is a name that goes on as far as it can, and `rest`;
* `Name.Fronts.isPrefix` — any name in front of `t` is in front of that one;
* `TableKey.Fronts t table after k rest` — the text `t`, in which `after` follows the name `table`,
  is the table key `k` and `rest`;
* `TableKey.read_longest` — this is what is read, and where nothing is.
-/

namespace KeyNotation

open scoped Computability

/-! ## the language of names -/

def letters : Set Char := Set.Icc 'A' 'Z' ∪ Set.Icc 'a' 'z'

def digits : Set Char := Set.Icc '0' '9'

def nameStarts : Set Char := letters ∪ {'_'}

def nameChars : Set Char := letters ∪ digits ∪ {'_'}

/-- The texts of one character. -/
def oneOf (s : Set Char) : Language Char := {t | ∃ c ∈ s, t = [c]}

def names : Language Char := oneOf nameStarts * (oneOf nameChars)∗

theorem mem_letters {c : Char} : c ∈ letters ↔ c.isAlpha = true := by
  have hranges : c.isAlpha =
      (decide ('A' ≤ c ∧ c ≤ 'Z') || decide ('a' ≤ c) && decide (c ≤ 'z')) := rfl
  simp [letters, hranges]

theorem mem_digits {c : Char} : c ∈ digits ↔ c.isDigit = true := by
  have hrange : c.isDigit = (decide ('0' ≤ c) && decide (c ≤ '9')) := rfl
  simp [digits, hrange]

theorem mem_nameStarts {c : Char} : c ∈ nameStarts ↔ isNameStart c = true := by
  simp only [nameStarts, isNameStart, Set.mem_union, Set.mem_singleton_iff, mem_letters,
    Bool.or_eq_true, beq_iff_eq]

theorem mem_nameChars {c : Char} : c ∈ nameChars ↔ isNameChar c = true := by
  simp only [nameChars, isNameChar, Char.isAlphanum, Set.mem_union, Set.mem_singleton_iff,
    mem_letters, mem_digits, Bool.or_eq_true, beq_iff_eq]

theorem mem_kstar_oneOf {s : Set Char} {t : Text} : t ∈ (oneOf s)∗ ↔ ∀ c ∈ t, c ∈ s := by
  rw [Language.mem_kstar]
  constructor
  · rintro ⟨parts, rfl, hparts⟩ c hc
    obtain ⟨part, hpart, hc⟩ := List.mem_flatten.1 hc
    obtain ⟨x, hx, rfl⟩ := hparts part hpart
    rwa [List.mem_singleton.1 hc]
  · intro h
    refine ⟨t.map fun c => [c], ?_, ?_⟩
    · rw [← List.flatMap_def, List.flatMap_singleton']
    · rintro part hpart
      obtain ⟨c, hc, rfl⟩ := List.mem_map.1 hpart
      exact ⟨c, h c hc, rfl⟩

theorem mem_names_cons {c : Char} {t : Text} :
    c :: t ∈ names ↔ c ∈ nameStarts ∧ ∀ x ∈ t, x ∈ nameChars := by
  rw [names, Language.mem_mul]
  constructor
  · rintro ⟨front, ⟨x, hx, rfl⟩, body, hbody, ht⟩
    obtain ⟨rfl, rfl⟩ := List.cons.inj ht
    exact ⟨hx, mem_kstar_oneOf.1 hbody⟩
  · rintro ⟨hc, ht⟩
    exact ⟨[c], ⟨c, hc, rfl⟩, t, mem_kstar_oneOf.2 ht, rfl⟩

theorem nil_not_mem_names : [] ∉ names := by
  rw [names, Language.mem_mul]
  rintro ⟨front, ⟨x, hx, rfl⟩, body, hbody, ht⟩
  cases ht

theorem isName_iff_mem_names {t : Text} : isName t = true ↔ t ∈ names := by
  cases t with
  | nil => simp [isName, nil_not_mem_names]
  | cons c t => simp only [isName_cons, mem_names_cons, mem_nameStarts, mem_nameChars]

/-! ## the name in front -/

/-- No character of names follows the name. -/
structure Name.Fronts (t name rest : Text) : Prop where
  text_eq : t = name ++ rest
  mem_names : name ∈ names
  stops : ∀ c ∈ rest.head?, c ∉ nameChars

section

variable {t name rest other : Text}

theorem Name.read_eq_some_iff_fronts :
    Name.read t = some (name, rest) ↔ Name.Fronts t name rest := by
  have hstops : (∀ c ∈ rest.head?, isNameChar c = false) ↔ ∀ c ∈ rest.head?, c ∉ nameChars := by
    simp only [mem_nameChars, Bool.not_eq_true]
  rw [Name.read_eq_some_iff, isName_iff_mem_names, hstops]
  constructor
  · rintro ⟨ht, hname, hend⟩
    exact ⟨ht, hname, hend⟩
  · rintro ⟨ht, hname, hend⟩
    exact ⟨ht, hname, hend⟩

theorem Name.read_eq_none_iff : Name.read t = none ↔ ∀ c ∈ t.head?, c ∉ nameStarts := by
  cases t with
  | nil => simp [Name.read]
  | cons c t => simp [Name.read, mem_nameStarts]

theorem isName_iff_read : isName t = true ↔ Name.read t = some (t, []) := by
  rw [Name.read_eq_some_iff_fronts, isName_iff_mem_names]
  constructor
  · intro ht
    exact ⟨(List.append_nil t).symm, ht, by simp⟩
  · intro h
    exact h.mem_names

theorem Name.Fronts.isPrefix (h : Name.Fronts t name rest) (hother : other ∈ names)
    (hp : other <+: t) : other <+: name := by
  obtain ⟨behind, hbehind⟩ := hp
  rw [h.text_eq] at hbehind
  rcases List.append_eq_append_iff.1 hbehind with ⟨more, hname, -⟩ | ⟨more, hmore, hrest⟩
  · exact ⟨more, hname.symm⟩
  · cases more with
    | nil => rw [hmore, List.append_nil]
    | cons c more =>
      -- the longer word would take the character that follows `name`
      have hc : c ∈ rest.head? := by simp [hrest]
      have hmem : c ∈ other := by simp [hmore]
      have hchar := forall_of_isName (isName_iff_mem_names.2 hother) c hmem
      exact absurd (mem_nameChars.2 hchar) (h.stops c hc)

theorem Name.Fronts.unique {name' rest' : Text} (h : Name.Fronts t name rest)
    (h' : Name.Fronts t name' rest') : name' = name ∧ rest' = rest := by
  rw [← Name.read_eq_some_iff_fronts] at h h'
  rw [h] at h'
  cases h'
  exact ⟨rfl, rfl⟩

end

namespace TableKey

/-! ## the table key in front -/

/-- The alias is a name behind a colon, and goes on as far as it can. Without one, the colon is left
with all that follows. -/
structure Fronts (t table after : Text) (k : TableKey) (rest : Text) : Prop where
  text_eq : t = k.render ++ rest
  table_eq : k.table = table
  aliased_iff : (∃ a, k.aliased = some a) ↔ ∃ c u, after = ':' :: c :: u ∧ c ∈ nameStarts
  alias_fronts : ∀ a, k.aliased = some a → ∃ u, after = ':' :: u ∧ Name.Fronts u a rest
  rest_eq : k.aliased = none → rest = after

variable {t table after rest : Text} {k : TableKey}

theorem readAlias_eq_none_iff :
    readAlias t = none ↔ ¬ ∃ c u, t = ':' :: c :: u ∧ c ∈ nameStarts := by
  constructor
  · rintro h ⟨c, u, rfl, hc⟩
    have hread : Name.read (c :: u) = none := h
    exact Name.read_eq_none_iff.1 hread c rfl hc
  · intro h
    unfold readAlias
    split
    · rename_i u
      rw [Name.read_eq_none_iff]
      intro c hhead hc
      obtain ⟨v, rfl⟩ := List.head?_eq_some_iff.1 hhead
      exact h ⟨c, v, rfl, hc⟩
    · rfl

theorem read_eq_none_iff : read t = none ↔ Name.read t = none := by
  constructor
  · intro h
    cases hn : Name.read t with
    | none => rfl
    | some p =>
      obtain ⟨table, after⟩ := p
      cases ha : readAlias after with
      | none =>
        rw [read_of_no_alias hn ha] at h
        cases h
      | some q =>
        rw [read_of_alias hn ha] at h
        cases h
  · intro hn
    simp only [read, hn]

theorem fronts_of_read (h : Name.Fronts t table after) (hk : read t = some (k, rest)) :
    Fronts t table after k rest := by
  have hn := Name.read_eq_some_iff_fronts.2 h
  have htext := (append_of_read hk).symm
  cases ha : readAlias after with
  | none =>
    rw [read_of_no_alias hn ha] at hk
    cases hk
    refine ⟨htext, rfl, ⟨nofun, fun hcolon => ?_⟩, nofun, fun _ => rfl⟩
    exact absurd hcolon (readAlias_eq_none_iff.1 ha)
  | some p =>
    obtain ⟨a, rest'⟩ := p
    rw [read_of_alias hn ha] at hk
    cases hk
    obtain ⟨u, hafter, hu⟩ := readAlias_eq_some_iff.1 ha
    refine ⟨htext, rfl, ⟨fun _ => ?_, fun _ => ⟨a, rfl⟩⟩, ?_, nofun⟩
    · by_contra hcolon
      rw [readAlias_eq_none_iff.2 hcolon] at ha
      cases ha
    · intro a' ha'
      cases ha'
      exact ⟨u, hafter, Name.read_eq_some_iff_fronts.1 hu⟩

theorem read_of_fronts (h : Name.Fronts t table after) (hk : Fronts t table after k rest) :
    read t = some (k, rest) := by
  have hn := Name.read_eq_some_iff_fronts.2 h
  obtain ⟨table', aliased⟩ := k
  obtain rfl : table' = table := hk.table_eq
  cases aliased with
  | none =>
    have hnone : readAlias after = none := by
      rw [readAlias_eq_none_iff]
      intro hcolon
      obtain ⟨a, ha⟩ := hk.aliased_iff.2 hcolon
      cases ha
    rw [hk.rest_eq rfl]
    exact read_of_no_alias hn hnone
  | some a =>
    obtain ⟨u, hafter, hu⟩ := hk.alias_fronts a rfl
    have halias : readAlias after = some (a, rest) :=
      readAlias_eq_some_iff.2 ⟨u, hafter, Name.read_eq_some_iff_fronts.2 hu⟩
    exact read_of_alias hn halias

/-- Both readers take as much as there is, and fail on the same texts. -/
theorem read_longest (t : Text) :
    (Name.read t = none ↔ ∀ c ∈ t.head?, c ∉ nameStarts) ∧
    (∀ name rest, Name.read t = some (name, rest) ↔ Name.Fronts t name rest) ∧
    (∀ name rest, Name.Fronts t name rest →
      (∀ name' rest', Name.Fronts t name' rest' → name' = name ∧ rest' = rest) ∧
      ∀ other ∈ names, other <+: t → other <+: name) ∧
    (read t = none ↔ Name.read t = none) ∧
    (∀ table after, Name.Fronts t table after →
      ∀ k rest, read t = some (k, rest) ↔ Fronts t table after k rest) ∧
    (isName t = true ↔ Name.read t = some (t, [])) ∧
    (isName t = true ↔ t ∈ names) := by
  refine ⟨Name.read_eq_none_iff, fun name rest => Name.read_eq_some_iff_fronts, ?_,
    read_eq_none_iff, ?_, isName_iff_read, isName_iff_mem_names⟩
  · intro name rest h
    exact ⟨fun name' rest' h' => h.unique h', fun other hother hp => h.isPrefix hother hp⟩
  · intro table after h k rest
    exact ⟨fronts_of_read h, read_of_fronts h⟩

/-- A digit begins no name, so the colon in front of it is left. -/
theorem read_longest_colon :
    let t : Text := "Moment:main[]"
    let u : Text := "Moment:2"
    Name.Fronts t "Moment" ":main[]" ∧ Name.Fronts u "Moment" ":2" ∧
      Fronts t "Moment" ":main[]" ⟨"Moment", some "main"⟩ "[]" ∧
      Fronts u "Moment" ":2" ⟨"Moment", none⟩ ":2" := by
  intro t u
  obtain ⟨-, ht, -, -, htkey, -, -⟩ := read_longest t
  obtain ⟨-, hu, -, -, hukey, -, -⟩ := read_longest u
  have htname : Name.Fronts t "Moment" ":main[]" := (ht _ _).1 rfl
  have huname : Name.Fronts u "Moment" ":2" := (hu _ _).1 rfl
  exact ⟨htname, huname, (htkey _ _ htname _ _).1 rfl, (hukey _ _ huname _ _).1 rfl⟩

end TableKey

end KeyNotation

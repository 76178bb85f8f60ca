import KeyNotation.Proofs.KeyFormat.LastDivider
import KeyNotation.Proofs.KeyPolicy.Regular

/-!
# Names of variables

A full name is a word with annotations around it. The name of its variable is that word in one
piece, with a capital letter in front and nothing but letters and digits in it.

* `isWord t`, `isCapital t` — a letter, then characters of names and hyphens; a capital letter, then
  letters and digits;
* `FullName` — the parts of a full name, and `FullName.text`, how it is written;
* `FullName.written n` — the word, with the list mark spelled out;
* `FullName.stem_text` — what a variable is formatted from;
* `FullName.isCapital_variableName`, `FullName.map_toLower_variableName` — the name of the variable
  is of that kind, and keeps the letters and digits of the word.
-/

namespace KeyNotation

/-! ## words and capital names -/

def isWordChar (c : Char) : Bool := isNameChar c || c == '-'

def isWord : Text → Bool
  | [] => false
  | c :: t => c.isAlpha && t.all isWordChar

def isCapital : Text → Bool
  | [] => false
  | c :: t => c.isUpper && t.all Char.isAlphanum

theorem isWord_cons {c : Char} {t : Text} :
    isWord (c :: t) = true ↔ c.isAlpha = true ∧ ∀ x ∈ t, isWordChar x = true := by
  simp [isWord]

theorem exists_cons_of_isWord {t : Text} (h : isWord t = true) :
    ∃ c u, t = c :: u ∧ c.isAlpha = true := by
  cases t with
  | nil => cases h
  | cons c u => exact ⟨c, u, rfl, (isWord_cons.1 h).1⟩

theorem forall_of_isWord {t : Text} (h : isWord t = true) : ∀ c ∈ t, isWordChar c = true := by
  cases t with
  | nil => cases h
  | cons c t =>
    obtain ⟨hc, ht⟩ := isWord_cons.1 h
    refine List.forall_mem_cons.2 ⟨?_, ht⟩
    simp [isWordChar, isNameChar, Char.isAlphanum, hc]

theorem ascii_of_isWordChar {c : Char} (h : isWordChar c = true) : c.toNat < 0x80 := by
  rcases Bool.or_eq_true_iff.1 h with hname | hhyphen
  · exact ascii_of_isNameChar hname
  · rw [eq_of_beq hhyphen]
    decide

theorem isAlphanum_of_isWordChar {c : Char} (h : isWordChar c = true) (hc : c ∉ ['-', '_']) :
    c.isAlphanum = true := by
  simp only [List.mem_cons, List.not_mem_nil, or_false, not_or] at hc
  simpa [isWordChar, isNameChar, hc.1, hc.2] using h

theorem isName_of_isCapital {t : Text} (h : isCapital t = true) : isName t = true := by
  cases t with
  | nil => cases h
  | cons c t =>
    simp only [isCapital, Bool.and_eq_true, List.all_eq_true] at h
    refine isName_cons.2 ⟨?_, fun x hx => ?_⟩
    · have halpha : c.isAlpha = true := Bool.or_eq_true_iff.2 (.inl h.1)
      simp [isNameStart, halpha]
    · simp [isNameChar, h.2 x hx]

/-! ## the format of variables -/

/-- An alias, the `@`, hyphens and underscores are taken off. -/
def variableFormat : KeyFormat := ⟨true, true, ⟨true, true, false⟩, some .upper⟩

theorem variableName_eq_format (name : Text) :
    variableName name = variableFormat.format (pluralOfMark name) := rfl

theorem afterColon_of_not_mem {t : Text} (h : ':' ∉ t) : afterColon t = t := by
  rw [afterColon, splitFirst?_eq_none_iff.2 h]

theorem afterColon_append {p : Text} (hp : ':' ∉ p) (t : Text) : afterColon (p ++ ':' :: t) = t := by
  rw [afterColon, splitFirst?_eq_some_iff.2 ⟨rfl, hp⟩]

/-- The capital letter is the last thing that a format sees to. -/
theorem KeyFormat.isUpper_of_format_eq_cons {f : KeyFormat} (hf : f.first = some .upper)
    {key t : Text} (hstem : IsAscii (f.stem key)) {c : Char} (h : f.format key = c :: t)
    (hc : c.isAlpha = true) : c.isUpper = true := by
  have hascii := isAscii_stripDividers f.dividers.signs hstem
  simp only [format, hf] at h
  cases hs : stripDividers f.dividers.signs (f.stem key) with
  | nil =>
    rw [hs] at h
    cases h
  | cons y u =>
    rw [hs] at hascii h
    rw [LetterCase.upper.recaseFirst_of_ascii (isAscii_cons.1 hascii).1] at h
    obtain rfl : LetterCase.upper.letter y = c := (List.cons.inj h).1
    exact LetterCase.isUpper_of_letter_upper (isAscii_cons.1 hascii).1 hc

/-! ## full names -/

structure FullName where
  /-- What the word is the alias of. -/
  source : Option Text
  /-- There is an `@` in front of the word. -/
  marked : Bool
  word : Text
  /-- There is a list mark behind the word. -/
  listed : Bool
  deriving DecidableEq, Repr

namespace FullName

def front (n : FullName) : Text :=
  match n.source with
  | some p => p ++ [':']
  | none => []

def mark (n : FullName) : Text := if n.marked then ['@'] else []

def text (n : FullName) : Text :=
  n.front ++ n.mark ++ n.word ++ if n.listed then listMark else []

structure WellFormed (n : FullName) : Prop where
  source_plain : ∀ p ∈ n.source, ':' ∉ p
  isWord_word : isWord n.word = true

def written (n : FullName) : Text := n.word ++ if n.listed then ("List" : Text) else []

variable {n : FullName}

theorem mark_eq_nil_or (n : FullName) : n.mark = [] ∨ n.mark = ['@'] := by
  unfold mark
  cases n.marked with
  | false => exact .inl rfl
  | true => exact .inr rfl

theorem forall_written (h : n.WellFormed) : ∀ c ∈ n.written, isWordChar c = true := by
  intro c hc
  rcases List.mem_append.1 hc with hword | hlist
  · exact forall_of_isWord h.isWord_word c hword
  · have hall : ∀ c ∈ ['L', 'i', 's', 't'], isWordChar c = true :=
      List.all_eq_true.1 (by decide)
    cases hl : n.listed with
    | true =>
      rw [hl] at hlist
      exact hall c hlist
    | false =>
      rw [hl] at hlist
      cases hlist

theorem not_mem_written (h : n.WellFormed) {x : Char} (hx : isWordChar x = false) :
    x ∉ n.written := by
  intro hmem
  rw [forall_written h x hmem] at hx
  cases hx

theorem isAscii_written (h : n.WellFormed) : IsAscii n.written :=
  fun c hc => ascii_of_isWordChar (forall_written h c hc)

/-! ## the stem -/

theorem not_marked (h : n.WellFormed) (before : Text) : ¬ listMark <:+ before ++ n.word := by
  intro hs
  obtain ⟨c, w, hword, -⟩ := exists_cons_of_isWord h.isWord_word
  have hlast : n.word.getLast? = some ']' := by
    obtain ⟨stem, hstem⟩ := hs
    have hend := congrArg List.getLast? hstem
    rw [List.getLast?_append_of_ne_nil _ (by decide),
      List.getLast?_append_of_ne_nil _ (by simp [hword])] at hend
    exact hend.symm
  have hbracket := forall_of_isWord h.isWord_word ']' (List.mem_of_getLast? hlast)
  exact absurd hbracket (by decide)

theorem pluralOfMark_text (h : n.WellFormed) :
    pluralOfMark n.text = n.front ++ n.mark ++ n.written := by
  unfold text written
  cases n.listed with
  | false =>
    rw [if_neg (by decide), if_neg (by decide), List.append_nil, List.append_nil]
    exact pluralOfMark_of_not_suffix (not_marked h _)
  | true =>
    obtain ⟨c, w, hword, -⟩ := exists_cons_of_isWord h.isWord_word
    have hne : n.front ++ n.mark ++ n.word ≠ [] := by simp [hword]
    rw [if_pos rfl, if_pos rfl, pluralOfMark_append, plural, if_neg hne, List.append_assoc]

theorem stem_text (h : n.WellFormed) : variableFormat.stem (pluralOfMark n.text) = n.written := by
  have hcolon : ':' ∉ n.mark ++ n.written := by
    rw [List.mem_append, not_or]
    refine ⟨?_, not_mem_written h (by decide)⟩
    rcases n.mark_eq_nil_or with hmark | hmark <;> simp [hmark]
  have hfront : afterColon (n.front ++ n.mark ++ n.written) = n.mark ++ n.written := by
    unfold front
    cases hs : n.source with
    | none => exact afterColon_of_not_mem hcolon
    | some p =>
      have hp : ':' ∉ p := h.source_plain p hs
      simpa using afterColon_append hp (n.mark ++ n.written)
  have hstem (key : Text) : variableFormat.stem key = withoutAt (afterColon key) := rfl
  rw [hstem, pluralOfMark_text h, hfront]
  exact withoutAt_append n.mark_eq_nil_or (not_mem_written h (by decide))

theorem isAscii_stem_text (h : n.WellFormed) :
    IsAscii (variableFormat.stem (pluralOfMark n.text)) := by
  rw [stem_text h]
  exact isAscii_written h

/-! ## the variable -/

theorem map_toLower_variableName (h : n.WellFormed) :
    (variableName n.text).map Char.toLower =
      (n.written.filter (· ∉ ['-', '_'])).map Char.toLower := by
  have hsigns : variableFormat.dividers.signs = ['-', '_'] := rfl
  rw [variableName_eq_format, KeyFormat.map_toLower_format_of_stem _ (isAscii_stem_text h),
    stem_text h, hsigns]

theorem isAlphanum_of_mem_variableName (h : n.WellFormed) :
    ∀ c ∈ variableName n.text, c.isAlphanum = true := by
  intro c hc
  have hlower {x : Char} : x.toLower.isAlphanum = x.isAlphanum :=
    LetterCase.apply_letter (fun c hc => by simp [Char.isAlphanum, hc]) .lower x
  have hmem : c.toLower ∈ (variableName n.text).map Char.toLower := List.mem_map_of_mem hc
  rw [map_toLower_variableName h] at hmem
  obtain ⟨y, hy, hyc⟩ := List.mem_map.1 hmem
  obtain ⟨hyw, hysign⟩ := List.mem_filter.1 hy
  rw [← hlower, ← hyc, hlower]
  exact isAlphanum_of_isWordChar (forall_written h y hyw) (of_decide_eq_true hysign)

theorem exists_variableName_eq_cons (h : n.WellFormed) :
    ∃ c t, variableName n.text = c :: t ∧ c.isAlpha = true := by
  obtain ⟨y, w, hword, hy⟩ := exists_cons_of_isWord h.isWord_word
  have hsign : y ∉ ['-', '_'] := by
    simp only [List.mem_cons, List.not_mem_nil, or_false, not_or]
    constructor <;> rintro rfl <;> exact absurd hy (by decide)
  have hlower := map_toLower_variableName h
  rw [written, hword, List.cons_append, List.filter_cons_of_pos (by simpa using hsign),
    List.map_cons] at hlower
  obtain ⟨c, t, hname, hc, -⟩ := List.map_eq_cons_iff.1 hlower
  have halpha (x : Char) : x.toLower.isAlpha = x.isAlpha :=
    LetterCase.apply_letter (fun _ h => h) .lower x
  refine ⟨c, t, hname, ?_⟩
  rwa [← halpha, hc, halpha]

theorem isCapital_variableName (h : n.WellFormed) : isCapital (variableName n.text) = true := by
  obtain ⟨c, t, hname, hc⟩ := exists_variableName_eq_cons h
  have hchars := isAlphanum_of_mem_variableName h
  have hupper : c.isUpper = true :=
    KeyFormat.isUpper_of_format_eq_cons rfl (isAscii_stem_text h) hname hc
  rw [hname] at hchars ⊢
  simp only [isCapital, hupper, Bool.true_and, List.all_eq_true]
  exact (List.forall_mem_cons.1 hchars).2

theorem lower_variableName (h : n.WellFormed) :
    LetterCase.lower.recase (variableName n.text) =
      LetterCase.lower.recase (n.word.filter (· ∉ ['-', '_'])) ++
        if n.listed then ("list" : Text) else [] := by
  have hname : IsAscii (variableName n.text) := fun c hc =>
    ascii_of_isNameChar (by simp [isNameChar, isAlphanum_of_mem_variableName h c hc])
  have hword : IsAscii (n.word.filter (· ∉ ['-', '_'])) := fun c hc =>
    ascii_of_isWordChar (forall_of_isWord h.isWord_word c (List.mem_of_mem_filter hc))
  rw [LetterCase.lower.recase_of_isAscii hname, LetterCase.lower.recase_of_isAscii hword]
  refine (map_toLower_variableName h).trans ?_
  rw [written, List.filter_append, List.map_append]
  cases n.listed with
  | true => rfl
  | false => rfl

/-- The name of a variable starts with a capital letter and goes on with letters and digits, so that
it is a name. Up to case it is the word without its hyphens and underscores, with the list mark
spelled out. -/
theorem variableName_text {n : FullName} (h : n.WellFormed) :
    isCapital (variableName n.text) = true ∧ isName (variableName n.text) = true ∧
      LetterCase.lower.recase (variableName n.text) =
        LetterCase.lower.recase (n.word.filter (· ∉ ['-', '_'])) ++
          if n.listed then ("list" : Text) else [] := by
  have hcapital := isCapital_variableName h
  exact ⟨hcapital, isName_of_isCapital hcapital, lower_variableName h⟩

/-- The underscores part the word anew, so that the capitals of its hyphens are gone. -/
theorem variableName_text_listed :
    let n : FullName :=
      ⟨some ['Σ', '@', 'χ'], true, ['u', 's', 'e', 'r', '-', 'I', 'd', '_', '_', '3', '-'], true⟩
    n.WellFormed ∧ n.text = "Σ@χ:@user-Id__3-[]" ∧ variableName n.text = "Userid3list" ∧
      isCapital (variableName n.text) = true ∧ isName (variableName n.text) = true ∧
      LetterCase.lower.recase (variableName n.text) =
        LetterCase.lower.recase (n.word.filter (· ∉ ['-', '_'])) ++ "list" := by
  intro n
  have h : n.WellFormed := ⟨by decide, by decide⟩
  exact ⟨h, rfl, by decide +kernel, variableName_text h⟩

end FullName

end KeyNotation

import Mathlib.Data.List.Nodup
import KeyNotation.Proofs.Json.Restated

/-!
# Forms that are decoded

Decoding undoes encoding, and it does so in whatever way the records of a form are written.

* `Json.Recovers encode decode?` — a form that `encode` gives, as it is or restated, is decoded to
  what it is the form of;
* `Marks.decode?_of_restated` and so on — one type after the other, each by the types of its fields;
* `Json.recovers_all` — all types.
-/

namespace KeyNotation

open Json

structure Json.Recovers {α : Type} (encode : α → Json) (decode? : Json → Option α) : Prop where
  decode_encode : ∀ a, decode? (encode a) = some a
  decode_restated : ∀ a j, Restated (encode a) j → decode? j = some a

/-- A form restates itself. -/
theorem Json.recovers_of_restated {α : Type} {encode : α → Json} {decode? : Json → Option α}
    (h : ∀ a j, Restated (encode a) j → decode? j = some a) : Recovers encode decode? :=
  ⟨fun a => h a _ (restated_refl _), h⟩

/-! ## scalars and lists -/

namespace Json

theorem bool?_of_restated (b : Bool) (v : Json) (h : Restated (bool b) v) : bool? v = some b := by
  rw [eq_of_restated h trivial]
  rfl

theorem text?_of_restated (t : Text) (v : Json) (h : Restated (str t) v) : text? v = some t := by
  rw [eq_of_restated h trivial]
  rfl

theorem word?_of_restated (n : UInt32) (v : Json) (h : Restated (ofWord n) v) :
    word? v = some n := by
  have hn : (0 : Int) ≤ n.toNat ∧ (n.toNat : Int) < UInt32.size :=
    ⟨Int.natCast_nonneg _, Int.ofNat_lt.2 n.toNat_lt_size⟩
  rw [eq_of_restated h trivial, ofWord, word?, if_pos hn, Int.toNat_natCast, UInt32.ofNat_toNat]

theorem list?_of_restated {α : Type} {encode : α → Json} {decode? : Json → Option α}
    (hdecode : ∀ a v, Restated (encode a) v → decode? v = some a) (as : List α) (v : Json)
    (h : Restated (arr (as.map encode)) v) : list? decode? v = some as := by
  obtain ⟨items, rfl, hitems⟩ := exists_items_of_restated h
  clear h
  rw [List.forall₂_map_left_iff] at hitems
  change items.mapM decode? = some as
  induction hitems with
  | nil => rfl
  | cons ha _ ih =>
    rw [List.mapM_cons, hdecode _ _ ha, ih]
    rfl

end Json

/-! ## variants -/

/-- Labels that differ tell the members apart. -/
theorem Json.unitOf?_of_restated {α : Type} {all : List α} {label : α → Text}
    (hn : (all.map label).Nodup) {a : α} (ha : a ∈ all) (v : Json)
    (h : Restated (str (label a)) v) : unitOf? all label v = some a := by
  rw [eq_of_restated h trivial]
  change all.find? (label · = label a) = some a
  cases hfind : all.find? (label · = label a) with
  | none => exact absurd (List.find?_eq_none.1 hfind a ha) (by simp)
  | some b =>
    have hlabel : label b = label a := by simpa using List.find?_some hfind
    rw [List.inj_on_of_nodup_map hn (List.mem_of_find?_eq_some hfind) ha hlabel]

theorem JoinKind.decode?_of_restated (k : JoinKind) (j : Json) (h : Restated k.encode j) :
    JoinKind.decode? j = some k :=
  unitOf?_of_restated (by decide) k.mem_all j h

theorem Wildcard.decode?_of_restated (w : Wildcard) (j : Json) (h : Restated w.encode j) :
    Wildcard.decode? j = some w :=
  unitOf?_of_restated (by decide) w.mem_all j h

theorem Marks.decode?_of_restated (m : Marks) (j : Json) (h : Restated m.encode j) :
    Marks.decode? j = some m := by
  have hn : (["leading", "trailing"] : List Text).Nodup := by decide
  obtain ⟨es', rfl, hfinds⟩ := exists_finds_of_restated h (not_isVariant_cons_cons _ _ _) hn
  have hleading : optional Wildcard.decode? 0 "leading" (obj es') = some m.leading :=
    optional_of_finds hfinds 0 (by simp) (by decide) Wildcard.decode?_of_restated
      fun w => ⟨w.label, rfl⟩
  have htrailing : optional Wildcard.decode? 1 "trailing" (obj es') = some m.trailing :=
    optional_of_finds hfinds 1 (by simp) (by decide) Wildcard.decode?_of_restated
      fun w => ⟨w.label, rfl⟩
  rw [decode?, if_pos (isRecord_obj ..), hleading, htrailing]
  rfl

theorem Relation.decode?_of_mem_units {r : Relation} (hr : r ∈ units) :
    Relation.decode? (str r.label) = some r :=
  unitOf?_of_restated (by decide) hr _ (restated_refl _)

/-- The label of a pattern or of a regular expression stays, and what it holds is a record. -/
theorem Relation.decode?_of_restated (r : Relation) (j : Json) (h : Restated r.encode j) :
    Relation.decode? j = some r := by
  cases r with
  | like m =>
    have hlabel : (like m).label ∈ contentLabels := List.mem_cons_self ..
    obtain ⟨content, rfl, hcontent⟩ := exists_content_of_restated hlabel h
    have hm : Marks.decode? content = some m := Marks.decode?_of_restated m content hcontent
    change (Marks.decode? content).map like = some (like m)
    rw [hm, Option.map_some]
  | regex b =>
    have hlabel : (regex b).label ∈ contentLabels := List.mem_cons_of_mem _ (List.mem_cons_self ..)
    obtain ⟨content, rfl, hcontent⟩ := exists_content_of_restated hlabel h
    have hrecord : ¬ IsVariant [("case_sensitive", bool b)] := by
      rintro ⟨label, hlabel, v, heq⟩
      cases heq
      exact absurd hlabel (by decide)
    have hn : (["case_sensitive"] : List Text).Nodup := by decide
    obtain ⟨es', rfl, hfinds⟩ := exists_finds_of_restated hcontent hrecord hn
    have hb : required bool? 0 "case_sensitive" (obj es') = some b :=
      required_of_finds hfinds 0 (by simp) (by decide) (bool?_of_restated b)
    change (required bool? 0 "case_sensitive" (obj es')).map regex = some (regex b)
    rw [hb, Option.map_some]
  | _ =>
    rw [eq_of_restated h trivial]
    exact decode?_of_mem_units (by decide)

/-! ## records -/

theorem Clause.decode?_of_restated (c : Clause) (j : Json) (h : Restated c.encode j) :
    Clause.decode? j = some c := by
  have hn : (["negated", "relation", "key"] : List Text).Nodup := by decide
  obtain ⟨es', rfl, hfinds⟩ := exists_finds_of_restated h (not_isVariant_cons_cons _ _ _) hn
  have hnegated : required bool? 0 "negated" (obj es') = some c.negated :=
    required_of_finds hfinds 0 (by simp) (by decide) (bool?_of_restated _)
  have hrelation : required Relation.decode? 1 "relation" (obj es') = some c.relation :=
    required_of_finds hfinds 1 (by simp) (by decide) (Relation.decode?_of_restated _)
  have hkey : required text? 2 "key" (obj es') = some c.key :=
    required_of_finds hfinds 2 (by simp) (by decide) (text?_of_restated _)
  rw [decode?, if_pos (isRecord_obj ..), hnegated, hrelation, hkey]
  rfl

theorem Reference.decode?_of_restated (r : Reference) (j : Json) (h : Restated r.encode j) :
    Reference.decode? j = some r := by
  have hn : (["table", "alias", "key"] : List Text).Nodup := by decide
  obtain ⟨es', rfl, hfinds⟩ := exists_finds_of_restated h (not_isVariant_cons_cons _ _ _) hn
  have htable : required text? 0 "table" (obj es') = some r.source.table :=
    required_of_finds hfinds 0 (by simp) (by decide) (text?_of_restated _)
  have haliased : optional text? 1 "alias" (obj es') = some r.source.aliased :=
    optional_of_finds hfinds 1 (by simp) (by decide) text?_of_restated fun t => ⟨t, rfl⟩
  have hkey : required text? 2 "key" (obj es') = some r.key :=
    required_of_finds hfinds 2 (by simp) (by decide) (text?_of_restated _)
  rw [decode?, if_pos (isRecord_obj ..), htable, haliased, hkey]
  rfl

namespace Join

theorem Binding.decode?_of_restated (b : Binding) (j : Json) (h : Restated b.encode j) :
    Binding.decode? j = some b := by
  have hn : (["origin_key", "origin_value", "clause", "target"] : List Text).Nodup := by decide
  obtain ⟨es', rfl, hfinds⟩ := exists_finds_of_restated h (not_isVariant_cons_cons _ _ _) hn
  have hkey : required text? 0 "origin_key" (obj es') = some b.key :=
    required_of_finds hfinds 0 (by simp) (by decide) (text?_of_restated _)
  have hvalue : required text? 1 "origin_value" (obj es') = some b.value :=
    required_of_finds hfinds 1 (by simp) (by decide) (text?_of_restated _)
  have hclause : required Clause.decode? 2 "clause" (obj es') = some b.clause :=
    required_of_finds hfinds 2 (by simp) (by decide) (Clause.decode?_of_restated _)
  have htarget : required Reference.decode? 3 "target" (obj es') = some b.target :=
    required_of_finds hfinds 3 (by simp) (by decide) (Reference.decode?_of_restated _)
  rw [decode?, if_pos (isRecord_obj ..), hkey, hvalue, hclause, htarget]
  rfl

theorem decode?_of_restated (join : Join) (j : Json) (h : Restated join.encode j) :
    Join.decode? j = some join := by
  have hn : (["path", "join_type", "table", "alias", "count", "on_list"] : List Text).Nodup := by
    decide
  obtain ⟨es', rfl, hfinds⟩ := exists_finds_of_restated h (not_isVariant_cons_cons _ _ _) hn
  have hpath : required text? 0 "path" (obj es') = some join.path :=
    required_of_finds hfinds 0 (by simp) (by decide) (text?_of_restated _)
  have hkind : required JoinKind.decode? 1 "join_type" (obj es') = some join.kind :=
    required_of_finds hfinds 1 (by simp) (by decide) (JoinKind.decode?_of_restated _)
  have htable : required text? 2 "table" (obj es') = some join.source.table :=
    required_of_finds hfinds 2 (by simp) (by decide) (text?_of_restated _)
  have haliased : optional text? 3 "alias" (obj es') = some join.source.aliased :=
    optional_of_finds hfinds 3 (by simp) (by decide) text?_of_restated fun t => ⟨t, rfl⟩
  have hcount : required word? 4 "count" (obj es') = some join.count :=
    required_of_finds hfinds 4 (by simp) (by decide) (word?_of_restated _)
  have hclauses : required (list? Clause.decode?) 5 "on_list" (obj es') = some join.clauses :=
    required_of_finds hfinds 5 (by simp) (by decide)
      (list?_of_restated Clause.decode?_of_restated _)
  rw [decode?, if_pos (isRecord_obj ..), hpath, hkind, htable, haliased, hcount, hclauses]
  rfl

end Join

theorem Toggles.decode?_of_restated (g : Toggles) (j : Json) (h : Restated g.encode j) :
    Toggles.decode? j = some g := by
  have hn : (["hyphen", "underline", "dollar"] : List Text).Nodup := by decide
  obtain ⟨es', rfl, hfinds⟩ := exists_finds_of_restated h (not_isVariant_cons_cons _ _ _) hn
  have hhyphen : defaulted bool? false 0 "hyphen" (obj es') = some g.hyphen :=
    defaulted_of_finds hfinds 0 (by simp)
  have hunderline : defaulted bool? false 1 "underline" (obj es') = some g.underline :=
    defaulted_of_finds hfinds 1 (by simp)
  have hdollar : defaulted bool? false 2 "dollar" (obj es') = some g.dollar :=
    defaulted_of_finds hfinds 2 (by simp)
  have hpartial : isPartialRecord 3 (obj es') = true := rfl
  rw [decode?, if_pos hpartial, hhyphen, hunderline, hdollar]
  rfl

/-! ## all types -/

theorem Json.recovers_all :
    Recovers JoinKind.encode JoinKind.decode? ∧
    Recovers Wildcard.encode Wildcard.decode? ∧
    Recovers Marks.encode Marks.decode? ∧
    Recovers Relation.encode Relation.decode? ∧
    Recovers Clause.encode Clause.decode? ∧
    Recovers Reference.encode Reference.decode? ∧
    Recovers Join.Binding.encode Join.Binding.decode? ∧
    Recovers Join.encode Join.decode? ∧
    Recovers Toggles.encode Toggles.decode? := by
  refine ⟨?_, ?_, ?_, ?_, ?_, ?_, ?_, ?_, ?_⟩
  · exact recovers_of_restated JoinKind.decode?_of_restated
  · exact recovers_of_restated Wildcard.decode?_of_restated
  · exact recovers_of_restated Marks.decode?_of_restated
  · exact recovers_of_restated Relation.decode?_of_restated
  · exact recovers_of_restated Clause.decode?_of_restated
  · exact recovers_of_restated Reference.decode?_of_restated
  · exact recovers_of_restated Join.Binding.decode?_of_restated
  · exact recovers_of_restated Join.decode?_of_restated
  · exact recovers_of_restated Toggles.decode?_of_restated

/-- A join without its alias and with its fields in reverse, whose one clause has an unknown field,
and whose pattern has lost its leading mark and been given another field in front. -/
theorem Json.recovers_all_reversed :
    let join : Join := ⟨"/User", .app, ⟨"User", none⟩, 1,
      [⟨true, .like (.single .percent), "id"⟩]⟩
    let note : Entries Json := [("note", null)]
    let marks : Entries Json := [("trailing", str "Percent")]
    let clause : Entries Json := [("negated", bool true),
      ("relation", obj [("Like", obj (note ++ marks))]), ("key", str "id")]
    let fields : Entries Json := [("path", str "/User"), ("join_type", str "App"),
      ("table", str "User"), ("count", num (.int 1)), ("on_list", arr [obj (clause ++ note)])]
    Restated join.encode (obj fields.reverse) ∧
      Join.decode? (obj fields.reverse) = some join := by
  intro join note marks clause fields
  have hmarks : Restated (Marks.single .percent).encode (obj (note ++ marks)) := by
    have hkept : RestatedFields [("leading", null), ("trailing", str "Percent")] marks :=
      .drop (.inl ⟨by decide, rfl⟩) (.keep (restated_refl _) .nil)
    refine .record (not_isVariant_cons_cons _ _ _) hkept ?_ List.perm_append_comm
    exact List.forall_mem_singleton.2 (by decide)
  have hclause : Restated (Clause.encode ⟨true, .like (.single .percent), "id"⟩)
      (obj (clause ++ note)) := by
    have hrelation : Restated (Relation.like (.single .percent)).encode
        (obj [("Like", obj (note ++ marks))]) := .variant (List.mem_cons_self ..) hmarks
    have hkept : RestatedFields [("negated", bool true),
        ("relation", (Relation.like (.single .percent)).encode), ("key", str "id")] clause :=
      .keep (restated_refl _) (.keep hrelation (.keep (restated_refl _) .nil))
    refine .record (not_isVariant_cons_cons _ _ _) hkept ?_ (.refl _)
    exact List.forall_mem_singleton.2 (by decide)
  have hjoin : Restated join.encode (obj fields.reverse) := by
    have hclauses : Restated (arr (join.clauses.map Clause.encode)) (arr [obj (clause ++ note)]) :=
      .arr (.cons hclause .nil)
    have hkept : RestatedFields [("path", str "/User"), ("join_type", str "App"),
        ("table", str "User"), ("alias", null), ("count", num (.int 1)),
        ("on_list", arr (join.clauses.map Clause.encode))] fields :=
      .keep (restated_refl _) (.keep (restated_refl _) (.keep (restated_refl _)
        (.drop (.inl ⟨by decide, rfl⟩) (.keep (restated_refl _) (.keep hclauses .nil)))))
    refine .record (not_isVariant_cons_cons _ _ _) hkept (List.forall_mem_nil _) ?_
    rw [List.append_nil]
    exact List.reverse_perm fields
  exact ⟨hjoin, recovers_all.2.2.2.2.2.2.2.1.decode_restated join _ hjoin⟩

end KeyNotation

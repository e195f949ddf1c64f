import WebRouter.Proofs.TemplateDefects

/-!
# Instances of a template

An instance of a template is the template with a value in the place of every
parameter, and nothing else changed (`IsInstance`, `fill_self`). Neither a value nor a
literal segment holds a slash, so that the pieces between the slashes of an instance
are the filled segments, one by one (`Text.pieces_eq_iff`), and a piece says what the
value of its parameter is, since no two parameters have the same name
(`bindSegments_eq_some_iff`).

> `bind?_split_eq_some_iff`: a path fits a template with certain values exactly if it
> is the template with these filled in.
-/

namespace WebRouter

/-- Texts without the separator are the pieces of a text exactly if the text is made
of them, with the separator in between. -/
theorem Text.pieces_eq_iff {sep : Char} {texts : List String} (hne : texts ≠ [])
    (hsep : ∀ text ∈ texts, sep ∉ text.toList) {whole : String} :
    Text.pieces sep whole = texts ↔ whole = (String.singleton sep).intercalate texts := by
  have hback : (String.ofList ∘ String.toList) = id := funext fun _ => String.ofList_toList
  have hforth : (String.toList ∘ String.ofList) = id := funext fun _ => String.toList_ofList
  constructor
  · intro h
    rw [← String.toList_inj, String.toList_intercalate, String.toList_singleton, ← h, pieces,
      List.map_map, hforth, List.map_id, intercalate_splitOn]
  · intro h
    have hlists : ∀ text ∈ texts.map String.toList, sep ∉ text := by
      intro text htext
      obtain ⟨s, hs, rfl⟩ := List.mem_map.mp htext
      exact hsep s hs
    have hlists_ne : texts.map String.toList ≠ [] := fun e => hne (List.map_eq_nil_iff.mp e)
    rw [pieces, h, String.toList_intercalate, String.toList_singleton,
      splitOn_intercalate hlists_ne hlists, List.map_map, hback, List.map_id]

namespace Template

/-- A path is the template with values in the place of its parameters. The values
are named as the parameters are, in their order. -/
structure IsInstance (template : String) (params : List (String × String)) (path : String) :
    Prop where
  names : params.map Prod.fst = paramNames (split template)
  values : ∀ param ∈ params, isValue param.2 = true
  filled : path = fill (split template) params

/-! ## Filling in -/

/-- The value of a parameter does not count for a segment that is not this parameter. -/
theorem fillSegment_cons_of_ne {name : String} {segment : Segment}
    (h : segment.name? ≠ some name) (value : String) (params : List (String × String)) :
    fillSegment ((name, value) :: params) segment = fillSegment params segment := by
  cases segment with
  | literal text => rfl
  | param other =>
    have hne : (other == name) = false := by
      rw [beq_eq_false_iff_ne]
      exact fun e => h (congrArg some e)
    rw [fillSegment, fillSegment, List.lookup_cons, hne]

/-- The value of a parameter does not count for segments without this parameter. -/
theorem map_fillSegment_cons {name : String} {pattern : List Segment}
    (h : name ∉ paramNames pattern) (value : String) (params : List (String × String)) :
    pattern.map (fillSegment ((name, value) :: params)) = pattern.map (fillSegment params) := by
  refine List.map_congr_left fun segment hsegment => ?_
  exact fillSegment_cons_of_ne (fun hname => h (List.mem_filterMap.mpr ⟨segment, hsegment, hname⟩))
    value params

/-- A parameter whose value is told by its name. -/
theorem lookup_own {own : String → String} {name : String} {names : List String}
    (h : name ∈ names) :
    (names.map fun name => (name, own name)).lookup name = some (own name) := by
  induction names with
  | nil => cases h
  | cons first names ih =>
    rw [List.map_cons, List.lookup_cons]
    by_cases he : name = first
    · rw [he, beq_self_eq_true]
    · rw [beq_eq_false_iff_ne.mpr he]
      exact ih ((List.mem_cons.mp h).resolve_left he)

theorem fillSegment_param_self (name value : String) (params : List (String × String)) :
    fillSegment ((name, value) :: params) (.param name) = value := by
  rw [fillSegment, List.lookup_cons_self, Option.getD_some]

/-- What is bound to pieces are the values that were filled in. -/
theorem bindSegments_eq_some_iff {pattern : List Segment} (hdistinct : (paramNames pattern).Nodup)
    {pieces : List String} {params : List (String × String)} :
    bindSegments pattern pieces = some params ↔
      params.map Prod.fst = paramNames pattern ∧ (∀ param ∈ params, isValue param.2 = true)
        ∧ pieces = pattern.map (fillSegment params) := by
  induction pattern generalizing pieces params with
  | nil =>
    cases pieces with
    | nil =>
      rw [bindSegments, Option.some.injEq]
      constructor
      · rintro rfl
        exact ⟨rfl, fun _ h => (List.not_mem_nil h).elim, rfl⟩
      · rintro ⟨hnames, -, -⟩
        exact (List.map_eq_nil_iff.mp hnames).symm
    | cons piece pieces => exact iff_of_false (fun h => by cases h) (fun h => by cases h.2.2)
  | cons segment pattern ih =>
    cases segment with
    | literal text =>
      rw [paramNames_literal] at hdistinct ⊢
      rw [List.map_cons]
      cases pieces with
      | nil => exact iff_of_false (fun h => by cases h) (fun h => by cases h.2.2)
      | cons piece pieces =>
        rw [bindSegments, List.cons.injEq]
        by_cases he : piece = text
        · rw [if_pos he, ih hdistinct]
          exact ⟨fun ⟨hn, hv, hp⟩ => ⟨hn, hv, he, hp⟩, fun ⟨hn, hv, _, hp⟩ => ⟨hn, hv, hp⟩⟩
        · rw [if_neg he]
          exact iff_of_false (fun h => by cases h) (fun h => he h.2.2.1)
    | param name =>
      rw [paramNames_param] at hdistinct ⊢
      obtain ⟨hnew, hothers⟩ := List.nodup_cons.mp hdistinct
      rw [List.map_cons]
      cases pieces with
      | nil => exact iff_of_false (fun h => by cases h) (fun h => by cases h.2.2)
      | cons piece pieces =>
        rw [bindSegments]
        constructor
        · intro h
          by_cases hvalue : isValue piece = true
          · rw [if_pos hvalue] at h
            obtain ⟨rest, hrest, rfl⟩ := Option.map_eq_some_iff.mp h
            obtain ⟨hnames, hvalues, hpieces⟩ := (ih hothers).mp hrest
            refine ⟨?_, List.forall_mem_cons.mpr ⟨hvalue, hvalues⟩, ?_⟩
            · rw [List.map_cons, hnames]
            · rw [fillSegment_param_self, map_fillSegment_cons hnew, hpieces]
          · rw [if_neg hvalue] at h
            cases h
        · rintro ⟨hnames, hvalues, hpieces⟩
          obtain ⟨⟨key, value⟩, rest, rfl, hkey, hrest⟩ := List.map_eq_cons_iff.mp hnames
          have hkey : key = name := hkey
          subst hkey
          obtain ⟨hvalue, hmore⟩ := List.forall_mem_cons.mp hvalues
          rw [fillSegment_param_self, map_fillSegment_cons hnew] at hpieces
          obtain ⟨rfl, hothers_filled⟩ := List.cons.inj hpieces
          rw [if_pos hvalue, (ih hothers).mpr ⟨hrest, hmore, hothers_filled⟩, Option.map_some]

/-! ## Slashes -/

/-- A segment that stands for itself holds no slash. -/
def Slashless : Segment → Prop
  | .literal text => '/' ∉ text.toList
  | .param _ => True

theorem slashless_ofText {text : String} (h : '/' ∉ text.toList) :
    Slashless (Segment.ofText text) := by
  unfold Segment.ofText
  split
  · trivial
  · exact h

theorem slash_not_mem_of_mem_pieces {template text : String} (h : text ∈ Text.pieces '/' template) :
    '/' ∉ text.toList := by
  obtain ⟨piece, hpiece, rfl⟩ := List.mem_map.mp h
  rw [String.toList_ofList]
  exact Text.not_mem_of_mem_splitOn hpiece

theorem slashless_of_mem_split {template : String} {segment : Segment}
    (h : segment ∈ split template) : Slashless segment := by
  obtain ⟨text, htext, rfl⟩ := List.mem_map.mp h
  exact slashless_ofText (slash_not_mem_of_mem_pieces htext)

theorem split_ne_nil (template : String) : split template ≠ [] := by
  intro h
  have hpieces : Text.pieces '/' template = [] := List.map_eq_nil_iff.mp h
  exact Text.splitOn_ne_nil _ _ (List.map_eq_nil_iff.mp hpieces)

/-- A value holds no slash. -/
theorem slash_not_mem_of_isValue {text : String} (h : isValue text = true) :
    '/' ∉ text.toList := by
  rw [isValue, Bool.and_eq_true] at h
  intro hslash
  have hword : Text.isWordChar '/' = true := List.all_eq_true.mp h.2 '/' hslash
  exact absurd hword (by decide)

/-- No filled segment holds a slash. -/
theorem slash_not_mem_fillSegment {params : List (String × String)}
    (hvalues : ∀ param ∈ params, isValue param.2 = true) {segment : Segment}
    (h : Slashless segment) : '/' ∉ (fillSegment params segment).toList := by
  cases segment with
  | literal text => exact h
  | param name =>
    rw [fillSegment]
    cases hlookup : params.lookup name with
    | none => exact List.not_mem_nil
    | some value =>
      obtain ⟨before, after, hparams, -⟩ := List.lookup_eq_some_iff.mp hlookup
      refine slash_not_mem_of_isValue (hvalues (name, value) ?_)
      rw [hparams]
      exact List.mem_append_right _ List.mem_cons_self

/-- A path fits a template exactly as an instance of it. -/
theorem bind?_split_eq_some_iff {template : String} (hnamed : WellNamed template) {path : String}
    {params : List (String × String)} :
    bind? (split template) path = some params ↔ IsInstance template params path := by
  rw [bind?, bindSegments_eq_some_iff hnamed.distinct]
  have hne : (split template).map (fillSegment params) ≠ [] :=
    fun h => split_ne_nil template (List.map_eq_nil_iff.mp h)
  constructor
  · rintro ⟨hnames, hvalues, hpieces⟩
    refine ⟨hnames, hvalues, (Text.pieces_eq_iff hne ?_).mp hpieces⟩
    intro text htext
    obtain ⟨segment, hsegment, rfl⟩ := List.mem_map.mp htext
    exact slash_not_mem_fillSegment hvalues (slashless_of_mem_split hsegment)
  · rintro ⟨hnames, hvalues, hfilled⟩
    refine ⟨hnames, hvalues, (Text.pieces_eq_iff hne ?_).mpr hfilled⟩
    intro text htext
    obtain ⟨segment, hsegment, rfl⟩ := List.mem_map.mp htext
    exact slash_not_mem_fillSegment hvalues (slashless_of_mem_split hsegment)

/-- Filling in changes nothing but parameters: with each parameter as its own value, a
template is filled in to itself. -/
theorem fill_self (template : String) :
    fill (split template) ((paramNames (split template)).map fun name => (name, ":" ++ name))
      = template := by
  have hself : ∀ text ∈ Text.pieces '/' template, fillSegment
      ((paramNames (split template)).map fun name => (name, ":" ++ name))
      (Segment.ofText text) = text := by
    intro text htext
    have hsegment : Segment.ofText text ∈ split template := List.mem_map_of_mem htext
    revert hsegment
    unfold Segment.ofText
    split
    · next name hname =>
      intro hsegment
      have hmem : String.ofList name ∈ paramNames (split template) :=
        List.mem_filterMap.mpr ⟨_, hsegment, rfl⟩
      rw [fillSegment, lookup_own hmem, Option.getD_some, ← String.toList_inj,
        String.toList_append, String.toList_ofList, String.toList_ofList, hname]
      rfl
    · intro _
      rfl
  have hne : Text.pieces '/' template ≠ [] :=
    fun h => split_ne_nil template (List.map_eq_nil_iff.mpr h)
  have hslash : ∀ text ∈ Text.pieces '/' template, '/' ∉ text.toList :=
    fun _ => slash_not_mem_of_mem_pieces
  have hfilled : (split template).map (fillSegment
      ((paramNames (split template)).map fun name => (name, ":" ++ name)))
      = Text.pieces '/' template := by
    rw [split, List.map_map]
    exact (List.map_congr_left hself).trans (List.map_id _)
  rw [fill, hfilled]
  exact ((Text.pieces_eq_iff hne hslash).mp rfl).symm

end Template

end WebRouter

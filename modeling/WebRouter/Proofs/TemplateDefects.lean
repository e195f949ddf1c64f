import WebRouter.Template

/-!
# What is wrong with a template

A template is well named if each of its parameters has a name, and no two have the
same one. `NamedAfter` says this of segments that come after parameters whose names
are taken already, which is how the search for a defect goes on from one segment to
the next. Where a template is not well named there is a leftmost segment that
offends, one without a name or one whose name is taken, and what is wrong with it is
what is wrong with the template (`LeftmostDefect`).

> `pattern?_eq_ok_iff`, `pattern?_eq_error_iff`: a template is accepted exactly if it
> is well named, and what is reported otherwise is its leftmost defect.
-/

namespace WebRouter.Template

/-- Segments that may follow parameters of the names `taken`: each parameter has a
name, one that is not taken, and no two have the same. -/
structure NamedAfter (taken : List String) (segments : List Segment) : Prop where
  named : "" ∉ paramNames segments
  untaken : ∀ name ∈ paramNames segments, name ∉ taken
  distinct : (paramNames segments).Nodup

/-- A template whose parameters all have names of their own. -/
def WellNamed (template : String) : Prop :=
  NamedAfter [] (split template)

/-- What is wrong with a segment where the names `taken` are taken. -/
inductive Offends (taken : List String) : Segment → Defect → Prop
  | unnamed : Offends taken (.param "") .unnamed
  | duplicate {name : String} (hname : name ≠ "") (htaken : name ∈ taken) :
      Offends taken (.param name) (.duplicate name)

/-- The leftmost segment that offends, and what is wrong with it. -/
def LeftmostDefect (segments : List Segment) (defect : Defect) : Prop :=
  ∃ before segment after, segments = before ++ segment :: after
    ∧ NamedAfter [] before ∧ Offends (paramNames before) segment defect

/-! ## Names of parameters -/

theorem paramNames_literal (text : String) (segments : List Segment) :
    paramNames (.literal text :: segments) = paramNames segments :=
  rfl

theorem paramNames_param (name : String) (segments : List Segment) :
    paramNames (.param name :: segments) = name :: paramNames segments :=
  rfl

theorem namedAfter_nil (taken : List String) : NamedAfter taken [] :=
  ⟨List.not_mem_nil, fun _ h => (List.not_mem_nil h).elim, List.nodup_nil⟩

theorem namedAfter_literal {taken : List String} {text : String} {segments : List Segment} :
    NamedAfter taken (.literal text :: segments) ↔ NamedAfter taken segments :=
  ⟨fun h => ⟨h.named, h.untaken, h.distinct⟩, fun h => ⟨h.named, h.untaken, h.distinct⟩⟩

/-- The first parameter takes its name, and the others come after it. -/
theorem namedAfter_param {taken : List String} {name : String} {segments : List Segment} :
    NamedAfter taken (.param name :: segments) ↔
      name ≠ "" ∧ name ∉ taken ∧ NamedAfter (name :: taken) segments := by
  constructor
  · intro h
    have hnamed := h.named
    have huntaken := h.untaken
    have hdistinct := h.distinct
    rw [paramNames_param] at hnamed huntaken hdistinct
    obtain ⟨hne, hnamed⟩ := not_or.mp (mt List.mem_cons.mpr hnamed)
    obtain ⟨hname, huntaken⟩ := List.forall_mem_cons.mp huntaken
    obtain ⟨hnew, hdistinct⟩ := List.nodup_cons.mp hdistinct
    refine ⟨Ne.symm hne, hname, hnamed, ?_, hdistinct⟩
    intro other hother hmem
    rcases List.mem_cons.mp hmem with rfl | hmem
    · exact hnew hother
    · exact huntaken other hother hmem
  · rintro ⟨hne, hname, h⟩
    have huntaken : ∀ other ∈ paramNames segments, other ≠ name ∧ other ∉ taken :=
      fun other hother => not_or.mp (mt List.mem_cons.mpr (h.untaken other hother))
    refine ⟨?_, ?_, ?_⟩
    · rw [paramNames_param]
      exact fun hmem => (List.mem_cons.mp hmem).elim (fun e => hne e.symm) h.named
    · rw [paramNames_param]
      exact List.forall_mem_cons.mpr ⟨hname, fun other hother => (huntaken other hother).2⟩
    · rw [paramNames_param]
      exact List.nodup_cons.mpr ⟨fun hmem => (huntaken name hmem).1 rfl, h.distinct⟩

/-! ## The search for a defect -/

/-- Nothing is found exactly if nothing is wrong. -/
theorem defectAfter?_eq_none_iff {taken : List String} {segments : List Segment} :
    defectAfter? taken segments = none ↔ NamedAfter taken segments := by
  induction segments generalizing taken with
  | nil => exact iff_of_true rfl (namedAfter_nil taken)
  | cons segment segments ih =>
    cases segment with
    | literal text => rw [defectAfter?, ih, namedAfter_literal]
    | param name =>
      rw [defectAfter?, namedAfter_param]
      by_cases hne : name = ""
      · rw [if_pos hne]
        exact iff_of_false (fun h => by cases h) (fun h => h.1 hne)
      · by_cases htaken : name ∈ taken
        · rw [if_neg hne, if_pos htaken]
          exact iff_of_false (fun h => by cases h) (fun h => h.2.1 htaken)
        · rw [if_neg hne, if_neg htaken, ih]
          exact ⟨fun h => ⟨hne, htaken, h⟩, fun h => h.2.2⟩

/-- The search passes over what is well named, and takes the names down. -/
theorem defectAfter?_append {taken : List String} {before : List Segment}
    (h : NamedAfter taken before) (after : List Segment) :
    defectAfter? taken (before ++ after)
      = defectAfter? ((paramNames before).reverse ++ taken) after := by
  induction before generalizing taken with
  | nil => rfl
  | cons segment before ih =>
    cases segment with
    | literal text =>
      rw [List.cons_append, defectAfter?, ih (namedAfter_literal.mp h), paramNames_literal]
    | param name =>
      obtain ⟨hne, htaken, hrest⟩ := namedAfter_param.mp h
      rw [List.cons_append, defectAfter?, if_neg hne, if_neg htaken, ih hrest, paramNames_param,
        List.reverse_cons, List.append_assoc, List.singleton_append]

/-- A segment that offends ends the search. -/
theorem Offends.defectAfter? {taken : List String} {segment : Segment} {defect : Defect}
    (h : Offends taken segment defect) (after : List Segment) :
    Template.defectAfter? taken (segment :: after) = some defect := by
  cases h with
  | unnamed => rw [Template.defectAfter?, if_pos rfl]
  | duplicate hname htaken => rw [Template.defectAfter?, if_neg hname, if_pos htaken]

/-- What is found is wrong with the first segment that offends. -/
theorem exists_offends_of_defectAfter? {taken : List String} {segments : List Segment}
    {defect : Defect} (h : defectAfter? taken segments = some defect) :
    ∃ before segment after, segments = before ++ segment :: after ∧ NamedAfter taken before
      ∧ Offends ((paramNames before).reverse ++ taken) segment defect := by
  induction segments generalizing taken with
  | nil => cases h
  | cons segment segments ih =>
    cases segment with
    | literal text =>
      obtain ⟨before, offender, after, rfl, hbefore, hoffends⟩ := ih h
      exact ⟨.literal text :: before, offender, after, rfl, namedAfter_literal.mpr hbefore,
        hoffends⟩
    | param name =>
      rw [defectAfter?] at h
      by_cases hne : name = ""
      · rw [if_pos hne] at h
        cases h
        exact ⟨[], .param name, segments, rfl, namedAfter_nil taken, hne ▸ .unnamed⟩
      · by_cases htaken : name ∈ taken
        · rw [if_neg hne, if_pos htaken] at h
          cases h
          exact ⟨[], .param name, segments, rfl, namedAfter_nil taken, .duplicate hne htaken⟩
        · -- this parameter is in order, so the offender comes after it
          rw [if_neg hne, if_neg htaken] at h
          obtain ⟨before, offender, after, rfl, hbefore, hoffends⟩ := ih h
          refine ⟨.param name :: before, offender, after, rfl,
            namedAfter_param.mpr ⟨hne, htaken, hbefore⟩, ?_⟩
          rw [paramNames_param, List.reverse_cons, List.append_assoc, List.singleton_append]
          exact hoffends

/-- Whether a name is taken does not depend on the order of the names. -/
theorem Offends.congr {taken taken' : List String} (hsame : ∀ name, name ∈ taken ↔ name ∈ taken')
    {segment : Segment} {defect : Defect} (h : Offends taken segment defect) :
    Offends taken' segment defect := by
  cases h with
  | unnamed => exact .unnamed
  | duplicate hname htaken => exact .duplicate hname ((hsame _).mp htaken)

/-- What the search finds, if no name is taken yet, is the leftmost defect. -/
theorem defectAfter?_nil_eq_some_iff {segments : List Segment} {defect : Defect} :
    defectAfter? [] segments = some defect ↔ LeftmostDefect segments defect := by
  have hsame : ∀ (before : List Segment) (name : String),
      name ∈ (paramNames before).reverse ++ [] ↔ name ∈ paramNames before := by
    intro before name
    rw [List.append_nil, List.mem_reverse]
  constructor
  · intro h
    obtain ⟨before, segment, after, hsegments, hbefore, hoffends⟩ :=
      exists_offends_of_defectAfter? h
    exact ⟨before, segment, after, hsegments, hbefore, hoffends.congr (hsame before)⟩
  · rintro ⟨before, segment, after, rfl, hbefore, hoffends⟩
    rw [defectAfter?_append hbefore]
    exact (hoffends.congr fun name => (hsame before name).symm).defectAfter? after

/-! ## Templates -/

/-- A template is accepted exactly if it is well named, and its pattern are its
segments. -/
theorem pattern?_eq_ok_iff {template : String} {pattern : List Segment} :
    pattern? template = .ok pattern ↔ pattern = split template ∧ WellNamed template := by
  rw [pattern?, WellNamed, ← defectAfter?_eq_none_iff]
  cases defectAfter? [] (split template) with
  | none => exact ⟨fun h => by cases h; exact ⟨rfl, rfl⟩, fun h => by rw [h.1]⟩
  | some defect => exact iff_of_false (fun h => by cases h) (fun h => by cases h.2)

/-- A template is refused with its leftmost defect. -/
theorem pattern?_eq_error_iff {template : String} {defect : Defect} :
    pattern? template = .error defect ↔ LeftmostDefect (split template) defect := by
  rw [pattern?, ← defectAfter?_nil_eq_some_iff]
  cases defectAfter? [] (split template) with
  | none => exact iff_of_false (fun h => by cases h) (fun h => by cases h)
  | some found =>
    constructor
    · intro h; cases h; rfl
    · intro h; cases h; rfl

end WebRouter.Template

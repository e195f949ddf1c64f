import WebRouter.Proofs.Compiling
import WebRouter.Proofs.TemplateInstances

/-!
# A template as a regular expression

A template can be read as a regular expression: literal segments as the text they are,
parameters as groups of one or more word characters, with slashes between them
(`Template.expression`). What such an expression matches does not depend on how a
matcher searches, and `Template.Matches` says it without any search. Neither a literal
segment nor a group can match a slash, so that the slashes of a text are those between
the segments, and segment by segment the expression matches what the template binds
(`Template.matches_iff`). A path is matched in one way at most, and there are always as
many groups as names.

> `Route.bind?_iff_instance`: a route accepts the instances of its template and no
> other path, each with the values that were filled in.
-/

namespace WebRouter

/-- A text is one piece, or it has a first piece and goes on after a separator. -/
theorem Text.splitOn_cases (sep : Char) (text : List Char) :
    (sep ∉ text ∧ Text.splitOn sep text = [text])
      ∨ ∃ first rest, text = first ++ sep :: rest ∧ sep ∉ first
        ∧ Text.splitOn sep text = first :: Text.splitOn sep rest := by
  by_cases h : sep ∈ text
  · obtain ⟨first, rest, rfl, hfirst⟩ := List.eq_append_cons_of_mem h
    exact Or.inr ⟨first, rest, rfl, hfirst, splitOn_append_cons hfirst rest⟩
  · exact Or.inl ⟨h, splitOn_of_not_mem h⟩

namespace Template

/-- A part of the expression that a template stands for. -/
inductive Atom where
  /-- exactly this text, whatever its characters mean elsewhere -/
  | exactly (text : List Char)
  /-- one or more word characters, as a group -/
  | group
  deriving DecidableEq

/-- What an atom matches, and the groups it leaves. -/
inductive Atom.Matches : Atom → List Char → List (List Char) → Prop
  | exactly (text : List Char) : Matches (.exactly text) text []
  | group {text : List Char} (hne : text ≠ []) (hword : ∀ c ∈ text, Text.isWordChar c = true) :
      Matches .group text [text]

/-- What atoms in a row match: one text after the other, with the groups of all. -/
inductive Matches : List Atom → List Char → List (List Char) → Prop
  | nil : Matches [] [] []
  | cons {atom : Atom} {atoms : List Atom} {text rest : List Char} {own more : List (List Char)}
      (hatom : atom.Matches text own) (hrest : Matches atoms rest more) :
      Matches (atom :: atoms) (text ++ rest) (own ++ more)

/-- The slash between two segments. -/
def slash : Atom := .exactly ['/']

/-- The atom for a segment. -/
def atomOf : Segment → Atom
  | .literal text => .exactly text.toList
  | .param _ => .group

/-- The atoms for segments, with slashes between them. -/
def atomsOf (segments : List Segment) : List Atom :=
  (segments.map atomOf).intersperse slash

/-- The expression that a template stands for. -/
def expression (template : String) : List Atom :=
  atomsOf ((segments template).map Segment.ofText)

/-- The values of parameters, as groups. -/
def groupsOf (params : List (String × String)) : List (List Char) :=
  params.map fun param => param.2.toList

/-- A value is one or more word characters. -/
theorem isValue_ofList_iff {text : List Char} :
    isValue (String.ofList text) = true ↔
      text ≠ [] ∧ ∀ c ∈ text, Text.isWordChar c = true := by
  rw [isValue, String.toList_ofList, Bool.and_eq_true, Bool.not_eq_true', List.all_eq_true,
    List.isEmpty_eq_false_iff]

theorem matches_slash_iff {atoms : List Atom} {text : List Char} {groups : List (List Char)} :
    Matches (slash :: atoms) text groups ↔
      ∃ rest, text = '/' :: rest ∧ Matches atoms rest groups := by
  constructor
  · intro h
    cases h with
    | @cons _ _ _ rest _ _ hatom hrest =>
      cases hatom
      exact ⟨rest, rfl, hrest⟩
  · rintro ⟨rest, rfl, h⟩
    exact .cons (.exactly ['/']) h

/-- An atom for no text at all changes nothing. -/
theorem matches_nothing_iff {atoms : List Atom} {text : List Char} {groups : List (List Char)} :
    Matches (.exactly [] :: atoms) text groups ↔ Matches atoms text groups := by
  constructor
  · intro h
    cases h with
    | cons hatom hrest =>
      cases hatom
      exact hrest
  · intro h
    exact .cons (.exactly []) h

theorem matches_singleton_iff {atom : Atom} {text : List Char} {groups : List (List Char)} :
    Matches [atom] text groups ↔ atom.Matches text groups := by
  constructor
  · intro h
    cases h with
    | cons hatom hrest =>
      cases hrest
      rw [List.append_nil, List.append_nil]
      exact hatom
  · intro h
    have hrow := Matches.cons h .nil
    rwa [List.append_nil, List.append_nil] at hrow

/-- A segment binds the first piece, and the other segments bind the others. -/
theorem bindSegments_cons (segment : Segment) (pattern : List Segment) (piece : String)
    (pieces : List String) :
    bindSegments (segment :: pattern) (piece :: pieces)
      = (bindSegments [segment] [piece]).bind fun own =>
          (bindSegments pattern pieces).map (own ++ ·) := by
  cases segment with
  | literal text =>
    rw [bindSegments, bindSegments]
    by_cases he : piece = text
    · rw [if_pos he, if_pos he, bindSegments, Option.bind_some]
      exact Option.map_id'.symm
    · rw [if_neg he, if_neg he, Option.bind_none]
  | param name =>
    rw [bindSegments, bindSegments]
    by_cases hvalue : isValue piece = true
    · rw [if_pos hvalue, if_pos hvalue, bindSegments, Option.map_some, Option.bind_some]
      rfl
    · rw [if_neg hvalue, if_neg hvalue, Option.bind_none]

/-- What the atom of a segment matches is a piece that the segment binds. -/
theorem matches_atomOf_iff {segment : Segment} {text : List Char} {own : List (List Char)} :
    (atomOf segment).Matches text own ↔
      ∃ params, bindSegments [segment] [String.ofList text] = some params
        ∧ own = groupsOf params := by
  cases segment with
  | literal literal =>
    rw [bindSegments]
    constructor
    · intro h
      cases h
      exact ⟨[], by rw [String.ofList_toList, if_pos rfl, bindSegments], rfl⟩
    · rintro ⟨params, hbound, rfl⟩
      by_cases he : String.ofList text = literal
      · rw [if_pos he, bindSegments, Option.some.injEq] at hbound
        rw [← hbound, atomOf, ← he, String.toList_ofList]
        exact .exactly text
      · rw [if_neg he] at hbound
        cases hbound
  | param name =>
    rw [bindSegments]
    constructor
    · intro h
      cases h with
      | group hne hword =>
        refine ⟨[(name, String.ofList text)], ?_, ?_⟩
        · rw [if_pos (isValue_ofList_iff.mpr ⟨hne, hword⟩), bindSegments, Option.map_some]
        · rw [groupsOf, List.map_singleton, String.toList_ofList]
    · rintro ⟨params, hbound, rfl⟩
      by_cases hvalue : isValue (String.ofList text) = true
      · rw [if_pos hvalue, bindSegments, Option.map_some, Option.some.injEq] at hbound
        obtain ⟨hne, hword⟩ := isValue_ofList_iff.mp hvalue
        rw [← hbound, groupsOf, List.map_singleton, String.toList_ofList]
        exact .group hne hword
      · rw [if_neg hvalue] at hbound
        cases hbound

/-- Segments without slashes match pieces without slashes. -/
theorem slash_not_mem_of_matches {segment : Segment} (h : Slashless segment) {text : List Char}
    {own : List (List Char)} (hmatches : (atomOf segment).Matches text own) : '/' ∉ text := by
  cases segment with
  | literal literal =>
    cases hmatches
    exact h
  | param name =>
    cases hmatches with
    | group hne hword =>
      intro hslash
      exact absurd (hword '/' hslash) (by decide)

/-- What the atoms of segments match are the pieces of a text that the segments bind. -/
theorem matches_atomsOf_iff {pattern : List Segment} (hne : pattern ≠ [])
    (hslashless : ∀ segment ∈ pattern, Slashless segment) {text : List Char}
    {groups : List (List Char)} :
    Matches (atomsOf pattern) text groups ↔
      ∃ params, bindSegments pattern ((Text.splitOn '/' text).map String.ofList) = some params
        ∧ groups = groupsOf params := by
  induction pattern generalizing text groups with
  | nil => exact absurd rfl hne
  | cons segment pattern ih =>
    obtain ⟨hfirst, hothers⟩ := List.forall_mem_cons.mp hslashless
    cases pattern with
    | nil =>
      show Matches [atomOf segment] text groups ↔ _
      rw [matches_singleton_iff]
      constructor
      · intro h
        rw [Text.splitOn_of_not_mem (slash_not_mem_of_matches hfirst h)]
        exact matches_atomOf_iff.mp h
      · rintro ⟨params, hbound, rfl⟩
        rcases Text.splitOn_cases '/' text with ⟨-, hsplit⟩ | ⟨first, rest, -, -, hsplit⟩
        · rw [hsplit] at hbound
          exact matches_atomOf_iff.mpr ⟨params, hbound, rfl⟩
        · -- there is a second piece, for which there is no segment
          obtain ⟨second, more, hmore⟩ :=
            List.exists_cons_of_ne_nil (Text.splitOn_ne_nil '/' rest)
          rw [hsplit, hmore, List.map_cons, bindSegments_cons] at hbound
          obtain ⟨own, -, hnone⟩ := Option.bind_eq_some_iff.mp hbound
          cases hnone
    | cons next pattern =>
      show Matches (atomOf segment :: slash :: atomsOf (next :: pattern)) text groups ↔ _
      have ih := fun {text groups} => @ih (List.cons_ne_nil next pattern) hothers text groups
      constructor
      · intro h
        cases h with
        | @cons _ _ piece _ own more hatom htail =>
          obtain ⟨rest, rfl, hrest⟩ := matches_slash_iff.mp htail
          obtain ⟨params, hparams, rfl⟩ := matches_atomOf_iff.mp hatom
          obtain ⟨others, hothers, rfl⟩ := ih.mp hrest
          refine ⟨params ++ others, ?_, List.map_append.symm⟩
          rw [Text.splitOn_append_cons (slash_not_mem_of_matches hfirst hatom), List.map_cons,
            bindSegments_cons, hparams, hothers]
          rfl
      · rintro ⟨params, hbound, rfl⟩
        rcases Text.splitOn_cases '/' text with ⟨-, hsplit⟩ | ⟨first, rest, rfl, -, hsplit⟩
        · -- there is no second piece for the second segment
          rw [hsplit, List.map_cons, bindSegments_cons] at hbound
          obtain ⟨own, -, hmore⟩ := Option.bind_eq_some_iff.mp hbound
          obtain ⟨others, hnone, -⟩ := Option.map_eq_some_iff.mp hmore
          cases next <;> cases hnone
        · rw [hsplit, List.map_cons, bindSegments_cons] at hbound
          obtain ⟨own, hown, hmore⟩ := Option.bind_eq_some_iff.mp hbound
          obtain ⟨others, hothers, rfl⟩ := Option.map_eq_some_iff.mp hmore
          rw [groupsOf, List.map_append]
          exact .cons (matches_atomOf_iff.mpr ⟨own, hown, rfl⟩)
            (matches_slash_iff.mpr ⟨rest, rfl, ih.mpr ⟨others, hothers, rfl⟩⟩)

/-- The root is one segment to look at, and to match it is to match what its two
empty segments match. -/
theorem matches_expression_iff {template : String} {text : List Char}
    {groups : List (List Char)} :
    Matches (expression template) text groups ↔ Matches (atomsOf (split template)) text groups := by
  by_cases hroot : template = "/"
  · subst hroot
    have hexpression : expression "/" = [slash] := by decide
    have hsplit : atomsOf (split "/") = [.exactly [], slash, .exactly []] := by decide
    rw [hexpression, hsplit, matches_nothing_iff, matches_slash_iff, matches_slash_iff]
    exact exists_congr fun rest => and_congr_right fun _ => matches_nothing_iff.symm
  · rw [expression, segments, if_neg hroot]
    rfl

/-- The expression of a template matches what the template binds, with the values as
its groups. -/
theorem matches_iff {template path : String} {groups : List (List Char)} :
    Matches (expression template) path.toList groups ↔
      ∃ params, bind? (split template) path = some params ∧ groups = groupsOf params := by
  rw [matches_expression_iff, matches_atomsOf_iff (split_ne_nil template)
    (fun _ => slashless_of_mem_split)]
  rfl

end Template

namespace Route

variable {η : Type}

/-- **A route accepts exactly the instances of its template**, each with the values
that were filled in. These are the only values that make the path of the template.
Read as a regular expression, the template matches the same paths, and whichever way
a match is found there are as many groups as names, and the groups are the values. -/
theorem bind?_iff_instance {stamp : Nat} {template : String} {handler : η} {route : Route η}
    (h : Route.compile stamp template (.handler handler) = .ok route) (path : String) :
    (∀ params, route.bind? path = some params ↔ Template.IsInstance template params path)
      ∧ (∀ params params', Template.IsInstance template params path →
          Template.IsInstance template params' path → params = params')
      ∧ (∀ params, route.bind? path = some params →
          Template.Matches (Template.expression template) path.toList (Template.groupsOf params))
      ∧ ∀ groups, Template.Matches (Template.expression template) path.toList groups →
          groups.length = route.paramNames.length
            ∧ route.bind? path = some (route.paramNames.zip (groups.map String.ofList)) := by
  obtain ⟨rfl, hnamed⟩ := compile_handler_eq_ok_iff.mp h
  have hiff : ∀ params, Template.bind? (Template.split template) path = some params ↔
      Template.IsInstance template params path :=
    fun params => Template.bind?_split_eq_some_iff hnamed
  refine ⟨hiff, ?_, ?_, ?_⟩
  · intro params params' hp hp'
    exact Option.some.inj (((hiff params).mpr hp).symm.trans ((hiff params').mpr hp'))
  · intro params hbound
    exact Template.matches_iff.mpr ⟨params, hbound, rfl⟩
  · intro groups hmatches
    obtain ⟨params, hbound, rfl⟩ := Template.matches_iff.mp hmatches
    have hnames : params.map Prod.fst = Template.paramNames (Template.split template) :=
      ((hiff params).mp hbound).names
    have hvalues : (Template.groupsOf params).map String.ofList = params.map Prod.snd := by
      rw [Template.groupsOf, List.map_map]
      exact List.map_congr_left fun _ _ => String.ofList_toList
    have hzip : params = (Template.paramNames (Template.split template)).zip
        ((Template.groupsOf params).map String.ofList) :=
      List.zip_of_prod hnames hvalues.symm
    refine ⟨?_, ?_⟩
    · show _ = (Template.paramNames (Template.split template)).length
      rw [Template.groupsOf, List.length_map, ← hnames, List.length_map]
    · show Template.bind? (Template.split template) path
        = some ((Template.paramNames (Template.split template)).zip _)
      rw [← hzip]
      exact hbound

/-- A template of a parameter, a literal segment of characters that mean something in
an expression, and an empty segment at its end. -/
theorem bind?_iff_instance_metacharacters :
    Route.compile 0 "/:user-id/v1.0+(x)*/" (.handler ())
        = .ok ⟨"/:user-id/v1.0+(x)*/",
            [.literal "", .param "user-id", .literal "v1.0+(x)*", .literal ""], (), 0⟩
      ∧ Template.IsInstance "/:user-id/v1.0+(x)*/" [("user-id", "ada_9")] "/ada_9/v1.0+(x)*/"
      ∧ Route.bind? (η := Unit) ⟨"/:user-id/v1.0+(x)*/",
          [.literal "", .param "user-id", .literal "v1.0+(x)*", .literal ""], (), 0⟩
          "/ada_9/v1.0+(x)*/" = some [("user-id", "ada_9")] := by
  have hcompiled : Route.compile 0 "/:user-id/v1.0+(x)*/" (.handler ())
      = .ok ⟨"/:user-id/v1.0+(x)*/",
          [.literal "", .param "user-id", .literal "v1.0+(x)*", .literal ""], (), 0⟩ := by
    rfl
  have hinstance : Template.IsInstance "/:user-id/v1.0+(x)*/" [("user-id", "ada_9")]
      "/ada_9/v1.0+(x)*/" :=
    ⟨by decide, by decide, by decide⟩
  exact ⟨hcompiled, hinstance, ((bind?_iff_instance hcompiled _).1 _).mpr hinstance⟩

end Route

end WebRouter

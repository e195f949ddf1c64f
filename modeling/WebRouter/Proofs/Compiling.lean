import WebRouter.Proofs.TemplateDefects
import WebRouter.Route

/-!
# What becomes of a mapping that is compiled

A mapping from templates to what is registered under them is compiled entry by entry.
An entry is at fault if it cannot be called, or if its template has a parameter without
a name or two of the same (`Route.AtFault`); `Route.Fault` is the reason to report, for
which the entry's being callable comes before its template, and the leftmost offending
segment before the others.

> `Route.compileAll_eq_error_iff`: a mapping is refused for its first entry at fault.
> `Route.compileAll_eq_ok_iff`: otherwise there is one compiled route for each entry, in
> their order.
-/

namespace WebRouter

variable {η : Type}

theorem Template.wellNamed_iff {template : String} :
    WellNamed template ↔
      "" ∉ paramNames (split template) ∧ (paramNames (split template)).Nodup :=
  ⟨fun h => ⟨h.named, h.distinct⟩, fun h => ⟨h.1, fun _ _ => List.not_mem_nil, h.2⟩⟩

theorem Template.exists_leftmostDefect_iff {template : String} :
    (∃ defect, LeftmostDefect (split template) defect) ↔ ¬ WellNamed template := by
  constructor
  · rintro ⟨defect, hdefect⟩ hnamed
    have haccepted := pattern?_eq_ok_iff.mpr ⟨rfl, hnamed⟩
    rw [pattern?_eq_error_iff.mpr hdefect] at haccepted
    cases haccepted
  · intro hnamed
    cases hpattern : pattern? template with
    | error defect => exact ⟨defect, pattern?_eq_error_iff.mp hpattern⟩
    | ok pattern => exact absurd (pattern?_eq_ok_iff.mp hpattern).2 hnamed

namespace Route

/-- An entry that cannot be registered. -/
def AtFault (entry : String × Registrand η) : Prop :=
  (∃ kind, entry.2 = .inert kind)
    ∨ "" ∈ Template.paramNames (Template.split entry.1)
    ∨ ¬ (Template.paramNames (Template.split entry.1)).Nodup

/-- Why an entry cannot be registered. -/
inductive Fault : String × Registrand η → RegistrationReason → Prop
  | notCallable (template kind : String) : Fault (template, .inert kind) (.notCallable kind)
  | template {template : String} {handler : η} {defect : Template.Defect}
      (h : Template.LeftmostDefect (Template.split template) defect) :
      Fault (template, .handler handler) (.template defect)

/-- A mapping is refused with an error that says what is wrong with its first entry at
fault. -/
def Refused (entries : List (String × Registrand η)) (e : RegistrationError) : Prop :=
  ∃ before entry after, entries = before ++ entry :: after
    ∧ (∀ earlier ∈ before, ¬ AtFault earlier) ∧ e.template = entry.1 ∧ Fault entry e.reason

/-- The entry that a route was compiled from. -/
def entry (route : Route η) : String × Registrand η :=
  (route.template, .handler route.handler)

/-- A route as it is compiled for a table. -/
structure Compiled (stamp : Nat) (route : Route η) : Prop where
  pattern : route.pattern = Template.split route.template
  named : Template.WellNamed route.template
  table : route.table = stamp

/-! ## One entry -/

/-- What a compiled route is made of. -/
theorem compile_handler_eq_ok_iff {stamp : Nat} {template : String} {handler : η}
    {route : Route η} :
    Route.compile stamp template (.handler handler) = .ok route ↔
      route = ⟨template, Template.split template, handler, stamp⟩
        ∧ Template.WellNamed template := by
  rw [Route.compile]
  cases hpattern : Template.pattern? template with
  | error defect =>
    refine iff_of_false (fun h => by cases h) ?_
    rintro ⟨-, hnamed⟩
    exact Template.exists_leftmostDefect_iff.mp
      ⟨defect, Template.pattern?_eq_error_iff.mp hpattern⟩ hnamed
  | ok pattern =>
    obtain ⟨rfl, hnamed⟩ := Template.pattern?_eq_ok_iff.mp hpattern
    constructor
    · intro h
      cases h
      exact ⟨rfl, hnamed⟩
    · rintro ⟨rfl, -⟩
      rfl

theorem compile_eq_ok_iff {stamp : Nat} {template : String} {registrand : Registrand η}
    {route : Route η} :
    Route.compile stamp template registrand = .ok route ↔
      route.entry = (template, registrand) ∧ route.Compiled stamp := by
  cases registrand with
  | inert kind =>
    refine iff_of_false (fun h => by cases h) ?_
    rintro ⟨hentry, -⟩
    cases hentry
  | handler handler =>
    rw [compile_handler_eq_ok_iff]
    constructor
    · rintro ⟨rfl, hnamed⟩
      exact ⟨rfl, ⟨rfl, hnamed, rfl⟩⟩
    · obtain ⟨template', pattern, handler', table⟩ := route
      rintro ⟨hentry, ⟨hpattern, hnamed, htable⟩⟩
      have hpattern : pattern = Template.split template' := hpattern
      have htable : table = stamp := htable
      cases hentry
      exact ⟨by rw [hpattern, htable], hnamed⟩

theorem compile_eq_error_iff {stamp : Nat} {template : String} {registrand : Registrand η}
    {e : RegistrationError} :
    Route.compile stamp template registrand = .error e ↔
      e.template = template ∧ Fault (template, registrand) e.reason := by
  obtain ⟨at_, reason⟩ := e
  cases registrand with
  | inert kind =>
    rw [Route.compile]
    constructor
    · intro h
      cases h
      exact ⟨rfl, .notCallable template kind⟩
    · rintro ⟨rfl, hfault⟩
      cases hfault
      rfl
  | handler handler =>
    rw [Route.compile]
    cases hpattern : Template.pattern? template with
    | error defect =>
      constructor
      · intro h
        cases h
        exact ⟨rfl, .template (Template.pattern?_eq_error_iff.mp hpattern)⟩
      · rintro ⟨rfl, hfault⟩
        cases hfault with
        | template hdefect =>
          rw [Template.pattern?_eq_error_iff.mpr hdefect] at hpattern
          cases hpattern
          rfl
    | ok pattern =>
      refine iff_of_false (fun h => by cases h) ?_
      rintro ⟨-, hfault⟩
      cases hfault with
      | template hdefect =>
        rw [Template.pattern?_eq_error_iff.mpr hdefect] at hpattern
        cases hpattern

/-- An entry is at fault exactly if there is something to report about it. -/
theorem atFault_iff {entry : String × Registrand η} :
    AtFault entry ↔ ∃ reason, Fault entry reason := by
  obtain ⟨template, registrand⟩ := entry
  cases registrand with
  | inert kind => exact iff_of_true (Or.inl ⟨kind, rfl⟩) ⟨_, .notCallable template kind⟩
  | handler handler =>
    have hnamed : AtFault (template, Registrand.handler handler) ↔
        ¬ Template.WellNamed template := by
      rw [Template.wellNamed_iff, Decidable.not_and_iff_not_or_not, Decidable.not_not]
      exact or_iff_right fun h => by obtain ⟨kind, hkind⟩ := h; cases hkind
    rw [hnamed, ← Template.exists_leftmostDefect_iff]
    constructor
    · rintro ⟨defect, hdefect⟩
      exact ⟨_, .template hdefect⟩
    · rintro ⟨reason, hfault⟩
      cases hfault with
      | template hdefect => exact ⟨_, hdefect⟩

theorem not_atFault_of_compile {stamp : Nat} {template : String} {registrand : Registrand η}
    {route : Route η} (h : Route.compile stamp template registrand = .ok route) :
    ¬ AtFault (template, registrand) := by
  intro hfault
  obtain ⟨reason, hreason⟩ := atFault_iff.mp hfault
  have hrefused : Route.compile stamp template registrand = .error ⟨template, reason⟩ :=
    compile_eq_error_iff.mpr ⟨rfl, hreason⟩
  rw [h] at hrefused
  cases hrefused

/-! ## All entries -/

/-- A mapping is refused exactly for its first entry at fault. -/
theorem compileAll_eq_error_iff {stamp : Nat} {entries : List (String × Registrand η)}
    {e : RegistrationError} :
    Route.compileAll stamp entries = .error e ↔ Refused entries e := by
  induction entries with
  | nil =>
    refine iff_of_false (fun h => by cases h) ?_
    rintro ⟨before, entry, after, hentries, -⟩
    exact List.append_ne_nil_of_right_ne_nil before (List.cons_ne_nil _ _) hentries.symm
  | cons first rest ih =>
    obtain ⟨template, registrand⟩ := first
    rw [Route.compileAll]
    cases hfirst : Route.compile stamp template registrand with
    | error e' =>
      obtain ⟨htemplate, hfault⟩ := compile_eq_error_iff.mp hfirst
      constructor
      · intro h
        cases h
        exact ⟨[], (template, registrand), rest, rfl, fun _ h => (List.not_mem_nil h).elim,
          htemplate, hfault⟩
      · rintro ⟨before, entry, after, hentries, hbefore, he, hreason⟩
        cases before with
        | nil =>
          obtain ⟨rfl, -⟩ := List.cons.inj hentries
          rw [compile_eq_error_iff.mpr ⟨he, hreason⟩] at hfirst
          cases hfirst
          rfl
        | cons earlier before =>
          obtain ⟨rfl, -⟩ := List.cons.inj hentries
          exact absurd (atFault_iff.mpr ⟨_, hfault⟩) (hbefore _ List.mem_cons_self)
    | ok route =>
      have hsound : ¬ AtFault (template, registrand) := not_atFault_of_compile hfirst
      have hrefused : Refused ((template, registrand) :: rest) e ↔ Refused rest e := by
        constructor
        · rintro ⟨before, entry, after, hentries, hbefore, he, hreason⟩
          cases before with
          | nil =>
            obtain ⟨rfl, -⟩ := List.cons.inj hentries
            exact absurd (atFault_iff.mpr ⟨_, hreason⟩) hsound
          | cons earlier before =>
            obtain ⟨-, hrest⟩ := List.cons.inj hentries
            exact ⟨before, entry, after, hrest, (List.forall_mem_cons.mp hbefore).2, he, hreason⟩
        · rintro ⟨before, entry, after, rfl, hbefore, he, hreason⟩
          exact ⟨(template, registrand) :: before, entry, after, rfl,
            List.forall_mem_cons.mpr ⟨hsound, hbefore⟩, he, hreason⟩
      rw [hrefused, ← ih]
      cases Route.compileAll stamp rest with
      | error e' => exact Iff.rfl
      | ok more => exact iff_of_false (fun h => by cases h) (fun h => by cases h)

/-- A mapping that is accepted is compiled entry by entry. -/
theorem compileAll_eq_ok_iff {stamp : Nat} {entries : List (String × Registrand η)}
    {routes : List (Route η)} :
    Route.compileAll stamp entries = .ok routes ↔
      routes.map entry = entries ∧ ∀ route ∈ routes, route.Compiled stamp := by
  induction entries generalizing routes with
  | nil =>
    rw [Route.compileAll, List.map_eq_nil_iff]
    constructor
    · intro h
      cases h
      exact ⟨rfl, fun _ h => (List.not_mem_nil h).elim⟩
    · rintro ⟨rfl, -⟩
      rfl
  | cons first rest ih =>
    obtain ⟨template, registrand⟩ := first
    rw [Route.compileAll, List.map_eq_cons_iff]
    constructor
    · intro h
      cases hfirst : Route.compile stamp template registrand with
      | error e => rw [hfirst] at h; cases h
      | ok route =>
        cases hrest : Route.compileAll stamp rest with
        | error e => rw [hfirst, hrest] at h; cases h
        | ok more =>
          rw [hfirst, hrest] at h
          cases h
          obtain ⟨hentry, hcompiled⟩ := compile_eq_ok_iff.mp hfirst
          obtain ⟨hentries, hmore⟩ := ih.mp hrest
          exact ⟨⟨route, more, rfl, hentry, hentries⟩,
            List.forall_mem_cons.mpr ⟨hcompiled, hmore⟩⟩
    · rintro ⟨⟨route, more, rfl, hentry, hentries⟩, hcompiled⟩
      obtain ⟨hroute, hmore⟩ := List.forall_mem_cons.mp hcompiled
      rw [compile_eq_ok_iff.mpr ⟨hentry, hroute⟩, ih.mpr ⟨hentries, hmore⟩]
      rfl

/-- A mapping is refused exactly if some entry is at fault. -/
theorem exists_refused_iff {entries : List (String × Registrand η)} :
    (∃ e, Refused entries e) ↔ ∃ entry ∈ entries, AtFault entry := by
  constructor
  · rintro ⟨e, before, entry, after, rfl, -, -, hfault⟩
    exact ⟨entry, List.mem_append_right _ List.mem_cons_self, atFault_iff.mpr ⟨_, hfault⟩⟩
  · rintro ⟨entry, hentry, hfault⟩
    cases hcompiled : Route.compileAll 0 entries with
    | error e => exact ⟨e, compileAll_eq_error_iff.mp hcompiled⟩
    | ok routes =>
      obtain ⟨rfl, hroutes⟩ := compileAll_eq_ok_iff.mp hcompiled
      obtain ⟨route, hroute, rfl⟩ := List.mem_map.mp hentry
      have hcompiled : Route.compile 0 route.template (.handler route.handler) = .ok route :=
        compile_eq_ok_iff.mpr ⟨rfl, hroutes route hroute⟩
      exact absurd hfault (not_atFault_of_compile hcompiled)

theorem not_atFault_of_compileAll {stamp : Nat} {entries : List (String × Registrand η)}
    {routes : List (Route η)} (h : Route.compileAll stamp entries = .ok routes) :
    ∀ entry ∈ entries, ¬ AtFault entry := by
  intro entry hentry hfault
  obtain ⟨e, he⟩ := exists_refused_iff.mpr ⟨entry, hentry, hfault⟩
  rw [compileAll_eq_error_iff.mpr he] at h
  cases h

end Route

end WebRouter

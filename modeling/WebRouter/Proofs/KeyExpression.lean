import WebRouter.Proofs.KeyRoundTrip

/-!
# A bracketed key, read by two expressions

A key can be read with two regular expressions: one has to match the whole key and
remembers its word and all of its brackets (`objectKey`), the other is looked for in the
brackets again and again and remembers one name each time (`subkey`). Neither
`Expression.Matches` nor `FoundAll` says how a matcher searches, only what it may find
and that it takes the leftmost match there is. The two agree on every key because there
is one way only to cut brackets up into names (`foundAll_brackets_iff`): a name ends at
the first bracket that closes, and none begins inside another.

> `parse?_iff_written`: a key is read exactly if it is written for a word and names on
> the way, it is read as them, and so the two expressions read it.
-/

namespace WebRouter.Query.Key

/-- A text that can stand in brackets: not empty, and without a bracket. -/
def Unbracketed (text : List Char) : Prop :=
  text ≠ [] ∧ '[' ∉ text ∧ ']' ∉ text

/-- A word and names on the way, at least one of them. -/
def IsPath (path : List String) : Prop :=
  ∃ word names, path = word :: names ∧ IsWord word ∧ names ≠ [] ∧ ∀ name ∈ names, IsName name

/-! ## Regular expressions -/

/-- A regular expression, as far as keys take one. -/
inductive Expression where
  /-- one character of a class -/
  | char (accepts : Char → Bool)
  /-- one expression after the other -/
  | seq (first second : Expression)
  /-- the same one or more times -/
  | plus (repeated : Expression)
  /-- the text that is matched is remembered -/
  | group (inner : Expression)

namespace Expression

/-- What an expression matches, and what its groups remember, from left to right. Of a
repeated group that is the last text. -/
inductive Matches : Expression → List Char → List (List Char) → Prop
  | char {accepts : Char → Bool} {c : Char} (h : accepts c = true) :
      Matches (.char accepts) [c] []
  | seq {first second : Expression} {s t : List Char} {own more : List (List Char)}
      (hfirst : Matches first s own) (hsecond : Matches second t more) :
      Matches (.seq first second) (s ++ t) (own ++ more)
  | once {repeated : Expression} {s : List Char} {groups : List (List Char)}
      (h : Matches repeated s groups) : Matches (.plus repeated) s groups
  | again {repeated : Expression} {s t : List Char} {own more : List (List Char)}
      (h : Matches repeated s own) (hmore : Matches (.plus repeated) t more) :
      Matches (.plus repeated) (s ++ t) more
  | group {inner : Expression} {s : List Char} {groups : List (List Char)}
      (h : Matches inner s groups) : Matches (.group inner) s (s :: groups)

/-- What an expression with one group finds in a text when it is looked for from left to
right, each time behind the match before: what the group remembers, match by match. -/
inductive FoundAll (e : Expression) : List Char → List (List Char) → Prop
  | nothing {text : List Char}
      (h : ∀ before matched after groups, text = before ++ (matched ++ after) →
        ¬ e.Matches matched groups) :
      FoundAll e text []
  | next {before matched after remembered : List Char} {rest : List (List Char)}
      (hmatched : e.Matches matched [remembered])
      (hleftmost : ∀ earlier other later groups,
        before ++ (matched ++ after) = earlier ++ (other ++ later) → e.Matches other groups →
          before.length ≤ earlier.length)
      (hrest : FoundAll e after rest) :
      FoundAll e (before ++ (matched ++ after)) (remembered :: rest)

/-- A bracket that opens. -/
def opening : Expression := .char (· == '[')

/-- A bracket that closes. -/
def closing : Expression := .char (· == ']')

/-- One or more characters that are no brackets. -/
def inside : Expression := .plus (.char fun c => c != '[' && c != ']')

/-- A name in brackets. -/
def bracket : Expression := .seq opening (.seq inside closing)

/-- A word and brackets after it, each of the two as a group. -/
def objectKey : Expression :=
  .seq (.group (.plus (.char Text.isWordChar))) (.group (.plus bracket))

/-- A name in brackets, as a group. -/
def subkey : Expression := .seq opening (.seq (.group inside) closing)

theorem matches_char_iff {accepts : Char → Bool} {text : List Char}
    {groups : List (List Char)} :
    Matches (.char accepts) text groups ↔
      ∃ c, accepts c = true ∧ text = [c] ∧ groups = [] := by
  constructor
  · intro h
    cases h with
    | char h => exact ⟨_, h, rfl, rfl⟩
  · intro ⟨c, h, htext, hgroups⟩
    rw [htext, hgroups]
    exact .char h

theorem matches_seq_iff {first second : Expression} {text : List Char}
    {groups : List (List Char)} :
    Matches (.seq first second) text groups ↔
      ∃ s t own more, first.Matches s own ∧ second.Matches t more
        ∧ text = s ++ t ∧ groups = own ++ more := by
  constructor
  · intro h
    cases h with
    | seq hfirst hsecond => exact ⟨_, _, _, _, hfirst, hsecond, rfl, rfl⟩
  · intro ⟨s, t, own, more, hfirst, hsecond, htext, hgroups⟩
    rw [htext, hgroups]
    exact .seq hfirst hsecond

theorem matches_group_iff {inner : Expression} {text : List Char} {groups : List (List Char)} :
    Matches (.group inner) text groups ↔
      ∃ more, inner.Matches text more ∧ groups = text :: more := by
  constructor
  · intro h
    cases h with
    | group h => exact ⟨_, h, rfl⟩
  · intro ⟨more, h, hgroups⟩
    rw [hgroups]
    exact .group h

/-- Where an expression without groups matches the texts of a family, it matches, one or
more times, one or more texts of the family, one after the other. -/
theorem matches_plus_iff {ι : Type} {p : ι → Prop} {f : ι → List Char} {repeated : Expression}
    (hrepeated : ∀ text groups, repeated.Matches text groups ↔
      ∃ i, p i ∧ text = f i ∧ groups = [])
    {text : List Char} {groups : List (List Char)} :
    Matches (.plus repeated) text groups ↔
      ∃ items, items ≠ [] ∧ (∀ i ∈ items, p i) ∧ text = items.flatMap f ∧ groups = [] := by
  constructor
  · intro h
    generalize he : Expression.plus repeated = e at h
    induction h with
    | char _ => cases he
    | seq _ _ => cases he
    | group _ => cases he
    | once h _ =>
      cases he
      obtain ⟨i, hi, htext, hgroups⟩ := (hrepeated _ _).mp h
      exact ⟨[i], by simp, by simpa using hi, by simpa using htext, hgroups⟩
    | again h _ _ ih =>
      cases he
      obtain ⟨i, hi, hfirst, -⟩ := (hrepeated _ _).mp h
      obtain ⟨items, -, hitems, hrest, hgroups⟩ := ih rfl
      exact ⟨i :: items, by simp, List.forall_mem_cons.mpr ⟨hi, hitems⟩,
        by rw [hfirst, hrest, List.flatMap_cons], hgroups⟩
  · intro ⟨items, hne, hitems, htext, hgroups⟩
    rw [htext, hgroups]
    clear htext
    induction items with
    | nil => exact absurd rfl hne
    | cons i items ih =>
      obtain ⟨hi, hitems⟩ := List.forall_mem_cons.mp hitems
      have hfirst : repeated.Matches (f i) [] := (hrepeated _ _).mpr ⟨i, hi, rfl, rfl⟩
      rw [List.flatMap_cons]
      by_cases hlast : items = []
      · rw [hlast, List.flatMap_nil, List.append_nil]
        exact .once hfirst
      · exact .again hfirst (ih hlast hitems)

/-- A run of characters of a class. -/
theorem matches_plus_char_iff {accepts : Char → Bool} {text : List Char}
    {groups : List (List Char)} :
    Matches (.plus (.char accepts)) text groups ↔
      text ≠ [] ∧ (∀ c ∈ text, accepts c = true) ∧ groups = [] := by
  rw [matches_plus_iff fun _ _ => matches_char_iff]
  simp only [List.flatMap_singleton']
  constructor
  · intro ⟨items, hne, hall, htext, hgroups⟩
    rw [htext]
    exact ⟨hne, hall, hgroups⟩
  · intro ⟨hne, hall, hgroups⟩
    exact ⟨text, hne, hall, rfl, hgroups⟩

theorem matches_inside_iff {text : List Char} {groups : List (List Char)} :
    inside.Matches text groups ↔ Unbracketed text ∧ groups = [] := by
  rw [inside, matches_plus_char_iff, Unbracketed]
  constructor
  · intro ⟨hne, hall, hgroups⟩
    refine ⟨⟨hne, fun h => ?_, fun h => ?_⟩, hgroups⟩
    · exact absurd (hall _ h) (by decide)
    · exact absurd (hall _ h) (by decide)
  · intro ⟨⟨hne, hopen, hclose⟩, hgroups⟩
    refine ⟨hne, fun c hc => ?_, hgroups⟩
    have hc₁ : c ≠ '[' := fun h => hopen (h ▸ hc)
    have hc₂ : c ≠ ']' := fun h => hclose (h ▸ hc)
    simp [hc₁, hc₂]

theorem matches_opening_iff {text : List Char} {groups : List (List Char)} :
    opening.Matches text groups ↔ text = ['['] ∧ groups = [] := by
  rw [opening, matches_char_iff]
  simp

theorem matches_closing_iff {text : List Char} {groups : List (List Char)} :
    closing.Matches text groups ↔ text = [']'] ∧ groups = [] := by
  rw [closing, matches_char_iff]
  simp

/-- A name in brackets, with whatever stands between them as groups. -/
theorem matches_between_iff {inner : Expression} {text : List Char}
    {groups : List (List Char)} :
    Matches (.seq opening (.seq inner closing)) text groups ↔
      ∃ name, inner.Matches name groups ∧ text = bracketed name := by
  rw [matches_seq_iff]
  constructor
  · intro ⟨s, t, own, more, hopening, hrest, htext, hgroups⟩
    obtain ⟨name, u, owned, others, hname, hclosing, rfl, rfl⟩ := matches_seq_iff.mp hrest
    obtain ⟨rfl, rfl⟩ := matches_opening_iff.mp hopening
    obtain ⟨rfl, rfl⟩ := matches_closing_iff.mp hclosing
    rw [hgroups, htext, List.nil_append, List.append_nil]
    exact ⟨name, hname, rfl⟩
  · intro ⟨name, hname, htext⟩
    refine ⟨['['], name ++ [']'], [], groups, matches_opening_iff.mpr ⟨rfl, rfl⟩, ?_, htext, rfl⟩
    exact matches_seq_iff.mpr ⟨name, [']'], groups, [], hname,
      matches_closing_iff.mpr ⟨rfl, rfl⟩, rfl, (List.append_nil _).symm⟩

theorem matches_bracket_iff {text : List Char} {groups : List (List Char)} :
    bracket.Matches text groups ↔
      ∃ name, Unbracketed name ∧ text = bracketed name ∧ groups = [] := by
  rw [bracket, matches_between_iff]
  simp only [matches_inside_iff]
  exact ⟨fun ⟨name, ⟨hname, hgroups⟩, htext⟩ => ⟨name, hname, htext, hgroups⟩,
    fun ⟨name, hname, htext, hgroups⟩ => ⟨name, ⟨hname, hgroups⟩, htext⟩⟩

theorem matches_subkey_iff {text : List Char} {groups : List (List Char)} :
    subkey.Matches text groups ↔
      ∃ name, Unbracketed name ∧ text = bracketed name ∧ groups = [name] := by
  rw [subkey, matches_between_iff]
  simp only [matches_group_iff, matches_inside_iff]
  constructor
  · intro ⟨name, ⟨more, ⟨hname, hmore⟩, hgroups⟩, htext⟩
    exact ⟨name, hname, htext, by rw [hgroups, hmore]⟩
  · intro ⟨name, hname, htext, hgroups⟩
    exact ⟨name, ⟨[], ⟨hname, rfl⟩, hgroups⟩, htext⟩

/-- Brackets, one pair after the other. -/
theorem matches_brackets_iff {text : List Char} {groups : List (List Char)} :
    Matches (.plus bracket) text groups ↔
      ∃ names, names ≠ [] ∧ (∀ name ∈ names, Unbracketed name)
        ∧ text = names.flatMap bracketed ∧ groups = [] :=
  matches_plus_iff fun _ _ => matches_bracket_iff

/-- A key is matched in one way at most: as a word and names in brackets. -/
theorem matches_objectKey_iff {text : List Char} {groups : List (List Char)} :
    objectKey.Matches text groups ↔
      ∃ word names, (word ≠ [] ∧ ∀ c ∈ word, Text.isWordChar c = true)
        ∧ (names ≠ [] ∧ ∀ name ∈ names, Unbracketed name)
        ∧ text = word ++ names.flatMap bracketed
        ∧ groups = [word, names.flatMap bracketed] := by
  rw [objectKey, matches_seq_iff]
  constructor
  · intro ⟨word, brackets, own, more, hword, hbrackets, htext, hgroups⟩
    obtain ⟨left, hrun, rfl⟩ := matches_group_iff.mp hword
    obtain ⟨right, hpairs, rfl⟩ := matches_group_iff.mp hbrackets
    obtain ⟨hne, hchars, rfl⟩ := matches_plus_char_iff.mp hrun
    obtain ⟨names, hnames, hall, rfl, rfl⟩ := matches_brackets_iff.mp hpairs
    exact ⟨word, names, ⟨hne, hchars⟩, ⟨hnames, hall⟩, htext, hgroups⟩
  · intro ⟨word, names, ⟨hne, hchars⟩, ⟨hnames, hall⟩, htext, hgroups⟩
    have hword : Matches (.plus (.char Text.isWordChar)) word [] :=
      matches_plus_char_iff.mpr ⟨hne, hchars, rfl⟩
    have hbrackets : Matches (.plus bracket) (names.flatMap bracketed) [] :=
      matches_brackets_iff.mpr ⟨names, hnames, hall, rfl, rfl⟩
    exact ⟨word, names.flatMap bracketed, [word], [names.flatMap bracketed], .group hword,
      .group hbrackets, htext, hgroups⟩

/-! ## Looking for names in brackets -/

/-- A name in brackets ends at the first bracket that closes. -/
theorem bracketed_append_inj {name other rest more : List Char} (hname : Unbracketed name)
    (hother : Unbracketed other) (h : bracketed name ++ rest = bracketed other ++ more) :
    name = other ∧ rest = more := by
  have hbehind : name ++ ']' :: rest = other ++ ']' :: more := by
    simpa [bracketed] using h
  have hfirst := congrArg (Text.before ']') hbehind
  rw [Text.before_append_cons hname.2.2, Text.before_append_cons hother.2.2] at hfirst
  have hrest := congrArg (Text.after ']') hbehind
  rw [Text.after_append_cons hname.2.2, Text.after_append_cons hother.2.2] at hrest
  exact ⟨hfirst, hrest⟩

/-- In names in brackets these names are found, in order, and nothing else. -/
theorem foundAll_brackets_iff {names found : List (List Char)}
    (h : ∀ name ∈ names, Unbracketed name) :
    FoundAll subkey (names.flatMap bracketed) found ↔ found = names := by
  induction names generalizing found with
  | nil =>
    constructor
    · intro hfound
      generalize htext : ([] : List (List Char)).flatMap bracketed = text at hfound
      cases hfound with
      | nothing _ => rfl
      | @next before matched after remembered rest hmatched _ _ =>
        -- there is no room for a bracket
        obtain ⟨name, -, rfl, -⟩ := matches_subkey_iff.mp hmatched
        simp [bracketed] at htext
    · intro hfound
      rw [hfound]
      refine .nothing fun before matched after groups htext hmatched => ?_
      obtain ⟨name, -, rfl, -⟩ := matches_subkey_iff.mp hmatched
      simp [bracketed] at htext
  | cons name names ih =>
    obtain ⟨hname, hnames⟩ := List.forall_mem_cons.mp h
    have hhere : subkey.Matches (bracketed name) [name] :=
      matches_subkey_iff.mpr ⟨name, hname, rfl, rfl⟩
    rw [List.flatMap_cons]
    constructor
    · intro hfound
      generalize htext : bracketed name ++ names.flatMap bracketed = text at hfound
      cases hfound with
      | nothing hnone => exact absurd hhere (hnone [] _ _ _ htext.symm)
      | @next before matched after remembered rest hmatched hleftmost hrest =>
        -- the first name stands at the start, so the leftmost match is there
        have hstart := hleftmost [] _ _ _ htext.symm hhere
        have hbefore : before = [] := List.eq_nil_of_length_eq_zero (by simpa using hstart)
        obtain ⟨other, hother, rfl, hgroup⟩ := matches_subkey_iff.mp hmatched
        rw [hbefore, List.nil_append] at htext
        obtain ⟨rfl, rfl⟩ := bracketed_append_inj hname hother htext
        rw [(List.cons.inj hgroup).1, (ih hnames).mp hrest]
    · intro hfound
      rw [hfound]
      exact @FoundAll.next _ [] _ _ _ _ hhere (fun _ _ _ _ _ _ => Nat.zero_le _)
        ((ih hnames).mpr rfl)

end Expression

/-! ## What is read -/

/-- What has been read of names in brackets, if the rest of the key reads as `names`: all
of them if no bracket is open, and otherwise first the end of the name that has been read
as far as `done`. -/
theorem eq_of_groups? {text : List Char} {names : List (List Char)} :
    (groups? none text = some names →
      (∀ name ∈ names, Unbracketed name) ∧ text = names.flatMap bracketed)
    ∧ ∀ done, '[' ∉ done → ']' ∉ done → groups? (some done) text = some names →
      ∃ read more, names = (done.reverse ++ read) :: more ∧ Unbracketed (done.reverse ++ read)
        ∧ (∀ name ∈ more, Unbracketed name) ∧ text = read ++ ']' :: more.flatMap bracketed := by
  induction text generalizing names with
  | nil =>
    constructor
    · intro h
      have hnames : [] = names := by simpa [groups?] using h
      rw [← hnames]
      exact ⟨fun _ h => (List.not_mem_nil h).elim, rfl⟩
    · intro done _ _ h
      simp [groups?] at h
  | cons c rest ih =>
    constructor
    · intro h
      rw [groups?] at h
      by_cases hc : c = '['
      · rw [if_pos hc] at h
        obtain ⟨read, more, hnames, hread, hmore, hrest⟩ :=
          ih.2 [] List.not_mem_nil List.not_mem_nil h
        rw [List.reverse_nil, List.nil_append] at hnames hread
        rw [hnames]
        refine ⟨List.forall_mem_cons.mpr ⟨hread, hmore⟩, ?_⟩
        rw [hc, hrest, List.flatMap_cons, bracketed, List.cons_append, List.cons_append,
          List.append_assoc, List.singleton_append]
      · rw [if_neg hc] at h
        cases h
    · intro done hopen hclose h
      rw [groups?] at h
      by_cases hc : c = ']'
      · -- the name ends here, if there is anything of it
        rw [if_pos hc] at h
        by_cases hempty : done.isEmpty = true
        · rw [if_pos hempty] at h
          cases h
        · rw [if_neg hempty] at h
          obtain ⟨more, hread, hnames⟩ := Option.map_eq_some_iff.mp h
          obtain ⟨hmore, hrest⟩ := ih.1 hread
          have hdone : Unbracketed (done.reverse ++ []) := by
            rw [List.append_nil]
            refine ⟨fun h => hempty ?_, by simpa using hopen, by simpa using hclose⟩
            rw [List.reverse_eq_nil_iff.mp h, List.isEmpty_nil]
          refine ⟨[], more, ?_, hdone, hmore, by rw [hc, hrest, List.nil_append]⟩
          rw [List.append_nil, hnames]
      · rw [if_neg hc] at h
        by_cases hc' : c = '['
        · rw [if_pos hc'] at h
          cases h
        · rw [if_neg hc'] at h
          have hopen : '[' ∉ c :: done := by simp [hopen, Ne.symm hc']
          have hclose : ']' ∉ c :: done := by simp [hclose, Ne.symm hc]
          obtain ⟨read, more, hnames, hread, hmore, hrest⟩ := ih.2 _ hopen hclose h
          rw [List.reverse_cons, List.append_assoc, List.singleton_append] at hnames hread
          exact ⟨c :: read, more, hnames, hread, hmore, by rw [hrest, List.cons_append]⟩

theorem isName_iff {text : List Char} : IsName (String.ofList text) ↔ Unbracketed text := by
  rw [IsName, Unbracketed, String.toList_ofList, Ne, String.ofList_eq_empty_iff]

theorem isWord_iff {text : List Char} :
    IsWord (String.ofList text) ↔ text ≠ [] ∧ ∀ c ∈ text, Text.isWordChar c = true := by
  rw [IsWord, String.toList_ofList, List.all_eq_true, Ne, String.ofList_eq_empty_iff]

/-- What is read is a word and names on the way, and the key is written for them. -/
theorem eq_render_of_parse? {key : String} {path : List String} (h : parse? key = some path) :
    IsPath path ∧ key = render path := by
  have hsplit : key.toList.takeWhile Text.isWordChar ++ key.toList.dropWhile Text.isWordChar
      = key.toList := List.takeWhile_append_dropWhile
  have hchars : ∀ c ∈ key.toList.takeWhile Text.isWordChar, Text.isWordChar c = true :=
    List.all_eq_true.mp List.all_takeWhile
  rw [parse?] at h
  generalize key.toList.takeWhile Text.isWordChar = word at h hsplit hchars
  generalize key.toList.dropWhile Text.isWordChar = brackets at h hsplit
  cases brackets with
  | nil => cases h
  | cons c rest =>
    dsimp only at h
    by_cases hword : word.isEmpty = true
    · rw [if_pos hword] at h
      cases h
    · rw [if_neg hword] at h
      obtain ⟨names, hgroups, hpath⟩ := Option.map_eq_some_iff.mp h
      obtain ⟨hnames, hbrackets⟩ := eq_of_groups?.1 hgroups
      have hwritten : (names.map String.ofList).map String.toList = names := by simp
      rw [← hpath, List.map_cons]
      refine ⟨⟨_, _, rfl, isWord_iff.mpr ⟨by simpa using hword, hchars⟩, ?_, ?_⟩, ?_⟩
      · intro hnone
        rw [List.map_eq_nil_iff.mp hnone] at hbrackets
        cases hbrackets
      · intro name hname
        obtain ⟨text, htext, rfl⟩ := List.mem_map.mp hname
        exact isName_iff.mpr (hnames text htext)
      · rw [← String.toList_inj, toList_render, hwritten, String.toList_ofList, ← hbrackets, hsplit]

/-- What two expressions read of a key: the word that the first one remembers, and then
the names that the second one finds in the brackets that the first one remembers. -/
def Expressed (key : String) (path : List String) : Prop :=
  ∃ word brackets names, Expression.objectKey.Matches key.toList [word, brackets]
    ∧ Expression.FoundAll Expression.subkey brackets names
    ∧ path = (word :: names).map String.ofList

/-- The two expressions read a word and names on the way, if the key is written for them. -/
theorem expressed_iff {key : String} {path : List String} :
    Expressed key path ↔ IsPath path ∧ key = render path := by
  constructor
  · intro ⟨word, brackets, found, hmatches, hfound, hpath⟩
    obtain ⟨word', names, hword, ⟨hne, hnames⟩, htext, hgroups⟩ :=
      Expression.matches_objectKey_iff.mp hmatches
    obtain ⟨rfl, hrest⟩ := List.cons.inj hgroups
    rw [(List.cons.inj hrest).1, Expression.foundAll_brackets_iff hnames] at hfound
    have hwritten : (names.map String.ofList).map String.toList = names := by simp
    rw [hpath, hfound, List.map_cons]
    refine ⟨⟨_, _, rfl, isWord_iff.mpr hword, by simpa using hne, fun name hname => ?_⟩, ?_⟩
    · obtain ⟨text, htext, rfl⟩ := List.mem_map.mp hname
      exact isName_iff.mpr (hnames text htext)
    · rw [← String.toList_inj, toList_render, hwritten, String.toList_ofList, htext]
  · intro ⟨⟨word, names, hpath, hword, hne, hnames⟩, hkey⟩
    have hunbracketed : ∀ name ∈ names.map String.toList, Unbracketed name := by
      intro name hname
      obtain ⟨text, htext, rfl⟩ := List.mem_map.mp hname
      exact isName_iff.mp (by simpa using hnames text htext)
    refine ⟨word.toList, (names.map String.toList).flatMap bracketed, names.map String.toList,
      ?_, (Expression.foundAll_brackets_iff hunbracketed).mpr rfl, ?_⟩
    · rw [hkey, hpath, toList_render]
      exact Expression.matches_objectKey_iff.mpr ⟨_, _, isWord_iff.mp (by simpa using hword),
        ⟨by simpa using hne, hunbracketed⟩, rfl, rfl⟩
    · simp [hpath]

/-- **Bracketed keys are parsed exactly and invertibly.** A key is read exactly if it is a word
and one or more names in brackets, written one after the other; it is then read as this word
and these names, whatever they are. The two expressions read the same keys, and each in no
other way. -/
theorem parse?_iff_written (key : String) :
    (parse? key ≠ none ↔ ∃ path, IsPath path ∧ key = render path)
      ∧ (∀ path, parse? key = some path ↔ IsPath path ∧ key = render path)
      ∧ (∀ path, parse? key = some path ↔ Expressed key path) := by
  have hiff : ∀ path, parse? key = some path ↔ IsPath path ∧ key = render path := by
    intro path
    constructor
    · exact eq_render_of_parse?
    · intro ⟨⟨word, names, hpath, hword, hne, hnames⟩, hkey⟩
      rw [hkey, hpath]
      exact parse?_render hword hne hnames
  refine ⟨?_, hiff, fun path => (hiff path).trans expressed_iff.symm⟩
  rw [Option.ne_none_iff_exists']
  exact exists_congr hiff

end WebRouter.Query.Key

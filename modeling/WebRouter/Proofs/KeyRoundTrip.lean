import WebRouter.Query.Key

/-!
# Bracketed keys read as the names on the way

A bracketed key is a word and names in brackets. The word ends at the first
bracket, which is not a character of a word, and a name at the next one, since it
holds none (`groups?_name`). So what is read are the names that were written,
however many there are:

> `parse?_render`: the key for a word and names on the way reads as them.
-/

namespace WebRouter.Query.Key

/-- A name that can be written in brackets: not empty, and without a bracket. -/
def IsName (name : String) : Prop :=
  name ≠ "" ∧ '[' ∉ name.toList ∧ ']' ∉ name.toList

instance (name : String) : Decidable (IsName name) :=
  inferInstanceAs (Decidable (_ ∧ _ ∧ _))

/-- A word that can stand before brackets: letters, digits and underscores. -/
def IsWord (word : String) : Prop :=
  word ≠ "" ∧ word.toList.all Text.isWordChar = true

instance (word : String) : Decidable (IsWord word) :=
  inferInstanceAs (Decidable (_ ∧ _))

/-- A name in brackets. -/
def bracketed (name : List Char) : List Char :=
  '[' :: name ++ [']']

theorem toList_render (word : String) (names : List String) :
    (render (word :: names)).toList
      = word.toList ++ (names.map String.toList).flatMap bracketed := by
  rw [render, String.toList_append, String.toList_join, List.flatMap_map, List.flatMap_map]
  refine congrArg _ (congrArg (fun f => names.flatMap f) (funext fun name => ?_))
  rw [String.toList_append, String.toList_append]
  rfl

theorem render_singleton (key : String) : render [key] = key := by
  rw [← String.toList_inj, toList_render, List.map_nil, List.flatMap_nil, List.append_nil]

/-! ## Names in brackets -/

/-- Inside brackets, a name is read up to the bracket that closes it. `done` is what
has been read of it. -/
theorem groups?_name {name : List Char} (hopen : '[' ∉ name) (hclose : ']' ∉ name)
    (rest : List Char) :
    ∀ done : List Char, done.reverse ++ name ≠ [] →
      groups? (some done) (name ++ ']' :: rest)
        = (groups? none rest).map ((done.reverse ++ name) :: ·) := by
  induction name with
  | nil =>
    intro done hne
    have hdone : done.isEmpty = false := by
      rw [List.append_nil] at hne
      exact List.isEmpty_eq_false_iff.mpr fun h => hne (List.reverse_eq_nil_iff.mpr h)
    rw [List.nil_append, groups?, if_pos rfl, hdone, if_neg Bool.false_ne_true, List.append_nil]
  | cons c name ih =>
    -- the character is neither bracket, so it joins what has been read
    intro done _
    obtain ⟨hc, hopen⟩ := not_or.mp (mt List.mem_cons.mpr hopen)
    obtain ⟨hd, hclose⟩ := not_or.mp (mt List.mem_cons.mpr hclose)
    have hread : (c :: done).reverse ++ name = done.reverse ++ c :: name := by
      rw [List.reverse_cons, List.append_assoc, List.singleton_append]
    have hne : (c :: done).reverse ++ name ≠ [] := by
      rw [hread]
      exact List.append_ne_nil_of_right_ne_nil _ (List.cons_ne_nil _ _)
    rw [List.cons_append, groups?, if_neg (Ne.symm hd), if_neg (Ne.symm hc),
      ih hopen hclose (c :: done) hne, hread]

/-- Names in brackets, one after the other, read as those names. -/
theorem groups?_bracketed {names : List (List Char)}
    (h : ∀ name ∈ names, name ≠ [] ∧ '[' ∉ name ∧ ']' ∉ name) :
    groups? none (names.flatMap bracketed) = some names := by
  induction names with
  | nil => rfl
  | cons name names ih =>
    obtain ⟨⟨hne, hopen, hclose⟩, hnames⟩ := List.forall_mem_cons.mp h
    have hfirst : (name :: names).flatMap bracketed
        = '[' :: (name ++ ']' :: names.flatMap bracketed) := by
      rw [List.flatMap_cons, bracketed, List.cons_append, List.cons_append, List.append_assoc,
        List.singleton_append]
    rw [hfirst, groups?]
    show (if '[' = '[' then groups? (some []) _ else none) = _
    rw [if_pos rfl, groups?_name hopen hclose _ [] hne, ih hnames]
    rfl

/-! ## Keys -/

theorem takeWhile_word {word : List Char} (h : ∀ c ∈ word, Text.isWordChar c = true)
    (rest : List Char) :
    (word ++ '[' :: rest).takeWhile Text.isWordChar = word := by
  rw [List.takeWhile_append_of_pos h, List.takeWhile_cons_of_neg (by decide), List.append_nil]

theorem dropWhile_word {word : List Char} (h : ∀ c ∈ word, Text.isWordChar c = true)
    (rest : List Char) :
    (word ++ '[' :: rest).dropWhile Text.isWordChar = '[' :: rest := by
  rw [List.dropWhile_append_of_pos h, List.dropWhile_cons_of_neg (by decide)]

/-- **A bracketed key reads as the names on the way.** -/
theorem parse?_render {word : String} (hword : IsWord word) {names : List String}
    (hne : names ≠ []) (hnames : ∀ name ∈ names, IsName name) :
    parse? (render (word :: names)) = some (word :: names) := by
  obtain ⟨first, more, rfl⟩ := List.exists_cons_of_ne_nil hne
  have hgroups : groups? none (((first :: more).map String.toList).flatMap bracketed)
      = some ((first :: more).map String.toList) := by
    refine groups?_bracketed fun text htext => ?_
    obtain ⟨name, hname, rfl⟩ := List.mem_map.mp htext
    obtain ⟨hname, hopen, hclose⟩ := hnames name hname
    exact ⟨fun h => hname (String.toList_eq_nil_iff.mp h), hopen, hclose⟩
  have hchars : ∀ c ∈ word.toList, Text.isWordChar c = true := List.all_eq_true.mp hword.2
  have hempty : word.toList.isEmpty = false :=
    List.isEmpty_eq_false_iff.mpr fun h => hword.1 (String.toList_eq_nil_iff.mp h)
  -- there is a first name, so the word ends at a bracket
  have hbrackets : ∃ rest, ((first :: more).map String.toList).flatMap bracketed = '[' :: rest :=
    ⟨_, rfl⟩
  obtain ⟨rest, hrest⟩ := hbrackets
  rw [hrest] at hgroups
  rw [parse?, toList_render, hrest, takeWhile_word hchars, dropWhile_word hchars]
  show (if word.toList.isEmpty then none
    else (groups? none ('[' :: rest)).map fun names => (word.toList :: names).map String.ofList) = _
  rw [hempty, if_neg Bool.false_ne_true, hgroups, Option.map_some, List.map_cons, List.map_map]
  have hback : (String.ofList ∘ String.toList) = id := funext fun _ => String.ofList_toList
  rw [hback, List.map_id, String.ofList_toList]

end WebRouter.Query.Key

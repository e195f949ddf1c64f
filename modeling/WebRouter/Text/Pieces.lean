/-!
# Cutting text at a separator

Texts are cut at one character: into all the pieces between its occurrences
(`splitOn`), or in two at the first occurrence (`before` and `after`). Nothing is
lost by the first (`intercalate_splitOn`), none of its pieces holds the separator
(`not_mem_of_mem_splitOn`), it undoes what puts separators between texts
(`splitOn_append`, `splitOn_intercalate`), and for text before a first separator both are what one
expects (`splitOn_append_cons`, `before_append_cons`, `after_append_cons`).
-/

namespace WebRouter.Text

/-- The pieces of a text between the separators, one more than there are
separators; the empty text is one empty piece. -/
def splitOn (sep : Char) : List Char → List (List Char)
  | [] => [[]]
  | c :: rest =>
    if c = sep then [] :: splitOn sep rest
    else (splitOn sep rest).modifyHead (c :: ·)

/-- There is always a piece. -/
theorem splitOn_ne_nil (sep : Char) (text : List Char) : splitOn sep text ≠ [] := by
  cases text with
  | nil => exact List.cons_ne_nil _ _
  | cons c rest =>
    unfold splitOn
    split
    · exact List.cons_ne_nil _ _
    · intro h
      exact splitOn_ne_nil sep rest (List.modifyHead_eq_nil_iff.mp h)

/-- A text without the separator is one piece. -/
theorem splitOn_of_not_mem {sep : Char} {text : List Char} (h : sep ∉ text) :
    splitOn sep text = [text] := by
  induction text with
  | nil => rfl
  | cons c rest ih =>
    obtain ⟨hc, hrest⟩ := not_or.mp (mt List.mem_cons.mpr h)
    rw [splitOn, if_neg (Ne.symm hc), ih hrest, List.modifyHead_cons]

/-- A separator between two texts keeps their pieces apart. -/
theorem splitOn_append (sep : Char) (text more : List Char) :
    splitOn sep (text ++ sep :: more) = splitOn sep text ++ splitOn sep more := by
  induction text with
  | nil =>
    show splitOn sep (sep :: more) = [] :: splitOn sep more
    rw [splitOn, if_pos rfl]
  | cons c rest ih =>
    rw [List.cons_append, splitOn, splitOn, ih]
    split
    · rw [List.cons_append]
    · obtain ⟨first, others, hs⟩ := List.exists_cons_of_ne_nil (splitOn_ne_nil sep rest)
      rw [hs, List.cons_append, List.modifyHead_cons, List.modifyHead_cons, List.cons_append]

/-- The first piece ends at the first separator. -/
theorem splitOn_append_cons {sep : Char} {piece : List Char} (h : sep ∉ piece)
    (rest : List Char) : splitOn sep (piece ++ sep :: rest) = piece :: splitOn sep rest := by
  rw [splitOn_append, splitOn_of_not_mem h, List.singleton_append]

/-- Nothing is lost: the pieces with the separator between them are the text. -/
theorem intercalate_splitOn (sep : Char) (text : List Char) :
    [sep].intercalate (splitOn sep text) = text := by
  induction text with
  | nil => rfl
  | cons c rest ih =>
    obtain ⟨first, more, hs⟩ := List.exists_cons_of_ne_nil (splitOn_ne_nil sep rest)
    rw [splitOn]
    split
    · next hc => rw [hs, List.intercalate_cons_cons, ← hs, ih, hc]; rfl
    · rw [hs, List.modifyHead_cons]
      rw [hs] at ih
      cases more with
      | nil =>
        rw [List.intercalate_singleton] at ih ⊢
        rw [ih]
      | cons second more =>
        rw [List.intercalate_cons_cons] at ih ⊢
        rw [← ih]; rfl

/-- Texts without the separator are the pieces of what they make with it between them. -/
theorem splitOn_intercalate {sep : Char} {texts : List (List Char)} (hne : texts ≠ [])
    (h : ∀ text ∈ texts, sep ∉ text) : splitOn sep ([sep].intercalate texts) = texts := by
  induction texts with
  | nil => exact absurd rfl hne
  | cons text rest ih =>
    obtain ⟨htext, hrest⟩ := List.forall_mem_cons.mp h
    cases rest with
    | nil => rw [List.intercalate_singleton, splitOn_of_not_mem htext]
    | cons next rest =>
      rw [List.intercalate_cons_cons, List.append_assoc, List.singleton_append,
        splitOn_append_cons htext, ih (List.cons_ne_nil _ _) hrest]

/-- No piece holds the separator. -/
theorem not_mem_of_mem_splitOn {sep : Char} {text piece : List Char}
    (h : piece ∈ splitOn sep text) : sep ∉ piece := by
  induction text generalizing piece with
  | nil =>
    rw [splitOn, List.mem_singleton] at h
    rw [h]
    exact List.not_mem_nil
  | cons c rest ih =>
    obtain ⟨first, more, hs⟩ := List.exists_cons_of_ne_nil (splitOn_ne_nil sep rest)
    have hfirst : sep ∉ first := ih (hs ▸ List.mem_cons_self)
    rw [splitOn] at h
    split at h
    · rcases List.mem_cons.mp h with rfl | hp
      · exact List.not_mem_nil
      · exact ih hp
    · next hc =>
      rw [hs, List.modifyHead_cons] at h
      rcases List.mem_cons.mp h with rfl | hp
      · exact fun hm => (List.mem_cons.mp hm).elim (fun e => hc e.symm) hfirst
      · exact ih (hs ▸ List.mem_cons_of_mem _ hp)

/-- The text before the first separator, all of it if there is none. -/
def before (sep : Char) (text : List Char) : List Char :=
  text.takeWhile (· != sep)

/-- The text after the first separator, empty if there is none. -/
def after (sep : Char) (text : List Char) : List Char :=
  (text.dropWhile (· != sep)).tail

/-- The characters of a text without the separator all differ from it. -/
theorem bne_of_not_mem {sep : Char} {text : List Char} (h : sep ∉ text) :
    ∀ c ∈ text, (c != sep) = true := by
  intro c hc
  exact bne_iff_ne.mpr fun e => h (e ▸ hc)

/-- A text without the separator stands before it. -/
theorem before_of_not_mem {sep : Char} {text : List Char} (h : sep ∉ text) :
    before sep text = text := by
  rw [before, ← List.append_nil text, List.takeWhile_append_of_pos (bne_of_not_mem h)]
  rfl

/-- Nothing stands after the separator of a text that has none. -/
theorem after_of_not_mem {sep : Char} {text : List Char} (h : sep ∉ text) :
    after sep text = [] := by
  rw [after, ← List.append_nil text, List.dropWhile_append_of_pos (bne_of_not_mem h)]
  rfl

/-- What stands before the first separator. -/
theorem before_append_cons {sep : Char} {piece : List Char} (h : sep ∉ piece)
    (rest : List Char) : before sep (piece ++ sep :: rest) = piece := by
  rw [before, List.takeWhile_append_of_pos (bne_of_not_mem h),
    List.takeWhile_cons_of_neg (by rw [bne_self_eq_false]; exact Bool.false_ne_true), List.append_nil]

/-- What stands after the first separator. -/
theorem after_append_cons {sep : Char} {piece : List Char} (h : sep ∉ piece)
    (rest : List Char) : after sep (piece ++ sep :: rest) = rest := by
  rw [after, List.dropWhile_append_of_pos (bne_of_not_mem h),
    List.dropWhile_cons_of_neg (by rw [bne_self_eq_false]; exact Bool.false_ne_true), List.tail_cons]

/-- `before` and `after` on strings. -/
def cut (sep : Char) (text : String) : String × String :=
  (String.ofList (before sep text.toList), String.ofList (after sep text.toList))

/-- The pieces of a string between the separators. -/
def pieces (sep : Char) (text : String) : List String :=
  (splitOn sep text.toList).map String.ofList

/-- Letters and digits of ASCII, and the underscore. -/
def isWordChar (c : Char) : Bool :=
  c.isAlphanum || c == '_'

end WebRouter.Text

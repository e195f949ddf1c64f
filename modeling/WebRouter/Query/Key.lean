import WebRouter.Text.Pieces

/-!
# Keys with brackets

A key such as `filter[price][max]` names a place inside a nested mapping: a word
of letters, digits and underscores, then one or more names in brackets, each of
at least one character and without a bracket of its own. `parse?` gives the
names on the way and `render` writes them back.
-/

namespace WebRouter.Query.Key

/-- Reads names in brackets to the end of the key. Inside a pair of brackets
`inside` holds what has been read of the name, in reverse. -/
def groups? (inside : Option (List Char)) : List Char → Option (List (List Char))
  | [] => if inside.isNone then some [] else none
  | c :: rest =>
    match inside with
    | none => if c = '[' then groups? (some []) rest else none
    | some name =>
      if c = ']' then
        if name.isEmpty then none
        else (groups? none rest).map (name.reverse :: ·)
      else if c = '[' then none
      else groups? (some (c :: name)) rest

/-- The names on the way that a bracketed key describes; `none` for a key that is
not of that form. -/
def parse? (key : String) : Option (List String) :=
  let word := key.toList.takeWhile Text.isWordChar
  match key.toList.dropWhile Text.isWordChar with
  | [] => none
  | brackets =>
    if word.isEmpty then none
    else (groups? none brackets).map fun names => (word :: names).map String.ofList

/-- The bracketed key for names on the way. -/
def render : List String → String
  | [] => ""
  | word :: names => word ++ String.join (names.map fun name => "[" ++ name ++ "]")

end WebRouter.Query.Key

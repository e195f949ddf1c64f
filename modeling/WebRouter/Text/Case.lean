import WebRouter.Text.CaseTable

/-!
# Lower and upper case

Names of headers are compared in lower case and methods are sent in upper case,
both by the full case maps of Unicode: a letter may become several (`İ`, `ß`),
and a capital sigma becomes a final small sigma where it ends a word, that is
where the nearest character before it that case does not skip over is cased and
the nearest one after it is not.
-/

namespace WebRouter.Text

/-- Whether the first character that case does not skip over is cased. -/
def nextIsCased (text : List Char) : Bool :=
  match text.dropWhile (inRanges caseIgnorableRanges ·.toNat) with
  | [] => false
  | c :: _ => inRanges casedRanges c.toNat

/-- The lower case of a character other than the capital sigma. -/
def lowerChar (c : Char) : List Char :=
  if c = 'İ' then ['i', '\u0307']
  else
    match shifted? lowerRuns c.toNat with
    | some n => [Char.ofNat n]
    | none => [c]

/-- The lower case of a text that follows `back`, which is given in reverse. -/
def lowerFrom (back : List Char) : List Char → List Char
  | [] => []
  | c :: rest =>
    (if c = 'Σ' then [if nextIsCased back && !nextIsCased rest then 'ς' else 'σ']
      else lowerChar c) ++ lowerFrom (c :: back) rest

/-- The lower case of a text. -/
def lower (text : String) : String :=
  String.ofList (lowerFrom [] text.toList)

/-- The upper case of a character. -/
def upperChar (c : Char) : List Char :=
  match upperSequences.lookup c.toNat with
  | some letters => letters.map Char.ofNat
  | none =>
    match shifted? upperRuns c.toNat with
    | some n => [Char.ofNat n]
    | none => [c]

/-- The upper case of a text. -/
def upper (text : String) : String :=
  String.ofList (text.toList.flatMap upperChar)

end WebRouter.Text

import WebRouter.Http.Reply
import WebRouter.Proofs.JsonWriting
import WebRouter.Proofs.Overflow
import WebRouter.Proofs.QueryJson
import WebRouter.Proofs.ScalarReading

/-!
# A query sent back as JSON

Every query can be written (`Query.exists_write_parse`), and its keys and texts do no harm. Its
floats may: a decimal from `Binary64.limit` on is read as an infinity, for which JSON has no token.
The rule for whole numbers leaves runs of digits that are too long as texts; the rule for decimals
has no such bound.

> `Reply.ofValue_parse`: a query is sent back in ASCII, and as JSON exactly if no decimal that
> stands in the query string overflows.

The floats of a query are traced back to what is written in the query string: an assignment
stands if none is made later on its way (`Query.standing`), and what it assigns is read from its
text (`Query.mem_floats_parse`).
-/

namespace WebRouter

open Number (Binary64 IsNumeral IsSign floatText numberOf pow10)

namespace Json

/-- A number, or the word for an infinite one. -/
def IsWideNumber (text : List Char) : Prop :=
  IsNumber text ∨ text = "Infinity".toList ∨ text = "-Infinity".toList

theorem isWideNumber_floatText {x : Binary64} (h : x.isNaN = false) :
    IsWideNumber (floatText floats x).toList := by
  cases hinfinite : x.isInfinite with
  | false => exact Or.inl (isNumber_floatText ⟨h, hinfinite⟩)
  | true =>
    rw [floatText_of_isInfinite hinfinite]
    split
    · exact Or.inr (Or.inr rfl)
    · exact Or.inr (Or.inl rfl)

end Json

namespace Query

/-! ## Decimals out of range -/

/-- A decimal that is too large for a float. -/
def Scalar.Overflows (text : List Char) : Prop :=
  ∃ sign whole places, IsSign sign ∧ IsNumeral whole ∧ IsNumeral places
    ∧ text = sign ++ whole ++ '.' :: places
    ∧ Binary64.limit * pow10 places.length ≤ numberOf (whole ++ places)

/-- What is read as a float is a decimal. -/
theorem Scalar.exists_decimal {text : String} {x : Binary64} (h : ofText text = .float x) :
    ∃ sign whole places, IsSign sign ∧ IsNumeral whole ∧ IsNumeral places
      ∧ text.toList = sign ++ whole ++ '.' :: places
      ∧ x = Binary64.ofDecimal (sign == ['-']) (numberOf (whole ++ places))
        (-(places.length : Int)) := by
  have hdenotes := ofText_eq_iff.mp h
  generalize text.toList = text at hdenotes
  cases hdenotes with
  | shaped hgives =>
    cases hgives with
    | float hsign hwhole hplaces => exact ⟨_, _, _, hsign, hwhole, hplaces, rfl, rfl⟩

theorem Scalar.isInfinite_decimal_iff (negative : Bool) (digits places : List Char) :
    (Binary64.ofDecimal negative (numberOf digits) (-(places.length : Int))).isInfinite = true
      ↔ Binary64.limit * pow10 places.length ≤ numberOf digits := by
  rw [Binary64.isInfinite_ofDecimal_iff, Int.neg_neg, Int.toNat_natCast, Int.toNat_neg_natCast,
    Number.pow10_zero, Nat.mul_one]

/-- The texts that are read as an infinity are those that overflow. -/
theorem Scalar.overflows_iff {text : String} :
    Overflows text.toList ↔ ∃ x, ofText text = .float x ∧ x.isInfinite = true := by
  constructor
  · rintro ⟨sign, whole, places, hsign, hwhole, hplaces, htext, hlimit⟩
    refine ⟨_, ofText_eq_iff.mpr ?_, (isInfinite_decimal_iff (sign == ['-']) _ places).mpr hlimit⟩
    rw [htext]
    exact .shaped (.float hsign hwhole hplaces)
  · rintro ⟨x, hread, hinfinite⟩
    obtain ⟨sign, whole, places, hsign, hwhole, hplaces, htext, rfl⟩ := exists_decimal hread
    exact ⟨sign, whole, places, hsign, hwhole, hplaces, htext,
      (isInfinite_decimal_iff _ _ places).mp hinfinite⟩

/-! ## The floats of a query -/

mutual

theorem mem_floats_valueOfTree (x : Binary64) : ∀ t : Tree String Scalar,
    x ∈ (valueOfTree t).floats ↔ ∃ path, (path, Scalar.float x) ∈ t.leaves
  | .leaf value => by
    rw [valueOfTree, Tree.leaves]
    cases value <;> simp [Scalar.toValue, Value.floats]
  | .branch children => by
    rw [valueOfTree, Tree.leaves, Value.floats]
    exact mem_floats_entries x children

theorem mem_floats_entries (x : Binary64) : ∀ q : Query,
    x ∈ Value.floatsOfEntries (entriesOfForest q) ↔ ∃ path, (path, Scalar.float x) ∈ leaves q
  | [] => by simp [entriesOfForest, leaves, Value.floatsOfEntries]
  | (key, t) :: rest => by
    rw [entriesOfForest, leaves, Value.floatsOfEntries, List.mem_append,
      mem_floats_valueOfTree x t, mem_floats_entries x rest]
    simp only [List.mem_append, List.mem_map, exists_or]
    refine or_congr ⟨?_, ?_⟩ Iff.rfl
    · rintro ⟨path, h⟩
      exact ⟨key :: path, (path, _), h, rfl⟩
    · rintro ⟨_, ⟨path, value⟩, h, hleaf⟩
      cases hleaf
      exact ⟨path, h⟩

end

/-! ## The query as JSON -/

section Write

variable {raw : String} {text : String}

/-- The floats of a query were read from texts that stand. -/
theorem mem_floats_parse {x : Binary64} :
    x ∈ (toValue (parse raw)).floats
      ↔ ∃ a ∈ standing (written raw), Scalar.ofText a.2 = .float x := by
  rw [toValue, Value.floats, mem_floats_entries]
  constructor
  · rintro ⟨path, hleaf⟩
    obtain ⟨text, htext, hread⟩ := mem_leaves_parse.mp hleaf
    exact ⟨(path, text), htext, hread⟩
  · rintro ⟨⟨path, text⟩, htext, hread⟩
    exact ⟨path, mem_leaves_parse.mpr ⟨text, htext, hread⟩⟩

/-- No float of a query is anything but a number. -/
theorem isNaN_of_mem_floats {x : Binary64} (h : x ∈ (toValue (parse raw)).floats) :
    x.isNaN = false := by
  obtain ⟨a, -, hread⟩ := mem_floats_parse.mp h
  obtain ⟨sign, whole, places, -, -, -, -, rfl⟩ := Scalar.exists_decimal hread
  exact Binary64.isNaN_ofDecimal _ _ _

/-- **A query is written as JSON if no decimal that stands in it overflows**, and only then. -/
theorem isText_write_parse_iff (h : Json.write (toValue (parse raw)) = .ok text) :
    Json.IsText text.toList ↔ ∀ a ∈ standing (written raw), ¬ Scalar.Overflows a.2.toList := by
  rw [Json.isText_write_iff h]
  constructor
  · intro hfinite a ha hoverflows
    obtain ⟨x, hread, hinfinite⟩ := Scalar.overflows_iff.mp hoverflows
    have hx := (hfinite x (mem_floats_parse.mpr ⟨a, ha, hread⟩)).2
    rw [hinfinite] at hx
    cases hx
  · intro hall x hx
    refine ⟨isNaN_of_mem_floats hx, ?_⟩
    obtain ⟨a, ha, hread⟩ := mem_floats_parse.mp hx
    rw [← Bool.not_eq_true]
    exact fun hinfinite => hall a ha (Scalar.overflows_iff.mpr ⟨x, hread, hinfinite⟩)

end Write

end Query

/-- **A query can always be sent back as JSON, but for decimals that overflow.** Whatever the query
string, the parsed query is turned into a response whose body is ASCII and derived by the grammar
of JSON, if the words for the infinities count as numbers. It is JSON itself exactly if no decimal
that stands in the query string is too large for a float. -/
theorem Reply.ofValue_parse (raw : RawQuery) :
    ∃ text, Reply.ofValue (Query.toValue raw.parse)
        = .ok { body := .str text, contentType := .str "application/json; charset=utf-8" }
      ∧ Json.IsAscii text.toList
      ∧ Json.Derives Json.IsWideNumber .padded text.toList
      ∧ (Json.IsText text.toList ↔ ∀ a ∈ Query.standing (Query.written raw.toText),
        ¬ Query.Scalar.Overflows a.2.toList) := by
  obtain ⟨text, hwrite⟩ := Query.exists_write_parse raw.toText
  have hspells := Json.spells_write _ hwrite
  refine ⟨text, ?_, hspells.ascii, ?_, Query.isText_write_parse_iff hwrite⟩
  · show Reply.json (Query.toValue (Query.parse raw.toText)) = _
    rw [Reply.json, hwrite]
    rfl
  · exact (hspells.derives (fun i => Or.inl (Json.isNumber_intText i)) fun x hx =>
      Json.isWideNumber_floatText (Query.isNaN_of_mem_floats hx)).alone

/-! ## A query that is not sent back as JSON -/

namespace Query

/-- Ten to the power of 309, a little more than what a float can hold. -/
def tooLarge : List Char :=
  '1' :: List.replicate 309 '0' ++ ['.', '0']

theorem overflows_tooLarge : Scalar.Overflows tooLarge := by
  refine ⟨[], '1' :: List.replicate 309 '0', ['0'], Or.inl rfl, ?_, Json.isNumeral_zero, rfl, ?_⟩
  · exact ⟨List.cons_ne_nil _ _, List.all_eq_true.mp (by decide +kernel)⟩
  · rw [← Number.ofDigits_eq_numberOf]
    decide +kernel

theorem written_tooLarge :
    written (String.ofList ('a' :: '=' :: tooLarge)) = [(["a"], String.ofList tooLarge)] := by
  have htokens : (Text.splitOn '&' ('a' :: '=' :: tooLarge)).filter (!·.isEmpty)
      = ['a' :: '=' :: tooLarge] := by decide +kernel
  have hkey : place (decoded (Text.before '=' ('a' :: '=' :: tooLarge))) = ["a"] := by
    decide +kernel
  have hafter : Text.Percent.decode (Text.after '=' ('a' :: '=' :: tooLarge)) = tooLarge := by
    decide +kernel
  have hvalue : decoded (Text.after '=' ('a' :: '=' :: tooLarge)) = String.ofList tooLarge :=
    congrArg String.ofList hafter
  rw [written, pairs, String.toList_ofList, htokens, List.map_singleton, List.map_singleton, hkey,
    hvalue]

end Query

/-- The body of the response is what is written. -/
theorem Reply.write_of_ofValue {raw : RawQuery} {text : String} {contentType : Value}
    (h : Reply.ofValue (Query.toValue raw.parse) = .ok { body := .str text, contentType }) :
    Json.write (Query.toValue raw.parse) = .ok text := by
  obtain ⟨body, hwrite, hbody⟩ := map_eq_ok_iff.mp h
  have htext : body = text := Value.str.inj (congrArg Response.body hbody)
  rwa [htext] at hwrite

/-- **Not every query is sent back as JSON.** -/
theorem Reply.not_always_json :
    ¬ ∀ raw : RawQuery, ∃ text, Reply.ofValue (Query.toValue raw.parse)
        = .ok { body := .str text, contentType := .str "application/json; charset=utf-8" }
      ∧ Json.IsAscii text.toList ∧ Json.IsText text.toList := by
  intro h
  obtain ⟨text, hresponse, -, hjson⟩ := h (.text (String.ofList ('a' :: '=' :: Query.tooLarge)))
  have hwrite := Reply.write_of_ofValue hresponse
  refine (Query.isText_write_parse_iff hwrite).mp hjson (["a"], String.ofList Query.tooLarge) ?_ ?_
  · show _ ∈ Query.standing (Query.written (String.ofList ('a' :: '=' :: Query.tooLarge)))
    rw [Query.written_tooLarge]
    exact List.mem_cons_self
  · show Query.Scalar.Overflows (String.ofList Query.tooLarge).toList
    rw [String.toList_ofList]
    exact Query.overflows_tooLarge

end WebRouter

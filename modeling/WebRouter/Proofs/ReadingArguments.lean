import WebRouter.CommandLine.Grammar
import WebRouter.Proofs.Numerals
import WebRouter.Text.Pieces

/-!
# What an argument is taken for

How an argument is classified depends on how it looks, and for the arguments that people
write it is easily said: a word without a dash in front of it is an ordinary argument, and
so is a negative number (`IsOrdinary`); the name of an option is that option, and if it has
two dashes, a value may be joined to it (`classify_name`, `classify_joined`). None of this
depends on what the other options are, as long as their names have no `=` in them and do
not look like a number (`Grammar.Named`).

A grammar that takes a word and everything behind it is not troubled by the options of that
word, as long as their names are not short for its own (`exists_classify_name`,
`exists_classify_joined`).

Where an argument is to be a number, it may be the numeral of any integer that has not too many
digits (`readInt?_intText`).
-/

namespace WebRouter

namespace Number

theorem digitValue?_of_isDigit {c : Char} (h : isDigit c = true) :
    Text.digitValue? c = some (c.toNat - 48) := by
  have hbounds : 48 ≤ c.toNat ∧ c.toNat ≤ 57 := by simpa [isDigit] using h
  have hrange : (decide (0x30 ≤ c.toNat) && decide (c.toNat < 0x30 + 10)) = true := by
    simp only [Bool.and_eq_true, decide_eq_true_eq]
    omega
  have hfind : Text.digitZeros.find? (fun first => first ≤ c.toNat && c.toNat < first + 10)
      = some 0x30 := List.find?_cons_of_pos hrange
  rw [Text.digitValue?, hfind]
  rfl

theorem groupedDigits?_of_isNumeral {text : List Char} (h : IsNumeral text) :
    groupedDigits? text = some (text.map fun c => c.toNat - 48) := by
  obtain ⟨hne, hdigits⟩ := h
  induction text with
  | nil => exact absurd rfl hne
  | cons c rest ih =>
    obtain ⟨hc, hrest⟩ := List.forall_mem_cons.mp hdigits
    cases rest with
    | nil => 
      rw [groupedDigits?, digitValue?_of_isDigit hc]
      rfl
    | cons d more =>
      have hunderscore : d ≠ '_' := by
        intro he
        rw [he] at hrest
        exact absurd (hrest _ List.mem_cons_self) (by decide)
      rw [groupedDigits?, digitValue?_of_isDigit hc, ih (List.cons_ne_nil _ _) hrest]
      · rfl
      · intro he
        cases he
      · intro rest he
        exact hunderscore (List.cons.inj he).1

theorem strip_of_not_blank {text : List Char} (h : ∀ c ∈ text, Text.isBlank c = false) :
    strip text = text := by
  have hfront : ∀ text : List Char, (∀ c ∈ text, Text.isBlank c = false) →
      text.dropWhile Text.isBlank = text := by
    intro text h
    cases text with
    | nil => rfl
    | cons c rest => exact List.dropWhile_cons_of_neg (by simp [h c List.mem_cons_self])
  rw [strip, hfront text h, hfront text.reverse (fun c hc => h c (List.mem_reverse.mp hc)),
    List.reverse_reverse]

theorem not_blank_of_isDigit {c : Char} (h : isDigit c = true) : Text.isBlank c = false := by
  have hbounds : 48 ≤ c.toNat ∧ c.toNat ≤ 57 := by simpa [isDigit] using h
  simp [Text.isBlank, Text.inRanges, Text.blankRanges]
  omega

/-- An integer is read from its numeral, if that is not too long. -/
theorem readInt?_intText {i : Int} (h : (natText i.natAbs).length ≤ maxDigits) :
    readInt? (String.ofList (intText i)) = some i := by
  have hnumeral := isNumeral_natText i.natAbs
  have hstrip : strip (intText i) = intText i := by
    refine strip_of_not_blank fun c hc => ?_
    unfold intText at hc
    split at hc
    · rcases List.mem_cons.mp hc with he | hc
      · rw [he]
        decide
      · exact not_blank_of_isDigit (hnumeral.2 c hc)
    · exact not_blank_of_isDigit (hnumeral.2 c hc)
  have hmagnitude : (do
      let ds ← groupedDigits? (natText i.natAbs)
      if ds.length ≤ maxDigits then some (ds.foldl (fun n d => 10 * n + d) 0) else none)
        = some i.natAbs := by
    rw [groupedDigits?_of_isNumeral hnumeral]
    dsimp only [Option.bind_eq_bind, Option.bind_some]
    rw [List.length_map, if_pos h, List.foldl_map]
    exact congrArg some (ofDigits_natText i.natAbs)
  have hinteger := congrArg (fun n? : Option Nat => n?.bind fun n => some (n : Int)) hmagnitude
  unfold readInt?
  rw [String.toList_ofList, hstrip]
  by_cases hneg : i < 0
  · rw [show intText i = '-' :: natText i.natAbs from if_pos hneg]
    have hread := congrArg (Option.map fun n : Int => -n) hinteger
    have hvalue : -(i.natAbs : Int) = i := by omega
    exact hread.trans (congrArg some hvalue)
  · rw [show intText i = natText i.natAbs from if_neg hneg]
    have hread : some (i.natAbs : Int) = some i := congrArg some (by omega)
    split
    · next rest hrest =>
      rw [hrest] at hnumeral
      exact absurd (hnumeral.2 _ List.mem_cons_self) (by decide)
    · next rest hrest =>
      rw [hrest] at hnumeral
      exact absurd (hnumeral.2 _ List.mem_cons_self) (by decide)
    · exact (congrArg (Option.map fun n : Int => n) hinteger).trans hread
end Number

namespace CommandLine

/-- A word that is no option by its looks: it has no dash in front of anything, or it is the
numeral of a negative number. -/
def IsOrdinary (word : String) : Prop :=
  (∀ c rest, word.toList ≠ '-' :: c :: rest)
    ∨ ∃ digit digits, word.toList = '-' :: digit :: digits
      ∧ ∀ c ∈ digit :: digits, Number.isDigit c = true

/-- An option with a value joined to it. -/
def joinedTo (name value : String) : String :=
  name ++ "=" ++ value

theorem toList_joinedTo (name value : String) :
    (joinedTo name value).toList = name.toList ++ '=' :: value.toList := by
  rw [joinedTo, String.toList_append, String.toList_append, List.append_assoc]
  rfl

theorem isOrdinary_ne_separator {word : String} (h : IsOrdinary word) : word ≠ separator := by
  intro hsep
  rcases h with h | ⟨digit, digits, hword, hdigits⟩
  · exact h '-' [] (by rw [hsep]; rfl)
  · have hdash : ['-', '-'] = '-' :: digit :: digits := by
      rw [← hword, hsep]
      rfl
    have hdigit := hdigits digit List.mem_cons_self
    rw [← (List.cons.inj (List.cons.inj hdash).2).1] at hdigit
    exact absurd hdigit (by decide)

namespace Grammar

variable {σ : Type} {g : Grammar σ}

/-- The name of an option: it has no `=`, and no digit behind its dash. -/
def isName (name : String) : Bool :=
  !name.toList.contains '=' &&
    match name.toList with
    | '-' :: c :: _ => !Number.isDigit c
    | _ => true

/-- The options of a grammar have names that look like names. -/
def Named (g : Grammar σ) : Prop :=
  ∀ option ∈ g.actions, isName option.1 = true

theorem named_of_all (h : g.actions.all (fun option => isName option.1) = true) : g.Named :=
  List.all_eq_true.mp h

theorem equals_not_mem_of_isName {name : String} (h : isName name = true) :
    '=' ∉ name.toList := by
  have hcontains := (Bool.and_eq_true_iff.mp h).1
  simpa using hcontains

theorem not_digit_of_isName {name : String} (h : isName name = true) {c : Char}
    {rest : List Char} (hname : name.toList = '-' :: c :: rest) : Number.isDigit c = false := by
  have hdash := (Bool.and_eq_true_iff.mp h).2
  rw [hname] at hdash
  simpa using hdash

/-- An option is found by its name, and nothing else is. -/
theorem lookup_eq_none {arg : String} (h : ∀ option ∈ g.actions, option.1 ≠ arg) :
    g.actions.lookup arg = none := by
  rw [List.lookup_eq_none_iff]
  intro option hoption
  simpa using Ne.symm (h option hoption)

/-! ## Cutting at the first `=` -/

theorem cutAtEquals?_of_not_mem {arg : String} (h : '=' ∉ arg.toList) :
    cutAtEquals? arg = none := by
  have hcontains : ¬ arg.toList.contains '=' = true := by simpa using h
  rw [cutAtEquals?]
  exact if_neg hcontains

theorem cutAtEquals?_joinedTo {name : String} (h : '=' ∉ name.toList) (value : String) :
    cutAtEquals? (joinedTo name value) = some (name, value) := by
  have hcontains : (joinedTo name value).toList.contains '=' = true := by
    simp [toList_joinedTo]
  have hbefore : (joinedTo name value).toList.takeWhile (· != '=') = name.toList := by
    rw [toList_joinedTo]
    exact Text.before_append_cons h _
  have hafter : ((joinedTo name value).toList.dropWhile (· != '=')).drop 1 = value.toList := by
    rw [toList_joinedTo, List.drop_one]
    exact Text.after_append_cons h _
  rw [cutAtEquals?, if_pos hcontains, hbefore, hafter, String.ofList_toList,
    String.ofList_toList]

/-! ## Classifying -/

/-- The numeral of a negative number is one. -/
theorem isNegativeNumber_of_digits {word : String} {digit : Char} {digits : List Char}
    (hword : word.toList = '-' :: digit :: digits)
    (hdigits : ∀ c ∈ digit :: digits, Number.isDigit c = true) :
    isNegativeNumber word = true := by
  have hlast : (digit :: digits).getLast? ≠ some '\n' := by
    intro hlast
    have hbreak := hdigits _ (List.mem_of_getLast? hlast)
    exact absurd hbreak (by decide)
  have hdrop : (digit :: digits).dropWhile (fun c => (Text.digitValue? c).isSome) = [] := by
    rw [← List.append_nil (digit :: digits), List.dropWhile_append_of_pos]
    · rfl
    · intro c hc
      rw [Number.digitValue?_of_isDigit (hdigits c hc)]
      rfl
  have hnumber : (if (digit :: digits).getLast? = some '\n' then (digit :: digits).dropLast
      else digit :: digits) = digit :: digits := if_neg hlast
  unfold isNegativeNumber
  split
  · next rest hrest =>
    rw [hword] at hrest
    rw [← (List.cons.inj hrest).2]
    dsimp only
    rw [hnumber, hdrop]
    rfl
  · next hno => exact absurd hword (hno _)

/-- What a word with a dash in front is taken for. -/
theorem classify_of_dash {arg : String} {second : Char} {rest : List Char}
    (h : arg.toList = '-' :: second :: rest) :
    g.classify arg =
      match g.actions.lookup arg with
      | some action => .ok (.option action none)
      | none =>
        let named? := (cutAtEquals? arg).bind fun (name, value) =>
          (g.actions.lookup name).map fun action =>
            Kind.option action (some (if second = '-' then .long value else .short value))
        match named? with
        | some kind => .ok kind
        | none =>
          match if second = '-' then g.longCandidates arg else g.shortCandidates arg with
          | [(action, joined)] => .ok (.option action joined)
          | _ :: _ :: _ => .error .misuse
          | [] =>
            if isNegativeNumber arg || arg.toList.contains ' ' then .ok .ordinary
            else .ok .unknownOption := by
  rw [classify, h]
  rfl

/-- A word that is no option by its looks is an ordinary argument. -/
theorem classify_ordinary (hnamed : g.Named) {word : String} (h : IsOrdinary word) :
    g.classify word = .ok .ordinary := by
  rcases h with h | ⟨digit, digits, hword, hdigits⟩
  · unfold classify
    split
    · next c rest hword => exact absurd hword (h c rest)
    · rfl
  · -- no name has a digit behind its dash, so nothing is short for one either
    have hdigit : Number.isDigit digit = true := hdigits digit List.mem_cons_self
    have hdiffers : ∀ option ∈ g.actions, ∀ c rest, option.1.toList = '-' :: c :: rest →
        c ≠ digit := by
      intro option hoption c rest hname he
      rw [← he, not_digit_of_isName (hnamed option hoption) hname] at hdigit
      cases hdigit
    have hequals : '=' ∉ word.toList := by
      rw [hword]
      intro hmem
      rcases List.mem_cons.mp hmem with hdash | hmem
      · exact absurd hdash (by decide)
      · exact absurd (hdigits _ hmem) (by decide)
    have hlookup : g.actions.lookup word = none := by
      refine lookup_eq_none fun option hoption hname => ?_
      exact hdiffers option hoption digit digits (by rw [hname, hword]) rfl
    have hshort : g.shortCandidates word = [] := by
      rw [shortCandidates, List.filterMap_eq_nil_iff]
      intro option hoption
      have hwhole : option.1.toList ≠ word.toList.take 2 := by
        intro hname
        rw [hword] at hname
        exact hdiffers option hoption digit [] hname rfl
      have hcut : ¬ word.toList.isPrefixOf option.1.toList = true := by
        rw [List.isPrefixOf_iff_prefix, hword]
        intro ⟨rest, hname⟩
        exact hdiffers option hoption digit (digits ++ rest) hname.symm rfl
      rw [if_neg hwhole, if_neg hcut]
    have hdash : digit ≠ '-' := by
      intro he
      rw [he] at hdigit
      exact absurd hdigit (by decide)
    rw [classify_of_dash hword, hlookup, cutAtEquals?_of_not_mem hequals]
    dsimp only [Option.bind_none]
    rw [if_neg hdash, hshort, isNegativeNumber_of_digits hword hdigits]
    rfl

/-- The name of an option is that option. -/
theorem classify_name {name : String} {c : Char} {rest : List Char}
    (hdash : name.toList = '-' :: c :: rest) {action : Action σ}
    (h : g.actions.lookup name = some action) :
    g.classify name = .ok (.option action none) := by
  rw [classify_of_dash hdash, h]

/-- Options whose names have no `=` are not found where a value is joined to a name. -/
theorem lookup_joinedTo (hnamed : g.Named) (name value : String) :
    g.actions.lookup (joinedTo name value) = none := by
  refine lookup_eq_none fun option hoption he => ?_
  refine equals_not_mem_of_isName (hnamed option hoption) ?_
  rw [he, toList_joinedTo]
  simp

/-- The name of an option with a value joined to it is that option with that value. -/
theorem classify_joined (hnamed : g.Named) {name : String} {rest : List Char}
    (hdash : name.toList = '-' :: '-' :: rest) (hname : isName name = true)
    {action : Action σ} (h : g.actions.lookup name = some action) (value : String) :
    g.classify (joinedTo name value) = .ok (.option action (some (.long value))) := by
  have hlook : (joinedTo name value).toList = '-' :: '-' :: (rest ++ '=' :: value.toList) := by
    rw [toList_joinedTo, hdash]
    rfl
  rw [classify_of_dash hlook, lookup_joinedTo hnamed,
    cutAtEquals?_joinedTo (equals_not_mem_of_isName hname)]
  dsimp only [Option.bind_some]
  rw [h]
  rfl

/-- Where nothing is found by the name and nothing can be meant, there is no option. -/
theorem exists_classify_of_none {arg : String} {rest : List Char}
    (hdash : arg.toList = '-' :: '-' :: rest) (hlookup : g.actions.lookup arg = none)
    (hcut : ∀ cut, cutAtEquals? arg = some cut → g.actions.lookup cut.1 = none)
    (hlong : g.longCandidates arg = []) : ∃ kind, g.classify arg = .ok kind := by
  have hnamed : ((cutAtEquals? arg).bind fun (name, value) =>
      (g.actions.lookup name).map fun action =>
        Kind.option action (some (if '-' = '-' then .long value else .short value))) = none := by
    cases hat : cutAtEquals? arg with
    | none => rfl
    | some cut =>
      obtain ⟨name, value⟩ := cut
      have hlookup : g.actions.lookup name = none := hcut (name, value) hat
      rw [Option.bind_some]
      dsimp only
      rw [hlookup]
      rfl
  rw [classify_of_dash hdash, hlookup]
  dsimp only
  rw [hnamed, if_pos rfl, hlong]
  dsimp only
  split
  · exact ⟨_, rfl⟩
  · exact ⟨_, rfl⟩

section NotShort

variable {name : String} {rest : List Char} (hdash : name.toList = '-' :: '-' :: rest)
  (hname : isName name = true)
  (h : ∀ option ∈ g.actions, ¬ name.toList.isPrefixOf option.1.toList = true)

include h in
theorem lookup_of_not_short : g.actions.lookup name = none := by
  refine lookup_eq_none fun option hoption he => h option hoption ?_
  rw [he]
  simp

include hdash hname h

/-- A name that nothing is short for is no option. -/
theorem exists_classify_name : ∃ kind, g.classify name = .ok kind := by
  have hcut := cutAtEquals?_of_not_mem (equals_not_mem_of_isName hname)
  refine exists_classify_of_none hdash (lookup_of_not_short h) ?_ ?_
  · intro cut hat
    rw [hcut] at hat
    cases hat
  · rw [longCandidates, hcut]
    dsimp only
    rw [List.filter_eq_nil_iff.mpr h, List.map_nil]

/-- Neither is it with a value joined to it. -/
theorem exists_classify_joined (hnamed : g.Named) (value : String) :
    ∃ kind, g.classify (joinedTo name value) = .ok kind := by
  have hlook : (joinedTo name value).toList = '-' :: '-' :: (rest ++ '=' :: value.toList) := by
    rw [toList_joinedTo, hdash]
    rfl
  have hcut := cutAtEquals?_joinedTo (equals_not_mem_of_isName hname) value
  refine exists_classify_of_none hlook (lookup_joinedTo hnamed name value) ?_ ?_
  · intro cut hat
    rw [hcut] at hat
    cases hat
    exact lookup_of_not_short h
  · rw [longCandidates, hcut]
    dsimp only
    rw [List.filter_eq_nil_iff.mpr h, List.map_nil]

end NotShort

/-! ## Marking -/

theorem mark_cons {arg : String} {rest : List String} {kind : Kind σ}
    {marked : List (Marked σ)} (hsep : arg ≠ separator) (hkind : g.classify arg = .ok kind)
    (hrest : g.mark rest = .ok marked) : g.mark (arg :: rest) = .ok ((arg, kind) :: marked) := by
  rw [mark, if_neg hsep, hkind, hrest]
  rfl

/-- Arguments that can all be classified are marked with what they are. -/
theorem mark_of_classify {marked : List (Marked σ)}
    (h : ∀ m ∈ marked, m.1 ≠ separator ∧ g.classify m.1 = .ok m.2) :
    g.mark (marked.map Prod.fst) = .ok marked := by
  induction marked with
  | nil => rfl
  | cons m rest ih =>
    obtain ⟨⟨hsep, hkind⟩, hrest⟩ := List.forall_mem_cons.mp h
    rw [List.map_cons, mark_cons hsep hkind (ih hrest)]

/-- Arguments that can all be classified can be marked. -/
theorem exists_mark {args : List String}
    (h : ∀ arg ∈ args, arg ≠ separator ∧ ∃ kind, g.classify arg = .ok kind) :
    ∃ marked, marked.map Prod.fst = args ∧ g.mark args = .ok marked := by
  induction args with
  | nil => exact ⟨[], rfl, rfl⟩
  | cons arg rest ih =>
    obtain ⟨⟨hsep, kind, hkind⟩, hrest⟩ := List.forall_mem_cons.mp h
    obtain ⟨marked, hargs, hmark⟩ := ih hrest
    exact ⟨(arg, kind) :: marked, by rw [List.map_cons, hargs], mark_cons hsep hkind hmark⟩

end Grammar

end CommandLine

end WebRouter

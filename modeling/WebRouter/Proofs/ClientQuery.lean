import WebRouter.Proofs.QueryRoundTrip
import WebRouter.Proofs.ReadingBack

/-!
# A query reaches the server as it was given

The client adds a query to a path, behind a `?`, or behind a `&` if the path has a `?` of its
own; the URL is cut in two at its first `?`, and the second part goes out as bytes. On the
server's side it is cut into tokens and decoded. Nothing in the path can interfere, since a
separator between two texts keeps their tokens apart (`Query.pairs_append`), and nothing in the
query can, since no separator is left in what is encoded (`Query.pairs_tokens`).

> `Client.get_delivers_query`: the application answers a request whose path is that of the URL,
> and whose query string holds the pairs of the path's own query and then the given ones.
-/

namespace WebRouter

open Text.Latin1 (Fits)

/-- Two query strings with `&` between them hold the pairs of the first and then those of the
second. -/
theorem Query.pairs_append (first last : String) :
    pairs (first ++ "&" ++ last) = pairs first ++ pairs last := by
  have hchars : (first ++ "&" ++ last).toList = first.toList ++ '&' :: last.toList := by
    rw [String.toList_append, String.toList_append, List.append_assoc]
    rfl
  rw [pairs, hchars, Text.splitOn_append, List.filter_append, List.map_append]
  rfl

/-! ## Where a URL is cut -/

namespace Text

/-- What is added to a text with the separator joins the second half. -/
theorem cut_append {sep : Char} {text : String} (h : sep ∈ text.toList) (more : String) :
    cut sep (text ++ more) = ((cut sep text).1, (cut sep text).2 ++ more) := by
  obtain ⟨first, rest, htext, hfirst⟩ := List.eq_append_cons_of_mem h
  have hchars : (text ++ more).toList = first ++ sep :: (rest ++ more.toList) := by
    rw [String.toList_append, htext, List.append_assoc, List.cons_append]
  rw [cut, cut, hchars, htext, before_append_cons hfirst, before_append_cons hfirst,
    after_append_cons hfirst, after_append_cons hfirst, String.ofList_append, String.ofList_toList]

/-- A text without the separator is the first half of what it begins. -/
theorem cut_append_singleton {sep : Char} {text : String} (h : sep ∉ text.toList) (more : String) :
    cut sep (text ++ String.singleton sep ++ more) = (text, more) := by
  have hchars : (text ++ String.singleton sep ++ more).toList
      = text.toList ++ sep :: more.toList := by
    rw [String.toList_append, String.toList_append, String.toList_singleton, List.append_assoc,
      List.singleton_append]
  rw [cut, hchars, before_append_cons h, after_append_cons h, String.ofList_toList,
    String.ofList_toList]

theorem cut_of_not_mem {sep : Char} {text : String} (h : sep ∉ text.toList) :
    cut sep text = (text, "") := by
  rw [cut, before_of_not_mem h, after_of_not_mem h, String.ofList_toList]

/-- Whatever stands in texts with separators between them is a separator or stands in a text. -/
theorem mem_intercalate {sep c : Char} {texts : List (List Char)}
    (h : c ∈ [sep].intercalate texts) : c = sep ∨ ∃ text ∈ texts, c ∈ text := by
  induction texts with
  | nil => exact absurd h List.not_mem_nil
  | cons text rest ih =>
    cases rest with
    | nil =>
      rw [List.intercalate_singleton] at h
      exact Or.inr ⟨text, List.mem_cons_self, h⟩
    | cons next rest =>
      rw [List.intercalate_cons_cons, List.append_assoc, List.mem_append, List.mem_append,
        List.mem_singleton] at h
      rcases h with htext | hsep | hrest
      · exact Or.inr ⟨text, List.mem_cons_self, htext⟩
      · exact Or.inl hsep
      · rcases ih hrest with hsep | ⟨other, hother, hc⟩
        · exact Or.inl hsep
        · exact Or.inr ⟨other, List.mem_cons_of_mem _ hother, hc⟩

end Text

namespace Client

/-- A query of texts as the client is given it. -/
def asValues (query : List (String × String)) : List (String × Value) :=
  query.map fun pair => (pair.1, .str pair.2)

/-- A query without a key twice is encoded token by token. -/
theorem encodeQuery_asValues {query : List (String × String)}
    (hdistinct : (query.map Prod.fst).Nodup) :
    encodeQuery (asValues query) = String.ofList (['&'].intercalate (query.map Query.token)) := by
  have hkeys : (asValues query).map Prod.fst = query.map Prod.fst := by
    rw [asValues, List.map_map]
    rfl
  have hnodup : ((([] : List (String × Value)) ++ asValues query).map Prod.fst).Nodup := by
    rw [List.nil_append, hkeys]
    exact hdistinct
  -- no key replaces another, so the mapping has the pairs as they were given
  have hofList : Ordered.ofList (asValues query) = asValues query := Ordered.update_of_nodup hnodup
  have htokens : ((asValues query).map encodePair).map String.toList = query.map Query.token := by
    rw [asValues, List.map_map, List.map_map]
    refine List.map_congr_left fun pair _ => ?_
    show (String.ofList (Query.token pair)).toList = Query.token pair
    rw [String.toList_ofList]
  rw [encodeQuery, hofList, ← String.toList_inj, String.toList_intercalate, htokens]
  exact String.toList_ofList.symm

theorem pairs_encodeQuery {query : List (String × String)}
    (hdistinct : (query.map Prod.fst).Nodup) :
    Query.pairs (encodeQuery (asValues query)) = query := by
  rw [encodeQuery_asValues hdistinct, Query.pairs_tokens]

theorem toNat_lt_of_mem_token {pair : String × String} {c : Char} (h : c ∈ Query.token pair) :
    c.toNat < 128 := by
  rcases List.mem_append.mp h with hkey | hvalue
  · exact Text.Percent.toNat_lt_of_isWritten (Text.Percent.isWritten_of_mem_encode hkey)
  · rcases List.mem_cons.mp hvalue with he | hvalue
    · rw [he]
      decide
    · exact Text.Percent.toNat_lt_of_isWritten (Text.Percent.isWritten_of_mem_encode hvalue)

/-- Every character of an encoded query has a byte. -/
theorem fits_encodeQuery {query : List (String × String)}
    (hdistinct : (query.map Prod.fst).Nodup) : Fits (encodeQuery (asValues query)) := by
  rw [encodeQuery_asValues hdistinct]
  apply Text.Latin1.fits_of_ascii
  intro c hc
  rw [String.toList_ofList] at hc
  rcases Text.mem_intercalate hc with hamp | ⟨token, htoken, hc⟩
  · rw [hamp]
    decide
  · obtain ⟨pair, -, hpair⟩ := List.mem_map.mp htoken
    rw [← hpair] at hc
    exact toNat_lt_of_mem_token hc

/-! ## Queries added to paths -/

section Added

variable {path : String} {query : List (String × String)}

theorem withQuery_asValues (hne : query ≠ []) :
    withQuery path (asValues query)
      = path ++ String.singleton (if '?' ∈ path.toList then '&' else '?')
        ++ encodeQuery (asValues query) := by
  have hsome : (asValues query).isEmpty = false := by
    rw [asValues, List.isEmpty_map]
    exact List.isEmpty_eq_false_iff.mpr hne
  rw [withQuery, hsome, if_neg Bool.false_ne_true]
  by_cases hmark : '?' ∈ path.toList
  · rw [if_pos hmark, if_pos (List.contains_iff_mem.mpr hmark)]
    rfl
  · rw [if_neg hmark, if_neg (fun h => hmark (List.contains_iff_mem.mp h))]
    rfl

theorem fits_withQuery (hpath : Fits path) (hne : query ≠ [])
    (hdistinct : (query.map Prod.fst).Nodup) : Fits (withQuery path (asValues query)) := by
  rw [withQuery_asValues hne]
  refine Text.Latin1.fits_append.mpr
    ⟨Text.Latin1.fits_append.mpr ⟨hpath, ?_⟩, fits_encodeQuery hdistinct⟩
  split
  · decide +kernel
  · decide +kernel

/-- The first half of the URL is that of the path, and the second holds both queries. -/
theorem cut_withQuery (path : String) (hne : query ≠ []) (hdistinct : (query.map Prod.fst).Nodup) :
    (Text.cut '?' (withQuery path (asValues query))).1 = (Text.cut '?' path).1
      ∧ Query.pairs (Text.cut '?' (withQuery path (asValues query))).2
        = Query.pairs (Text.cut '?' path).2 ++ query := by
  have hpairs := pairs_encodeQuery hdistinct
  rw [withQuery_asValues hne]
  by_cases hmark : '?' ∈ path.toList
  · -- the URL is cut where the path is, and the `&` keeps the two queries apart
    rw [if_pos hmark, String.append_assoc, Text.cut_append hmark, ← String.append_assoc]
    refine ⟨rfl, ?_⟩
    rw [show String.singleton '&' = "&" from rfl, Query.pairs_append, hpairs]
  · -- the URL is cut at the `?` that is added
    rw [if_neg hmark, Text.cut_append_singleton hmark, Text.cut_of_not_mem hmark, hpairs]
    exact ⟨rfl, rfl⟩

/-- **A query reaches the server as it was given.** The request that an application has to
answer has the path of the URL up to its first `?`, and its query string holds the pairs of
what stands behind that, then the given ones in order. Whatever the application is, its answer
to that request is what the client reads. -/
theorem get_delivers_query (hpath : Fits path) (hne : query ≠ [])
    (hdistinct : (query.map Prod.fst).Nodup) :
    ∃ made : Request, made.path = (Text.cut '?' path).1
      ∧ Query.pairs made.query = Query.pairs (Text.cut '?' path).2 ++ query
      ∧ ∀ app : App,
        let outcome := get app path (asValues query) []
        outcome.result = (Message.ofResponse (app.dispatch made).response).map readBack
          ∧ outcome.calls = (app.dispatch made).calls := by
  have hmade := requestOf_of_fits "GET" (fits_withQuery hpath hne hdistinct)
  obtain ⟨hfirst, hsecond⟩ := cut_withQuery path hne hdistinct
  refine ⟨plainRequest "GET" (withQuery path (asValues query)), ?_, ?_, ?_⟩
  · rw [← hfirst]
    rfl
  · rw [← hsecond]
    rfl
  · intro app
    exact request_dispatches app hmade

/-- A path with a query of its own. -/
def mixedPath : String := "/é?x=1?&"

/-- A query whose keys and values hold separators and escapes. -/
def mixed : List (String × String) :=
  [("a=b", "1 + 1 & 50%"), ("", ""), ("日", "\x27?\x27")]

/-- Neither the separators and escapes of the query nor those of the path get in the way. -/
theorem get_delivers_query_mixed :
    ∃ made : Request, made.path = "/é" ∧ Query.pairs made.query = ("x", "1?") :: mixed
      ∧ ∀ app : App, (get app mixedPath (asValues mixed) []).calls = (app.dispatch made).calls := by
  have hfits : Fits mixedPath := by decide +kernel
  have hdistinct : (mixed.map Prod.fst).Nodup := by decide
  obtain ⟨made, hpath, hpairs, hanswers⟩ :=
    get_delivers_query hfits (List.cons_ne_nil _ _) hdistinct
  have hfirst : (Text.cut '?' mixedPath).1 = "/é" := by decide +kernel
  have hown : Query.pairs (Text.cut '?' mixedPath).2 = [("x", "1?")] := by decide +kernel
  rw [hown] at hpairs
  exact ⟨made, hpath.trans hfirst, hpairs, fun app => (hanswers app).2⟩

end Added

end Client

end WebRouter

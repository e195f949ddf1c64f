/-!
# Mappings that remember the order of their keys

A mapping is a list of pairs. The order of the pairs is the order in which the
keys were first stored: storing under a key that is already there replaces the
value and leaves the key in its place, storing under a new key appends. Every
ordered thing of this library (a route table, a match cache, the parameters of
a path, a parsed query) is such a list, so the rule is stated once, in `put`.

Keys are compared with `==`, which lets a mapping be keyed by values whose
equality is coarser than identity. Where `==` is identity, `find?_put_self` and
`find?_put_of_ne` say what is found after `put`, and `keys_put` says in which
order the keys stand.
-/

namespace WebRouter.Ordered

variable {κ α : Type} [BEq κ]

/-- The value stored under `key`. -/
def find? (key : κ) : List (κ × α) → Option α
  | [] => none
  | (k, v) :: rest => if k == key then some v else find? key rest

/-- Whether something is stored under `key`. -/
def contains (key : κ) (entries : List (κ × α)) : Bool :=
  (find? key entries).isSome

/-- Stores `value` under `key`: a known key keeps its place, a new one goes last. -/
def put (key : κ) (value : α) : List (κ × α) → List (κ × α)
  | [] => [(key, value)]
  | (k, v) :: rest => if k == key then (k, value) :: rest else (k, v) :: put key value rest

/-- Stores all of `incoming`, pair by pair, over `base`. -/
def update (base incoming : List (κ × α)) : List (κ × α) :=
  incoming.foldl (fun entries pair => put pair.1 pair.2 entries) base

/-- The mapping that a list of pairs describes: of a repeated key the first
place and the last value count. -/
def ofList (pairs : List (κ × α)) : List (κ × α) :=
  update [] pairs

section LawfulKeys

variable [LawfulBEq κ]

/-- What was stored is found. -/
theorem find?_put_self (key : κ) (value : α) (entries : List (κ × α)) :
    find? key (put key value entries) = some value := by
  induction entries with
  | nil => rw [put, find?, if_pos BEq.rfl]
  | cons pair rest ih =>
    rw [put]
    split
    · next h => rw [find?, if_pos h]
    · next h => rw [find?, if_neg h, ih]

/-- Storing under one key leaves what stands under the others. -/
theorem find?_put_of_ne {key other : κ} (h : other ≠ key) (value : α)
    (entries : List (κ × α)) : find? other (put key value entries) = find? other entries := by
  have hne : ¬ (key == other) = true := fun e => h (eq_of_beq e).symm
  induction entries with
  | nil => exact if_neg hne
  | cons pair rest ih =>
    rw [put]
    split
    · next hk => rw [find?, find?, eq_of_beq hk, if_neg hne, if_neg hne]
    · next hk => rw [find?, find?, ih]

/-- A key that is not there is neither that of the first pair nor one of the rest. -/
theorem not_mem_keys_cons {key : κ} {pair : κ × α} {rest : List (κ × α)}
    (h : key ∉ (pair :: rest).map Prod.fst) :
    ¬ (pair.1 == key) = true ∧ key ∉ rest.map Prod.fst := by
  obtain ⟨hne, hrest⟩ := not_or.mp (mt List.mem_cons.mpr h)
  exact ⟨fun e => hne (eq_of_beq e).symm, hrest⟩

/-- Nothing is found under a key that is not there. -/
theorem find?_of_not_mem {key : κ} {entries : List (κ × α)} (h : key ∉ entries.map Prod.fst) :
    find? key entries = none := by
  induction entries with
  | nil => rfl
  | cons pair rest ih =>
    obtain ⟨hskip, hrest⟩ := not_mem_keys_cons h
    rw [find?, if_neg hskip, ih hrest]

/-- A new key is stored at the end. -/
theorem put_of_not_mem {key : κ} {entries : List (κ × α)} (h : key ∉ entries.map Prod.fst)
    (value : α) : put key value entries = entries ++ [(key, value)] := by
  induction entries with
  | nil => rfl
  | cons pair rest ih =>
    obtain ⟨hskip, hrest⟩ := not_mem_keys_cons h
    rw [put, if_neg hskip, ih hrest, List.cons_append]

/-- What is found is the value of the first pair with the key. -/
theorem find?_append_cons {key : κ} {before : List (κ × α)} (h : key ∉ before.map Prod.fst)
    (value : α) (after : List (κ × α)) :
    find? key (before ++ (key, value) :: after) = some value := by
  induction before with
  | nil => rw [List.nil_append, find?, if_pos BEq.rfl]
  | cons pair rest ih =>
    obtain ⟨hskip, hrest⟩ := not_mem_keys_cons h
    rw [List.cons_append, find?, if_neg hskip, ih hrest]

/-- A known key is stored in its place. -/
theorem put_append_cons {key : κ} {before : List (κ × α)} (h : key ∉ before.map Prod.fst)
    (value old : α) (after : List (κ × α)) :
    put key value (before ++ (key, old) :: after) = before ++ (key, value) :: after := by
  induction before with
  | nil => rw [List.nil_append, put, if_pos BEq.rfl, List.nil_append]
  | cons pair rest ih =>
    obtain ⟨hskip, hrest⟩ := not_mem_keys_cons h
    rw [List.cons_append, put, if_neg hskip, ih hrest, List.cons_append]

/-- A known key keeps its place and a new one goes last. -/
theorem keys_put (key : κ) (value : α) (entries : List (κ × α)) :
    (put key value entries).map Prod.fst =
      if key ∈ entries.map Prod.fst then entries.map Prod.fst
      else entries.map Prod.fst ++ [key] := by
  induction entries with
  | nil => rfl
  | cons pair rest ih =>
    rw [put]
    by_cases hk : (pair.1 == key) = true
    · have he := eq_of_beq hk
      rw [if_pos hk, List.map_cons, List.map_cons, he, if_pos List.mem_cons_self]
    · have hne : key ≠ pair.1 := fun e => hk (beq_iff_eq.mpr e.symm)
      rw [if_neg hk, List.map_cons, ih, List.map_cons]
      by_cases hm : key ∈ rest.map Prod.fst
      · rw [if_pos hm, if_pos (List.mem_cons_of_mem _ hm)]
      · rw [if_neg hm, if_neg fun h => (List.mem_cons.mp h).elim hne hm]
        rfl

/-- Something is stored under exactly the keys. -/
theorem contains_iff_mem_keys (key : κ) (entries : List (κ × α)) :
    contains key entries = true ↔ key ∈ entries.map Prod.fst := by
  unfold contains
  induction entries with
  | nil => exact iff_of_false Bool.false_ne_true List.not_mem_nil
  | cons pair rest ih =>
    rw [find?, List.map_cons, List.mem_cons]
    by_cases hk : (pair.1 == key) = true
    · rw [if_pos hk]
      exact ⟨fun _ => Or.inl (eq_of_beq hk).symm, fun _ => rfl⟩
    · rw [if_neg hk, ih]
      exact ⟨Or.inr, fun h => h.resolve_left fun e => hk (beq_iff_eq.mpr e.symm)⟩

theorem contains_eq_false_iff (key : κ) (entries : List (κ × α)) :
    contains key entries = false ↔ key ∉ entries.map Prod.fst := by
  rw [← contains_iff_mem_keys, Bool.not_eq_true]

/-- What is found is stored. -/
theorem mem_of_find? {key : κ} {value : α} {entries : List (κ × α)}
    (h : find? key entries = some value) : (key, value) ∈ entries := by
  induction entries with
  | nil => cases h
  | cons pair rest ih =>
    rw [find?] at h
    split at h
    · next hk =>
      rw [← eq_of_beq hk, ← Option.some.inj h]
      exact List.mem_cons_self
    · exact List.mem_cons_of_mem _ (ih h)

/-- Nothing but the new pair comes in by storing. -/
theorem mem_put {key : κ} {value : α} {entries : List (κ × α)} {pair : κ × α}
    (h : pair ∈ put key value entries) : pair = (key, value) ∨ pair ∈ entries := by
  induction entries with
  | nil => exact Or.inl (List.mem_singleton.mp h)
  | cons first rest ih =>
    rw [put] at h
    split at h
    · next hk =>
      rcases List.mem_cons.mp h with rfl | hm
      · exact Or.inl (by rw [eq_of_beq hk])
      · exact Or.inr (List.mem_cons_of_mem _ hm)
    · rcases List.mem_cons.mp h with rfl | hm
      · exact Or.inr List.mem_cons_self
      · exact (ih hm).imp_right (List.mem_cons_of_mem _)

/-- Storing leaves what stands under other keys, and what is stored again. -/
theorem mem_put_of_mem {key : κ} {value : α} {entries : List (κ × α)} {pair : κ × α}
    (h : pair ∈ entries) (hkeep : pair.1 = key → pair.2 = value) :
    pair ∈ put key value entries := by
  induction entries with
  | nil => cases h
  | cons first rest ih =>
    rw [put]
    split
    · next hk =>
      rcases List.mem_cons.mp h with rfl | hm
      · rw [← hkeep (eq_of_beq hk)]
        exact List.mem_cons_self
      · exact List.mem_cons_of_mem _ hm
    · rcases List.mem_cons.mp h with rfl | hm
      · exact List.mem_cons_self
      · exact List.mem_cons_of_mem _ (ih hm)

/-- Storing keeps the keys distinct. -/
theorem nodup_keys_put {entries : List (κ × α)} (h : (entries.map Prod.fst).Nodup) (key : κ)
    (value : α) : ((put key value entries).map Prod.fst).Nodup := by
  rw [keys_put]
  split
  · exact h
  · next hk =>
    refine List.nodup_append.mpr ⟨h, List.pairwise_singleton _ key, ?_⟩
    intro a ha b hb e
    exact hk (List.mem_singleton.mp hb ▸ e ▸ ha)

/-- Storing many pairs keeps the keys distinct. -/
theorem nodup_keys_update {base : List (κ × α)} (h : (base.map Prod.fst).Nodup)
    (incoming : List (κ × α)) : ((update base incoming).map Prod.fst).Nodup := by
  unfold update
  induction incoming generalizing base with
  | nil => exact h
  | cons pair rest ih => exact ih (nodup_keys_put h pair.1 pair.2)

/-- A mapping made of pairs has distinct keys. -/
theorem nodup_keys_ofList (pairs : List (κ × α)) : ((ofList pairs).map Prod.fst).Nodup :=
  have h : (([] : List (κ × α)).map Prod.fst).Nodup := List.nodup_nil
  nodup_keys_update h pairs

/-- Pairs with new keys are stored one after the other, at the end. -/
theorem update_of_nodup {base incoming : List (κ × α)}
    (h : ((base ++ incoming).map Prod.fst).Nodup) : update base incoming = base ++ incoming := by
  unfold update
  induction incoming generalizing base with
  | nil => exact (List.append_nil base).symm
  | cons pair rest ih =>
    obtain ⟨key, value⟩ := pair
    have hnew : key ∉ base.map Prod.fst := by
      rw [List.map_append, List.map_cons, List.nodup_append] at h
      exact fun hmem => h.2.2 key hmem key List.mem_cons_self rfl
    have happend : base ++ (key, value) :: rest = base ++ [(key, value)] ++ rest := by
      rw [List.append_assoc, List.singleton_append]
    rw [List.foldl_cons, put_of_not_mem hnew, happend]
    rw [happend] at h
    exact ih h

end LawfulKeys

section LastGiven

variable {σ ι β : Type}

/-- What the last item gives that gives anything. -/
def last? (given : ι → Option β) (items : List ι) : Option β :=
  items.reverse.findSome? given

theorem last?_cons (given : ι → Option β) (item : ι) (rest : List ι) :
    last? given (item :: rest) = (last? given rest).or (given item) := by
  rw [last?, List.reverse_cons, List.findSome?_append, last?, List.findSome?_singleton]

/-- What every step replaces that gives anything is, after all steps, what was given last. -/
theorem foldl_of_replaced {step : σ → ι → σ} {given : ι → Option β} {found : σ → Option β}
    {items : List ι}
    (hstep : ∀ item ∈ items, ∀ s, found (step s item) = (given item).or (found s)) (s : σ) :
    found (items.foldl step s) = (last? given items).or (found s) := by
  induction items generalizing s with
  | nil => rfl
  | cons item rest ih =>
    obtain ⟨hitem, hrest⟩ := List.forall_mem_cons.mp hstep
    rw [List.foldl_cons, ih hrest, hitem, last?_cons, Option.or_assoc]

end LastGiven

end WebRouter.Ordered

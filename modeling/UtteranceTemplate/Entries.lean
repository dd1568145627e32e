/-!
Entries: values under keys, in the order in which the keys first came. Putting a
value under a key that is there already replaces the value and keeps the key's place.

What `put` does to a look-up is `get?_put_self` and `get?_put_of_ne`; what it does to
the keys is `keys_put_of_mem` and `put_of_not_mem`. Pairs with different keys make
entries as they stand (`ofPairs_of_nodup`).
-/

namespace UtteranceTemplate

/-- Values under keys, in the order in which the keys first came. -/
abbrev Entries (κ α : Type) := List (κ × α)

namespace Entries

variable {κ α : Type}

def keys (entries : Entries κ α) : List κ := entries.map Prod.fst

def get? [BEq κ] (entries : Entries κ α) (key : κ) : Option α :=
  match entries with
  | [] => none
  | (k, value) :: rest => if k == key then some value else get? rest key

/-- Puts a value under a key, in place of the one that is there. -/
def put [BEq κ] (entries : Entries κ α) (key : κ) (value : α) : Entries κ α :=
  match entries with
  | [] => [(key, value)]
  | (k, old) :: rest =>
      if k == key then (k, value) :: rest else (k, old) :: put rest key value

/-- Puts the values of several pairs, from left to right. -/
def putAll [BEq κ] (entries : Entries κ α) (pairs : List (κ × α)) : Entries κ α :=
  pairs.foldl (fun entries pair => put entries pair.1 pair.2) entries

/-- The entries that a row of pairs leaves: of a repeated key the first place and
the last value. -/
def ofPairs [BEq κ] (pairs : List (κ × α)) : Entries κ α := putAll [] pairs

/-- Whether two rows of entries hold the same values under the same keys, in
whatever order. -/
def sameAs [BEq κ] [BEq α] (left right : Entries κ α) : Bool :=
  left.length == right.length && left.all fun pair =>
    get? right pair.1 == some pair.2

section Keys

variable [BEq κ]

theorem putAll_cons (entries : Entries κ α) (pair : κ × α) (pairs : List (κ × α)) :
    putAll entries (pair :: pairs) = putAll (put entries pair.1 pair.2) pairs := rfl

theorem putAll_append (entries : Entries κ α) (pairs more : List (κ × α)) :
    putAll entries (pairs ++ more) = putAll (putAll entries pairs) more :=
  List.foldl_append

theorem ofPairs_concat (pairs : List (κ × α)) (pair : κ × α) :
    ofPairs (pairs ++ [pair]) = put (ofPairs pairs) pair.1 pair.2 :=
  putAll_append [] pairs [pair]

/-- Whether no two keys of entries are the same. -/
def IsMapping (entries : Entries κ α) : Prop :=
  entries.keys.Pairwise fun key other => (key == other) = false

theorem keys_put_eq_or (entries : Entries κ α) (key : κ) (value : α) :
    keys (put entries key value) = keys entries ∨
      keys (put entries key value) = keys entries ++ [key] ∧
        ∀ other ∈ keys entries, (other == key) = false := by
  induction entries with
  | nil => exact Or.inr ⟨rfl, by simp [keys]⟩
  | cons pair rest ih =>
      rw [put]
      split
      · exact Or.inl rfl
      · rename_i hne
        rcases ih with hkeys | ⟨hkeys, hnew⟩
        · exact Or.inl (congrArg (pair.1 :: ·) hkeys)
        · refine Or.inr ⟨congrArg (pair.1 :: ·) hkeys, ?_⟩
          intro other hother
          rcases List.mem_cons.mp hother with rfl | hother
          · simpa using hne
          · exact hnew other hother

/-- The entries that a row of pairs leaves are a mapping, whatever its keys. -/
theorem isMapping_ofPairs (pairs : List (κ × α)) : (ofPairs pairs).IsMapping := by
  have hputAll : ∀ entries : Entries κ α, entries.IsMapping →
      (putAll entries pairs).IsMapping := by
    induction pairs with
    | nil => exact fun entries hentries => hentries
    | cons pair pairs ih =>
        intro entries hentries
        apply ih
        rcases keys_put_eq_or entries pair.1 pair.2 with hkeys | ⟨hkeys, hnew⟩
        · rwa [IsMapping, hkeys]
        · rw [IsMapping, hkeys, List.pairwise_append]
          refine ⟨hentries, List.pairwise_singleton _ _, ?_⟩
          intro other hother key hkey
          rw [List.mem_singleton.mp hkey]
          exact hnew other hother
  exact hputAll [] List.Pairwise.nil

end Keys

section Lawful

variable [BEq κ] [LawfulBEq κ]

theorem get?_put_self (entries : Entries κ α) (key : κ) (value : α) :
    get? (put entries key value) key = some value := by
  induction entries with
  | nil => simp [put, get?]
  | cons pair rest ih =>
      simp only [put]
      split
      · simp_all [get?]
      · simp_all [get?]

theorem get?_put_of_ne (entries : Entries κ α) {key other : κ} (value : α)
    (h : key ≠ other) :
    get? (put entries key value) other = get? entries other := by
  induction entries with
  | nil => simp [put, get?, h]
  | cons pair rest ih =>
      simp only [put]
      split
      · simp_all [get?]
      · simp [get?, ih]

theorem put_of_not_mem (entries : Entries κ α) {key : κ} (value : α)
    (h : key ∉ keys entries) : put entries key value =
      entries ++ [(key, value)] := by
  induction entries with
  | nil => rfl
  | cons pair rest ih =>
      simp only [keys, List.map_cons, List.mem_cons, not_or] at h
      have hne : (pair.1 == key) = false := by simpa using fun heq => h.1 heq.symm
      simp [put, hne, ih h.2]

theorem keys_put_of_mem (entries : Entries κ α) {key : κ} (value : α)
    (h : key ∈ keys entries) :
    keys (put entries key value) = keys entries := by
  induction entries with
  | nil => simp [keys] at h
  | cons pair rest ih =>
      simp only [put]
      split
      · simp [keys]
      · simp only [keys, List.map_cons, List.mem_cons] at h ih ⊢
        rcases h with h | h
        · simp_all
        · simp [ih h]

theorem get?_eq_some_of_mem {entries : Entries κ α} (h : (keys entries).Nodup)
    {key : κ} {value : α} (hmem : (key, value) ∈ entries) :
    get? entries key = some value := by
  induction entries with
  | nil => simp at hmem
  | cons pair rest ih =>
      simp only [keys, List.map_cons, List.nodup_cons] at h
      rcases List.mem_cons.mp hmem with rfl | hmem
      · simp [get?]
      · have hkey : key ∈ rest.map Prod.fst := List.mem_map_of_mem hmem
        have hne : (pair.1 == key) = false := by
          simpa using fun heq : pair.1 = key => h.1 (heq ▸ hkey)
        simp only [get?, hne, Bool.false_eq_true, if_false]
        exact ih h.2 hmem

theorem mem_of_get?_eq_some {entries : Entries κ α} {key : κ} {value : α}
    (h : get? entries key = some value) : (key, value) ∈ entries := by
  induction entries with
  | nil => simp [get?] at h
  | cons pair rest ih =>
      simp only [get?] at h
      split at h
      · rename_i heq
        simp only [Option.some.injEq] at h
        rw [← eq_of_beq heq, ← h]
        exact List.mem_cons_self
      · exact List.mem_cons_of_mem _ (ih h)

/-- Pairs with different keys are put one behind the other. -/
theorem putAll_of_nodup (entries : Entries κ α) (pairs : List (κ × α))
    (h : (keys (entries ++ pairs)).Nodup) :
    putAll entries pairs = entries ++ pairs := by
  induction pairs generalizing entries with
  | nil => simp [putAll]
  | cons pair rest ih =>
      have hkey : pair.1 ∉ keys entries := by
        simp only [keys, List.map_append, List.map_cons] at h ⊢
        exact fun hmem =>
          (List.nodup_append.mp h).2.2 _ hmem _ List.mem_cons_self rfl
      have hrest := ih (entries ++ [pair]) (by simpa using h)
      calc putAll entries (pair :: rest)
        _ = putAll (put entries pair.1 pair.2) rest := rfl
        _ = putAll (entries ++ [pair]) rest := by
          rw [put_of_not_mem entries pair.2 hkey]
        _ = entries ++ pair :: rest := by rw [hrest]; simp

theorem ofPairs_of_nodup (pairs : List (κ × α)) (h : (keys pairs).Nodup) :
    ofPairs pairs = pairs :=
  putAll_of_nodup [] pairs h

theorem mem_or_eq_of_mem_put {key : κ} {value : α}
    (h : pair ∈ put entries key value) :
    pair ∈ entries ∨ pair = (key, value) := by
  induction entries with
  | nil => exact Or.inr (List.mem_singleton.mp h)
  | cons first rest ih =>
      rw [put] at h
      split at h
      · rename_i hkey
        rcases List.mem_cons.mp h with rfl | hrest
        · exact Or.inr (by rw [eq_of_beq hkey])
        · exact Or.inl (List.mem_cons_of_mem _ hrest)
      · rcases List.mem_cons.mp h with rfl | hrest
        · exact Or.inl List.mem_cons_self
        · exact (ih hrest).imp_left (List.mem_cons_of_mem _)

theorem mem_or_mem_of_mem_putAll {pairs : List (κ × α)}
    (h : pair ∈ putAll entries pairs) :
    pair ∈ entries ∨ pair ∈ pairs := by
  induction pairs generalizing entries with
  | nil => exact Or.inl h
  | cons first rest ih =>
      have hrest : pair ∈ put entries first.1 first.2 ∨ pair ∈ rest := ih h
      rcases hrest with hput | hrest
      · rcases mem_or_eq_of_mem_put hput with hold | rfl
        · exact Or.inl hold
        · exact Or.inr List.mem_cons_self
      · exact Or.inr (List.mem_cons_of_mem _ hrest)

theorem mem_of_mem_ofPairs {pairs : List (κ × α)} (h : pair ∈ ofPairs pairs) :
    pair ∈ pairs := by
  rcases mem_or_mem_of_mem_putAll h with hnil | hpairs
  · cases hnil
  · exact hpairs

theorem keys_put (entries : Entries κ α) (key : κ) (value : α) :
    keys (put entries key value) =
      if (keys entries).contains key then keys entries
      else keys entries ++ [key] := by
  split
  · rename_i hmem
    exact keys_put_of_mem entries value (by simpa using hmem)
  · rename_i hmem
    rw [put_of_not_mem entries value (by simpa using hmem), keys, keys,
      List.map_append]
    rfl

theorem nodup_keys_put {entries : Entries κ α} (h : (keys entries).Nodup) (key : κ)
    (value : α) :
    (keys (put entries key value)).Nodup := by
  rw [keys_put]
  split
  · exact h
  · rename_i hmem
    refine List.nodup_append.mpr
      ⟨h, List.nodup_cons.mpr ⟨List.not_mem_nil, List.nodup_nil⟩, ?_⟩
    intro other hother last hlast heq
    rw [List.mem_singleton.mp hlast] at heq
    exact hmem (by simpa using heq ▸ hother)

theorem nodup_keys_putAll {entries : Entries κ α} (h : (keys entries).Nodup)
    (pairs : List (κ × α)) : (keys (putAll entries pairs)).Nodup := by
  induction pairs generalizing entries with
  | nil => exact h
  | cons pair pairs ih => exact ih (nodup_keys_put h pair.1 pair.2)

theorem nodup_keys_ofPairs
    (pairs : List (κ × α)) : (keys (ofPairs pairs)).Nodup := by
  apply nodup_keys_putAll
  exact List.nodup_nil

theorem put_put_self (entries : Entries κ α) (key : κ) (old value : α) :
    put (put entries key old) key value = put entries key value := by
  induction entries with
  | nil => simp [put]
  | cons pair rest ih =>
      by_cases heq : pair.1 = key
      · simp [put, heq]
      · simp [put, heq, ih]

/-- Putting a value under a key that is there commutes with putting one under
another key. -/
theorem put_put_comm (entries : Entries κ α) {key other : κ} (value more : α)
    (hne : key ≠ other) (hmem : key ∈ keys entries) :
    put (put entries other more) key value =
      put (put entries key value) other more := by
  induction entries with
  | nil => cases hmem
  | cons pair rest ih =>
      by_cases hkey : pair.1 = key
      · subst hkey
        simp [put, hne]
      · have hrest : key ∈ keys rest := by
          rcases List.mem_cons.mp hmem with heq | hrest
          · exact absurd heq.symm hkey
          · exact hrest
        by_cases hother : pair.1 = other
        · subst hother
          simp [put, hkey]
        · simp [put, hkey, hother, ih hrest]

theorem put_putAll_comm {entries pairs : Entries κ α} {key : κ} (value : α)
    (hmem : key ∈ keys entries) (hnew : key ∉ keys pairs) :
    put (putAll entries pairs) key value = putAll (put entries key value) pairs := by
  induction pairs generalizing entries with
  | nil => rfl
  | cons pair pairs ih =>
      obtain ⟨hne, hrest⟩ := not_or.mp fun h => hnew (List.mem_cons.mpr h)
      have hstill : key ∈ keys (put entries pair.1 pair.2) := by
        rw [keys_put]
        split
        · exact hmem
        · exact List.mem_append_left _ hmem
      rw [putAll_cons, ih hstill hrest, put_put_comm entries value pair.2 hne hmem,
        putAll_cons]

theorem putAll_put {pairs : Entries κ α} (h : (keys pairs).Nodup)
    (entries : Entries κ α) (key : κ) (value : α) :
    putAll entries (put pairs key value) = put (putAll entries pairs) key value := by
  induction pairs generalizing entries with
  | nil => rfl
  | cons pair pairs ih =>
      obtain ⟨hnew, hrest⟩ := List.nodup_cons.mp h
      by_cases hkey : pair.1 = key
      · subst hkey
        have hmem : pair.1 ∈ keys (put entries pair.1 pair.2) := by
          rw [keys_put]
          split
          · rename_i hmem
            simpa using hmem
          · simp
        rw [putAll_cons, put_putAll_comm value hmem hnew, put_put_self]
        simp [put, putAll_cons]
      · simp [put, hkey, putAll_cons, ih hrest]

theorem putAll_putAll (entries : Entries κ α) {first : Entries κ α}
    (h : (keys first).Nodup) (pairs : List (κ × α)) :
    putAll entries (putAll first pairs) = putAll (putAll entries first) pairs := by
  induction pairs generalizing first with
  | nil => rfl
  | cons pair pairs ih =>
      rw [putAll_cons, ih (nodup_keys_put h pair.1 pair.2),
        putAll_put h, putAll_cons]

/-- Putting pairs one by one is putting the entries that they leave. -/
theorem putAll_ofPairs (entries : Entries κ α) (pairs : List (κ × α)) :
    putAll entries (ofPairs pairs) = putAll entries pairs := by
  have hnil : (keys ([] : Entries κ α)).Nodup := List.nodup_nil
  exact putAll_putAll entries hnil pairs

theorem keys_putAll {pairs : Entries κ α} (h : (keys pairs).Nodup)
    (entries : Entries κ α) :
    keys (putAll entries pairs) =
      keys entries ++ (keys pairs).filter fun key =>
        !(keys entries).contains key := by
  induction pairs generalizing entries with
  | nil => simp [putAll, keys]
  | cons pair pairs ih =>
      obtain ⟨hnew, hrest⟩ := List.nodup_cons.mp h
      have hkeys : keys (pair :: pairs) = pair.1 :: keys pairs := rfl
      rw [putAll_cons, ih hrest, keys_put, hkeys, List.filter_cons]
      split
      · rename_i hmem
        rw [hmem]
        rfl
      · rename_i hmem
        have hlater : ∀ key ∈ keys pairs,
            (!(keys entries ++ [pair.1]).contains key) =
            !(keys entries).contains key := by
          intro key hkey
          have hne : key ≠ pair.1 := fun heq => hnew (heq ▸ hkey)
          simp [hne]
        rw [Bool.eq_false_iff.mpr hmem, List.filter_congr hlater, List.append_assoc]
        rfl

theorem get?_eq_none_of_not_mem {entries : Entries κ α} {key : κ}
    (h : key ∉ keys entries) :
    get? entries key = none := by
  rw [Option.eq_none_iff_forall_ne_some]
  intro value hvalue
  exact h (List.mem_map_of_mem (mem_of_get?_eq_some hvalue))

theorem get?_putAll {pairs : Entries κ α} (h : (keys pairs).Nodup)
    (entries : Entries κ α) (key : κ) :
    get? (putAll entries pairs) key = (get? pairs key).or (get? entries key) := by
  induction pairs generalizing entries with
  | nil => rfl
  | cons pair pairs ih =>
      obtain ⟨hnew, hrest⟩ := List.nodup_cons.mp h
      rw [putAll_cons, ih hrest]
      by_cases hkey : pair.1 = key
      · subst hkey
        have hnone : get? pairs pair.1 = none := get?_eq_none_of_not_mem hnew
        rw [hnone, get?_put_self]
        simp [get?]
      · rw [get?_put_of_ne entries pair.2 hkey]
        simp [get?, hkey]

end Lawful

end Entries

end UtteranceTemplate

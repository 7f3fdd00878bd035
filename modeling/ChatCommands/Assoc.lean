/-!
# Association lists

Finite maps from keys to values, as lists of pairs. A key occurs at most once in a list built by
`put` and `erase` from the empty one; where it occurred more than once, the first pair would count.
New keys go to the end, so the order is that of first insertion.
-/

namespace ChatCommands.Assoc

variable {κ α : Type} [DecidableEq κ]

/-- The value stored at `key`. -/
def get? (key : κ) : List (κ × α) → Option α
  | [] => none
  | (k, v) :: rest => if k = key then some v else get? key rest

/-- The list with `value` stored at `key`, in place of what was there. -/
def put (key : κ) (value : α) : List (κ × α) → List (κ × α)
  | [] => [(key, value)]
  | (k, v) :: rest => if k = key then (key, value) :: rest else (k, v) :: put key value rest

/-- The list without `key`. -/
def erase (key : κ) (entries : List (κ × α)) : List (κ × α) :=
  entries.filter fun entry => decide (entry.1 ≠ key)

def keys (entries : List (κ × α)) : List κ :=
  entries.map Prod.fst

@[simp] theorem get?_nil (key : κ) : get? key ([] : List (κ × α)) = none := rfl

theorem get?_put (key key' : κ) (value : α) (entries : List (κ × α)) :
    get? key' (put key value entries) = if key = key' then some value else get? key' entries := by
  induction entries with
  | nil => simp [put, get?]
  | cons e rest ih =>
    obtain ⟨k, v⟩ := e
    by_cases hk : k = key
    · subst hk
      by_cases hk' : k = key' <;> simp [put, get?, hk']
    · by_cases hk' : k = key'
      · subst hk'
        simp [put, get?, hk, Ne.symm hk]
      · simp [put, get?, hk, hk', ih]

theorem get?_erase (key key' : κ) (entries : List (κ × α)) :
    get? key' (erase key entries) = if key = key' then none else get? key' entries := by
  induction entries with
  | nil => simp [erase]
  | cons e rest ih =>
    obtain ⟨k, v⟩ := e
    unfold erase at ih ⊢
    by_cases hk : k = key
    · subst hk
      by_cases hk' : k = key' <;> simp_all [get?]
    · by_cases hk' : k = key'
      · subst hk'
        simp [get?, hk, Ne.symm hk]
      · simp_all [get?]

theorem keys_put (key : κ) (value : α) (entries : List (κ × α)) :
    keys (put key value entries) =
      if key ∈ keys entries then keys entries else keys entries ++ [key] := by
  unfold keys
  induction entries with
  | nil => rfl
  | cons e rest ih =>
    obtain ⟨k, v⟩ := e
    by_cases hk : k = key
    · subst hk
      simp [put]
    · simp only [put, hk, if_false, List.map_cons, ih, List.mem_cons, Ne.symm hk, false_or]
      split <;> rfl

theorem nodup_keys_put {key : κ} {value : α} {entries : List (κ × α)}
    (h : (keys entries).Nodup) : (keys (put key value entries)).Nodup := by
  rw [keys_put]
  split
  · exact h
  · rename_i hnew
    refine List.nodup_append.2 ⟨h, List.nodup_cons.2 ⟨List.not_mem_nil, List.nodup_nil⟩, ?_⟩
    rintro k hk _ hkey rfl
    exact hnew (List.mem_singleton.1 hkey ▸ hk)

omit [DecidableEq κ] in
theorem nodup_keys_filter {entries : List (κ × α)} (h : (keys entries).Nodup)
    (p : κ × α → Bool) : (keys (entries.filter p)).Nodup :=
  h.sublist (List.filter_sublist.map Prod.fst)

theorem get?_eq_none_of_not_mem_keys {key : κ} {entries : List (κ × α)} (h : key ∉ keys entries) :
    get? key entries = none := by
  induction entries with
  | nil => rfl
  | cons e rest ih =>
    obtain ⟨k, v⟩ := e
    simp only [keys, List.map_cons, List.mem_cons, not_or] at h
    simp only [get?, Ne.symm h.1, if_false]
    exact ih h.2

theorem mem_of_get?_eq_some {key : κ} {value : α} {entries : List (κ × α)}
    (h : get? key entries = some value) : (key, value) ∈ entries := by
  induction entries with
  | nil => cases h
  | cons e rest ih =>
    obtain ⟨k, v⟩ := e
    by_cases hk : k = key
    · subst hk
      simp only [get?, if_true, Option.some.injEq] at h
      exact List.mem_cons.2 (.inl (by rw [h]))
    · simp only [get?, hk, if_false] at h
      exact List.mem_cons_of_mem _ (ih h)

/-- Where no key occurs twice, the pairs are the values stored. -/
theorem get?_eq_some_iff {key : κ} {value : α} {entries : List (κ × α)}
    (h : (keys entries).Nodup) : get? key entries = some value ↔ (key, value) ∈ entries := by
  refine ⟨mem_of_get?_eq_some, fun hmem => ?_⟩
  induction entries with
  | nil => cases hmem
  | cons e rest ih =>
    obtain ⟨k, v⟩ := e
    obtain ⟨hnew, hrest⟩ := List.nodup_cons.1 h
    rcases List.mem_cons.1 hmem with heq | hmem
    · obtain ⟨rfl, rfl⟩ := Prod.mk.inj heq
      simp only [get?, if_true]
    · have hk : k ≠ key := by
        rintro rfl
        exact hnew (List.mem_map.2 ⟨_, hmem, rfl⟩)
      simp only [get?, hk, if_false]
      exact ih hrest hmem

theorem mem_put {key : κ} {value : α} {entries : List (κ × α)} {entry : κ × α}
    (h : entry ∈ put key value entries) : entry = (key, value) ∨ entry ∈ entries := by
  induction entries with
  | nil => exact .inl (List.mem_singleton.1 h)
  | cons e rest ih =>
    obtain ⟨k, v⟩ := e
    by_cases hk : k = key
    · simp only [put, hk, if_true] at h
      exact (List.mem_cons.1 h).imp id (List.mem_cons_of_mem _)
    · simp only [put, hk, if_false] at h
      rcases List.mem_cons.1 h with h | h
      · exact .inr (List.mem_cons.2 (.inl h))
      · exact (ih h).imp id (List.mem_cons_of_mem _)

/-- Where no key occurs twice, a filter decides on each key by its one value. -/
theorem get?_filter {entries : List (κ × α)} (h : (keys entries).Nodup) (p : κ × α → Bool)
    (key : κ) : get? key (entries.filter p) = (get? key entries).filter fun v => p (key, v) := by
  induction entries with
  | nil => rfl
  | cons e rest ih =>
    obtain ⟨k, v⟩ := e
    obtain ⟨hnew, hrest⟩ := List.nodup_cons.1 h
    by_cases hk : k = key
    · subst hk
      have hnone := get?_eq_none_of_not_mem_keys hnew
      by_cases hp : p (k, v) = true
      · simp [get?, hp, Option.filter]
      · simp [get?, Option.filter, List.filter_cons_of_neg hp, ih hrest, hnone, hp]
    · by_cases hp : p (k, v) = true
      · simp [get?, hp, hk, ih hrest]
      · simp [get?, hp, hk, ih hrest]

end ChatCommands.Assoc

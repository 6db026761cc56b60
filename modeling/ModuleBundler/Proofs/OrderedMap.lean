import Mathlib.Data.List.Nodup
import ModuleBundler.OrderedMap

/-!
# Laws of ordered maps

Membership of keys and entries, and what the writing operations do to the list of entries.  All
look-ups go through `get?_eq_some_iff_mem`: a key has a value exactly if the pair is an entry,
because no two entries share a key.
-/

namespace ModuleBundler.OrderedMap

universe u v w

variable {κ : Type u} {β : Type v} {γ : Type w}

@[simp] lemma toList_empty : (empty : OrderedMap κ β).toList = [] := rfl

lemma keys_eq_map (m : OrderedMap κ β) : m.keys = m.toList.map Prod.fst := rfl

lemma values_eq_map (m : OrderedMap κ β) : m.values = m.toList.map Prod.snd := rfl

lemma keys_nodup (m : OrderedMap κ β) : m.keys.Nodup := m.nodup

lemma mem_keys_of_mem {m : OrderedMap κ β} {key : κ} {value : β} (h : (key, value) ∈ m.toList) :
    key ∈ m.keys :=
  List.mem_map.2 ⟨_, h, rfl⟩

/-- Maps with the same entries are the same. -/
lemma toList_injective {m m' : OrderedMap κ β} (h : m.toList = m'.toList) : m = m' := by
  cases m
  cases m'
  cases h
  rfl

/-- The map with all values changed by a function. -/
def mapValues (f : β → γ) (m : OrderedMap κ β) : OrderedMap κ γ :=
  ⟨m.entries.map fun e => (e.1, f e.2), by
    rw [List.map_map]
    exact m.nodup⟩

lemma toList_mapValues (f : β → γ) (m : OrderedMap κ β) :
    (m.mapValues f).toList = m.toList.map fun e => (e.1, f e.2) := rfl

lemma keys_mapValues (f : β → γ) (m : OrderedMap κ β) : (m.mapValues f).keys = m.keys := by
  rw [keys_eq_map, keys_eq_map, toList_mapValues, List.map_map]
  rfl

lemma values_mapValues (f : β → γ) (m : OrderedMap κ β) :
    (m.mapValues f).values = m.values.map f := by
  rw [values_eq_map, values_eq_map, toList_mapValues, List.map_map, List.map_map]
  rfl

section Lookup

variable [DecidableEq κ]

lemma get?_mapValues (f : β → γ) (m : OrderedMap κ β) (key : κ) :
    (m.mapValues f).get? key = (m.get? key).map f := by
  rw [get?, get?, mapValues, List.find?_map, Option.map_map, Option.map_map]
  rfl

lemma contains_mapValues (f : β → γ) (m : OrderedMap κ β) (key : κ) :
    (m.mapValues f).contains key = m.contains key := by
  rw [contains, contains, keys_mapValues]

@[simp] lemma contains_iff_mem_keys (m : OrderedMap κ β) (key : κ) :
    m.contains key = true ↔ key ∈ m.keys := by
  simp [contains]

/-- A key has a value exactly if the pair is an entry. -/
lemma get?_eq_some_iff_mem (m : OrderedMap κ β) (key : κ) (value : β) :
    m.get? key = some value ↔ (key, value) ∈ m.toList := by
  obtain ⟨entries, hn⟩ := m
  simp only [get?, toList]
  induction entries with
  | nil => simp
  | cons e rest ih =>
      obtain ⟨k, b⟩ := e
      rw [List.map_cons, List.nodup_cons] at hn
      by_cases hk : k = key
      · subst hk
        have hrest : (k, value) ∉ rest := fun h => hn.1 (List.mem_map.2 ⟨_, h, rfl⟩)
        simp [hrest, eq_comm]
      · rw [List.find?_cons_of_neg (by simpa using hk), ih hn.2]
        simp [Ne.symm hk]

/-- A key without a value is no key. -/
lemma get?_eq_none_iff (m : OrderedMap κ β) (key : κ) : m.get? key = none ↔ key ∉ m.keys := by
  rw [Option.eq_none_iff_forall_ne_some]
  constructor
  · intro h hk
    obtain ⟨⟨k, b⟩, he, rfl⟩ := List.mem_map.1 hk
    exact h b ((get?_eq_some_iff_mem m k b).2 he)
  · intro h value hv
    exact h (mem_keys_of_mem ((get?_eq_some_iff_mem m key value).1 hv))

lemma contains_eq_false_iff (m : OrderedMap κ β) (key : κ) :
    m.contains key = false ↔ m.get? key = none := by
  rw [get?_eq_none_iff, ← contains_iff_mem_keys, Bool.not_eq_true]

lemma mem_keys_of_get? {m : OrderedMap κ β} {key : κ} {value : β}
    (h : m.get? key = some value) : key ∈ m.keys :=
  mem_keys_of_mem ((get?_eq_some_iff_mem m key value).1 h)

lemma mem_values_of_get? {m : OrderedMap κ β} {key : κ} {value : β}
    (h : m.get? key = some value) : value ∈ m.values :=
  List.mem_map.2 ⟨_, (get?_eq_some_iff_mem m key value).1 h, rfl⟩

lemma exists_get?_of_mem_keys {m : OrderedMap κ β} {key : κ} (h : key ∈ m.keys) :
    ∃ value, m.get? key = some value := by
  cases hv : m.get? key with
  | some value => exact ⟨value, rfl⟩
  | none => exact absurd h ((get?_eq_none_iff m key).1 hv)

lemma toList_insert_of_notMem (m : OrderedMap κ β) {key : κ} (value : β) (h : key ∉ m.keys) :
    (m.insert key value).toList = m.toList ++ [(key, value)] := by
  obtain ⟨entries, hn⟩ := m
  simp only [insert, toList, keys] at h ⊢
  clear hn
  induction entries with
  | nil => rfl
  | cons e rest ih =>
      rw [List.map_cons, List.mem_cons, not_or] at h
      rw [writeEntry, if_neg (Ne.symm h.1), ih h.2, List.cons_append]

/-- Pairs with new and distinct keys are put behind the others, in order. -/
lemma toList_foldl_insert (pairs : List (κ × β)) (m : OrderedMap κ β)
    (h : (m.keys ++ pairs.map Prod.fst).Nodup) :
    (pairs.foldl (fun m p => m.insert p.1 p.2) m).toList = m.toList ++ pairs := by
  induction pairs generalizing m with
  | nil => simp
  | cons p rest ih =>
      have hnew : p.1 ∉ m.keys := fun hmem =>
        List.disjoint_of_nodup_append h hmem (by simp)
      have hkeys : (m.insert p.1 p.2).keys = m.keys ++ [p.1] := by
        rw [keys_insert, if_neg hnew]
      rw [List.foldl_cons, ih, toList_insert_of_notMem m p.2 hnew]
      · simp
      · rw [hkeys]
        simpa using h

/-- Pairs with distinct keys are the entries of their map. -/
lemma toList_ofList {pairs : List (κ × β)} (h : (pairs.map Prod.fst).Nodup) :
    (ofList pairs).toList = pairs :=
  toList_foldl_insert pairs empty (by simpa using h)

/-- A write to a known key changes the entry of that key. -/
lemma toList_insert_of_mem (m : OrderedMap κ β) {key : κ} (value : β) (h : key ∈ m.keys) :
    (m.insert key value).toList = m.toList.map fun e => if e.1 = key then (key, value) else e := by
  obtain ⟨entries, hn⟩ := m
  simp only [insert, toList, keys] at h ⊢
  induction entries with
  | nil => cases h
  | cons e rest ih =>
      rw [List.map_cons, List.nodup_cons] at hn
      by_cases hk : e.1 = key
      · -- No later entry has the key, so all of them stay.
        have hrest : ∀ e' ∈ rest, e'.1 ≠ key := by
          rintro e' he' rfl
          exact hn.1 (hk ▸ List.mem_map.2 ⟨e', he', rfl⟩)
        rw [writeEntry, if_pos hk, List.map_cons, if_pos hk, hk]
        exact congrArg _ ((List.map_id rest).symm.trans
          (List.map_congr_left fun e' he' => (if_neg (hrest e' he')).symm))
      · rw [writeEntry, if_neg hk, List.map_cons, if_neg hk]
        exact congrArg _ (ih hn.2 ((List.mem_cons.1 h).resolve_left (Ne.symm hk)))

/-- A change to the value of a key changes the entry of that key, if there is one. -/
lemma toList_modify (m : OrderedMap κ β) (key : κ) (f : β → β) :
    (m.modify key f).toList = m.toList.map fun e => if e.1 = key then (e.1, f e.2) else e := by
  unfold modify
  split
  · next value hv =>
      rw [toList_insert_of_mem m _ (mem_keys_of_get? hv)]
      refine List.map_congr_left fun e he => ?_
      split
      · next hk =>
          subst hk
          rw [(get?_eq_some_iff_mem m e.1 e.2).2 he] at hv
          rw [Option.some.inj hv]
      · rfl
  · next hv =>
      rw [get?_eq_none_iff] at hv
      refine (List.map_id m.toList).symm.trans (List.map_congr_left fun e he => ?_)
      rw [if_neg]
      · rfl
      · rintro rfl
        exact hv (List.mem_map.2 ⟨e, he, rfl⟩)

@[simp]
lemma keys_modify (m : OrderedMap κ β) (key : κ) (f : β → β) : (m.modify key f).keys = m.keys := by
  unfold modify
  split
  · next value hv => rw [keys_insert, if_pos (mem_keys_of_get? hv)]
  · rfl

/-- Reading after a change: the changed key has its changed value, if it had any. -/
lemma get?_modify (m : OrderedMap κ β) (key key' : κ) (f : β → β) :
    (m.modify key f).get? key' = if key = key' then (m.get? key').map f else m.get? key' := by
  unfold modify
  split
  · next value hv =>
      rw [get?_insert]
      split
      · next h => rw [← h, hv, Option.map_some]
      · rfl
  · next hv =>
      split
      · next h => rw [← h, hv, Option.map_none]
      · rfl

end Lookup

end ModuleBundler.OrderedMap

import CaptureControl.KeyedList
import Mathlib.Data.List.Induction
import Mathlib.Data.List.Nodup

/-!
# Putting values under keys

Properties of objects are read, and counters reported, by putting values under keys one after
another. The last value under a key counts, and keys stand in the order of their first use. So the
order of the values matters only where a key is given two of them.

## Main definitions

* `KeyedList.putAll` — values put under keys, one after another

## Main results

* `KeyedList.get?_putAll`, `KeyedList.mem_putAll_iff_append` — the last value that is put under a
  key counts
* `KeyedList.putAll_of_nodup`, `KeyedList.mem_putAll_iff` — what is kept if no key is given twice,
  and if none is given two values
-/

namespace CaptureControl

namespace KeyedList

variable {κ α : Type} [DecidableEq κ]

theorem mem_keys_update {key key' : κ} {f : Option α → α} {l : KeyedList κ α} :
    key' ∈ keys (update key f l) ↔ key' = key ∨ key' ∈ keys l := by
  rw [keys_update]
  split
  next h => exact ⟨Or.inr, fun h' => h'.elim (fun heq => heq ▸ h) id⟩
  next => rw [List.mem_append, List.mem_singleton, or_comm]

theorem nodup_keys_update {key : κ} {f : Option α → α} {l : KeyedList κ α} (h : (keys l).Nodup) :
    (keys (update key f l)).Nodup := by
  rw [keys_update]
  split
  next => exact h
  next hkey =>
    rw [← List.concat_eq_append, List.nodup_concat]
    exact ⟨hkey, h⟩

theorem update_of_notMem {key : κ} {f : Option α → α} {l : KeyedList κ α} (h : key ∉ keys l) :
    update key f l = l ++ [(key, f none)] := by
  induction l with
  | nil => rfl
  | cons p l ih =>
    obtain ⟨k, a⟩ := p
    rw [keys, List.map_cons, List.mem_cons, not_or] at h
    rw [update, if_neg (Ne.symm h.1), ih h.2, List.cons_append]

theorem mem_of_get?_eq_some {key : κ} {a : α} {l : KeyedList κ α} (h : get? key l = some a) :
    (key, a) ∈ l := by
  obtain ⟨⟨k, b⟩, hfind, rfl⟩ := Option.map_eq_some_iff.mp h
  have hk : k = key := by simpa using List.find?_some hfind
  exact hk ▸ List.mem_of_find?_eq_some hfind

/-- If all values under a key are the same, the first of them is it. -/
theorem get?_eq_some_of_forall {key : κ} {a : α} {l : KeyedList κ α} (hmem : (key, a) ∈ l)
    (hall : ∀ b, (key, b) ∈ l → b = a) : get? key l = some a := by
  induction l with
  | nil => cases hmem
  | cons p l ih =>
    obtain ⟨k, b⟩ := p
    rw [get?_cons]
    split
    next hk => rw [hall b (hk ▸ List.mem_cons_self)]
    next hk =>
      have hmem' : (key, a) ∈ l := by
        rcases List.mem_cons.mp hmem with heq | h
        · exact absurd (Prod.mk.inj heq).1.symm hk
        · exact h
      exact ih hmem' fun b' h => hall b' (List.mem_cons_of_mem _ h)

/-- Puts values under keys, one after another. -/
def putAll (entries l : KeyedList κ α) : KeyedList κ α :=
  entries.foldl (fun l e => put e.1 e.2 l) l

theorem putAll_concat (entries : KeyedList κ α) (e : κ × α) (l : KeyedList κ α) :
    putAll (entries ++ [e]) l = put e.1 e.2 (putAll entries l) :=
  List.foldl_concat ..

/-- Under distinct keys all values are kept, in their order. -/
theorem putAll_of_nodup {entries : KeyedList κ α} (h : (keys entries).Nodup) :
    putAll entries [] = entries := by
  induction entries using List.reverseRecOn with
  | nil => rfl
  | append_singleton entries e ih =>
    rw [keys, List.map_append, List.map_singleton, ← List.concat_eq_append, List.nodup_concat] at h
    rw [putAll_concat, ih h.2, put, update_of_notMem h.1]

/-- **The last value that is put under a key counts.** -/
theorem get?_putAll (key : κ) (entries : KeyedList κ α) :
    get? key (putAll entries []) = get? key entries.reverse := by
  induction entries using List.reverseRecOn with
  | nil => rfl
  | append_singleton entries e ih =>
    rw [putAll_concat, get?_put, List.reverse_concat, get?_cons, ih]

theorem nodup_keys_putAll (entries : KeyedList κ α) : (keys (putAll entries [])).Nodup := by
  induction entries using List.reverseRecOn with
  | nil => exact List.nodup_nil
  | append_singleton entries e ih =>
    rw [putAll_concat]
    exact nodup_keys_update ih

theorem mem_putAll_iff_get? {entries : KeyedList κ α} {key : κ} {a : α} :
    (key, a) ∈ putAll entries [] ↔ get? key entries.reverse = some a := by
  rw [← get?_putAll]
  refine ⟨fun hmem => get?_eq_some_of_forall hmem fun b hb => ?_, mem_of_get?_eq_some⟩
  exact (Prod.mk.inj (List.inj_on_of_nodup_map (nodup_keys_putAll entries) hb hmem rfl)).2

/-- Where no key is given two values, all are kept. -/
theorem mem_putAll_iff {entries : KeyedList κ α} {key : κ} {a : α}
    (h : ∀ b, (key, a) ∈ entries → (key, b) ∈ entries → b = a) :
    (key, a) ∈ putAll entries [] ↔ (key, a) ∈ entries := by
  rw [mem_putAll_iff_get?]
  constructor
  · intro hget
    exact List.mem_reverse.mp (mem_of_get?_eq_some hget)
  · intro hmem
    exact get?_eq_some_of_forall (List.mem_reverse.mpr hmem) fun b hb =>
      h b hmem (List.mem_reverse.mp hb)

/-- The value under a key is the first one that stands under it. -/
theorem get?_eq_some_iff_append {key : κ} {a : α} {l : KeyedList κ α} :
    get? key l = some a ↔ ∃ before after, l = before ++ (key, a) :: after ∧ key ∉ keys before := by
  have hbefore : ∀ before : KeyedList κ α,
      (∀ p ∈ before, !decide (p.1 = key)) ↔ key ∉ keys before := by
    intro before
    simp only [Bool.not_eq_true', decide_eq_false_iff_not, keys, List.mem_map, not_exists, not_and]
  rw [get?, Option.map_eq_some_iff]
  simp only [List.find?_eq_some_iff_append, hbefore]
  constructor
  · rintro ⟨⟨k, b⟩, ⟨hk, before, after, rfl, hkeys⟩, rfl⟩
    obtain rfl : k = key := of_decide_eq_true hk
    exact ⟨before, after, rfl, hkeys⟩
  · rintro ⟨before, after, rfl, hkeys⟩
    exact ⟨(key, a), ⟨decide_eq_true rfl, before, after, rfl, hkeys⟩, rfl⟩

/-- **What is kept is the last value that was put under each key.** -/
theorem mem_putAll_iff_append {entries : KeyedList κ α} {key : κ} {a : α} :
    (key, a) ∈ putAll entries [] ↔
      ∃ before after, entries = before ++ (key, a) :: after ∧ key ∉ keys after := by
  have hkeys : ∀ l : KeyedList κ α, key ∈ keys l.reverse ↔ key ∈ keys l := by
    intro l
    rw [keys, keys, List.map_reverse, List.mem_reverse]
  rw [mem_putAll_iff_get?, get?_eq_some_iff_append]
  constructor
  · rintro ⟨before, after, heq, hbefore⟩
    refine ⟨after.reverse, before.reverse, ?_, mt (hkeys before).mp hbefore⟩
    rw [← List.reverse_reverse entries, heq, List.reverse_append, List.reverse_cons,
      List.append_assoc, List.singleton_append]
  · rintro ⟨before, after, rfl, hafter⟩
    refine ⟨after.reverse, before.reverse, ?_, mt (hkeys after).mp hafter⟩
    rw [List.reverse_append, List.reverse_cons, List.append_assoc, List.singleton_append]

end KeyedList

end CaptureControl

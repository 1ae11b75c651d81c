/-!
# Lists under keys

Values under keys, in the order in which the keys were first given. Counters, labels, properties and
variables are kept in this way, because their order shows.

## Main statements

* `get?_update`: an update changes the value under its key and no other.
* `keys_update`: a new key is added at the end, and a known one keeps its place.
-/

namespace CaptureControl

/-- A list of values under keys. -/
abbrev KeyedList (κ α : Type) := List (κ × α)

namespace KeyedList

variable {κ α : Type} [DecidableEq κ]

/-- The keys, in their order. -/
def keys (l : KeyedList κ α) : List κ :=
  l.map Prod.fst

/-- The first value under a key. -/
def get? (key : κ) (l : KeyedList κ α) : Option α :=
  (l.find? fun p => p.1 = key).map Prod.snd

/-- Replaces the first value under a key by one that is made of it. -/
def update (key : κ) (f : Option α → α) : KeyedList κ α → KeyedList κ α
  | [] => [(key, f none)]
  | (k, a) :: rest => if k = key then (k, f (some a)) :: rest else (k, a) :: update key f rest

/-- Sets the value under a key. -/
def put (key : κ) (a : α) (l : KeyedList κ α) : KeyedList κ α :=
  update key (fun _ => a) l

@[simp] theorem get?_nil (key : κ) : get? key ([] : KeyedList κ α) = none := rfl

theorem get?_cons (key k : κ) (a : α) (l : KeyedList κ α) :
    get? key ((k, a) :: l) = if k = key then some a else get? key l := by
  by_cases h : k = key <;> simp [get?, h]

theorem get?_append {key : κ} {l : KeyedList κ α} {a : α} (h : get? key l = some a)
    (l' : KeyedList κ α) : get? key (l ++ l') = some a := by
  obtain ⟨p, hp, rfl⟩ := Option.map_eq_some_iff.mp h
  rw [get?, List.find?_append, hp]
  rfl

theorem get?_update (key key' : κ) (f : Option α → α) (l : KeyedList κ α) :
    get? key' (update key f l) = if key = key' then some (f (get? key l)) else get? key' l := by
  induction l with
  | nil => by_cases h : key = key' <;> simp [update, get?_cons, h]
  | cons p l ih =>
    obtain ⟨k, a⟩ := p
    rw [update]
    split
    next hk =>
      subst hk
      by_cases h : k = key' <;> simp [get?_cons, h]
    next hk =>
      rw [get?_cons, ih, get?_cons, get?_cons]
      by_cases h : key = key'
      · subst h
        simp [hk]
      · simp [h]

theorem get?_put (key key' : κ) (a : α) (l : KeyedList κ α) :
    get? key' (put key a l) = if key = key' then some a else get? key' l :=
  get?_update key key' (fun _ => a) l

theorem keys_update (key : κ) (f : Option α → α) (l : KeyedList κ α) :
    keys (update key f l) = if key ∈ keys l then keys l else keys l ++ [key] := by
  induction l with
  | nil => simp [update, keys]
  | cons p l ih =>
    obtain ⟨k, a⟩ := p
    rw [update]
    split
    next hk => simp [keys, hk]
    next hk =>
      have hk' : key ≠ k := fun h => hk h.symm
      simp only [keys, List.map_cons, List.mem_cons, hk', false_or] at ih ⊢
      rw [ih]
      split <;> simp_all

end KeyedList

end CaptureControl

import CaptureControl.Session
import Mathlib.Order.Defs.Unbundled

/-!
# How actions run

The laws by which composed actions are taken apart. Two kinds of facts are needed: what an action
that succeeds has done, step by step, and what an action has done however it ends. The first kind is
an inversion for each way of composing. The second kind is a preorder on sessions that every step
keeps, so that it is stated once for an arbitrary preorder.

Some preorders come with a list of items that tell how the one session led to the other, such as the
incidents between them or the entries in the counters. How the items are related to the outcome of an
action is found by going through the action, by rules that are the same for all kinds of items.

## Main definitions

* `Act.Moves R` — however the action ends, `R` holds between the session it began with and the
  session it leaves
* `Act.Yields T` — an action leads to the session it leaves by items that are related to its outcome
* `Act.Pauses` — what a pause does
* `Session.Records` — the events that one session has recorded since another
* `Session.Adds P` — the one session has recorded more than the other, and only events of which `P`
  holds

## Main results

* `Act.bind_eq_ok_iff`, `Act.rethrow_eq_ok_iff`, `Act.ensuring_eq_ok_iff`, `Act.ask_eq_ok_iff` — what
  a success comes from
* `Act.Moves.bind`, `Act.Moves.handle`, `Act.Moves.ensuring`, `Act.Moves.mapM` — composed actions
  move a session as their parts do
* `Act.Yields.bind`, `Act.Yields.handle`, `Act.Yields.ensuring` — the items of composed actions
-/

namespace CaptureControl

/-! ### What a session has recorded -/

namespace Session

variable {σ τ : Type}

/-- The session with more log entries, the newest first. -/
def noted (s : Session σ τ) (entries : List (LogEntry τ)) : Session σ τ :=
  { s with log := entries ++ s.log }

@[simp] theorem noted_noted (s : Session σ τ) (old new : List (LogEntry τ)) :
    (s.noted old).noted new = s.noted (new ++ old) := by
  simp [noted]

@[simp] theorem clock_noted (s : Session σ τ) (entries : List (LogEntry τ)) :
    (s.noted entries).clock = s.clock := rfl

@[simp] theorem clock_glance (w : World σ τ) (s : Session σ τ) : (s.glance w).clock = s.clock := rfl

/-- A session has recorded some more events than another; here they are given the oldest first. -/
def Records (s : Session σ τ) (events : List (Event τ)) (s' : Session σ τ) : Prop :=
  s'.trace = events.reverse ++ s.trace

theorem Records.trans {s s' s'' : Session σ τ} {events events' : List (Event τ)}
    (h : s.Records events s') (h' : s'.Records events' s'') :
    s.Records (events ++ events') s'' := by
  rw [Records, h', h, List.reverse_append, List.append_assoc]

theorem Records.unique {s s' : Session σ τ} {events events' : List (Event τ)}
    (h : s.Records events s') (h' : s.Records events' s') : events = events' := by
  rw [Records, h] at h'
  exact List.reverse_inj.mp (List.append_cancel_right h')

/-- A session has recorded more events than another, and each of them has a property. -/
def Adds (P : Event τ → Prop) (s s' : Session σ τ) : Prop :=
  ∃ events, s'.trace = events ++ s.trace ∧ ∀ e ∈ events, P e

section Adds

variable {P : Event τ → Prop} {s s' s'' : Session σ τ}

theorem Adds.of_trace_eq (h : s'.trace = s.trace) : Adds P s s' := ⟨[], h, nofun⟩

theorem Adds.single {e : Event τ} (he : P e) (h : s'.trace = e :: s.trace) : Adds P s s' :=
  ⟨[e], h, fun _ hmem => List.mem_singleton.mp hmem ▸ he⟩

theorem Adds.trans (h : Adds P s s') (h' : Adds P s' s'') : Adds P s s'' := by
  obtain ⟨events, ht, hp⟩ := h
  obtain ⟨events', ht', hp'⟩ := h'
  refine ⟨events' ++ events, by rw [ht', ht, List.append_assoc], fun e he => ?_⟩
  exact (List.mem_append.mp he).elim (hp' e) (hp e)

theorem Adds.exists_records (h : Adds P s s') :
    ∃ events, s.Records events s' ∧ ∀ e ∈ events, P e := by
  obtain ⟨events, ht, hp⟩ := h
  refine ⟨events.reverse, by rw [Records, ht, List.reverse_reverse], fun e he => ?_⟩
  exact hp e (List.mem_reverse.mp he)

instance : IsPreorder (Session σ τ) (Adds P) where
  refl _ := .of_trace_eq rfl
  trans _ _ _ := Adds.trans

end Adds

end Session

namespace Act

variable {σ τ α β : Type} {w : World σ τ} {s s' : Session σ τ}

/-! ### Equations -/

@[simp] theorem pure_apply (a : α) : (pure a : Act σ τ α) w s = (.ok a, s) := rfl

@[simp] theorem throw_apply (e : Fault τ) : (throw e : Act σ τ α) w s = (.error e, s) := rfl

@[simp] theorem ofExcept_apply (r : Except (Fault τ) α) : ofExcept r w s = (r, s) := rfl

@[simp] theorem session_apply : (session : Act σ τ (Session σ τ)) w s = (.ok s, s) := rfl

@[simp] theorem modify_apply (f : Session σ τ → Session σ τ) : modify f w s = (.ok (), f s) := rfl

@[simp] theorem note_apply (e : LogEntry τ) : note e w s = (.ok (), s.noted [e]) := rfl

@[simp] theorem now_apply : (now : Act σ τ τ) w s = (.ok s.clock, s) := rfl

@[simp] theorem cancelled_apply :
    (cancelled : Act σ τ Bool) w s = (.ok (s.glance w).cancelled, s.glance w) := rfl

@[simp] theorem attempt_apply (x : Act σ τ α) : x.attempt w s = (.ok (x w s).1, (x w s).2) := rfl

theorem bind_apply (x : Act σ τ α) (f : α → Act σ τ β) :
    (x >>= f) w s = match x w s with
      | (.ok a, s) => f a w s
      | (.error e, s) => (.error e, s) := rfl

theorem bind_of_ok {x : Act σ τ α} {a : α} (h : x w s = (.ok a, s')) (f : α → Act σ τ β) :
    (x >>= f) w s = f a w s' := by
  rw [bind_apply, h]

/-- A last step that only passes the answer on leaves the same session. -/
theorem bind_pure_snd (x : Act σ τ α) (g : α → β) (w : World σ τ) (s : Session σ τ) :
    ((x >>= fun a => pure (g a)) w s).2 = (x w s).2 := by
  rw [bind_apply]
  rcases x w s with ⟨e | a, s'⟩ <;> rfl

theorem note_bind_apply (e : LogEntry τ) (f : Unit → Act σ τ β) :
    (note e >>= f) w s = f () w (s.noted [e]) := rfl

theorem bind_of_error {x : Act σ τ α} {e : Fault τ} (h : x w s = (.error e, s'))
    (f : α → Act σ τ β) : (x >>= f) w s = (.error e, s') := by
  rw [bind_apply, h]

theorem tryCatch_apply (x : Act σ τ α) (f : Fault τ → Act σ τ α) :
    tryCatch x f w s = match x w s with
      | (.ok a, s) => (.ok a, s)
      | (.error e, s) => f e w s := rfl

theorem ensuring_apply (x : Act σ τ α) (last : Act σ τ Unit) :
    x.ensuring last w s = match last w (x w s).2 with
      | (.ok _, s') => ((x w s).1, s')
      | (.error e, s') => (.error e, s') := rfl

instance : LawfulMonad (Act σ τ) := by
  refine LawfulMonad.mk' _ ?_ ?_ ?_
  · intro α x
    funext w s
    change (match x w s with
      | (.ok a, s) => (Except.ok a, s)
      | (.error e, s) => (Except.error e, s)) = x w s
    rcases x w s with ⟨e | a, s'⟩ <;> rfl
  · intro α β a f
    rfl
  · intro α β γ x f g
    funext w s
    simp only [bind_apply]
    rcases x w s with ⟨e | a, s'⟩ <;> rfl

/-! ### Outcomes -/

/-- A request is answered or fails, and is recorded either way. -/
theorem ask_cases (r : Request) (w : World σ τ) (s : Session σ τ) :
    (∃ a m, ask r w s = (.ok a, (s.after m).record (.asked r true))) ∨
      ∃ e m, ask r w s = (.error e, (s.after m).record (.asked r false)) := by
  unfold ask
  rcases w.serve r s.world s.clock with ⟨e | a, m⟩
  · exact Or.inr ⟨e, m, rfl⟩
  · exact Or.inl ⟨a, m, rfl⟩

/-- What a pause of some length does, from a session: whether it is completed, or that it fails, and
the session it leaves. -/
inductive Pauses [Time τ] (seconds : τ) (w : World σ τ) (s : Session σ τ) :
    Except (Fault τ) Bool → Session σ τ → Prop where
  /-- Under the cancel flag no time passes. -/
  | refused : s.cancelled = true → Pauses seconds w s (.ok false) (s.record (.paused seconds false))
  /-- Time passes, and the flag is not set meanwhile if the pause is completed. -/
  | slept {completed : Bool} : s.cancelled = false → w.Times seconds →
      (w.sleep seconds s.world s.clock).cancels = !completed →
      Pauses seconds w s (.ok completed)
        ((s.after (w.sleep seconds s.world s.clock)).record (.paused seconds completed))
  /-- A pause of no length is a look at the flag, and so is a longer one if the flag is found set. -/
  | looked {completed : Bool} : (Lasts seconds → completed = false) →
      (s.glance w).cancelled = !completed →
      Pauses seconds w s (.ok completed) ((s.glance w).record (.paused seconds completed))
  /-- A pause that is too long to be timed fails where the flag is found clear. -/
  | overlong : ¬ w.Times seconds → (s.glance w).cancelled = false →
      Pauses seconds w s (.error .overlongPause) ((s.glance w).record (.paused seconds false))

/-- What a pause has done. -/
theorem pauses_of_eq [Time τ] {seconds : τ} {r : Except (Fault τ) Bool}
    (hp : pause seconds w s = (r, s')) : Pauses seconds w s r s' := by
  unfold pause at hp
  split at hp
  next =>
    split at hp
    next hc =>
      cases hp
      exact .refused hc
    next hc =>
      split at hp
      next ht =>
        cases hp
        exact .slept (Bool.not_eq_true _ ▸ hc) ht (Bool.not_not _).symm
      next ht =>
        dsimp only at hp
        split at hp
        next hset =>
          cases hp
          exact .looked (fun _ => rfl) hset
        next hset =>
          cases hp
          exact .overlong ht (Bool.not_eq_true _ ▸ hset)
  next hl =>
    cases hp
    exact .looked (fun h => absurd h hl) (Bool.not_not _).symm

/-- Whether a pause that comes to this is completed. -/
def completes : Except (Fault τ) Bool → Bool
  | .ok completed => completed
  | .error _ => false

section Pauses

variable [Time τ] {seconds : τ} {completed : Bool} {e : Fault τ} {r : Except (Fault τ) Bool}

/-- A pause is recorded as it ended. -/
theorem Pauses.trace_eq (hp : Pauses seconds w s r s') :
    s'.trace = .paused seconds (completes r) :: s.trace := by
  cases hp <;> rfl

/-- A pause is completed exactly if the cancel flag is clear after it. -/
theorem Pauses.cancelled_eq (hp : Pauses seconds w s (.ok completed) s') :
    s'.cancelled = !completed := by
  cases hp with
  | refused hc => exact hc
  | slept hc _ hset =>
    change (s.cancelled || _) = _
    rw [hc, Bool.false_or, hset]
  | looked _ hset => exact hset

/-- Only a pause that can be timed is completed. -/
theorem Pauses.times (hp : Pauses seconds w s (.ok true) s') : w.Times seconds := by
  cases hp with
  | slept _ ht _ => exact ht
  | looked hl _ => exact Or.inl (Decidable.not_not.mp fun h => Bool.false_ne_true (hl h).symm)

/-- A pause fails for its length alone, and only under a clear flag. -/
theorem Pauses.of_error (hp : Pauses seconds w s (.error e) s') :
    e = .overlongPause ∧ ¬ w.Times seconds ∧ s'.cancelled = false := by
  cases hp with
  | overlong ht hc => exact ⟨rfl, ht, hc⟩

/-- A pause ends, or it is too long to be timed and fails; it is recorded either way. -/
theorem pause_cases (seconds : τ) (w : World σ τ) (s : Session σ τ) :
    (∃ completed s', pause seconds w s = (.ok completed, s') ∧
        s'.trace = .paused seconds completed :: s.trace) ∨
      ∃ s', pause seconds w s = (.error .overlongPause, s') ∧
        s'.trace = .paused seconds false :: s.trace ∧ ¬ w.Times seconds := by
  rcases hp : pause seconds w s with ⟨e | completed, s'⟩
  · obtain ⟨rfl, ht, -⟩ := (pauses_of_eq hp).of_error
    exact Or.inr ⟨s', rfl, (pauses_of_eq hp).trace_eq, ht⟩
  · exact Or.inl ⟨completed, s', rfl, (pauses_of_eq hp).trace_eq⟩

end Pauses

theorem bind_eq_ok_iff {x : Act σ τ α} {f : α → Act σ τ β} {b : β} :
    (x >>= f) w s = (.ok b, s') ↔ ∃ a s₁, x w s = (.ok a, s₁) ∧ f a w s₁ = (.ok b, s') := by
  rcases h : x w s with ⟨e | a, s₁⟩
  · simp [bind_of_error h]
  · simp [bind_of_ok h, and_assoc]

/-! ### What a success comes from -/

theorem ask_eq_ok_iff {r : Request} {a : r.Answer} :
    ask r w s = (.ok a, s') ↔
      ∃ m, w.serve r s.world s.clock = (.ok a, m) ∧ s' = (s.after m).record (.asked r true) := by
  unfold ask
  rcases w.serve r s.world s.clock with ⟨e | b, m⟩
  · simp
  · simp only [Prod.mk.injEq, Except.ok.injEq]
    constructor
    · rintro ⟨rfl, rfl⟩
      exact ⟨m, ⟨rfl, rfl⟩, rfl⟩
    · rintro ⟨_, ⟨rfl, rfl⟩, rfl⟩
      exact ⟨rfl, rfl⟩

theorem rethrow_eq_ok_iff {x : Act σ τ α} {f : Fault τ → Fault τ} {a : α} :
    (try x catch e => throw (f e) : Act σ τ α) w s = (.ok a, s') ↔ x w s = (.ok a, s') := by
  rw [tryCatch_apply]
  rcases x w s with ⟨e | b, s₁⟩ <;> simp

theorem ensuring_eq_ok_iff {x : Act σ τ α} {last : Act σ τ Unit} {a : α} :
    x.ensuring last w s = (.ok a, s') ↔
      ∃ s₁, x w s = (.ok a, s₁) ∧ last w s₁ = (.ok (), s') := by
  rw [ensuring_apply]
  rcases x w s with ⟨r, s₁⟩
  rcases h : last w s₁ with ⟨e | u, s₂⟩
  · simp [h]
  · simp only [Prod.mk.injEq]
    constructor
    · rintro ⟨rfl, rfl⟩
      exact ⟨s₁, ⟨rfl, rfl⟩, h⟩
    · rintro ⟨_, ⟨rfl, rfl⟩, h'⟩
      exact ⟨rfl, congrArg Prod.snd (h.symm.trans h')⟩

/-! ### How actions move a session -/

/-- However the action ends, the session it leaves is related to the one it began with. -/
def Moves (R : Session σ τ → Session σ τ → Prop) (x : Act σ τ α) : Prop :=
  ∀ w s, R s (x w s).2

namespace Moves

section Preorder

variable {R : Session σ τ → Session σ τ → Prop} [IsPreorder (Session σ τ) R]

theorem pure (a : α) : Moves R (Pure.pure a) := fun _ s => refl_of R s

theorem throw (e : Fault τ) : Moves R (MonadExcept.throw e : Act σ τ α) := fun _ s => refl_of R s

theorem ofExcept (r : Except (Fault τ) α) : Moves R (ofExcept r) := fun _ s => refl_of R s

theorem session : Moves R (session : Act σ τ _) := fun _ s => refl_of R s

theorem bind {x : Act σ τ α} {f : α → Act σ τ β} (hx : Moves R x) (hf : ∀ a, Moves R (f a)) :
    Moves R (x >>= f) := by
  intro w s
  have h := hx w s
  rcases hr : x w s with ⟨e | a, s₁⟩
  · rw [bind_of_error hr]
    rwa [hr] at h
  · rw [bind_of_ok hr]
    rw [hr] at h
    exact trans_of R h (hf a w s₁)

theorem handle {x : Act σ τ α} {f : Fault τ → Act σ τ α} (hx : Moves R x)
    (hf : ∀ e, Moves R (f e)) : Moves R (tryCatch x f) := by
  intro w s
  have h := hx w s
  rw [tryCatch_apply]
  rcases hr : x w s with ⟨e | a, s₁⟩ <;> rw [hr] at h
  · exact trans_of R h (hf e w s₁)
  · exact h

theorem ensuring {x : Act σ τ α} {last : Act σ τ Unit} (hx : Moves R x) (hl : Moves R last) :
    Moves R (x.ensuring last) := by
  intro w s
  have h := trans_of R (hx w s) (hl w (x w s).2)
  rw [ensuring_apply]
  rcases hs : last w (x w s).2 with ⟨e | u, s₂⟩ <;> rw [hs] at h <;> exact h

theorem mapM {f : β → Act σ τ α} (hf : ∀ b, Moves R (f b)) (l : List β) : Moves R (l.mapM f) := by
  induction l with
  | nil => rw [List.mapM_nil]; exact pure []
  | cons b bs ih =>
    rw [List.mapM_cons]
    exact (hf b).bind fun a => ih.bind fun as => pure (a :: as)

theorem forM {f : β → Act σ τ PUnit} (hf : ∀ b, Moves R (f b)) (l : List β) :
    Moves R (l.forM f) := by
  induction l with
  | nil => exact pure _
  | cons b bs ih => exact (hf b).bind fun _ => ih

end Preorder

theorem modify {R : Session σ τ → Session σ τ → Prop} {f : Session σ τ → Session σ τ}
    (h : ∀ s, R s (f s)) : Moves R (modify f) := fun _ s => h s

theorem ask {R : Session σ τ → Session σ τ → Prop} {r : Request}
    (h : ∀ s m delivered, R s ((s.after m).record (.asked r delivered))) : Moves R (ask r) := by
  intro w s
  unfold Act.ask
  rcases w.serve r s.world s.clock with ⟨e | a, m⟩
  · exact h s m false
  · exact h s m true

/-- Besides the world, the clock and the flag, a pause changes the record. -/
theorem pause [Time τ] {R : Session σ τ → Session σ τ → Prop} {seconds : τ}
    (h : ∀ s world clock cancelled completed,
      R s (Session.record { s with world, clock, cancelled } (.paused seconds completed))) :
    Moves R (pause seconds) := by
  intro w s
  rcases hp : Act.pause seconds w s with ⟨r, s'⟩
  cases pauses_of_eq hp <;> exact h s _ _ _ _

end Moves

/-! ### What actions leave behind -/

/-- Items lead from one session to another: none lead nowhere, and some may be followed by others. -/
class Trail {ι : Type} (T : Session σ τ → List ι → Session σ τ → Prop) : Prop where
  /-- No items lead nowhere. -/
  nil : ∀ s, T s [] s
  /-- Items may be followed by others. -/
  append : ∀ {s s' s'' is is'}, T s is s' → T s' is' s'' → T s (is ++ is') s''

/-- From every session, an action leads to the one it leaves by items that are related to its outcome
in some way. -/
def Yields {ι : Type} (T : Session σ τ → List ι → Session σ τ → Prop) (w : World σ τ)
    (x : Act σ τ α) (Q : Except (Fault τ) α → List ι → Prop) : Prop :=
  ∀ s, ∃ is, T s is (x w s).2 ∧ Q (x w s).1 is

namespace Yields

variable {ι : Type} {T : Session σ τ → List ι → Session σ τ → Prop} {x : Act σ τ α}
  {f : α → Act σ τ β} {P P' : Except (Fault τ) α → List ι → Prop}
  {Q : Except (Fault τ) β → List ι → Prop}

theorem weaken (hx : Yields T w x P) (hP : ∀ r is, P r is → P' r is) : Yields T w x P' := by
  intro s
  obtain ⟨is, ht, hp⟩ := hx s
  exact ⟨is, ht, hP _ _ hp⟩

variable [Trail T]

theorem ofExcept {r : Except (Fault τ) α} (hr : P r []) : Yields T w (Act.ofExcept r) P :=
  fun s => ⟨[], Trail.nil s, hr⟩

theorem pure {a : α} (ha : P (.ok a) []) : Yields T w (Pure.pure a) P :=
  ofExcept (r := .ok a) ha

theorem throw {e : Fault τ} (he : P (.error e) []) : Yields T w (MonadExcept.throw e) P :=
  ofExcept (r := .error e) he

theorem bind (hx : Yields T w x P) (he : ∀ e is, P (.error e) is → Q (.error e) is)
    (hf : ∀ a is, P (.ok a) is → Yields T w (f a) fun r is' => Q r (is ++ is')) :
    Yields T w (x >>= f) Q := by
  intro s
  obtain ⟨is, ht, hp⟩ := hx s
  rw [bind_apply]
  generalize x w s = p at ht hp
  rcases p with ⟨e | a, s₁⟩
  · exact ⟨is, ht, he e is hp⟩
  · obtain ⟨is', ht', hq⟩ := hf a is hp s₁
    exact ⟨is ++ is', Trail.append ht ht', hq⟩

theorem handle {g : Fault τ → Act σ τ α} (hx : Yields T w x P)
    (hok : ∀ a is, P (.ok a) is → P' (.ok a) is)
    (hg : ∀ e is, P (.error e) is → Yields T w (g e) fun r is' => P' r (is ++ is')) :
    Yields T w (tryCatch x g) P' := by
  intro s
  obtain ⟨is, ht, hp⟩ := hx s
  rw [tryCatch_apply]
  generalize x w s = p at ht hp
  rcases p with ⟨e | a, s₁⟩
  · obtain ⟨is', ht', hq⟩ := hg e is hp s₁
    exact ⟨is ++ is', Trail.append ht ht', hq⟩
  · exact ⟨is, ht, hok a is hp⟩

theorem ensuring {last : Act σ τ Unit} {R : Except (Fault τ) Unit → List ι → Prop}
    (hx : Yields T w x P) (hl : Yields T w last R)
    (hok : ∀ r is is', P r is → R (.ok ()) is' → P' r (is ++ is'))
    (he : ∀ r e is is', P r is → R (.error e) is' → P' (.error e) (is ++ is')) :
    Yields T w (x.ensuring last) P' := by
  intro s
  obtain ⟨is, ht, hp⟩ := hx s
  obtain ⟨is', ht', hr⟩ := hl (x w s).2
  rw [ensuring_apply]
  generalize last w (x w s).2 = p at ht' hr
  rcases p with ⟨e | u, s₁⟩
  · exact ⟨is ++ is', Trail.append ht ht', he _ e is is' hp hr⟩
  · exact ⟨is ++ is', Trail.append ht ht', hok _ is is' hp hr⟩

end Yields

end Act

end CaptureControl

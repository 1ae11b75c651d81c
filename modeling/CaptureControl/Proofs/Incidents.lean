import CaptureControl.Proofs.Keeping
import CaptureControl.Proofs.Watching

/-!
# Accounts of what happened

What a command comes to depends on what its calls, look-ups and pauses came to. An *account* tells
these incidents in the order in which they happened, with their replies. Between them nothing is
asked of the outside, no look is made and no time is let pass.

## Implementation notes

An account is found by going through an action. A rule for each way of composing actions says how
the account of the whole is made of the accounts of the parts; the outcome of an action and its
account are related by a predicate that the rules carry along.

## Main definitions

* `Incident` — a call, a look-up, a pause or a closing, with what it came to
* `Station.Account` — the incidents that led from one session to another
* `Station.Tells` — an action has accounts that are related to its outcomes in some way

## Main results

* `Station.Account.calls_eq` — an account leaves no call out
* `Station.Tells.bind`, `Station.Tells.handle`, `Station.Tells.ensuring` — accounts of composed
  actions
* `Station.tells_send`, `Station.tells_statusText`, `Station.tells_pause` — accounts of single
  incidents
-/

namespace CaptureControl

/-! ### Incidents -/

/-- A statement that is run for its effect, with its parameters. -/
structure Order where
  /-- The statement. -/
  statement : Statement
  /-- The parameters that are bound. -/
  params : Option (List Value)

/-- Something that happens while an operation of a station is performed, and what it comes to. -/
inductive Incident (τ : Type) where
  /-- A statement is run for its effect. -/
  | sent (order : Order) (reply : Except (Fault τ) Unit)
  /-- The status text is read. -/
  | statusRead (reply : Except (Fault τ) (Option String))
  /-- The name of a change table is read. -/
  | changeTableRead (reply : Except (Fault τ) (Option String))
  /-- The attribute that tells of the snapshot is looked up. -/
  | lookedUp (reply : Except (Fault τ) Bool)
  /-- A pause ends, by itself or cut short, or it is too long to be timed. -/
  | paused (seconds : τ) (reply : Except (Fault τ) Bool)
  /-- The station is closed. -/
  | closed (reply : Except (Fault τ) Unit)

/-- The call of the gateway that an incident is. -/
def Incident.call? {τ : Type} (p : Program) : Incident τ → Option (Purpose × String)
  | sent order _ => some (.command, p.text order.statement)
  | statusRead _ => some (.query, p.text .status)
  | changeTableRead _ => some (.query, p.text .changeTable)
  | _ => none

/-- Two sessions between which nothing is asked, no time is let pass, no look is made and no call is
logged: a wait is found cancelled, or something is logged, counted or written. -/
inductive Session.Aside {σ τ : Type} (w : World σ τ) : Session σ τ → Session σ τ → Prop where
  /-- The cancel flag is found set, and the wait is over. -/
  | interrupted (s : Session σ τ) (label : String) : (s.glance w).cancelled = true →
      Aside w s ((s.glance w).noted [.interrupted label])
  /-- Something is logged that tells of no call. -/
  | noted (s : Session σ τ) {entries : List (LogEntry τ)} : (∀ e ∈ entries, e.call? = none) →
      Aside w s (s.noted entries)
  /-- Something is counted. -/
  | counted (s : Session σ τ) (tally : Tally τ) : Aside w s { s with tally }
  /-- Something is written. -/
  | written (s : Session σ τ) (output : List String) : Aside w s { s with output }

theorem Session.Aside.calls_eq {σ τ : Type} {w : World σ τ} {s s' : Session σ τ}
    (hs : s.Aside w s') : s'.calls = s.calls := by
  cases hs with
  | noted hcall =>
    rw [Session.calls, Session.noted, List.filterMap_append, List.filterMap_eq_nil_iff.mpr hcall]
    rfl
  | _ => rfl

namespace Station

variable {σ τ : Type} [Time τ]

/-- An incident happens in a session, and leads to another. -/
inductive Happens (h : Station τ) (w : World σ τ) :
    Session σ τ → Incident τ → Session σ τ → Prop where
  | sent {s s' : Session σ τ} {reply : Except (Fault τ) Unit} (order : Order) :
      h.service.send order.statement order.params w s = (reply, s') →
      Happens h w s (.sent order reply) s'
  | statusRead {s s' : Session σ τ} {reply : Except (Fault τ) (Option String)} :
      h.service.statusText w s = (reply, s') → Happens h w s (.statusRead reply) s'
  /-- The status text is read in a look of a wait. -/
  | statusSeen {s s' : Session σ τ} {reply : Except (Fault τ) (Option String)} :
      h.service.Sees w s reply s' → Happens h w s (.statusRead reply) s'
  | changeTableRead {s s' : Session σ τ} {reply : Except (Fault τ) (Option String)}
      (t : SourceTable) :
      h.service.gateway.query (h.service.program.text .changeTable)
        (some (Registration.keyOf t)) Rows.changeTable w s = (reply, s') →
      Happens h w s (.changeTableRead reply) s'
  | lookedUp {s s' : Session σ τ} {reply : Except (Fault τ) Bool} :
      Poll.Evaluates w (h.monitor.lookup h.snapshotObject h.snapshotAttribute) s reply s' →
      Happens h w s (.lookedUp reply) s'
  | paused {s s' : Session σ τ} {seconds : τ} {reply : Except (Fault τ) Bool} :
      Act.pause seconds w s = (reply, s') → Happens h w s (.paused seconds reply) s'
  | closed {s s' : Session σ τ} {reply : Except (Fault τ) Unit} :
      h.close w s = (reply, s') → Happens h w s (.closed reply) s'

/-- The incidents that led from one session to another, in their order. -/
inductive Account (h : Station τ) (w : World σ τ) :
    Session σ τ → List (Incident τ) → Session σ τ → Prop where
  | done (s : Session σ τ) : Account h w s [] s
  | aside {s s₁ s' : Session σ τ} {is : List (Incident τ)} : s.Aside w s₁ →
      Account h w s₁ is s' → Account h w s is s'
  | incident {s s₁ s' : Session σ τ} {i : Incident τ} {is : List (Incident τ)} :
      Happens h w s i s₁ → Account h w s₁ is s' → Account h w s (i :: is) s'

namespace Account

variable {h : Station τ} {w : World σ τ} {s s' s'' : Session σ τ} {is is' : List (Incident τ)}
  {i : Incident τ}

theorem trans (ha : h.Account w s is s') (ha' : h.Account w s' is' s'') :
    h.Account w s (is ++ is') s'' := by
  induction ha with
  | done => exact ha'
  | aside hs _ ih => exact .aside hs (ih ha')
  | incident hi _ ih => exact .incident hi (ih ha')

theorem of_aside (hs : s.Aside w s') : h.Account w s [] s' :=
  .aside hs (.done s')

theorem single (hi : h.Happens w s i s') : h.Account w s [i] s' :=
  .incident hi (.done s')

/-- What is told happened in a session that had been led to. -/
theorem exists_happens (ha : h.Account w s is s') (hi : i ∈ is) :
    ∃ before t t', h.Account w s before t ∧ h.Happens w t i t' := by
  induction ha with
  | done => cases hi
  | aside hs _ ih =>
    obtain ⟨before, t, t', hb, ht⟩ := ih hi
    exact ⟨before, t, t', .aside hs hb, ht⟩
  | @incident s s₁ s' j is hj _ ih =>
    cases hi with
    | head => exact ⟨[], s, s₁, .done s, hj⟩
    | tail _ hi =>
      obtain ⟨before, t, t', hb, ht⟩ := ih hi
      exact ⟨j :: before, t, t', .incident hj hb, ht⟩

instance : Act.Trail (h.Account w) where
  nil := .done
  append := .trans

end Account

/-! ### No call is left out -/

section Calls

/-- Two sessions that tell of the same calls. -/
def SameCalls (s s' : Session σ τ) : Prop := s'.calls = s.calls

omit [Time τ]

instance : IsPreorder (Session σ τ) SameCalls where
  refl _ := rfl
  trans _ _ _ h h' := Eq.trans h' h

theorem sameCalls_ask (r : Request) : Act.Moves SameCalls (Act.ask r : Act σ τ r.Answer) :=
  .ask fun _ _ _ => rfl

theorem sameCalls_lookup (m : Monitor) (object name : String) :
    Act.Moves SameCalls (m.lookup object name : Act σ τ Bool) :=
  m.moves_lookup object name (sameCalls_ask _) (sameCalls_ask _) (fun _ => sameCalls_ask _)
    fun _ => .modify fun _ => rfl

theorem sameCalls_close (h : Station τ) : Act.Moves SameCalls (h.close : Act σ τ Unit) :=
  h.monitor.moves_close (sameCalls_ask _) (.modify fun _ => rfl)

variable [Time τ] {h : Station τ} {w : World σ τ} {s s' : Session σ τ} {is : List (Incident τ)}
  {i : Incident τ}

theorem Happens.calls_eq (hi : h.Happens w s i s') :
    s'.calls = (i.call? h.service.program).toList ++ s.calls := by
  cases hi with
  | sent order hr =>
    obtain rfl : _ = s' := congrArg Prod.snd hr
    exact Gateway.calls_execute _ _ _ w s
  | statusRead hr =>
    obtain rfl : _ = s' := congrArg Prod.snd hr
    exact Gateway.calls_query _ _ _ _ w s
  | statusSeen hs => exact hs.calls_eq
  | changeTableRead t hr =>
    obtain rfl : _ = s' := congrArg Prod.snd hr
    exact Gateway.calls_query _ _ _ _ w s
  | lookedUp he =>
    obtain rfl : _ = s' := congrArg Prod.snd he.result
    exact sameCalls_lookup _ _ _ w _
  | paused hp => exact Service.calls_of_pause hp
  | closed hr =>
    obtain rfl : _ = s' := congrArg Prod.snd hr
    exact sameCalls_close h w s

/-- **An account leaves no call out.** The calls that it tells of are those that were logged, in
their order. -/
theorem Account.calls_eq (ha : h.Account w s is s') :
    s'.calls = (is.filterMap (·.call? h.service.program)).reverse ++ s.calls := by
  induction ha with
  | done => rfl
  | aside hs _ ih => rw [ih, hs.calls_eq]
  | @incident s s₁ s' i is hi _ ih =>
    rw [ih, hi.calls_eq, List.filterMap_cons]
    cases i.call? h.service.program with
    | none => rfl
    | some call => simp

end Calls

/-! ### Actions and their accounts -/

/-- From every session, an action has an account that is related to its outcome in some way. -/
def Tells {α : Type} (h : Station τ) (w : World σ τ) (x : Act σ τ α)
    (Q : Except (Fault τ) α → List (Incident τ) → Prop) : Prop :=
  ∀ s, ∃ is, h.Account w s is (x w s).2 ∧ Q (x w s).1 is

/-- An action succeeds without any incident. -/
def Quiet {α : Type} (h : Station τ) (w : World σ τ) (x : Act σ τ α) : Prop :=
  h.Tells w x fun r is => (∃ a, r = .ok a) ∧ is = []

namespace Tells

open Act

variable {α β : Type} {h : Station τ} {w : World σ τ} {x : Act σ τ α} {f : α → Act σ τ β}
  {P : Except (Fault τ) α → List (Incident τ) → Prop}
  {Q : Except (Fault τ) β → List (Incident τ) → Prop}

theorem weaken {P' : Except (Fault τ) α → List (Incident τ) → Prop} (hx : h.Tells w x P)
    (hP : ∀ r is, P r is → P' r is) : h.Tells w x P' :=
  Yields.weaken hx hP

theorem ofExcept {r : Except (Fault τ) α} (hr : P r []) : h.Tells w (Act.ofExcept r) P :=
  Yields.ofExcept hr

theorem pure {a : α} (ha : P (.ok a) []) : h.Tells w (Pure.pure a) P :=
  Yields.pure ha

theorem throw {e : Fault τ} (he : P (.error e) []) : h.Tells w (MonadExcept.throw e) P :=
  Yields.throw he

theorem bind (hx : h.Tells w x P) (he : ∀ e is, P (.error e) is → Q (.error e) is)
    (hf : ∀ a is, P (.ok a) is → h.Tells w (f a) fun r is' => Q r (is ++ is')) :
    h.Tells w (x >>= f) Q :=
  Yields.bind hx he hf

theorem handle {P' : Except (Fault τ) α → List (Incident τ) → Prop} {g : Fault τ → Act σ τ α}
    (hx : h.Tells w x P) (hok : ∀ a is, P (.ok a) is → P' (.ok a) is)
    (hg : ∀ e is, P (.error e) is → h.Tells w (g e) fun r is' => P' r (is ++ is')) :
    h.Tells w (tryCatch x g) P' :=
  Yields.handle hx hok hg

theorem ensuring {last : Act σ τ Unit} {P' : Except (Fault τ) α → List (Incident τ) → Prop}
    {R : Except (Fault τ) Unit → List (Incident τ) → Prop} (hx : h.Tells w x P)
    (hl : h.Tells w last R)
    (hok : ∀ r is is', P r is → R (.ok ()) is' → P' r (is ++ is'))
    (he : ∀ r e is is', P r is → R (.error e) is' → P' (.error e) (is ++ is')) :
    h.Tells w (x.ensuring last) P' :=
  Yields.ensuring hx hl hok he

/-- Passing a fault on as another. -/
theorem rethrow {g : Fault τ → Fault τ} {P' : Except (Fault τ) α → List (Incident τ) → Prop}
    (hx : h.Tells w x P) (hok : ∀ a is, P (.ok a) is → P' (.ok a) is)
    (he : ∀ e is, P (.error e) is → P' (.error (g e)) is) :
    h.Tells w (tryCatch x fun e => MonadExcept.throw (g e)) P' := by
  refine hx.handle hok fun e is hp => throw ?_
  rw [List.append_nil]
  exact he e is hp

end Tells

namespace Quiet

open Act

variable {h : Station τ} {w : World σ τ}

/-- A first step without any incident does not matter. -/
theorem bind {α β : Type} {x : Act σ τ α} {f : α → Act σ τ β}
    {Q : Except (Fault τ) β → List (Incident τ) → Prop} (hx : h.Quiet w x)
    (hf : ∀ a, h.Tells w (f a) Q) : h.Tells w (x >>= f) Q := by
  refine Tells.bind hx (by rintro e is ⟨⟨a, ha⟩, -⟩; cases ha) ?_
  rintro a is ⟨-, rfl⟩
  exact hf a

theorem note {e : LogEntry τ} (he : e.call? = none) : h.Quiet w (note e) := by
  have hcall : ∀ e' ∈ [e], e'.call? = none := by simpa using he
  exact fun s => ⟨[], .of_aside (.noted s hcall), ⟨(), rfl⟩, rfl⟩

theorem count (f : Tally τ → Tally τ) : h.Quiet w (count f) :=
  fun s => ⟨[], .of_aside (.counted s _), ⟨(), rfl⟩, rfl⟩

theorem say (line : String) : h.Quiet w (say line) :=
  fun s => ⟨[], .of_aside (.written s _), ⟨(), rfl⟩, rfl⟩

end Quiet

/-! ### Single incidents -/

section Single

variable {h : Station τ} {w : World σ τ}

theorem tells_send (statement : Statement) (params : Option (List Value)) :
    h.Tells w (h.service.send statement params) fun r is =>
      is = [.sent ⟨statement, params⟩ r] :=
  fun _ => ⟨_, .single (.sent ⟨statement, params⟩ rfl), rfl⟩

theorem tells_statusText : h.Tells w h.service.statusText fun r is => is = [.statusRead r] :=
  fun _ => ⟨_, .single (.statusRead rfl), rfl⟩

theorem tells_close : h.Tells w h.close fun r is => is = [.closed r] :=
  fun _ => ⟨_, .single (.closed rfl), rfl⟩

theorem tells_pause (seconds : τ) :
    h.Tells w (Act.pause seconds) fun r is =>
      is = [.paused seconds r] ∧ ∀ e, r = .error e → e = .overlongPause :=
  fun _ => ⟨_, .single (.paused rfl), rfl, fun _ he =>
    (Act.pauses_of_eq (Prod.ext he rfl)).of_error.1⟩

/-- A pause that fails is too long to be timed. -/
theorem Happens.not_times {s s' : Session σ τ} {seconds : τ} {e : Fault τ}
    (hi : h.Happens w s (.paused seconds (.error e)) s') : ¬ w.Times seconds := by
  cases hi with
  | paused hp => exact (Act.pauses_of_eq hp).of_error.2.1

end Single

end Station

end CaptureControl

import CaptureControl.Gateway
import CaptureControl.Proofs.Actions

/-!
# The discipline of connections

A gateway opens a connection for each call, or for a session of calls, and the steps of a call may
fail anywhere. The record of a session tells whether connections were leaked, closed twice or held
side by side: connections are numbered in the order in which they were opened, so the record alone
says which of them were closed, and how often.

## Implementation notes

What is to be proved speaks about counts in the record, and about every moment in it. Neither is
convenient for an induction over calls. `Orderly` is the automaton behind them: it reads the record
event by event, and knows the number of connections opened so far and the one that is open. A step of
a gateway moves the automaton; the counts are read off it in the end.

The connection that is open differs from the one that is held exactly while a call outside a session
is on its way. So between uses of a gateway the record is orderly with the connection that is held,
which is the invariant, and within a call it is orderly with the connection of that call.

## Main definitions

* `unclosed` — the connections that were opened and not closed since, according to a record
* `Orderly` — one connection after another is opened, used and closed
* `Gateway.after` — the session after some uses of a gateway, in any order and whatever fails

## Main results

* `Gateway.orderly_perform` — one use keeps the invariant
* `Gateway.orderly_after` — so do all
* `Gateway.connection_discipline` — no connection is leaked, closed twice or held beside another
-/

namespace CaptureControl

/-! ### What a record says -/

/-- The connection that a request is made on. -/
def Request.on? : Request → Option Nat
  | cursor c => some c
  | execute c _ _ => some c
  | fetch c => some c
  | closeCursor c => some c
  | commit c => some c
  | _ => none

/-- The statement that a request runs. -/
def Request.statement? : Request → Option String
  | execute _ statement _ => some statement
  | _ => none

namespace Event

variable {τ : Type}

/-- A connection was opened. -/
def opens : Event τ → Bool
  | asked (.connect _) delivered => delivered
  | _ => false

/-- The closing of a connection was asked for, and may have failed. -/
def closes (c : Nat) : Event τ → Bool
  | asked (.close d) _ => d == c
  | _ => false

/-- A request was made on a connection. -/
def On (c : Nat) (e : Event τ) : Prop :=
  ∃ r delivered, e = asked r delivered ∧ r.on? = some c

theorem On.opens_eq_false {c : Nat} {e : Event τ} (h : e.On c) : e.opens = false := by
  obtain ⟨r, delivered, rfl, hr⟩ := h
  cases r <;> first | rfl | cases hr

theorem On.closes_eq_false {c : Nat} {e : Event τ} (h : e.On c) (d : Nat) :
    e.closes d = false := by
  obtain ⟨r, delivered, rfl, hr⟩ := h
  cases r <;> first | rfl | cases hr

end Event

section Record

variable {τ : Type}

/-- The number of connections that were opened. -/
def openings (trace : List (Event τ)) : Nat :=
  trace.countP Event.opens

/-- How often the closing of a connection was asked for. -/
def closings (c : Nat) (trace : List (Event τ)) : Nat :=
  trace.countP (Event.closes c)

/-- The connections that were opened and whose closing was not asked for. -/
def unclosed (trace : List (Event τ)) : List Nat :=
  (List.range (openings trace)).filter fun c => closings c trace = 0

theorem openings_cons (e : Event τ) (t : List (Event τ)) :
    openings (e :: t) = openings t + e.opens.toNat := by
  rw [openings, List.countP_cons, openings]
  cases e.opens <;> rfl

theorem closings_cons (c : Nat) (e : Event τ) (t : List (Event τ)) :
    closings c (e :: t) = closings c t + (e.closes c).toNat := by
  rw [closings, List.countP_cons, closings]
  cases e.closes c <;> rfl

/-! ### The automaton -/

/-- One connection after another is opened, used and closed, according to a record with the newest
event first: so many connections were opened, and this one, if any, is open. -/
inductive Orderly : List (Event τ) → Nat → Option Nat → Prop where
  | start : Orderly [] 0 none
  | opened {t n} (dsn : Option String) : Orderly t n none →
      Orderly (.asked (.connect dsn) true :: t) (n + 1) (some n)
  | refused {t n} (dsn : Option String) : Orderly t n none →
      Orderly (.asked (.connect dsn) false :: t) n none
  | used {t n c e} : e.On c → Orderly t n (some c) → Orderly (e :: t) n (some c)
  | closed {t n c} (delivered : Bool) : Orderly t n (some c) →
      Orderly (.asked (.close c) delivered :: t) n none

namespace Orderly

variable {t t' : List (Event τ)} {n : Nat} {o : Option Nat}

theorem openings_eq (h : Orderly t n o) : openings t = n := by
  induction h with
  | start => rfl
  | opened dsn _ ih => rw [openings_cons, ih]; rfl
  | refused dsn _ ih => rw [openings_cons, ih]; rfl
  | used he _ ih => rw [openings_cons, ih, he.opens_eq_false]; rfl
  | closed delivered _ ih => rw [openings_cons, ih]; rfl

/-- The open connection is the last one that was opened. -/
theorem open_lt (h : Orderly t n o) : ∀ c ∈ o, c + 1 = n := by
  induction h with
  | start => nofun
  | opened dsn _ ih => rintro c ⟨⟩; rfl
  | refused dsn _ ih => nofun
  | used he _ ih => exact ih
  | closed delivered _ ih => nofun

/-- Closing was asked for once on the connections that were opened and are not open, and never on
any other. -/
theorem closings_eq (h : Orderly t n o) (c : Nat) :
    closings c t = if c < n ∧ o ≠ some c then 1 else 0 := by
  induction h with
  | start => simp [closings]
  | @opened t n dsn h ih =>
    rw [closings_cons, ih]
    by_cases hlt : c < n
    · rw [if_pos ⟨hlt, nofun⟩, if_pos ⟨by omega, by simpa using (show n ≠ c by omega)⟩]
      rfl
    · rw [if_neg fun hc => hlt hc.1, if_neg fun hc => hc.2 (by congr; omega)]
      rfl
  | refused dsn h ih => rw [closings_cons, ih]; rfl
  | used he h ih => rw [closings_cons, ih, he.closes_eq_false]; rfl
  | @closed t n d delivered h ih =>
    have hd := h.open_lt d rfl
    rw [closings_cons, ih]
    by_cases hdc : d = c
    · subst hdc
      rw [if_neg fun hc => hc.2 rfl, if_pos ⟨by omega, nofun⟩]
      simp [Event.closes]
    · have hclose : (Event.asked (.close d) delivered : Event τ).closes c = false := by
        simpa [Event.closes] using hdc
      rw [hclose]
      simp [hdc]

/-- What is unclosed according to the record is the open connection. -/
theorem unclosed_eq (h : Orderly t n o) : unclosed t = o.toList := by
  have hf : ∀ c ∈ List.range n, decide (closings c t = 0) = decide (o = some c) := by
    intro c hc
    rw [h.closings_eq c]
    have hlt := List.mem_range.mp hc
    by_cases ho : o = some c <;> simp [ho, hlt]
  rw [unclosed, h.openings_eq, List.filter_congr hf]
  cases o with
  | none => simp
  | some c =>
    have hc := h.open_lt c rfl
    have heq : (List.range n).filter (fun d => decide (some c = some d))
        = (List.range n).filter (· = c) := by
      congr 1
      funext d
      simp [eq_comm]
    rw [heq, List.filter_eq, List.count_range, if_pos (by omega)]
    rfl

/-- An orderly record was orderly at every moment. -/
theorem of_suffix (h : Orderly t n o) (hs : t' <:+ t) : ∃ n' o', Orderly t' n' o' := by
  induction h with
  | start =>
    obtain rfl := List.suffix_nil.mp hs
    exact ⟨_, _, .start⟩
  | opened dsn h ih =>
    rcases List.suffix_cons_iff.mp hs with rfl | hs
    · exact ⟨_, _, h.opened dsn⟩
    · exact ih hs
  | refused dsn h ih =>
    rcases List.suffix_cons_iff.mp hs with rfl | hs
    · exact ⟨_, _, h.refused dsn⟩
    · exact ih hs
  | used he h ih =>
    rcases List.suffix_cons_iff.mp hs with rfl | hs
    · exact ⟨_, _, h.used he⟩
    · exact ih hs
  | closed delivered h ih =>
    rcases List.suffix_cons_iff.mp hs with rfl | hs
    · exact ⟨_, _, h.closed delivered⟩
    · exact ih hs

theorem length_unclosed_le (h : Orderly t n o) : (unclosed t).length ≤ 1 := by
  rw [h.unclosed_eq]
  cases o <;> simp

theorem append_used {c : Nat} (h : Orderly t n (some c)) :
    ∀ {events : List (Event τ)}, (∀ e ∈ events, e.On c) → Orderly (events ++ t) n (some c)
  | [], _ => h
  | e :: events, he =>
    (h.append_used fun e' he' => he e' (.tail e he')).used (he e (.head events))

end Orderly

end Record

/-! ### Calls on one connection -/

/-- Between two sessions there was work on one connection, and nothing else. -/
structure Session.Works {σ τ : Type} (c : Nat) (s s' : Session σ τ) : Prop where
  /-- Only requests on the connection were added to the record. -/
  adds : s.Adds (Event.On c) s'
  /-- No connection was opened. -/
  opened : s'.opened = s.opened
  /-- The connection that is held is the same. -/
  held : s'.held = s.held

namespace Session.Works

variable {σ τ : Type} {c n : Nat} {s s' s'' : Session σ τ}

theorem of_eq (ht : s'.trace = s.trace) (ho : s'.opened = s.opened) (hh : s'.held = s.held) :
    s.Works c s' := ⟨.of_trace_eq ht, ho, hh⟩

instance : IsPreorder (Session σ τ) (Session.Works c) where
  refl _ := of_eq rfl rfl rfl
  trans _ _ _ h h' := ⟨h.adds.trans h'.adds, h'.opened.trans h.opened, h'.held.trans h.held⟩

theorem orderly (h : s.Works c s') (hs : Orderly s.trace n (some c)) :
    Orderly s'.trace n (some c) := by
  obtain ⟨events, ht, he⟩ := h.adds
  rw [ht]
  exact hs.append_used he

end Session.Works

namespace Gateway

open Act

variable {σ τ α : Type} {g : Gateway} {w : World σ τ} {s s' : Session σ τ} {c : Nat}

section Transactions

variable {R : Session σ τ → Session σ τ → Prop} [IsPreorder (Session σ τ) R]
  (hask : ∀ r : Request, r.on? = some c → r.statement? = none → Moves R (ask r))

include hask

/-- A transaction moves a session as the requests on its connection do. -/
theorem moves_transact {purpose : Purpose} {statement : String} {x : Act σ τ α}
    (hx : Moves R x) : Moves R (transact purpose statement x c) := by
  unfold transact
  refine .handle (.bind ?_ fun _ => .bind (.ensuring hx ?_) fun a => .bind ?_ fun _ => .pure a)
    fun e => .throw _
  · exact hask _ rfl rfl
  · exact hask _ rfl rfl
  · exact hask _ rfl rfl

theorem moves_fetchRows {statement : String} {params : Option (List Value)}
    (hrun : Moves R (ask (.execute c statement params) : Act σ τ Unit)) :
    Moves R (fetchRows c statement params : Act σ τ _) := by
  refine .bind hrun fun _ => .bind ?_ fun rows => .pure (rows.getD [])
  exact hask _ rfl rfl

end Transactions

theorem works_ask {r : Request} (hr : r.on? = some c) :
    Moves (Session.Works c) (ask r : Act σ τ r.Answer) :=
  .ask fun _ _ delivered => ⟨.single ⟨r, delivered, rfl, hr⟩ rfl, rfl, rfl⟩

/-! ### Opening a connection -/

/-- The connection string in the request for a connection, unless the source cannot even be
asked. -/
def dsn? (g : Gateway) : Option (Option String) :=
  match g.source with
  | .supplied => some none
  | .driver dsn => some (some dsn)
  | .noDriver => none

/-- What opening a connection comes to. -/
inductive Opens (g : Gateway) (s : Session σ τ) : Except (Fault τ) Nat → Session σ τ → Prop where
  /-- The source cannot be asked. -/
  | missing (e : Fault τ) : g.dsn? = none → Opens g s (.error e) s
  /-- The source fails. -/
  | refused {dsn s'} (e : Fault τ) : g.dsn? = some dsn →
      s'.trace = .asked (.connect dsn) false :: s.trace → s'.opened = s.opened →
      s'.held = s.held → Opens g s (.error e) s'
  /-- A connection is opened, and takes the next number. -/
  | opened {dsn s'} : g.dsn? = some dsn →
      s'.trace = .asked (.connect dsn) true :: s.trace → s'.opened = s.opened + 1 →
      s'.held = s.held → Opens g s (.ok s.opened) s'

theorem connect_eq_ask {dsn : Option String} (h : g.dsn? = some dsn) :
    (g.connect : Act σ τ Unit) = ask (.connect dsn) := by
  unfold dsn? at h
  unfold connect
  split at h <;> cases h <;> simp only [*]

theorem connect_eq_throw (h : g.dsn? = none) :
    (g.connect : Act σ τ Unit) = throw .driverMissing := by
  unfold dsn? at h
  unfold connect
  split at h
  · cases h
  · cases h
  · simp only [*]

theorem opens_openConnection (g : Gateway) (w : World σ τ) (s : Session σ τ) :
    Opens g s (g.openConnection w s).1 (g.openConnection w s).2 := by
  cases hd : g.dsn? with
  | none =>
    rw [openConnection, connect_eq_throw hd]
    exact .missing _ hd
  | some dsn =>
    rw [openConnection, connect_eq_ask hd, bind_apply, tryCatch_apply]
    rcases ask_cases (.connect dsn) w s with ⟨u, m, h⟩ | ⟨e, m, h⟩ <;> rw [h]
    · exact .opened hd rfl rfl rfl
    · exact .refused _ hd rfl rfl rfl

/-! ### Calls on connections of their own -/

/-- What a call on a connection of its own leaves. -/
inductive Visits (g : Gateway) (s : Session σ τ) : Session σ τ → Prop where
  /-- There was no connection, as the source cannot be asked. -/
  | missing {s' : Session σ τ} : g.dsn? = none → s'.trace = s.trace → s'.opened = s.opened →
      s'.held = s.held → Visits g s s'
  /-- There was no connection, as the source failed. -/
  | refused {dsn : Option String} {s' : Session σ τ} : g.dsn? = some dsn →
      s'.trace = .asked (.connect dsn) false :: s.trace → s'.opened = s.opened →
      s'.held = s.held → Visits g s s'
  /-- A connection was opened, used and closed. -/
  | served {dsn : Option String} {s' : Session σ τ} (events : List (Event τ)) (delivered : Bool) :
      g.dsn? = some dsn →
      (∀ e ∈ events, e.On s.opened) →
      s'.trace = .asked (.close s.opened) delivered ::
        (events ++ .asked (.connect dsn) true :: s.trace) →
      s'.opened = s.opened + 1 → s'.held = s.held → Visits g s s'

theorem onConnection_of_held {x : Nat → Act σ τ α} (h : s.held = some c) :
    g.onConnection x w s = x c w s := by
  rw [onConnection, bind_of_ok session_apply, h]

theorem onConnection_of_free {x : Nat → Act σ τ α} (h : s.held = none) :
    g.onConnection x w s =
      (do
        let c ← g.openConnection
        (x c).ensuring (ask (.close c)) : Act σ τ α) w s := by
  rw [onConnection, bind_of_ok session_apply, h]

theorem visits_onConnection {x : Nat → Act σ τ α} (hx : ∀ c, Moves (Session.Works c) (x c))
    (h : s.held = none) : g.Visits s (g.onConnection x w s).2 := by
  rw [onConnection_of_free h]
  have ho := g.opens_openConnection w s
  rcases hr : g.openConnection w s with ⟨e | c, s₁⟩ <;> rw [hr] at ho
  · change g.Opens s (.error e) s₁ at ho
    rw [bind_of_error hr]
    cases ho with
    | missing _ hd => exact .missing hd rfl rfl rfl
    | refused _ hd ht hn hh => exact .refused hd ht hn hh
  · change g.Opens s (.ok c) s₁ at ho
    rw [bind_of_ok hr]
    cases ho with
    | opened hd ht hn hh =>
      obtain ⟨⟨events, ht', he⟩, hn', hh'⟩ := hx s.opened w s₁
      rw [ensuring_apply]
      have htrace := ht'.trans (congrArg (events ++ ·) ht)
      rcases ask_cases (.close s.opened) w (x s.opened w s₁).2 with ⟨u, m, hc⟩ | ⟨e, m, hc⟩ <;>
        rw [hc]
      · exact .served events true hd he (congrArg _ htrace) (hn'.trans hn) (hh'.trans hh)
      · exact .served events false hd he (congrArg _ htrace) (hn'.trans hn) (hh'.trans hh)

namespace Visits

theorem held_eq (h : g.Visits s s') : s'.held = s.held := by
  cases h <;> assumption

/-- A visit outside a session keeps the record orderly, with nothing open. -/
theorem orderly (h : g.Visits s s') (hs : Orderly s.trace s.opened none) :
    Orderly s'.trace s'.opened none := by
  cases h with
  | missing hd ht hn hh => rwa [ht, hn]
  | refused hd ht hn hh =>
    rw [ht, hn]
    exact hs.refused _
  | served events delivered hd he ht hn hh =>
    rw [ht, hn]
    exact ((hs.opened _).append_used he).closed delivered

end Visits

/-! ### Uses -/

/-- A use of a gateway. -/
inductive Use (τ : Type) : Type 1 where
  /-- Begins a session. -/
  | enter
  /-- Ends a session. -/
  | exit
  /-- Runs a statement for its effect. -/
  | execute (statement : String) (params : Option (List Value))
  /-- Runs a statement for its rows, and reads them. -/
  | query {α : Type} (statement : String) (params : Option (List Value))
    (read : List Rows.Row → Except (Fault τ) α)

/-- Makes a use of a gateway. -/
def perform (g : Gateway) : Use τ → Act σ τ Unit
  | .enter => g.enter
  | .exit => exit
  | .execute statement params => g.execute statement params
  | .query statement params read => do
    let _ ← g.query statement params read
    return ()

/-- The session after some uses, one after another. Whether one of them fails is nothing to the
next. -/
def after (g : Gateway) (w : World σ τ) (uses : List (Use τ)) (s : Session σ τ) : Session σ τ :=
  uses.foldl (fun s u => (g.perform u w s).2) s

/-- Running a statement for its effect leaves what the work on a connection leaves, whatever was
noted before. -/
theorem execute_snd (g : Gateway) (statement : String) (params : Option (List Value))
    (w : World σ τ) (s : Session σ τ) :
    (g.execute statement params w s).2 =
      (g.onConnection (fun c => transact .command statement (ask (.execute c statement params)) c) w
        (s.noted [.executing statement params])).2 := by
  rw [execute, bind_of_ok (note_apply _)]

/-- Running a statement for its rows leaves what the work on a connection leaves: reading them is
done afterwards. -/
theorem query_snd (g : Gateway) (statement : String) (params : Option (List Value))
    (read : List Rows.Row → Except (Fault τ) α) (w : World σ τ) (s : Session σ τ) :
    (g.query statement params read w s).2 =
      (g.onConnection (fun c => transact .query statement (fetchRows c statement params) c) w
        (s.noted [.querying statement params])).2 := by
  rw [query, bind_of_ok (note_apply _), bind_apply]
  rcases g.onConnection _ w _ with ⟨e | rows, s₁⟩ <;> rfl

theorem perform_query_snd (g : Gateway) (statement : String) (params : Option (List Value))
    (read : List Rows.Row → Except (Fault τ) α) (w : World σ τ) (s : Session σ τ) :
    (g.perform (.query statement params read) w s).2 = (g.query statement params read w s).2 := by
  rw [perform, bind_apply]
  rcases g.query statement params read w s with ⟨e | a, s₁⟩ <;> rfl

/-- The work on a connection of running a statement, for its effect or for its rows. -/
theorem perform_call_snd {u : Use τ} (he : u ≠ .enter) (hx : u ≠ .exit) :
    ∃ (α : Type) (x : Nat → Act σ τ α) (entry : LogEntry τ),
      (∀ c, Moves (Session.Works c) (x c)) ∧
      ∀ (w : World σ τ) (s : Session σ τ),
        (g.perform u w s).2 = (g.onConnection x w (s.noted [entry])).2 := by
  cases u with
  | enter => exact absurd rfl he
  | exit => exact absurd rfl hx
  | execute statement params =>
    refine ⟨Unit, _, _, fun c => ?_, execute_snd g statement params⟩
    exact moves_transact (fun _ hr _ => works_ask hr) (works_ask rfl)
  | query statement params read =>
    refine ⟨_, fun c => transact .query statement (fetchRows c statement params) c,
      .querying statement params, fun c => ?_, fun w s => ?_⟩
    · have hask (r : Request) (hr : r.on? = some c) (_ : r.statement? = none) :
          Moves (Session.Works c) (ask r : Act σ τ r.Answer) := works_ask hr
      exact moves_transact hask (moves_fetchRows hask (works_ask rfl))
    · rw [perform_query_snd, query_snd]

/-- Within a session a call works on the connection that is held, however it ends, and a further
`enter` does nothing. -/
theorem works_perform {u : Use τ} (hu : u ≠ .exit) (h : s.held = some c) :
    s.Works c (g.perform u w s).2 := by
  by_cases he : u = .enter
  · subst he
    rw [perform, enter, bind_of_ok session_apply, h]
    exact .of_eq rfl rfl rfl
  · obtain ⟨α, x, entry, hx, heq⟩ := perform_call_snd he hu
    have hh : (s.noted [entry]).held = some c := h
    rw [heq, onConnection_of_held hh]
    have hnoted : s.Works c (s.noted [entry]) := .of_eq rfl rfl rfl
    exact trans_of (Session.Works c) hnoted (hx c w _)

/-- Outside a session a call uses a connection of its own. -/
theorem visits_perform {u : Use τ} (he : u ≠ .enter) (hx : u ≠ .exit) (h : s.held = none) :
    g.Visits s (g.perform u w s).2 := by
  obtain ⟨α, x, entry, hm, heq⟩ := perform_call_snd he hx
  rw [heq]
  have hv := visits_onConnection (g := g) (w := w) (s := s.noted [entry]) hm h
  cases hv with
  | missing hd ht hn hh => exact .missing hd ht hn hh
  | refused hd ht hn hh => exact .refused hd ht hn hh
  | served events delivered hd he ht hn hh => exact .served events delivered hd he ht hn hh

/-- Outside a session, `enter` opens a connection and holds it. -/
theorem enter_of_free (h : s.held = none) :
    ∃ r s₁, g.Opens s r s₁ ∧ (g.perform .enter w s).2 =
      match r with
      | .ok c => { s₁ with held := some c }
      | .error _ => s₁ := by
  refine ⟨_, _, g.opens_openConnection w s, ?_⟩
  rw [perform, enter, bind_of_ok session_apply, h]
  change ((do
    let c ← g.openConnection
    Act.modify fun s => { s with held := some c } : Act σ τ Unit) w s).2 = _
  rw [bind_apply]
  rcases g.openConnection w s with ⟨e | c, s₁⟩ <;> rfl

/-- Ending a session asks for the closing of the connection that is held, and holds none. -/
theorem perform_exit_of_held (h : s.held = some c) :
    ∃ delivered m, (g.perform .exit w s).2 =
      (({ s with held := none }).after m).record (.asked (.close c) delivered) := by
  rw [perform, exit, bind_of_ok session_apply, h]
  rcases ask_cases (.close c) w { s with held := none } with ⟨u, m, hc⟩ | ⟨e, m, hc⟩
  · exact ⟨true, m, congrArg Prod.snd hc⟩
  · exact ⟨false, m, congrArg Prod.snd hc⟩

theorem perform_exit_of_free (h : s.held = none) : (g.perform .exit w s).2 = s := by
  rw [perform, exit, bind_of_ok session_apply, h]
  rfl

/-! ### The invariant -/

/-- **One use keeps the record orderly**, with the connection that is held as the one that is
open. -/
theorem orderly_perform (u : Use τ) (hs : Orderly s.trace s.opened s.held) :
    Orderly (g.perform u w s).2.trace (g.perform u w s).2.opened (g.perform u w s).2.held := by
  cases hh : s.held with
  | none =>
    rw [hh] at hs
    by_cases hx : u = .exit
    · subst hx
      rwa [perform_exit_of_free hh, hh]
    · by_cases he : u = .enter
      · subst he
        obtain ⟨r, s₁, ho, heq⟩ := enter_of_free (g := g) (w := w) hh
        rw [heq]
        cases ho with
        | missing e hd => rwa [hh]
        | refused e hd ht hn hh₁ =>
          change Orderly s₁.trace s₁.opened s₁.held
          rw [ht, hn, hh₁, hh]
          exact hs.refused _
        | opened hd ht hn hh₁ =>
          change Orderly s₁.trace s₁.opened (some s.opened)
          rw [ht, hn]
          exact hs.opened _
      · have hv := visits_perform (g := g) (w := w) he hx hh
        rw [hv.held_eq, hh]
        exact hv.orderly hs
  | some c =>
    rw [hh] at hs
    by_cases hx : u = .exit
    · subst hx
      obtain ⟨delivered, m, heq⟩ := perform_exit_of_held (g := g) (w := w) hh
      rw [heq]
      exact hs.closed delivered
    · have hw := works_perform (g := g) (w := w) hx hh
      rw [hw.held, hw.opened, hh]
      exact hw.orderly hs

/-- **All uses keep the record orderly.** -/
theorem orderly_after (uses : List (Use τ)) : ∀ {s : Session σ τ},
    Orderly s.trace s.opened s.held →
      Orderly (g.after w uses s).trace (g.after w uses s).opened (g.after w uses s).held := by
  induction uses with
  | nil => exact id
  | cons u uses ih => exact fun hs => ih (orderly_perform u hs)

/-- A call asks for a connection before anything else. If it gets one, that is a new one, and the
call has nothing to do with any other. -/
def Renews (g : Gateway) (s s' : Session σ τ) : Prop :=
  match g.dsn? with
  | none => s'.trace = s.trace
  | some dsn => ∃ events delivered,
      s'.trace = events ++ .asked (.connect dsn) delivered :: s.trace ∧
      if delivered then
        ∀ e ∈ events, e.On (openings s.trace) ∨ e.closes (openings s.trace) = true
      else events = []

theorem renews_perform {u : Use τ} (hu : u ≠ .exit) (h : s.held = none)
    (hs : openings s.trace = s.opened) : g.Renews s (g.perform u w s).2 := by
  unfold Renews
  by_cases he : u = .enter
  · subst he
    obtain ⟨r, s₁, ho, heq⟩ := enter_of_free (g := g) (w := w) h
    rw [heq]
    cases ho with
    | missing e hd => rw [hd]
    | refused e hd ht => rw [hd]; exact ⟨[], false, ht, rfl⟩
    | opened hd ht => rw [hd]; exact ⟨[], true, ht, nofun⟩
  · have hv := visits_perform (g := g) (w := w) he hu h
    cases hv with
    | missing hd ht => rwa [hd]
    | refused hd ht => rw [hd]; exact ⟨[], false, ht, rfl⟩
    | served events delivered hd hon ht =>
      rw [hd]
      refine ⟨.asked (.close s.opened) delivered :: events, true, ht, ?_⟩
      rw [hs]
      rintro e (_ | ⟨_, hmem⟩)
      · exact Or.inr (by simp [Event.closes])
      · exact Or.inl (hon e hmem)

/-- **No connection is leaked, closed twice or held beside another.** After any uses of a gateway,
in a world that may fail at every step: at every moment at most one connection was open; what is
open now is exactly what the session holds; every other connection was closed exactly once, and no
connection that is held or was never opened was closed at all; ending the session leaves no
connection held, and the next call has one of its own; and no call within a session, however it
ends, opens, closes or replaces a connection. -/
theorem connection_discipline [Time τ] (g : Gateway) (w : World σ τ) (uses : List (Use τ))
    (world : σ) (clock : τ) (scope : String) :
    let s := g.after w uses (.start world clock scope)
    let ended := (g.perform .exit w s).2
    (∀ moment, moment <:+ s.trace → (unclosed moment).length ≤ 1) ∧
      unclosed s.trace = s.held.toList ∧
      (∀ c, closings c s.trace = if c < openings s.trace ∧ s.held ≠ some c then 1 else 0) ∧
      ended.held = none ∧
      (∀ u, u ≠ .exit → g.Renews ended (g.perform u w ended).2) ∧
      ∀ c u, s.held = some c → u ≠ .exit → s.Works c (g.perform u w s).2 := by
  intro s ended
  have hs : Orderly s.trace s.opened s.held := orderly_after uses .start
  have hended : ended.held = none := by
    cases hh : s.held with
    | none => rw [show ended = s from perform_exit_of_free hh, hh]
    | some c =>
      obtain ⟨delivered, m, heq⟩ := perform_exit_of_held (g := g) (w := w) hh
      rw [show ended = _ from heq]
      rfl
  refine ⟨fun moment hm => ?_, hs.unclosed_eq, fun c => ?_, hended, fun u hu => ?_,
    fun c u hh hu => ?_⟩
  · obtain ⟨n, o, hmoment⟩ := hs.of_suffix hm
    exact hmoment.length_unclosed_le
  · rw [hs.closings_eq, hs.openings_eq]
  · exact renews_perform hu hended (orderly_perform .exit hs).openings_eq
  · exact works_perform hu hh

end Gateway

end CaptureControl

import CaptureControl.Proofs.Connections

/-!
# Exchanges with the outside

The record of a session says what was asked for and whether it was delivered. It does not say which
fault came back, or which rows. An *exchange* is a request together with the reply to it, and the
exchanges between two sessions are the whole talk with the outside that led from the one to the
other. Since a world is asked from a session and its clock, there is at most one such account.

A call of a gateway is told by its exchanges here. What the call comes to is a function of them: the
steps are tried in their order, a cursor that was opened is closed, a connection that was opened for
the call is closed after that, and of several faults the last is the one that counts.

## Main definitions

* `Session.Exchanges` — the exchanges that led from one session to another
* `Gateway.Transacts` — the exchanges of a statement on a connection
* `Gateway.Calls` — the exchanges of a call, and what the call comes to

## Main results

* `Session.Exchanges.unique` — there is only one account of the exchanges
* `Gateway.exists_calls_execute`, `Gateway.exists_calls_query` — what a call comes to is told by its
  exchanges, and reading the rows comes after all of them
-/

namespace CaptureControl

/-- A request with the reply to it. -/
structure Exchange (τ : Type) where
  /-- What was asked for. -/
  request : Request
  /-- What came back. -/
  reply : Except (Fault τ) request.Answer

namespace Exchange

variable {τ : Type}

/-- The fault of a request that was not answered. -/
def fault? (x : Exchange τ) : Option (Fault τ) :=
  match x.reply with
  | .ok _ => none
  | .error e => some e

/-- How an exchange is recorded. -/
def event (x : Exchange τ) : Event τ :=
  .asked x.request x.fault?.isNone

end Exchange

/-! ### Accounts of exchanges -/

namespace Session

variable {σ τ : Type} {w : World σ τ} {s s' s'' t t' : Session σ τ} {xs ys : List (Exchange τ)}

/-- Two sessions differ in nothing that the outside sees, or that was recorded of it. -/
structure SameOutside (s s' : Session σ τ) : Prop where
  /-- The state of the world is the same. -/
  world : s'.world = s.world
  /-- The clock reading is the same. -/
  clock : s'.clock = s.clock
  /-- The cancel flag is the same. -/
  cancelled : s'.cancelled = s.cancelled
  /-- Nothing more was recorded. -/
  trace : s'.trace = s.trace

namespace SameOutside

theorem refl (s : Session σ τ) : s.SameOutside s := ⟨rfl, rfl, rfl, rfl⟩

theorem symm (h : s.SameOutside s') : s'.SameOutside s :=
  ⟨h.world.symm, h.clock.symm, h.cancelled.symm, h.trace.symm⟩

theorem trans (h : s.SameOutside s') (h' : s'.SameOutside s'') : s.SameOutside s'' :=
  ⟨h'.world.trans h.world, h'.clock.trans h.clock, h'.cancelled.trans h.cancelled,
    h'.trace.trans h.trace⟩

theorem noted (s : Session σ τ) (entries : List (LogEntry τ)) : s.SameOutside (s.noted entries) :=
  ⟨rfl, rfl, rfl, rfl⟩

/-- The outside replies to both sessions alike. -/
theorem ask (h : s.SameOutside t) (r : Request) :
    (Act.ask r w s).1 = (Act.ask r w t).1 ∧ (Act.ask r w s).2.SameOutside (Act.ask r w t).2 := by
  unfold Act.ask
  rw [h.world, h.clock]
  rcases w.serve r s.world s.clock with ⟨e | a, m⟩
  all_goals
    refine ⟨rfl, rfl, rfl, ?_, ?_⟩
    · exact congrArg (· || m.cancels) h.cancelled
    · exact congrArg (_ :: ·) h.trace

end SameOutside

/-- The exchanges that led from one session to another, each asked from the session that the one
before it left. -/
inductive Exchanges (w : World σ τ) : Session σ τ → List (Exchange τ) → Session σ τ → Prop where
  | done {s s' : Session σ τ} : s.SameOutside s' → Exchanges w s [] s'
  | ask {s s₁ s₂ s' : Session σ τ} {r : Request} {reply : Except (Fault τ) r.Answer}
      {xs : List (Exchange τ)} : s.SameOutside s₁ → Act.ask r w s₁ = (reply, s₂) →
      Exchanges w s₂ xs s' → Exchanges w s (⟨r, reply⟩ :: xs) s'

namespace Exchanges

theorem single (r : Request) (w : World σ τ) (s : Session σ τ) :
    s.Exchanges w [⟨r, (Act.ask r w s).1⟩] (Act.ask r w s).2 :=
  .ask (.refl s) rfl (.done (.refl _))

theorem of_sameOutside (h : s.SameOutside s') (h' : s'.Exchanges w xs s'') :
    s.Exchanges w xs s'' := by
  cases h' with
  | done hs => exact .done (h.trans hs)
  | ask hs hr hx => exact .ask (h.trans hs) hr hx

theorem trans (h : s.Exchanges w xs s') (h' : s'.Exchanges w ys s'') :
    s.Exchanges w (xs ++ ys) s'' := by
  induction h with
  | done hs => exact h'.of_sameOutside hs
  | ask hs hr _ ih => exact .ask hs hr (ih h')

theorem trace_ask (r : Request) (w : World σ τ) (s : Session σ τ) :
    (Act.ask r w s).2.trace = (Exchange.mk r (Act.ask r w s).1).event :: s.trace := by
  rcases Act.ask_cases r w s with ⟨a, m, h⟩ | ⟨e, m, h⟩ <;> rw [h] <;> rfl

/-- The exchanges are what was recorded. -/
theorem records (h : s.Exchanges w xs s') : s.Records (xs.map Exchange.event) s' := by
  induction h with
  | done hs => exact hs.trace
  | @ask s s₁ s₂ s' r reply xs hs hr _ ih =>
    have hfirst : s.Records [(Exchange.mk r reply).event] s₂ := by
      have ht := trace_ask r w s₁
      rw [hr, hs.trace] at ht
      exact ht
    exact hfirst.trans ih

/-- **There is only one account of the exchanges.** The record fixes the requests, and the world
gives the replies. -/
theorem unique (h : s.Exchanges w xs s') (h' : s.Exchanges w ys s') : xs = ys := by
  suffices hgen : ∀ {t : Session σ τ} {ys : List (Exchange τ)}, s.SameOutside t →
      t.Exchanges w ys s' → xs = ys from hgen (.refl s) h'
  clear h'
  induction h with
  | done hs =>
    intro t ys hst hy
    have hnothing : t.Records [] _ := (hst.symm.trans hs).trace
    have hmap := hnothing.unique hy.records
    exact (List.map_eq_nil_iff.mp hmap.symm).symm
  | @ask s s₁ s₂ s' r reply xs hs hr hx ih =>
    intro t ys hst hy
    have hevents := (Exchanges.ask hs hr hx).records
    cases hy with
    | done ht =>
      have hnothing : s.Records [] s' := (hst.trans ht).trace
      cases hnothing.unique hevents
    | @ask _ t₁ t₂ _ r' reply' ys ht hr' hy =>
      have hevents' : s.Records _ s' := (Exchanges.ask (hst.trans ht) hr' hy).records
      have hsame := hevents.unique hevents'
      simp only [List.map_cons, List.cons.injEq, Exchange.event, Event.asked.injEq] at hsame
      obtain rfl := hsame.1.1
      have hask := (hs.symm.trans (hst.trans ht)).ask r (w := w)
      rw [hr, hr'] at hask
      obtain rfl : reply = reply' := hask.1
      rw [ih hask.2 hy]

end Exchanges

end Session

namespace Gateway

open Act

variable {σ τ α : Type} {g : Gateway} {w : World σ τ} {s s' : Session σ τ} {purpose : Purpose}
  {c : Nat} {statement : String} {params : Option (List Value)}

/-! ### Faults of the driver -/

/-- What a fault on the way to a connection is passed on as. -/
def connectionFault (e : Fault τ) : Fault τ :=
  if e.isA .exception then .connection e else e

/-- What a fault on the way of a statement is passed on as. -/
def statementFault (purpose : Purpose) (statement : String) (e : Fault τ) : Fault τ :=
  if e.isA .exception then .statement purpose statement e else e

/-! ### Statements on a connection -/

/-- The exchanges in which a statement is run on its cursor, and its rows are delivered if it has
been run for them. -/
inductive Executes (c : Nat) (statement : String) (params : Option (List Value)) :
    Purpose → List (Exchange τ) → Except (Fault τ) (List Rows.Row) → Prop where
  /-- The statement fails. -/
  | failed {purpose : Purpose} (e : Fault τ) :
      Executes c statement params purpose [⟨.execute c statement params, .error e⟩] (.error e)
  /-- A statement that is run for its effect succeeds. -/
  | executed :
      Executes c statement params .command [⟨.execute c statement params, .ok ()⟩] (.ok [])
  /-- The rows are not delivered. -/
  | undelivered (e : Fault τ) : Executes c statement params .query
      [⟨.execute c statement params, .ok ()⟩, ⟨.fetch c, .error e⟩] (.error e)
  /-- The rows are delivered; an absent result has none. -/
  | fetched (rows : Option (List Rows.Row)) : Executes c statement params .query
      [⟨.execute c statement params, .ok ()⟩, ⟨.fetch c, .ok rows⟩] (.ok (rows.getD []))

/-- The exchanges of a statement on a connection, from the opening of its cursor to its commit, and
what they come to. -/
inductive Transacts (purpose : Purpose) (c : Nat) (statement : String)
    (params : Option (List Value)) :
    List (Exchange τ) → Except (Fault τ) (List Rows.Row) → Prop where
  /-- No cursor is opened. -/
  | noCursor (e : Fault τ) :
      Transacts purpose c statement params [⟨.cursor c, .error e⟩] (.error e)
  /-- The cursor is not closed, which replaces whatever had come of the statement. -/
  | unclosed {xs : List (Exchange τ)} {r : Except (Fault τ) (List Rows.Row)} (e : Fault τ) :
      Executes c statement params purpose xs r →
      Transacts purpose c statement params
        (⟨.cursor c, .ok ()⟩ :: (xs ++ [⟨.closeCursor c, .error e⟩])) (.error e)
  /-- The statement fails, and its cursor is closed. -/
  | failed {xs : List (Exchange τ)} {e : Fault τ} :
      Executes c statement params purpose xs (.error e) →
      Transacts purpose c statement params
        (⟨.cursor c, .ok ()⟩ :: (xs ++ [⟨.closeCursor c, .ok ()⟩])) (.error e)
  /-- The commit fails. -/
  | uncommitted {xs : List (Exchange τ)} {rows : List Rows.Row} (e : Fault τ) :
      Executes c statement params purpose xs (.ok rows) →
      Transacts purpose c statement params
        (⟨.cursor c, .ok ()⟩ :: (xs ++ [⟨.closeCursor c, .ok ()⟩, ⟨.commit c, .error e⟩]))
        (.error e)
  /-- Everything succeeds. -/
  | committed {xs : List (Exchange τ)} {rows : List Rows.Row} :
      Executes c statement params purpose xs (.ok rows) →
      Transacts purpose c statement params
        (⟨.cursor c, .ok ()⟩ :: (xs ++ [⟨.closeCursor c, .ok ()⟩, ⟨.commit c, .ok ()⟩]))
        (.ok rows)

/-- An action is told by the exchanges of running a statement. -/
def Executing (x : Act σ τ α) (rowsOf : α → List Rows.Row) (purpose : Purpose) (c : Nat)
    (statement : String) (params : Option (List Value)) : Prop :=
  ∀ w s, ∃ xs, s.Exchanges w xs (x w s).2 ∧
    Executes c statement params purpose xs ((x w s).1.map rowsOf)

theorem executing_execute (c : Nat) (statement : String) (params : Option (List Value)) :
    Executing (ask (.execute c statement params) : Act σ τ Unit) (fun _ => []) .command c statement
      params := by
  intro w s
  have hx := Session.Exchanges.single (.execute c statement params) w s
  refine ⟨_, hx, ?_⟩
  rcases (ask (.execute c statement params) w s).1 with e | ⟨⟩
  · exact .failed e
  · exact .executed

theorem executing_fetchRows (c : Nat) (statement : String) (params : Option (List Value)) :
    Executing (fetchRows c statement params : Act σ τ _) id .query c statement params := by
  intro w s
  have hx := Session.Exchanges.single (.execute c statement params) w s
  rw [fetchRows]
  rcases he : ask (.execute c statement params) w s with ⟨e | ⟨⟩, s₁⟩ <;> rw [he] at hx
  · rw [bind_of_error he]
    exact ⟨_, hx, .failed e⟩
  · have hy := Session.Exchanges.single (.fetch c) w s₁
    rw [bind_of_ok he]
    rcases hf : ask (.fetch c) w s₁ with ⟨e | rows, s₂⟩ <;> rw [hf] at hy
    · rw [bind_of_error hf]
      exact ⟨_, hx.trans hy, .undelivered e⟩
    · rw [bind_of_ok hf]
      exact ⟨_, hx.trans hy, .fetched rows⟩

/-- **A statement on a connection is told by its exchanges**, up to the naming of its fault. -/
theorem exists_transacts {x : Act σ τ α} {rowsOf : α → List Rows.Row}
    (hx : Executing x rowsOf purpose c statement params) (w : World σ τ) (s : Session σ τ) :
    ∃ xs r, s.Exchanges w xs (transact purpose statement x c w s).2 ∧
      Transacts purpose c statement params xs r ∧
      (transact purpose statement x c w s).1.map rowsOf =
        r.mapError (statementFault purpose statement) := by
  rw [transact, tryCatch_apply]
  have hcursor := Session.Exchanges.single (.cursor c) w s
  rcases ho : ask (.cursor c) w s with ⟨e | ⟨⟩, s₁⟩ <;> rw [ho] at hcursor
  · rw [bind_of_error ho]
    exact ⟨_, _, hcursor, .noCursor e, rfl⟩
  rw [bind_of_ok ho, bind_apply, ensuring_apply]
  obtain ⟨xs, hwork, hr⟩ := hx w s₁
  have hclose := Session.Exchanges.single (.closeCursor c) w (x w s₁).2
  rcases hc : ask (.closeCursor c) w (x w s₁).2 with ⟨e | ⟨⟩, s₂⟩ <;> rw [hc] at hclose
  · exact ⟨_, _, hcursor.trans (hwork.trans hclose), .unclosed e hr, rfl⟩
  rcases hrun : (x w s₁).1 with e | a <;> rw [hrun] at hr
  · exact ⟨_, _, hcursor.trans (hwork.trans hclose), .failed hr, rfl⟩
  dsimp only
  have hcommit := Session.Exchanges.single (.commit c) w s₂
  rcases hm : ask (.commit c) w s₂ with ⟨e | ⟨⟩, s₃⟩ <;> rw [hm] at hcommit
  · rw [bind_of_error hm]
    exact ⟨_, _, hcursor.trans (hwork.trans (hclose.trans hcommit)), .uncommitted e hr, rfl⟩
  · rw [bind_of_ok hm]
    exact ⟨_, _, hcursor.trans (hwork.trans (hclose.trans hcommit)), .committed hr, rfl⟩

/-! ### Calls -/

/-- The exchanges of a call from a session, and what the call comes to: its rows, of which a
statement that is run for its effect has none, or the fault that it is passed on as. -/
inductive Calls (g : Gateway) (purpose : Purpose) (statement : String)
    (params : Option (List Value)) (s : Session σ τ) :
    List (Exchange τ) → Except (Fault τ) (List Rows.Row) → Prop where
  /-- The call uses the connection that is held. -/
  | held {c : Nat} {xs : List (Exchange τ)} {r : Except (Fault τ) (List Rows.Row)} :
      s.held = some c → Transacts purpose c statement params xs r →
      Calls g purpose statement params s xs (r.mapError (statementFault purpose statement))
  /-- There is no driver to ask for a connection. -/
  | missing : s.held = none → g.dsn? = none →
      Calls g purpose statement params s [] (.error (.connection .driverMissing))
  /-- No connection is opened. -/
  | refused {dsn : Option String} (e : Fault τ) : s.held = none → g.dsn? = some dsn →
      Calls g purpose statement params s [⟨.connect dsn, .error e⟩] (.error (connectionFault e))
  /-- A connection is opened for the call, and closed after it. -/
  | closed {dsn : Option String} {xs : List (Exchange τ)} {r : Except (Fault τ) (List Rows.Row)} :
      s.held = none → g.dsn? = some dsn →
      Transacts purpose s.opened statement params xs r →
      Calls g purpose statement params s
        (⟨.connect dsn, .ok ()⟩ :: (xs ++ [⟨.close s.opened, .ok ()⟩]))
        (r.mapError (statementFault purpose statement))
  /-- A connection is opened for the call, and not closed, which replaces whatever had come of the
  call. -/
  | unclosed {dsn : Option String} {xs : List (Exchange τ)}
      {r : Except (Fault τ) (List Rows.Row)} (e : Fault τ) : s.held = none → g.dsn? = some dsn →
      Transacts purpose s.opened statement params xs r →
      Calls g purpose statement params s
        (⟨.connect dsn, .ok ()⟩ :: (xs ++ [⟨.close s.opened, .error e⟩])) (.error e)

/-- Log entries do not matter to a call. -/
theorem Calls.of_noted {entries : List (LogEntry τ)} {xs : List (Exchange τ)}
    {r : Except (Fault τ) (List Rows.Row)}
    (h : Calls g purpose statement params (s.noted entries) xs r) :
    Calls g purpose statement params s xs r := by
  cases h with
  | held hh ht => exact .held hh ht
  | missing hh hd => exact .missing hh hd
  | refused e hh hd => exact .refused e hh hd
  | closed hh hd ht => exact .closed hh hd ht
  | unclosed e hh hd ht => exact .unclosed e hh hd ht

/-- Opening a connection is one exchange, after which the connection takes the next number. -/
theorem openConnection_eq {dsn : Option String} (hd : g.dsn? = some dsn) (w : World σ τ)
    (s : Session σ τ) :
    g.openConnection w s = match ask (.connect dsn) w s with
      | (.ok _, s₁) => (.ok s₁.opened, { s₁ with opened := s₁.opened + 1 })
      | (.error e, s₁) => (.error (connectionFault e), s₁) := by
  rw [openConnection, connect_eq_ask hd, bind_apply, tryCatch_apply]
  rcases ask (.connect dsn) w s with ⟨e | ⟨⟩, s₁⟩ <;> rfl

theorem opened_ask (r : Request) (w : World σ τ) (s : Session σ τ) :
    (ask r w s).2.opened = s.opened := by
  rcases ask_cases r w s with ⟨a, m, h⟩ | ⟨e, m, h⟩ <;> rw [h] <;> rfl

theorem exists_calls_onConnection {x : Nat → Act σ τ α} {rowsOf : α → List Rows.Row}
    (hx : ∀ c, Executing (x c) rowsOf purpose c statement params) (w : World σ τ)
    (s : Session σ τ) :
    ∃ xs, s.Exchanges w xs (g.onConnection (fun c => transact purpose statement (x c) c) w s).2 ∧
      Calls g purpose statement params s xs
        ((g.onConnection (fun c => transact purpose statement (x c) c) w s).1.map rowsOf) := by
  cases hh : s.held with
  | some c =>
    rw [onConnection_of_held hh]
    obtain ⟨xs, r, hxs, ht, hr⟩ := exists_transacts (hx c) w s
    rw [hr]
    exact ⟨xs, hxs, .held hh ht⟩
  | none =>
    rw [onConnection_of_free hh]
    cases hd : g.dsn? with
    | none =>
      have hopen : g.openConnection w s = (.error (.connection .driverMissing), s) := by
        rw [openConnection, connect_eq_throw hd]
        rfl
      rw [bind_of_error hopen]
      exact ⟨[], .done (.refl s), .missing hh hd⟩
    | some dsn =>
      have hconnect := Session.Exchanges.single (.connect dsn) w s
      have hopened := opened_ask (.connect dsn) w s
      rw [bind_apply, openConnection_eq hd]
      rcases ho : ask (.connect dsn) w s with ⟨e | ⟨⟩, s₁⟩ <;> rw [ho] at hconnect hopened
      · exact ⟨_, hconnect, .refused e hh hd⟩
      dsimp only at hopened ⊢
      rw [hopened, ensuring_apply]
      have hnumber : s₁.SameOutside { s₁ with opened := s.opened + 1 } := ⟨rfl, rfl, rfl, rfl⟩
      obtain ⟨xs, r, hxs, ht, hr⟩ :=
        exists_transacts (hx s.opened) w { s₁ with opened := s.opened + 1 }
      generalize transact purpose statement (x s.opened) s.opened w _ = ran at hxs hr ⊢
      have hclose := Session.Exchanges.single (.close s.opened) w ran.2
      have hall := hconnect.trans ((hxs.trans hclose).of_sameOutside hnumber)
      rcases hc : ask (.close s.opened) w ran.2 with ⟨e | ⟨⟩, s₂⟩ <;> rw [hc] at hall
      · exact ⟨_, hall, .unclosed e hh hd ht⟩
      · dsimp only
        rw [hr]
        exact ⟨_, hall, .closed hh hd ht⟩

/-- **A statement that is run for its effect is told by its exchanges.** -/
theorem exists_calls_execute (g : Gateway) (statement : String) (params : Option (List Value))
    (w : World σ τ) (s : Session σ τ) :
    ∃ xs r, s.Exchanges w xs (g.execute statement params w s).2 ∧
      Calls g .command statement params s xs r ∧
      (g.execute statement params w s).1 = r.map fun _ => () := by
  obtain ⟨xs, hxs, hc⟩ := exists_calls_onConnection (g := g)
    (executing_execute (σ := σ) (τ := τ) · statement params) w
    (s.noted [.executing statement params])
  rw [execute, note_bind_apply]
  refine ⟨xs, _, hxs.of_sameOutside (.noted s _), hc.of_noted, ?_⟩
  rcases (g.onConnection _ w _).1 with e | ⟨⟩ <;> rfl

/-- **A statement that is run for its rows is told by its exchanges.** However the rows are read,
that is done in the end, and leaves the session as it is. -/
theorem exists_calls_query (g : Gateway) (statement : String) (params : Option (List Value))
    (w : World σ τ) (s : Session σ τ) :
    ∃ xs r s', s.Exchanges w xs s' ∧ Calls g .query statement params s xs r ∧
      ∀ (α : Type) (read : List Rows.Row → Except (Fault τ) α),
        g.query statement params read w s = (r.bind read, s') := by
  obtain ⟨xs, hxs, hc⟩ := exists_calls_onConnection (g := g)
    (executing_fetchRows (σ := σ) (τ := τ) · statement params) w
    (s.noted [.querying statement params])
  refine ⟨xs, _, _, hxs.of_sameOutside (.noted s _), hc.of_noted, fun α read => ?_⟩
  rw [query, note_bind_apply, bind_apply]
  rcases g.onConnection _ w _ with ⟨e | rows, s₁⟩ <;> rfl

end Gateway

end CaptureControl

import CaptureControl.Statement
import CaptureControl.Proofs.Connections

/-!
# Statements in a record

What a gateway leaves behind when it runs a statement. However the run ends, no other statement is
run, and the log tells of one call. If it succeeds, the record is known event by event, and it does
not depend on anything but the statement and the connection; so the record of statements that
succeeded one after another is a chain of such blocks.

## Main definitions

* `Event.Runs` — an event of talking with the database in which only certain statements are run
* `Session.calls` — the calls that the log tells of
* `Succeeds` — the events of a statement that was run for its effect, and succeeded
* `SucceedAll` — the same for statements one after another

## Main results

* `Gateway.moves_execute`, `Gateway.moves_query` — no other statement is run
* `Gateway.calls_execute`, `Gateway.calls_query` — it is one call
* `Gateway.succeeds_of_execute_eq_ok` — a statement that succeeded was committed
* `Program.drops_text` — a control statement drops a table only if it is meant to
-/

namespace CaptureControl

/-! ### Statements in events -/

namespace Event

variable {τ : Type}

/-- The statement that an event is the running of. -/
def statement? : Event τ → Option String
  | asked r _ => r.statement?
  | _ => none

/-- Something was asked for, and if it was to run a statement, the statement has a property. -/
def Runs (allowed : String → Prop) (e : Event τ) : Prop :=
  (∃ r delivered, e = asked r delivered) ∧ ∀ statement ∈ e.statement?, allowed statement

end Event

/-- The statements that are run in some events. -/
def statements {τ : Type} (events : List (Event τ)) : List String :=
  events.filterMap Event.statement?

@[simp] theorem statements_append {τ : Type} (events events' : List (Event τ)) :
    statements (events ++ events') = statements events ++ statements events' :=
  List.filterMap_append

/-! ### Calls in the log -/

/-- The call of a gateway that a log entry tells of: what it is made for, and its statement. -/
def LogEntry.call? {τ : Type} : LogEntry τ → Option (Purpose × String)
  | executing statement _ => some (.command, statement)
  | querying statement _ => some (.query, statement)
  | _ => none

/-- The calls of gateways so far, the newest first. -/
def Session.calls {σ τ : Type} (s : Session σ τ) : List (Purpose × String) :=
  s.log.filterMap LogEntry.call?

/-! ### Statements that succeed -/

section Succeeds

variable {τ : Type}

/-- The events of a statement that was run for its effect on a connection, and committed. -/
def committing (c : Nat) (statement : String) (params : Option (List Value)) : List (Event τ) :=
  [.asked (.cursor c) true, .asked (.execute c statement params) true,
    .asked (.closeCursor c) true, .asked (.commit c) true]

/-- The events of a statement that was run for its effect and succeeded, the oldest first: on the
connection that was held, or on one of its own. -/
inductive Succeeds (statement : String) (params : Option (List Value)) :
    List (Event τ) → Prop where
  | held (c : Nat) : Succeeds statement params (committing c statement params)
  | own (dsn : Option String) (c : Nat) : Succeeds statement params
      (.asked (.connect dsn) true :: (committing c statement params ++ [.asked (.close c) true]))

/-- The events of statements that were run one after another, and all succeeded. -/
inductive SucceedAll : List (String × Option (List Value)) → List (Event τ) → Prop where
  | nil : SucceedAll [] []
  | cons {statement params rest events events'} : Succeeds statement params events →
      SucceedAll rest events' → SucceedAll ((statement, params) :: rest) (events ++ events')

theorem Succeeds.statements_eq {statement : String} {params : Option (List Value)}
    {events : List (Event τ)} (h : Succeeds statement params events) :
    statements events = [statement] := by
  cases h <;> rfl

namespace SucceedAll

variable {l l' : List (String × Option (List Value))} {events events' : List (Event τ)}

theorem single {statement : String} {params : Option (List Value)}
    (h : Succeeds statement params events) : SucceedAll [(statement, params)] events := by
  simpa using SucceedAll.nil.cons h

theorem append (h : SucceedAll l events) (h' : SucceedAll l' events') :
    SucceedAll (l ++ l') (events ++ events') := by
  induction h with
  | nil => exact h'
  | cons hs _ ih =>
    rw [List.append_assoc]
    exact .cons hs ih

theorem statements_eq (h : SucceedAll l events) : statements events = l.map Prod.fst := by
  induction h with
  | nil => rfl
  | cons hs _ ih => rw [statements_append, hs.statements_eq, ih]; rfl

end SucceedAll

end Succeeds

namespace Gateway

open Act

variable {σ τ α : Type} {g : Gateway} {w : World σ τ} {s s' : Session σ τ}

/-! ### What a call keeps -/

section Keeps

variable {R : Session σ τ → Session σ τ → Prop}

/-- A relation between sessions is kept by all that a gateway does besides writing to the log and
running statements. -/
structure Permits (R : Session σ τ → Session σ τ → Prop) : Prop where
  /-- Requests that run no statement keep it. -/
  ask : ∀ r : Request, r.statement? = none → Moves R (Act.ask r)
  /-- Giving a number to a connection keeps it. -/
  number : Moves R (Act.modify fun s => { s with opened := s.opened + 1 })

variable [IsPreorder (Session σ τ) R]

theorem Permits.openConnection (hR : Permits R) : Moves R (g.openConnection : Act σ τ Nat) := by
  have hconnect : Moves R (g.connect : Act σ τ Unit) := by
    unfold connect
    split
    · exact hR.ask _ rfl
    · exact hR.ask _ rfl
    · exact .throw _
  unfold Gateway.openConnection
  refine .bind (.handle hconnect fun e => .throw _) fun _ => .bind .session fun s => ?_
  exact .bind hR.number fun _ => .pure _

theorem Permits.onConnection (hR : Permits R) {x : Nat → Act σ τ α} (hx : ∀ c, Moves R (x c)) :
    Moves R (g.onConnection x) := by
  unfold Gateway.onConnection
  refine .bind .session fun s => ?_
  split
  · exact hx _
  · exact .bind hR.openConnection fun c => .ensuring (hx c) (hR.ask _ rfl)

variable {statement : String} {params : Option (List Value)}

/-- Running a statement for its effect keeps what its log entry and its request keep. -/
theorem Permits.execute (hR : Permits R)
    (hnote : Moves R (Act.note (.executing statement params) : Act σ τ Unit))
    (hrun : ∀ c, Moves R (Act.ask (.execute c statement params) : Act σ τ Unit)) :
    Moves R (g.execute statement params : Act σ τ Unit) :=
  .bind hnote fun _ => hR.onConnection fun c =>
    moves_transact (fun r _ hr => hR.ask r hr) (hrun c)

/-- Running a statement for its rows keeps what its log entry and its request keep. -/
theorem Permits.query (hR : Permits R)
    (hnote : Moves R (Act.note (.querying statement params) : Act σ τ Unit))
    (hrun : ∀ c, Moves R (Act.ask (.execute c statement params) : Act σ τ Unit))
    (read : List Rows.Row → Except (Fault τ) α) :
    Moves R (g.query statement params read : Act σ τ α) := by
  have hask (c : Nat) (r : Request) (_ : r.on? = some c) (hr : r.statement? = none) :
      Moves R (Act.ask r : Act σ τ r.Answer) := hR.ask r hr
  refine .bind hnote fun _ => .bind (hR.onConnection fun c => ?_) fun rows => .ofExcept _
  exact moves_transact (hask c) (moves_fetchRows (hask c) (hrun c))

end Keeps

/-! ### No other statement is run -/

section Moves

variable {allowed : String → Prop} {statement : String} {params : Option (List Value)}

theorem permits_adds :
    Permits (Session.Adds (Event.Runs allowed) : Session σ τ → Session σ τ → Prop) where
  ask r hr := .ask fun _ _ delivered =>
    .single ⟨⟨r, delivered, rfl⟩, by rw [Event.statement?, hr]; nofun⟩ rfl
  number := .modify fun _ => .of_trace_eq rfl

theorem adds_execute_request (h : allowed statement) (c : Nat) :
    Moves (Session.Adds (Event.Runs allowed))
      (ask (.execute c statement params) : Act σ τ Unit) := by
  refine .ask fun _ _ delivered => .single ⟨⟨_, delivered, rfl⟩, ?_⟩ rfl
  rintro _ ⟨⟩
  exact h

/-- Running a statement for its effect runs no other statement, however it ends. -/
theorem moves_execute (h : allowed statement) :
    Moves (Session.Adds (Event.Runs allowed)) (g.execute statement params : Act σ τ Unit) :=
  permits_adds.execute (.modify fun _ => .of_trace_eq rfl) (adds_execute_request h)

/-- Running a statement for its rows runs no other statement, however it ends. -/
theorem moves_query (h : allowed statement) (read : List Rows.Row → Except (Fault τ) α) :
    Moves (Session.Adds (Event.Runs allowed)) (g.query statement params read : Act σ τ α) :=
  permits_adds.query (.modify fun _ => .of_trace_eq rfl) (adds_execute_request h) read

end Moves

/-! ### Calls -/

section Calls

/-- Two sessions have the same log. -/
def SameLog (s s' : Session σ τ) : Prop := s'.log = s.log

instance : IsPreorder (Session σ τ) SameLog where
  refl _ := rfl
  trans _ _ _ h h' := Eq.trans h' h

theorem sameLog_ask (r : Request) : Moves SameLog (ask r : Act σ τ r.Answer) :=
  .ask fun _ _ _ => rfl

theorem permits_sameLog : Permits (SameLog : Session σ τ → Session σ τ → Prop) where
  ask r _ := sameLog_ask r
  number := .modify fun _ => rfl

/-- Running a statement for its effect is one call, however it ends. -/
theorem calls_execute (g : Gateway) (statement : String) (params : Option (List Value))
    (w : World σ τ) (s : Session σ τ) :
    (g.execute statement params w s).2.calls = (.command, statement) :: s.calls := by
  have hrun (c : Nat) : Moves SameLog
      (transact .command statement (ask (.execute c statement params)) c : Act σ τ Unit) :=
    moves_transact (fun r _ _ => sameLog_ask r) (sameLog_ask _)
  rw [execute_snd, Session.calls, permits_sameLog.onConnection hrun]
  rfl

/-- Running a statement for its rows is one call, however it ends. -/
theorem calls_query (g : Gateway) (statement : String) (params : Option (List Value))
    (read : List Rows.Row → Except (Fault τ) α) (w : World σ τ) (s : Session σ τ) :
    (g.query statement params read w s).2.calls = (.query, statement) :: s.calls := by
  have hask (c : Nat) (r : Request) (_ : r.on? = some c) (_ : r.statement? = none) :
      Moves SameLog (ask r : Act σ τ r.Answer) := sameLog_ask r
  have hrun (c : Nat) : Moves SameLog
      (transact .query statement (fetchRows c statement params) c : Act σ τ _) :=
    moves_transact (hask c) (moves_fetchRows (hask c) (sameLog_ask _))
  rw [query_snd, Session.calls, permits_sameLog.onConnection hrun]
  rfl

end Calls

/-! ### A statement that succeeds is committed -/

section Success

variable {c : Nat} {statement : String} {params : Option (List Value)}

theorem trace_of_ask_eq_ok {r : Request} {a : r.Answer} (h : ask r w s = (.ok a, s')) :
    s'.trace = .asked r true :: s.trace := by
  obtain ⟨m, -, rfl⟩ := ask_eq_ok_iff.mp h
  rfl

theorem trace_of_transact_eq_ok
    (h : transact .command statement (ask (.execute c statement params)) c w s = (.ok (), s')) :
    s'.trace = (committing c statement params).reverse ++ s.trace := by
  obtain ⟨_, s₁, hcursor, h⟩ := bind_eq_ok_iff.mp (rethrow_eq_ok_iff.mp h)
  obtain ⟨_, s₂, hbody, h⟩ := bind_eq_ok_iff.mp h
  obtain ⟨s₃, hexecute, hclose⟩ := ensuring_eq_ok_iff.mp hbody
  obtain ⟨_, s₄, hcommit, h⟩ := bind_eq_ok_iff.mp h
  cases h
  rw [trace_of_ask_eq_ok hcommit, trace_of_ask_eq_ok hclose, trace_of_ask_eq_ok hexecute,
    trace_of_ask_eq_ok hcursor]
  rfl

/-- **A statement that succeeded was run, its cursor closed, and its effect committed**, on the
connection that is held or on one that was opened for it and closed after it. -/
theorem succeeds_of_execute_eq_ok (h : g.execute statement params w s = (.ok (), s')) :
    ∃ events, Succeeds statement params events ∧ s.Records events s' := by
  rw [execute, note_bind_apply] at h
  cases hh : s.held with
  | some c =>
    rw [onConnection_of_held (s := s.noted _) hh] at h
    have ht := trace_of_transact_eq_ok h
    exact ⟨_, .held c, ht⟩
  | none =>
    rw [onConnection_of_free (s := s.noted _) hh] at h
    obtain ⟨c, s₁, hopen, h⟩ := bind_eq_ok_iff.mp h
    obtain ⟨s₂, hrun, hclose⟩ := ensuring_eq_ok_iff.mp h
    have ho := g.opens_openConnection w (s.noted [.executing statement params])
    rw [hopen] at ho
    cases ho with
    | @opened dsn _ hd ht hn hheld =>
      refine ⟨_, .own dsn s.opened, ?_⟩
      rw [Session.Records, trace_of_ask_eq_ok hclose, trace_of_transact_eq_ok hrun, ht]
      rfl

end Success

end Gateway

/-! ### Control statements -/

/-- A statement drops something, as its first word says. -/
def drops (statement : String) : Bool :=
  "DROP ".toList.isPrefixOf statement.toList

/-- Whether a statement drops something is seen from any beginning of it that is long enough. -/
theorem drops_append (start rest : String) (h : 5 ≤ start.toList.length) :
    drops (start ++ rest) = drops start := by
  rw [drops, drops, Bool.eq_iff_iff, List.isPrefixOf_iff_prefix, List.isPrefixOf_iff_prefix,
    String.toList_append]
  constructor
  · exact fun hp => List.prefix_of_prefix_length_le hp (List.prefix_append _ _) h
  · exact fun hp => hp.trans (List.prefix_append _ _)

namespace Program

theorem drops_service (p : Program) (action : String) : drops (p.service action) = false := by
  simp only [service, String.append_assoc]
  rw [drops_append _ _ (by decide)]
  decide

theorem drops_procedure (p : Program) (name : String) (t : SourceTable) :
    drops (p.procedure name t) = false := by
  simp only [procedure, String.append_assoc]
  rw [drops_append _ _ (by decide)]
  decide

/-- **A control statement drops something only if it is the statement that drops a table.** -/
theorem drops_text (p : Program) (statement : Statement) :
    drops (p.text statement) = (statement matches .dropTable _) := by
  cases statement with
  | start => exact p.drops_service _
  | stop => exact p.drops_service _
  | status => exact p.drops_service _
  | reinit => exact p.drops_service _
  | addTable t => exact p.drops_procedure _ t
  | removeTable t => exact p.drops_procedure _ t
  | setState =>
    have h : p.text .setState = "UPDATE " ++ (p.register ++ (" SET STATE = ?" ++ ofSource)) := by
      rw [← String.append_assoc, ← String.append_assoc]
      rfl
    rw [h, drops_append _ _ (by decide)]
    decide
  | registrationState =>
    have h : p.text .registrationState = "SELECT STATE FROM " ++ (p.register ++ ofSource) := by
      rw [← String.append_assoc]
      rfl
    rw [h, drops_append _ _ (by simp)]
    rfl
  | changeTable =>
    have h : p.text .changeTable =
        "SELECT CD_OWNER, CD_TABLE FROM " ++ (p.register ++ ofSource) := by
      rw [← String.append_assoc]
      rfl
    rw [h, drops_append _ _ (by simp)]
    rfl
  | listTables =>
    -- The statement is the same for all programs.
    have h : drops (text ⟨"", ""⟩ .listTables) = false := by decide +kernel
    exact h
  | dropTable t =>
    have h : p.text (.dropTable t) = "DROP TABLE IF EXISTS " ++ (t.schema ++ ("." ++ t.table)) := by
      rw [← String.append_assoc, ← String.append_assoc]
      rfl
    rw [h, drops_append _ _ (by simp)]
    rfl

end Program

end CaptureControl

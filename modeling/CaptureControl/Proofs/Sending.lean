import CaptureControl.Proofs.Cancelling
import CaptureControl.Proofs.Keeping

/-!
# What is sent to the database

Whatever is done with a station, its gateway is only given proper statements of its program, and only
these are run. So names given by the user, and names listed by the database, are written into a
statement only after they were accepted, and they cannot make it another statement.

## Main definitions

* `Session.Sends allowed` — what was given to gateways between two sessions, and what was run, was
  allowed
* `Program.Issues` — a text and parameters are those of a proper statement

## Main results

* `Station.sends_runs` — only proper statements are sent, whatever is done with a station
* `Station.written_names` — what names are accepted, and that only these are written into statements
* `Station.statement_shapes` — names cannot change the shape of a statement
-/

namespace CaptureControl

/-- The statement that an event is the running of, with its parameters. -/
def Event.sent? {τ : Type} : Event τ → Option (String × Option (List Value))
  | asked (.execute _ statement params) _ => some (statement, params)
  | _ => none

/-- The statement that was given to a gateway, as a log entry tells, with its parameters. -/
def LogEntry.sent? {τ : Type} : LogEntry τ → Option (String × Option (List Value))
  | executing statement params | querying statement params => some (statement, params)
  | _ => none

theorem Event.sent?_asked {τ : Type} {r : Request} (hr : r.statement? = none) (delivered : Bool) :
    (asked r delivered : Event τ).sent? = none := by
  cases r with
  | execute => cases hr
  | _ => rfl

theorem LogEntry.sent?_of_call? {τ : Type} {e : LogEntry τ} (h : e.call? = none) :
    e.sent? = none := by
  cases e with
  | executing | querying => cases h
  | _ => rfl

namespace Session

variable {σ τ : Type} {allowed : String × Option (List Value) → Prop} {s s' s'' : Session σ τ}

/-- Whatever was given to gateways between two sessions was allowed, and so was whatever was run. -/
structure Sends (allowed : String × Option (List Value) → Prop) (s s' : Session σ τ) : Prop where
  /-- The log tells of no other calls. -/
  called : ∃ entries, s'.log = entries ++ s.log ∧ ∀ e ∈ entries, ∀ sent ∈ e.sent?, allowed sent
  /-- Nothing else was run. -/
  run : s.Adds (fun e => ∀ sent ∈ e.sent?, allowed sent) s'

namespace Sends

theorem of_eq (hl : s'.log = s.log) (ht : s'.trace = s.trace) : s.Sends allowed s' :=
  ⟨⟨[], hl, nofun⟩, .of_trace_eq ht⟩

theorem trans (h : s.Sends allowed s') (h' : s'.Sends allowed s'') : s.Sends allowed s'' := by
  obtain ⟨⟨entries, hl, he⟩, hr⟩ := h
  obtain ⟨⟨entries', hl', he'⟩, hr'⟩ := h'
  refine ⟨⟨entries' ++ entries, by rw [hl', hl, List.append_assoc], fun e hmem => ?_⟩, hr.trans hr'⟩
  exact (List.mem_append.mp hmem).elim (he' e) (he e)

instance : IsPreorder (Session σ τ) (Sends allowed) where
  refl _ := .of_eq rfl rfl
  trans _ _ _ := trans

/-- A log entry is added, which may tell of a call that is allowed. -/
theorem noted {e : LogEntry τ} (he : ∀ sent ∈ e.sent?, allowed sent) :
    s.Sends allowed (s.noted [e]) := by
  refine ⟨⟨[e], rfl, fun e' hmem => ?_⟩, .of_trace_eq rfl⟩
  rw [List.mem_singleton.mp hmem]
  exact he

/-- An event is recorded, which may be the running of a statement that is allowed. -/
theorem recorded {e : Event τ} (he : ∀ sent ∈ e.sent?, allowed sent) (hl : s'.log = s.log)
    (ht : s'.trace = e :: s.trace) : s.Sends allowed s' :=
  ⟨⟨[], hl, nofun⟩, .single he ht⟩

theorem mono {allowed' : String × Option (List Value) → Prop} (h : s.Sends allowed s')
    (hs : ∀ sent, allowed sent → allowed' sent) : s.Sends allowed' s' := by
  obtain ⟨⟨entries, hl, he⟩, events, ht, hp⟩ := h
  exact ⟨⟨entries, hl, fun e hmem sent hsent => hs sent (he e hmem sent hsent)⟩,
    events, ht, fun e hmem sent hsent => hs sent (hp e hmem sent hsent)⟩

end Sends

end Session

/-! ### Log entries -/

section Notes

open Act Session

variable {σ τ : Type} {allowed : String × Option (List Value) → Prop} {e : LogEntry τ}

theorem LogEntry.sends_note (he : ∀ sent ∈ e.sent?, allowed sent) :
    Moves (Sends allowed) (note e : Act σ τ Unit) :=
  .modify fun _ => .noted he

/-- An entry may tell of a call that is allowed. -/
theorem LogEntry.sends_note_of_allowed {sent : String × Option (List Value)}
    (he : e.sent? = some sent) (h : allowed sent) :
    Moves (Sends allowed) (note e : Act σ τ Unit) := by
  refine sends_note ?_
  rw [he]
  rintro _ ⟨⟩
  exact h

theorem LogEntry.sends_note_of_call? (he : e.call? = none) :
    Moves (Sends allowed) (note e : Act σ τ Unit) :=
  sends_note (by rw [sent?_of_call? he]; nofun)

end Notes

/-! ### Gateways -/

namespace Gateway

open Act Session

variable {σ τ α : Type} {g : Gateway} {allowed : String × Option (List Value) → Prop}
  {statement : String} {params : Option (List Value)}

theorem permits_sends : Permits (Sends allowed : Session σ τ → Session σ τ → Prop) where
  ask r hr := .ask fun _ _ delivered =>
    .recorded (e := .asked r delivered) (by rw [Event.sent?_asked hr]; nofun) rfl rfl
  number := .modify fun _ => .of_eq rfl rfl

theorem sends_execute_request (h : allowed (statement, params)) (c : Nat) :
    Moves (Sends allowed) (ask (.execute c statement params) : Act σ τ Unit) := by
  refine .ask fun _ _ delivered => .recorded (e := .asked _ delivered) ?_ rfl rfl
  rintro _ ⟨⟩
  exact h

theorem sends_execute (h : allowed (statement, params)) :
    Moves (Sends allowed) (g.execute statement params : Act σ τ Unit) :=
  permits_sends.execute (LogEntry.sends_note_of_allowed rfl h) (sends_execute_request h)

theorem sends_query (h : allowed (statement, params))
    (read : List Rows.Row → Except (Fault τ) α) :
    Moves (Sends allowed) (g.query statement params read : Act σ τ α) :=
  permits_sends.query (LogEntry.sends_note_of_allowed rfl h) (sends_execute_request h) read

end Gateway

/-! ### Monitors -/

namespace Monitor

open Act Session

variable {σ τ : Type} {allowed : String × Option (List Value) → Prop}

theorem sends_lookup (m : Monitor) (object name : String) :
    Moves (Sends allowed) (m.lookup object name : Act σ τ Bool) :=
  m.moves_lookup object name (Gateway.permits_sends.ask _ rfl) (Gateway.permits_sends.ask _ rfl)
    (fun _ => Gateway.permits_sends.ask _ rfl) fun _ => LogEntry.sends_note_of_call? rfl

theorem sends_close (m : Monitor) : Moves (Sends allowed) (m.close : Act σ τ Unit) :=
  m.moves_close (Gateway.permits_sends.ask _ rfl) (.modify fun _ => .of_eq rfl rfl)

end Monitor

/-! ### Stations -/

/-- A text and parameters are those of a proper statement of a program. -/
def Program.Issues (p : Program) (sent : String × Option (List Value)) : Prop :=
  ∃ statement : Statement, sent.1 = p.text statement ∧ statement.Proper sent.2

namespace Station

open Act Session

variable {σ τ : Type} [Time τ]

theorem permits_sends (h : Station τ) :
    h.Permits (Sends h.service.program.Issues : Session σ τ → Session σ τ → Prop) where
  note _ he := LogEntry.sends_note_of_call? he.call?_eq_none
  delaying _ := LogEntry.sends_note_of_call? rfl
  releasing _ _ := LogEntry.sends_note_of_call? rfl
  count _ := .modify fun _ => .of_eq rfl rfl
  evaluating := .modify fun s => .recorded (e := .evaluating s.clock) nofun rfl rfl
  cancelled _ _ := .of_eq rfl rfl
  pause seconds := .pause fun _ _ _ _ completed =>
    .recorded (e := .paused seconds completed) nofun rfl rfl
  lookup := h.monitor.sends_lookup
  send statement _ hs := Gateway.sends_execute ⟨statement, rfl, hs⟩
  query statement _ read hs := Gateway.sends_query ⟨statement, rfl, hs⟩ read

/-- **Only proper statements are sent**, whatever is done with a station, and whether it fails or
not. -/
theorem sends_runs (h : Station τ) (uses : List Use) :
    Moves (Sends h.service.program.Issues) (h.runs uses : Act σ τ _) :=
  h.permits_sends.runs h.monitor.sends_close (.modify fun _ => .of_eq rfl rfl)
    (.modify fun _ => .of_eq rfl rfl) uses

/-! ### Names -/

section Names

open Identifier (Word checkIdentifier_eq_ok_iff checkIdentifier_eq_error)

/-- **The names that are accepted, and those that are written.** A name is accepted if it is a text of
at most 128 characters that is a word of the grammar, or such a word with one line break behind it;
any other value is a fault that tells it. Only such names are written into the statements that are
sent. -/
theorem written_names (h : Station τ) (w : World σ τ) (s : Session σ τ) (uses : List Use) :
    (∀ (role : String) (value : Value) (name : String),
      (checkIdentifier role value : Except (Fault τ) String) = .ok name ↔
        value = .text name ∧ 1 ≤ name.toList.length ∧ name.toList.length ≤ 128 ∧
          (Word name.toList ∨ ∃ cs, Word cs ∧ name.toList = cs ++ ['\n'])) ∧
    (∀ (role : String) (value : Value),
      (∀ name, (checkIdentifier role value : Except (Fault τ) String) ≠ .ok name) →
        (checkIdentifier role value : Except (Fault τ) String) = .error (.identifier role value)) ∧
    s.Sends (fun sent => ∃ statement : Statement, sent.1 = h.service.program.text statement ∧
      ∀ t ∈ statement.table?, ∀ name ∈ [t.schema, t.table],
        Word name.toList ∨ ∃ cs, Word cs ∧ name.toList = cs ++ ['\n']) (h.runs uses w s).2 := by
  refine ⟨fun role value name => ?_, fun role value => checkIdentifier_eq_error, ?_⟩
  · rw [checkIdentifier_eq_ok_iff]
    constructor
    · rintro ⟨hvalue, haccepted⟩
      exact ⟨hvalue, haccepted.length_pos, haccepted.length, haccepted.word⟩
    · rintro ⟨hvalue, -, hlength, hword⟩
      exact ⟨hvalue, hlength, hword⟩
  · refine (h.sends_runs uses w s).mono ?_
    rintro sent ⟨statement, htext, hproper⟩
    exact ⟨statement, htext, fun t ht name hname => ((hproper.table t ht).of_mem name hname).word⟩

/-- A name with a line break behind it is accepted, though it is no word of the grammar. -/
theorem accepted_lineBreak :
    (checkIdentifier "table" (.text "ORDERS\n") : Except (Fault Rat) String) = .ok "ORDERS\n" ∧
      ¬ Word "ORDERS\n".toList := by
  have haccepted : Identifier.Accepted "ORDERS\n" := Identifier.isIdentifier_iff.mp (by decide)
  have hbreak : ¬ Identifier.Continues '\n' := by decide
  exact ⟨checkIdentifier_eq_ok_iff.mpr ⟨rfl, haccepted⟩, fun h => h.notMem hbreak (by decide)⟩

/-- **Names cannot change the shape of a statement.** A pair of names is accepted if its check
succeeds. All that is sent, whatever is done with a station and when the state of a registration is
asked for, is a statement into which nothing is written, with accepted names only bound to it, or one
into which an accepted pair is written. No mark that stands around names in statements is in an
accepted name, and a statement into which accepted names are written is no other statement. -/
theorem statement_shapes (h : Station τ) (w : World σ τ) (s : Session σ τ) :
    (∀ t : SourceTable, t.Accepted ↔ (SourceTable.ofValues (.text t.schema) (.text t.table) :
      Except (Fault τ) SourceTable) = .ok t) ∧
    (∀ uses, s.Sends h.service.program.Issues (h.runs uses w s).2) ∧
    (∀ schema table,
      s.Sends h.service.program.Issues (h.registration.state schema table w s).2) ∧
    (∀ t : SourceTable, t.Accepted → ∀ name ∈ [t.schema, t.table],
      ∀ mark ∈ ['\'', '"', '`', '.', ',', ';', '(', ')', ' '], mark ∉ name.toList) ∧
    (∀ a b : Statement, a.table?.isSome → (∀ t ∈ a.table?, t.Accepted) →
      (∀ t ∈ b.table?, t.Accepted) →
        h.service.program.text a = h.service.program.text b → a = b) := by
  refine ⟨fun t => ?_, fun uses => h.sends_runs uses w s,
    fun schema table => h.permits_sends.registrationState schema table w s,
    fun t ht name hname mark hmark => ?_, fun a b => Program.text_injective⟩
  · rw [SourceTable.ofValues_eq_ok_iff]
    exact ⟨fun ht => ⟨rfl, rfl, ht⟩, fun ht => ht.2.2⟩
  · obtain ⟨hnot, hbreak⟩ := Identifier.not_continues_mark mark hmark
    exact (ht.of_mem name hname).notMem hnot hbreak

end Names

end Station

end CaptureControl

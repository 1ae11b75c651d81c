import CaptureControl.Registration
import CaptureControl.Proofs.Decoding
import CaptureControl.Proofs.Exchanges
import CaptureControl.Rehearsal.World

/-!
# Representations of texts

A database delivers a text as a text, or as an octet string that holds it in UTF-8, as it does with
large objects. Rows are read the same way in each case, so what is made of them does not depend on
how the text was delivered: neither the state of the program nor that of a table. Octet strings that
are not UTF-8 are read too, and never cause a fault.

What is read of the rows is read after all exchanges with the database, so it is enough to know which
rows a query brings, whatever the world is that brings them.

## Main definitions

* `Rows.forms` — the values as which a text is delivered
* `Gateway.Brings` — a query brings some rows

## Main results

* `Service.status_of_brings`, `Registration.state_of_brings` — the states, told by the rows
* `Rows.forms_alike` — all values as which a text is delivered tell the same
-/

namespace CaptureControl

variable {σ τ : Type}

namespace Rows

variable {t : String} {v : Value}

/-- The values as which a text is delivered. -/
def forms (t : String) : List Value :=
  [.text t, .bytes (Text.octetsOf t), .buffer (Text.octetsOf t)]

theorem textOf_of_mem_forms (h : v ∈ forms t) : textOf v = some t := by
  simp only [forms, List.mem_cons, List.not_mem_nil, or_false] at h
  rcases h with rfl | rfl | rfl
  · rfl
  · exact congrArg some (Text.readUtf8_octetsOf t)
  · exact congrArg some (Text.readUtf8_octetsOf t)

/-- Only the first column of the first row is read. -/
theorem firstText_cons (v : Value) (row : Row) (rest : List Row) :
    firstText ((v :: row) :: rest) = (.ok (textOf v) : Except (Fault τ) (Option String)) := rfl

/-- The values as which an octet string is delivered. -/
def octetForms (octets : List UInt8) : List Value :=
  [.bytes octets, .buffer octets]

theorem textOf_of_mem_octetForms {octets : List UInt8} (h : v ∈ octetForms octets) :
    textOf v = some (Text.readUtf8 octets) := by
  simp only [octetForms, List.mem_cons, List.not_mem_nil, or_false] at h
  rcases h with rfl | rfl <;> rfl

end Rows

/-! ### Queries -/

namespace Gateway

variable {α : Type} {g : Gateway} {statement : String} {params : Option (List Value)}
  {w : World σ τ} {s s' : Session σ τ} {rows : List Rows.Row}

/-- A query from a session brings some rows, and leaves another session. -/
def Brings (g : Gateway) (statement : String) (params : Option (List Value)) (w : World σ τ)
    (s : Session σ τ) (rows : List Rows.Row) (s' : Session σ τ) : Prop :=
  g.query statement params .ok w s = (.ok rows, s')

/-- However rows are read, that is done in the end. -/
theorem Brings.query_eq (h : g.Brings statement params w s rows s')
    (read : List Rows.Row → Except (Fault τ) α) :
    g.query statement params read w s = (read rows, s') := by
  obtain ⟨-, r, t, -, -, hquery⟩ := exists_calls_query g statement params w s
  rw [Brings, hquery, Prod.mk.injEq] at h
  obtain ⟨hr, rfl⟩ := h
  rw [hquery]
  cases r with
  | error e => cases hr
  | ok rows' =>
    cases hr
    rfl

end Gateway

variable {w : World σ τ} {s s' : Session σ τ} {rows : List Rows.Row}

/-- The state of the program, told by the rows. -/
theorem Service.status_of_brings {service : Service τ}
    (h : service.gateway.Brings (service.program.text .status) none w s rows s')
    {text : Option String} (htext : Rows.firstText rows = (.ok text : Except (Fault τ) _)) :
    service.status w s = (.ok (Status.classify text service.markers),
      s'.noted [.checked text (Status.classify text service.markers)]) := by
  have hread : service.statusText w s = (.ok text, s') := (h.query_eq _).trans (by rw [htext])
  rw [Service.status, Act.bind_of_ok hread]
  rfl

/-- The state of a table, told by the rows. -/
theorem Registration.state_of_brings {registration : Registration τ} {schema table : Value}
    {source : SourceTable}
    (hsource : SourceTable.ofValues schema table = (.ok source : Except (Fault τ) _))
    (h : registration.service.gateway.Brings
      (registration.service.program.text .registrationState) (some (keyOf source)) w s rows s')
    {text : Option String} (htext : Rows.firstText rows = (.ok text : Except (Fault τ) _)) :
    registration.state schema table w s = (.ok (text.bind Activation.ofText?), s') := by
  have hread : registration.lookup .registrationState schema table Rows.firstText w s =
      (.ok text, s') := by
    rw [lookup, tableOf, hsource]
    exact (h.query_eq _).trans (by rw [htext])
  rw [state, Act.bind_of_ok hread]
  rfl

/-! ### Forms of a text -/

namespace Rows

/-- **All values as which a text is delivered tell the same**: the text itself, whatever else was
delivered; and so the state of the program, and that of a table. There is no octet string that cannot
be read: what is read is the text that it holds, or shows a replacement character. -/
theorem forms_alike {t : String} {v : Value} (hv : v ∈ forms t) (row : Row) (rest : List Row) :
    firstText ((v :: row) :: rest) = (.ok (some t) : Except (Fault τ) _) ∧
    (∀ (service : Service τ) (w : World σ τ) (s s' : Session σ τ),
      service.gateway.Brings (service.program.text .status) none w s ((v :: row) :: rest) s' →
      service.status w s = (.ok (Status.classify (some t) service.markers),
        s'.noted [.checked (some t) (Status.classify (some t) service.markers)])) ∧
    (∀ (registration : Registration τ) (schema table : Value) (source : SourceTable)
        (w : World σ τ) (s s' : Session σ τ),
      SourceTable.ofValues schema table = (.ok source : Except (Fault τ) _) →
      registration.service.gateway.Brings
        (registration.service.program.text .registrationState)
        (some (Registration.keyOf source)) w s ((v :: row) :: rest) s' →
      registration.state schema table w s = (.ok (Activation.ofText? t), s')) ∧
    ∀ octets, ∀ v ∈ octetForms octets, ∃ text,
      firstText ((v :: row) :: rest) = (.ok (some text) : Except (Fault τ) _) ∧
        (Text.octetsOf text = octets ∨ Text.replacement ∈ text.toList) := by
  have hfirst : firstText ((v :: row) :: rest) = (.ok (some t) : Except (Fault τ) _) := by
    rw [firstText_cons, textOf_of_mem_forms hv]
  refine ⟨hfirst, ?_, ?_, ?_⟩
  · intro service w s s' h
    exact Service.status_of_brings h hfirst
  · intro registration schema table source w s s' hsource h
    exact Registration.state_of_brings hsource h hfirst
  · intro octets v hv
    refine ⟨Text.readUtf8 octets, ?_, Text.octetsOf_readUtf8_or octets⟩
    rw [firstText_cons, textOf_of_mem_octetForms hv]

/-- A session with a database that delivers the same rows for every query. -/
def delivering (rows : List Row) : Session (Rehearsal.Script Rat) Rat :=
  .start { Rehearsal.Script.empty with
    replies := [⟨{ Rehearsal.Reply.empty with rows := some rows }, none⟩] } 0 ""

/-- A program that tells in German that it runs. -/
def german : Service Rat :=
  ⟨⟨.supplied⟩, ⟨"ASNCDC", "SERVER"⟩, ["LÄUFT"], 1, 2⟩

/-- Its status text as octets: one of the letters takes two of them. -/
def germanStatus : Value :=
  .bytes [0x6C, 0xC3, 0xA4, 0x75, 0x66, 0x74]

/-- It is understood also when its status text is delivered as octets. -/
theorem forms_alike_german :
    germanStatus ∈ forms "läuft" ∧
      (german.status Rehearsal.world (delivering [[germanStatus]])).1 = .ok .running := by
  have hform : germanStatus ∈ forms "läuft" := by
    have hoctets : Text.octetsOf "läuft" = [0x6C, 0xC3, 0xA4, 0x75, 0x66, 0x74] := by decide
    rw [forms, hoctets]
    exact .tail _ (.head _)
  have hrows : (german.gateway.query (german.program.text .status) none .ok Rehearsal.world
      (delivering [[germanStatus]])).1 = .ok [[germanStatus]] := by
    with_unfolding_all rfl
  have hrun := (forms_alike hform [] []).2.1 german Rehearsal.world (delivering [[germanStatus]]) _
    (Prod.ext hrows rfl)
  have hstatus : Status.classify (some "läuft") german.markers = .running := by decide +kernel
  rw [hrun, hstatus]
  exact ⟨hform, rfl⟩

end Rows

end CaptureControl

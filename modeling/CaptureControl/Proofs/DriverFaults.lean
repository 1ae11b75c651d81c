import CaptureControl.Proofs.Exchanges
import CaptureControl.Rehearsal.World

/-!
# What becomes of the faults of the driver

A call makes up to seven requests to the driver, and each of them may fail. Faults replace one
another on the way out of a call, and are given a new form by it. What the caller gets is decided by
the request that failed last: a fault on the way to a connection is passed on as a fault of the
connection, a fault on that connection as a fault of the statement. Closing the connection of the
call comes after both, so that a fault there is passed on as it is.

## Main definitions

* `Gateway.latestFault?` — the request that failed last, with its fault
* `Gateway.passedOn` — what a fault is passed on as, by the request that failed

## Main results

* `Gateway.Calls.eq_error` — the latest fault is what a call comes to
* `Gateway.driver_faults_surface` — the latest fault is a cause of a command fault, or the fault of
  closing the connection
-/

namespace CaptureControl

namespace Gateway

variable {σ τ α β : Type} {g : Gateway} {s : Session σ τ} {purpose : Purpose} {c : Nat}
  {statement : String} {params : Option (List Value)} {xs ys : List (Exchange τ)}
  {r : Except (Fault τ) (List Rows.Row)} {q : Request} {e : Fault τ}

/-- The request that failed last, with its fault. -/
def latestFault? : List (Exchange τ) → Option (Request × Fault τ)
  | [] => none
  | x :: xs => (latestFault? xs).or (x.fault?.map (x.request, ·))

theorem latestFault?_append (xs ys : List (Exchange τ)) :
    latestFault? (xs ++ ys) = (latestFault? ys).or (latestFault? xs) := by
  induction xs with
  | nil => simp [latestFault?]
  | cons x xs ih => simp [latestFault?, ih, Option.or_assoc]

/-- What a fault is passed on as, by the request that failed with it. -/
def passedOn (purpose : Purpose) (statement : String) (q : Request) (e : Fault τ) : Fault τ :=
  match q with
  | .connect _ => connectionFault e
  | .close _ => e
  | _ => statementFault purpose statement e

theorem passedOn_of_on? (h : q.on? = some c) :
    passedOn purpose statement q e = statementFault purpose statement e := by
  cases q <;> first | rfl | cases h

/-! ### On a connection -/

/-- What came of the exchanges on a connection: the latest fault, if any of them failed. -/
def Blames (c : Nat) (xs : List (Exchange τ)) : Except (Fault τ) (List Rows.Row) → Prop
  | .ok _ => latestFault? xs = none
  | .error e => ∃ q, latestFault? xs = some (q, e) ∧ q.on? = some c

theorem Executes.blames (h : Executes c statement params purpose xs r) : Blames c xs r := by
  cases h <;> simp [Blames, latestFault?, Exchange.fault?, Request.on?]

theorem Transacts.blames (h : Transacts purpose c statement params xs r) : Blames c xs r := by
  cases h with
  | noCursor e => simp [Blames, latestFault?, Exchange.fault?, Request.on?]
  | unclosed e hx =>
    simp [Blames, latestFault?, latestFault?_append, Exchange.fault?, Request.on?]
  | failed hx =>
    obtain ⟨q, hq, hc⟩ := hx.blames
    simp [Blames, latestFault?, latestFault?_append, Exchange.fault?, hq, hc]
  | uncommitted e hx =>
    simp [Blames, latestFault?, latestFault?_append, Exchange.fault?, Request.on?]
  | committed hx =>
    have hnone : latestFault? _ = none := hx.blames
    simp [Blames, latestFault?, latestFault?_append, Exchange.fault?, hnone]

section Blames

variable (h : Blames c xs r)
include h

theorem Blames.eq_error (hf : latestFault? xs = some (q, e)) :
    r.mapError (statementFault purpose statement) = .error (passedOn purpose statement q e) := by
  rcases r with e' | rows
  · obtain ⟨q', hq, hc⟩ := h
    cases hf.symm.trans hq
    rw [passedOn_of_on? hc]
    rfl
  · cases hf.symm.trans h

theorem Blames.eq_ok (hf : latestFault? xs = none) :
    ∃ rows, r.mapError (statementFault purpose statement) = .ok rows := by
  rcases r with e' | rows
  · obtain ⟨q', hq, -⟩ := h
    cases hf.symm.trans hq
  · exact ⟨rows, rfl⟩

end Blames

/-! ### Calls -/

/-- **The latest fault is what a call comes to**, in the form that the request that failed with it
gives it. -/
theorem Calls.eq_error (h : Calls g purpose statement params s xs r)
    (hf : latestFault? xs = some (q, e)) : r = .error (passedOn purpose statement q e) := by
  cases h with
  | held hh ht => exact ht.blames.eq_error hf
  | missing => cases hf
  | refused e hh hd => cases hf; rfl
  | closed hh hd ht =>
    refine ht.blames.eq_error ?_
    simpa [latestFault?, latestFault?_append, Exchange.fault?] using hf
  | unclosed e' hh hd ht =>
    rw [latestFault?, latestFault?_append] at hf
    cases hf
    rfl

/-- Without a fault a call succeeds, unless there is no driver to ask. -/
theorem Calls.eq_ok (h : Calls g purpose statement params s xs r) (hf : latestFault? xs = none) :
    (∃ rows, r = .ok rows) ∨
      s.held = none ∧ g.dsn? = none ∧ r = .error (.connection .driverMissing) := by
  cases h with
  | held hh ht => exact .inl (ht.blames.eq_ok hf)
  | missing hh hd => exact .inr ⟨hh, hd, rfl⟩
  | refused e hh hd => cases hf
  | closed hh hd ht =>
    refine .inl (ht.blames.eq_ok ?_)
    simpa [latestFault?, latestFault?_append, Exchange.fault?] using hf
  | unclosed e hh hd ht => simp [latestFault?, latestFault?_append, Exchange.fault?] at hf

/-- How the faults of a call come out of it. -/
structure Surfaces (xs : List (Exchange τ)) (r : Except (Fault τ) α) : Prop where
  /-- An exception that came last is a cause of the command fault that is raised, unless it came
  from closing the connection. -/
  chained : ∀ q e, latestFault? xs = some (q, e) → e.isA .exception → (∀ d, q ≠ .close d) →
    ∃ f, r = .error f ∧ f.kind = .command ∧ e ∈ f.causes
  /-- A fault of closing the connection is raised itself. -/
  closing : ∀ d e, latestFault? xs = some (.close d, e) → r = .error e
  /-- Nothing else is raised than command faults, faults of closing the connection, and faults that
  are no exceptions. -/
  only : ∀ f, r = .error f → f.kind = .command ∨
    ∃ q, latestFault? xs = some (q, f) ∧ ((∃ d, q = .close d) ∨ f.isA .exception = false)

theorem map_eq_error_iff {r : Except (Fault τ) α} {f : α → β} :
    r.map f = .error e ↔ r = .error e := by
  cases r <;> simp [Except.map]

theorem Surfaces.map {r : Except (Fault τ) α} (h : Surfaces xs r) (f : α → β) :
    Surfaces xs (r.map f) where
  chained := by simpa only [map_eq_error_iff] using h.chained
  closing := by simpa only [map_eq_error_iff] using h.closing
  only := by simpa only [map_eq_error_iff] using h.only

theorem passedOn_of_isA (he : e.isA .exception) (hq : ∀ d, q ≠ .close d) :
    (passedOn purpose statement q e).kind = .command ∧
      e ∈ (passedOn purpose statement q e).causes := by
  cases q <;> first
    | exact absurd rfl (hq _)
    | simp [passedOn, connectionFault, statementFault, he, Fault.kind, Fault.causes]

theorem passedOn_of_not_isA (he : e.isA .exception = false) :
    passedOn purpose statement q e = e := by
  cases q <;> simp [passedOn, connectionFault, statementFault, he]

theorem Calls.surfaces (h : Calls g purpose statement params s xs r) : Surfaces xs r where
  chained q e hf he hq := ⟨_, h.eq_error hf, passedOn_of_isA he hq⟩
  closing d e hf := h.eq_error hf
  only f hr := by
    cases hf : latestFault? xs with
    | none =>
      obtain ⟨rows, hok⟩ | ⟨-, -, hmissing⟩ := h.eq_ok hf
      · cases hr.symm.trans hok
      · cases hr.symm.trans hmissing
        exact .inl rfl
    | some last =>
      obtain ⟨q, e⟩ := last
      cases hr.symm.trans (h.eq_error hf)
      by_cases hq : ∃ d, q = .close d
      · obtain ⟨d, rfl⟩ := hq
        exact .inr ⟨_, rfl, .inl ⟨d, rfl⟩⟩
      · cases he : e.isA .exception with
        | true => exact .inl (passedOn_of_isA he (not_exists.mp hq)).1
        | false =>
          rw [passedOn_of_not_isA he]
          exact .inr ⟨q, rfl, .inr he⟩

/-- **How the faults of the driver surface.** If a request of a call fails, the call fails; if it
was not the closing of the connection that failed last, and failed with an exception, then with a
command fault that has this exception among its causes. A fault of closing the connection that a
call opened is not turned into a command fault: it is raised as it is. All this comes before the
rows are read. -/
theorem driver_faults_surface (g : Gateway) (statement : String) (params : Option (List Value))
    (w : World σ τ) (s : Session σ τ) :
    (∃ xs, s.Exchanges w xs (g.execute statement params w s).2 ∧
      Surfaces xs (g.execute statement params w s).1) ∧
    ∃ (xs : List (Exchange τ)) (fetched : Except (Fault τ) (List Rows.Row)) (s' : Session σ τ),
      s.Exchanges w xs s' ∧
      (∀ (α : Type) (read : List Rows.Row → Except (Fault τ) α),
        g.query statement params read w s = (fetched.bind read, s')) ∧
      Surfaces xs fetched := by
  constructor
  · obtain ⟨xs, r, hxs, hc, hr⟩ := exists_calls_execute g statement params w s
    refine ⟨xs, hxs, ?_⟩
    rw [hr]
    exact hc.surfaces.map _
  · obtain ⟨xs, fetched, s', hxs, hc, hread⟩ := exists_calls_query g statement params w s
    exact ⟨xs, fetched, s', hxs, hread, hc.surfaces⟩

/-! ### A connection that is not closed -/

/-- The fault of a connection that is lost. -/
def lost : Fault Rat := .external .system "connection lost"

/-- A session in which connections are lost when they are closed. -/
def losing : Session (Rehearsal.Script Rat) Rat :=
  .start { Rehearsal.Script.empty with closing := some lost } 0 ""

/-- A statement that was committed, on a connection that was lost in closing it, does not fail with
a command fault, although it was an exception that the driver failed with. -/
theorem execute_losing :
    ∃ xs d, losing.Exchanges Rehearsal.world xs
        ((Gateway.mk .supplied).execute "VALUES 1" none Rehearsal.world losing).2 ∧
      latestFault? xs = some (.close d, lost) ∧ lost.isA .exception ∧
      ¬ ∃ f, ((Gateway.mk .supplied).execute "VALUES 1" none Rehearsal.world losing).1 = .error f ∧
        f.kind = .command := by
  have hrun : ((Gateway.mk .supplied).execute "VALUES 1" none Rehearsal.world losing).1 =
      .error lost := by
    with_unfolding_all rfl
  obtain ⟨xs, r, hxs, hc, hr⟩ := exists_calls_execute ⟨.supplied⟩ "VALUES 1" none Rehearsal.world
    losing
  have hlost := (hc.surfaces.map fun _ => ()).only lost (hr ▸ hrun)
  obtain ⟨q, hlast, ⟨d, rfl⟩ | hinterrupt⟩ := hlost.resolve_left nofun
  · refine ⟨xs, d, hxs, hlast, rfl, ?_⟩
    rintro ⟨f, hf, hkind⟩
    cases hrun.symm.trans hf
    cases hkind
  · cases hinterrupt

end Gateway

end CaptureControl

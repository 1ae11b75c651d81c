import CaptureControl.Proofs.Exchanges

/-!
# The discipline of commits

A call of a gateway works on a cursor, closes it, and commits. Each of these steps may fail, and so
may the opening of the connection before them and its closing after them. What is committed, and
what the caller is told, follows from the exchanges of the call.

## Main definitions

* `Gateway.Disciplined` — one cursor at most, which is closed once, and then a commit exactly if
  everything before succeeded
* `Gateway.aroundCall` — the exchanges of a call, from those on its connection

## Main results

* `Gateway.Calls.disciplined` — the exchanges of a call are disciplined
* `Gateway.commit_discipline` — a call succeeds only if its commit did, and its rows are read after
  all its exchanges
-/

namespace CaptureControl

namespace Exchange

variable {τ : Type}

/-- A commit is asked for. -/
def commits (x : Exchange τ) : Bool :=
  match x.request with
  | .commit _ => true
  | _ => false

/-- The closing of a cursor is asked for. -/
def closesCursor (x : Exchange τ) : Bool :=
  match x.request with
  | .closeCursor _ => true
  | _ => false

/-- A cursor is opened. -/
def opensCursor (x : Exchange τ) : Bool :=
  match x with
  | ⟨.cursor _, .ok _⟩ => true
  | _ => false

end Exchange

namespace Gateway

variable {σ τ : Type} {g : Gateway} {s : Session σ τ} {purpose : Purpose} {c : Nat}
  {statement : String} {params : Option (List Value)} {xs : List (Exchange τ)}
  {rows : List Rows.Row} {r : Except (Fault τ) (List Rows.Row)}

/-- The connection of the next call: the one that is held, or else a new one. -/
def nextConnection (s : Session σ τ) : Nat :=
  s.held.getD s.opened

theorem nextConnection_of_held (h : s.held = some c) : nextConnection s = c := by
  rw [nextConnection, h, Option.getD_some]

theorem nextConnection_of_free (h : s.held = none) : nextConnection s = s.opened := by
  rw [nextConnection, h, Option.getD_none]

/-- The statement was run, and its rows were delivered if it was run for them. -/
def Delivers (purpose : Purpose) (c : Nat) (statement : String) (params : Option (List Value))
    (xs : List (Exchange τ)) : Prop :=
  ⟨.execute c statement params, .ok ()⟩ ∈ xs ∧
    (purpose = .query → ∃ rows, ⟨.fetch c, .ok rows⟩ ∈ xs)

/-- What is done in a call on its connection: a cursor is closed once, and there is a commit after
that exactly if everything succeeded. -/
structure Disciplined (purpose : Purpose) (c : Nat) (statement : String)
    (params : Option (List Value)) (xs : List (Exchange τ)) : Prop where
  /-- Nothing is done on another connection. -/
  on_connection : ∀ x ∈ xs, ∀ d ∈ x.request.on?, d = c
  /-- There is at most one commit. -/
  one_commit : xs.countP Exchange.commits ≤ 1
  /-- A commit is asked for exactly if a cursor was opened, the statement was run, its rows were
  delivered, and the cursor was closed. -/
  commits_iff : (∃ x ∈ xs, x.commits) ↔
    ⟨.cursor c, .ok ()⟩ ∈ xs ∧ Delivers purpose c statement params xs ∧
      ⟨.closeCursor c, .ok ()⟩ ∈ xs
  /-- At most one cursor is opened. -/
  one_cursor : xs.countP Exchange.opensCursor ≤ 1
  /-- A cursor that was opened is closed exactly once, and no other. -/
  closings_eq : xs.countP Exchange.closesCursor = xs.countP Exchange.opensCursor
  /-- No cursor is closed after a commit. -/
  closed_before : xs.Pairwise fun x y => x.commits → ¬ y.closesCursor

/-! ### On a connection -/

theorem Transacts.disciplined (h : Transacts purpose c statement params xs r) :
    Disciplined purpose c statement params xs := by
  cases h with
  | noCursor e =>
    constructor <;> simp [Request.on?, Exchange.commits, Exchange.opensCursor,
      Exchange.closesCursor]
  | unclosed _ hx | failed hx | uncommitted _ hx | committed hx =>
    cases hx <;> constructor <;> simp [Request.on?, Exchange.commits, Exchange.opensCursor,
      Exchange.closesCursor, Delivers, List.countP_cons]

/-- Opening and closing the connection does not matter. -/
theorem Disciplined.around (h : Disciplined purpose c statement params xs) {dsn : Option String}
    {opened : Except (Fault τ) Unit} {d : Nat} {closed : Except (Fault τ) Unit} :
    Disciplined purpose c statement params (⟨.connect dsn, opened⟩ :: (xs ++ [⟨.close d, closed⟩]))
    where
  on_connection := by
    simpa [Request.on?, or_imp, forall_and] using h.on_connection
  one_commit := by
    simpa [Exchange.commits, List.countP_cons] using h.one_commit
  commits_iff := by
    simpa [Exchange.commits, Delivers] using h.commits_iff
  one_cursor := by
    simpa [Exchange.opensCursor, List.countP_cons] using h.one_cursor
  closings_eq := by
    simpa [Exchange.opensCursor, Exchange.closesCursor, List.countP_cons] using h.closings_eq
  closed_before := by
    simpa [Exchange.commits, Exchange.closesCursor, List.pairwise_append] using h.closed_before

/-! ### Calls -/

/-- **A call is disciplined**, whatever fails in it. -/
theorem Calls.disciplined (h : Calls g purpose statement params s xs r) :
    Disciplined purpose (nextConnection s) statement params xs := by
  cases h with
  | held hh ht => exact nextConnection_of_held hh ▸ ht.disciplined
  | missing hh hd => constructor <;> simp
  | refused e hh hd =>
    constructor <;> simp [Request.on?, Exchange.commits, Exchange.opensCursor,
      Exchange.closesCursor]
  | closed hh hd ht | unclosed _ hh hd ht =>
    exact nextConnection_of_free hh ▸ ht.disciplined.around

/-- The exchanges of a call that delivered a result, from those on its connection: the connection is
opened before and closed after them, unless one is held. -/
def aroundCall (g : Gateway) (s : Session σ τ) (xs : List (Exchange τ)) : List (Exchange τ) :=
  match s.held, g.dsn? with
  | none, some dsn => ⟨.connect dsn, .ok ()⟩ :: (xs ++ [⟨.close s.opened, .ok ()⟩])
  | _, _ => xs

/-- The exchanges on the connection in which everything succeeds, around those of the statement. -/
def transacting (c : Nat) (xs : List (Exchange τ)) : List (Exchange τ) :=
  ⟨.cursor c, .ok ()⟩ :: (xs ++ [⟨.closeCursor c, .ok ()⟩, ⟨.commit c, .ok ()⟩])

theorem Transacts.eq_transacting (h : Transacts purpose c statement params xs (.ok rows)) :
    ∃ ys, Executes c statement params purpose ys (.ok rows) ∧ xs = transacting c ys := by
  cases h with
  | committed hx => exact ⟨_, hx, rfl⟩

/-- In a call that succeeds everything succeeded, from the opening of its connection to the closing
of it. -/
theorem Calls.eq_aroundCall (h : Calls g purpose statement params s xs (.ok rows)) :
    ∃ ys, Executes (nextConnection s) statement params purpose ys (.ok rows) ∧
      xs = aroundCall g s (transacting (nextConnection s) ys) := by
  generalize hr : (Except.ok rows : Except (Fault τ) (List Rows.Row)) = r at h
  cases h with
  | @held c xs r hh ht =>
    rcases r with e | rows' <;> cases hr
    obtain ⟨ys, hys, rfl⟩ := ht.eq_transacting
    rw [nextConnection_of_held hh]
    exact ⟨ys, hys, by simp [aroundCall, hh]⟩
  | missing => cases hr
  | refused => cases hr
  | @closed dsn xs r hh hd ht =>
    rcases r with e | rows' <;> cases hr
    obtain ⟨ys, hys, rfl⟩ := ht.eq_transacting
    rw [nextConnection_of_free hh]
    exact ⟨ys, hys, by simp [aroundCall, hh, hd]⟩
  | unclosed => cases hr

theorem mem_transacting (c : Nat) (xs : List (Exchange τ)) :
    ⟨.commit c, .ok ()⟩ ∈ transacting c xs := by
  simp [transacting]

theorem mem_aroundCall {x : Exchange τ} (h : x ∈ xs) : x ∈ aroundCall g s xs := by
  unfold aroundCall
  split
  · simp [h]
  · exact h

/-- **The discipline of commits.** Whatever fails in a call, at most one commit is asked for, and
that is done exactly if the cursor was opened, the statement run, its rows delivered and the cursor
closed; a cursor that was opened is closed exactly once, and before the commit. The call succeeds
only if its commit did. Rows are read in the end: everything succeeded then, the closing of the
call's own connection too, the rows are the ones delivered, and what reading them comes to changes
nothing else. -/
theorem commit_discipline (g : Gateway) (statement : String) (params : Option (List Value))
    (w : World σ τ) (s : Session σ τ) :
    (∃ xs, s.Exchanges w xs (g.execute statement params w s).2 ∧
      Disciplined .command (nextConnection s) statement params xs ∧
      ((g.execute statement params w s).1 = .ok () →
        ⟨.commit (nextConnection s), .ok ()⟩ ∈ xs)) ∧
    ∃ (xs : List (Exchange τ)) (fetched : Except (Fault τ) (List Rows.Row)) (s' : Session σ τ),
      s.Exchanges w xs s' ∧
      Disciplined .query (nextConnection s) statement params xs ∧
      (∀ (α : Type) (read : List Rows.Row → Except (Fault τ) α),
        g.query statement params read w s = (fetched.bind read, s')) ∧
      ∀ rows, fetched = .ok rows →
        ⟨.commit (nextConnection s), .ok ()⟩ ∈ xs ∧
        ∃ result, rows = Option.getD result [] ∧
          xs = aroundCall g s (transacting (nextConnection s)
            [⟨.execute (nextConnection s) statement params, .ok ()⟩,
              ⟨.fetch (nextConnection s), .ok result⟩]) := by
  constructor
  · obtain ⟨xs, r, hxs, hc, hr⟩ := exists_calls_execute g statement params w s
    refine ⟨xs, hxs, hc.disciplined, fun hok => ?_⟩
    rw [hr] at hok
    cases r with
    | error e => cases hok
    | ok rows =>
      obtain ⟨ys, -, rfl⟩ := hc.eq_aroundCall
      exact mem_aroundCall (mem_transacting _ ys)
  · obtain ⟨xs, fetched, s', hxs, hc, hread⟩ := exists_calls_query g statement params w s
    refine ⟨xs, fetched, s', hxs, hc.disciplined, hread, ?_⟩
    rintro rows rfl
    obtain ⟨ys, hys, rfl⟩ := hc.eq_aroundCall
    refine ⟨mem_aroundCall (mem_transacting _ ys), ?_⟩
    cases hys with
    | fetched result => exact ⟨result, rfl, rfl⟩

end Gateway

end CaptureControl

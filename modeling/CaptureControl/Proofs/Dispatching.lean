import CaptureControl.Proofs.Committing
import CaptureControl.Proofs.DriverFaults

/-!
# Statements one after another

Some operations send a list of statements, each in a call of its own, and end with the first call
that fails. A call may fail before its statement is sent, after that, and even after the statement
was committed, so what was sent and what was committed are told here by the exchanges of the whole
operation alone, without regard to the calls: a commit commits what was run on its connection since
the commit before.

The induction is on the statements. A call that succeeds is a piece of the exchanges in which its
statement is sent and committed and nothing is left to commit. A call that fails sends its statement
at most, and nothing follows it.

## Main definitions

* `Exchange.sent?`, `Gateway.sends`, `Gateway.committed` — what exchanges send, and what they commit
* `Gateway.Dispatches` — statements are sent in calls of their own, until one fails
* `Gateway.Dispatched` — what the exchanges of that are, and what it comes to

## Main results

* `Gateway.exists_carriesOut`, `Gateway.exists_breaksOff` — the exchanges of a call that succeeds,
  and of one that fails
* `Gateway.Dispatches.exists_dispatched` — each statement is sent after the one before was
  committed, and a failure is that of the first call that failed
-/

namespace CaptureControl

/-- A statement with its parameters. -/
abbrev Dispatch := String × Option (List Value)

/-- The statement that an exchange sends, with its connection. -/
def Exchange.sent? {τ : Type} : Exchange τ → Option (Nat × Dispatch)
  | ⟨.execute c statement params, _⟩ => some (c, statement, params)
  | _ => none

namespace Gateway

open Act

variable {σ τ α β : Type} {g : Gateway} {w : World σ τ} {s s₁ s' : Session σ τ} {c : Nat}
  {statement : String} {params : Option (List Value)} {order : Dispatch} {orders : List Dispatch}
  {xs ys : List (Exchange τ)} {r : Except (Fault τ) Unit} {f : Fault τ}

/-! ### What exchanges send and commit -/

/-- The statements that are sent, each with its connection. -/
def sends (xs : List (Exchange τ)) : List (Nat × Dispatch) :=
  xs.filterMap Exchange.sent?

/-- The statements that are sent. -/
def sent (xs : List (Exchange τ)) : List Dispatch :=
  (sends xs).map Prod.snd

/-- The statements that are committed after some were run, each on its connection. A commit commits
those that were run on its connection. -/
def committedAfter : List (Nat × Dispatch) → List (Exchange τ) → List Dispatch
  | _, [] => []
  | run, ⟨.execute c statement params, .ok _⟩ :: xs =>
    committedAfter (run ++ [(c, statement, params)]) xs
  | run, ⟨.commit c, .ok _⟩ :: xs =>
    (run.filter (·.1 = c)).map Prod.snd ++ committedAfter (run.filter (·.1 ≠ c)) xs
  | run, _ :: xs => committedAfter run xs

/-- The statements that are committed. -/
def committed (xs : List (Exchange τ)) : List Dispatch :=
  committedAfter [] xs

/-- The faults of the driver are exceptions, and none comes from closing a connection. -/
def Ordinary (xs : List (Exchange τ)) : Prop :=
  ∀ x ∈ xs, ∀ e ∈ x.fault?, e.isA .exception = true ∧ ∀ c, x.request ≠ .close c

theorem sends_append (xs ys : List (Exchange τ)) : sends (xs ++ ys) = sends xs ++ sends ys :=
  List.filterMap_append

/-- Where nothing is sent, nothing is committed. -/
theorem committed_of_sends (h : sends xs = []) : committed xs = [] := by
  induction xs with
  | nil => rfl
  | cons x xs ih =>
    obtain ⟨hx, hxs⟩ := List.forall_mem_cons.mp (List.filterMap_eq_nil_iff.mp h)
    have hrest := ih (List.filterMap_eq_nil_iff.mpr hxs)
    rw [committed] at hrest ⊢
    unfold committedAfter
    split <;> simp_all [Exchange.sent?]

/-- Nothing is sent or committed before the only statement. -/
theorem committed_eq_sent_of_cons {earlier later : List (Exchange τ)} {x : Exchange τ}
    (h : (sends (earlier ++ x :: later)).length ≤ 1) (hx : x.sent? ≠ none) :
    committed earlier = sent earlier := by
  obtain ⟨p, hp⟩ := Option.ne_none_iff_exists'.mp hx
  have hlater : sends (x :: later) = p :: sends later := List.filterMap_cons_some hp
  rw [sends_append, hlater, List.length_append, List.length_cons] at h
  have hnothing : sends earlier = [] := List.eq_nil_of_length_eq_zero (by omega)
  rw [committed_of_sends hnothing, sent, hnothing, List.map_nil]

/-! ### Calls -/

/-- A call that succeeds sends its statement and commits it, leaves nothing to commit, and none of
its requests fails. A connection of its own is the next one. -/
structure CarriesOut (w : World σ τ) (s : Session σ τ) (order : Dispatch) (xs : List (Exchange τ))
    (s₁ : Session σ τ) : Prop where
  /-- These are the exchanges of the call. -/
  exchanges : s.Exchanges w xs s₁
  /-- No request failed. -/
  faultless : ∀ x ∈ xs, x.fault? = none
  /-- The statement was sent, and nothing else. -/
  sends_eq : sends xs = [(nextConnection s, order)]
  /-- It was committed, and so is whatever follows, as without it. -/
  committed_append : ∀ ys, committed (xs ++ ys) = order :: committed ys
  /-- A connection is held after the call if one was held before, and then the same. -/
  held : s₁.held = s.held
  /-- A connection that was opened for the call took the next number. -/
  opened : s.held = none → s₁.opened = s.opened + 1

theorem CarriesOut.sends_append (h : CarriesOut w s order xs s₁) (ys : List (Exchange τ)) :
    sends (xs ++ ys) = (nextConnection s, order) :: sends ys := by
  rw [Gateway.sends_append, h.sends_eq, List.singleton_append]

theorem CarriesOut.sent_append (h : CarriesOut w s order xs s₁) (ys : List (Exchange τ)) :
    sent (xs ++ ys) = order :: sent ys := by
  rw [sent, h.sends_append, List.map_cons, sent]

/-- A call leaves the connection held that was held before, if there was one. -/
theorem held_execute (g : Gateway) (statement : String) (params : Option (List Value))
    (w : World σ τ) (s : Session σ τ) : (g.execute statement params w s).2.held = s.held := by
  cases hh : s.held with
  | none =>
    have hvisits : g.Visits s (g.perform (.execute statement params) w s).2 :=
      visits_perform nofun nofun hh
    exact hvisits.held_eq.trans hh
  | some c =>
    have hworks : s.Works c (g.perform (.execute statement params) w s).2 :=
      works_perform nofun hh
    exact hworks.held.trans hh

/-- A call outside a session with more than one exchange has opened a connection. -/
theorem opened_execute (hh : s.held = none)
    (hxs : s.Exchanges w xs (g.execute statement params w s).2) (hlength : 1 < xs.length) :
    (g.execute statement params w s).2.opened = s.opened + 1 := by
  have hvisits : g.Visits s (g.perform (.execute statement params) w s).2 :=
    visits_perform nofun nofun hh
  have hrecords : (g.execute statement params w s).2.trace.length =
      xs.length + s.trace.length := by
    rw [hxs.records, List.length_append, List.length_reverse, List.length_map]
  rw [perform] at hvisits
  cases hvisits with
  | missing _ htrace =>
    rw [htrace] at hrecords
    omega
  | refused _ htrace =>
    rw [htrace, List.length_cons] at hrecords
    omega
  | served _ _ _ _ _ hopened => exact hopened

/-- **A call that succeeds carries its statement out.** -/
theorem exists_carriesOut (h : g.execute statement params w s = (.ok (), s₁)) :
    ∃ xs, CarriesOut w s (statement, params) xs s₁ := by
  obtain ⟨xs, r, hxs, hcalls, hr⟩ := exists_calls_execute g statement params w s
  have hheld := held_execute g statement params w s
  have hopened (hh : s.held = none) := opened_execute hh hxs
  rw [h] at hxs hr hheld hopened
  cases r with
  | error e => cases hr
  | ok rows =>
    obtain ⟨ys, hys, rfl⟩ := hcalls.eq_aroundCall
    cases hys with
    | executed =>
      refine ⟨_, hxs, ?faultless, ?sends, ?committed, hheld, fun hh => hopened hh ?length⟩
      all_goals
        unfold aroundCall
      case faultless => split <;> simp [transacting, Exchange.fault?]
      case sends => split <;> rfl
      case committed => split <;> simp [transacting, committed, committedAfter]
      case length => split <;> simp [transacting]

theorem Ordinary.append_right (h : Ordinary (xs ++ ys)) : Ordinary ys :=
  fun x hx => h x (List.mem_append_right _ hx)

theorem mem_of_latestFault? {q : Request} {e : Fault τ} (h : latestFault? xs = some (q, e)) :
    ∃ x ∈ xs, x.request = q ∧ x.fault? = some e := by
  induction xs with
  | nil => cases h
  | cons x xs ih =>
    rw [latestFault?, Option.or_eq_some_iff] at h
    rcases h with hlater | ⟨-, hx⟩
    · obtain ⟨y, hy, hsame⟩ := ih hlater
      exact ⟨y, List.mem_cons_of_mem x hy, hsame⟩
    · obtain ⟨e', he, heq⟩ := Option.map_eq_some_iff.mp hx
      cases heq
      exact ⟨x, List.mem_cons_self, rfl, he⟩

/-- A statement is sent at most once, on its connection. -/
theorem Transacts.sends_cases {r : Except (Fault τ) (List Rows.Row)}
    (h : Transacts .command c statement params xs r) :
    sends xs = [] ∨ sends xs = [(c, statement, params)] := by
  cases h with
  | noCursor e => exact .inl rfl
  | unclosed _ hx | failed hx | uncommitted _ hx | committed hx =>
    cases hx <;> exact .inr rfl

/-- Opening and closing a connection sends nothing. -/
theorem sends_around {dsn : Option String} {opened closed : Except (Fault τ) Unit}
    (xs : List (Exchange τ)) :
    sends (⟨.connect dsn, opened⟩ :: (xs ++ [⟨.close c, closed⟩])) = sends xs := by
  have hclose : sends [(⟨.close c, closed⟩ : Exchange τ)] = [] := rfl
  rw [sends, List.filterMap_cons_none rfl, ← sends, sends_append, hclose, List.append_nil]

/-- A call sends its statement at most. -/
theorem Calls.sends_cases {r : Except (Fault τ) (List Rows.Row)}
    (h : Calls g .command statement params s xs r) :
    sends xs = [] ∨ sends xs = [(nextConnection s, statement, params)] := by
  cases h with
  | held hh ht => exact nextConnection_of_held hh ▸ ht.sends_cases
  | missing => exact .inl rfl
  | refused => exact .inl rfl
  | closed hh _ ht | unclosed _ hh _ ht =>
    rw [sends_around]
    exact nextConnection_of_free hh ▸ ht.sends_cases

/-- A statement that fails on its connection is not committed. -/
theorem Transacts.committed_eq_nil {e : Fault τ}
    (h : Transacts .command c statement params xs (.error e)) : Gateway.committed xs = [] := by
  cases h with
  | noCursor e => rfl
  | unclosed _ hx | failed hx | uncommitted _ hx =>
    cases hx <;> simp [Gateway.committed, committedAfter]

/-- Opening a connection and closing it commits nothing. -/
theorem committed_around {dsn : Option String} {opened closed : Except (Fault τ) Unit}
    (xs : List (Exchange τ)) :
    committed (⟨.connect dsn, opened⟩ :: (xs ++ [⟨.close c, closed⟩])) = committed xs := by
  have hclose (run : List (Nat × Dispatch)) :
      committedAfter run (xs ++ [⟨.close c, closed⟩]) = committedAfter run xs := by
    induction xs generalizing run with
    | nil => simp [committedAfter]
    | cons x xs ih =>
      rw [List.cons_append]
      unfold committedAfter
      split <;> simp_all
  rw [committed, committedAfter, hclose, committed]
  all_goals simp

/-- A call that fails with an ordinary fault has committed nothing, and fails with a command
fault. -/
theorem Calls.of_ordinary {e : Fault τ} (h : Calls g .command statement params s xs (.error e))
    (hxs : Ordinary xs) : committed xs = [] ∧ e.kind = .command := by
  constructor
  · generalize hr : (Except.error e : Except (Fault τ) (List Rows.Row)) = r at h
    cases h with
    | @held c xs r hh ht =>
      rcases r with e' | rows <;> cases hr
      exact ht.committed_eq_nil
    | missing => rfl
    | refused => rfl
    | @closed dsn xs r hh hd ht =>
      rcases r with e' | rows <;> cases hr
      rw [committed_around]
      exact ht.committed_eq_nil
    | unclosed e hh hd ht =>
      obtain ⟨-, hclose⟩ := hxs ⟨.close s.opened, .error e⟩ (by simp) e rfl
      exact absurd rfl (hclose s.opened)
  · rcases h.surfaces.only e rfl with hcommand | ⟨q, hlatest, hbad⟩
    · exact hcommand
    · obtain ⟨x, hx, rfl, hfault⟩ := mem_of_latestFault? hlatest
      obtain ⟨hexception, hclose⟩ := hxs x hx e hfault
      rcases hbad with ⟨d, hd⟩ | hno
      · exact absurd hd (hclose d)
      · exact absurd hexception (by simp [hno])

/-- A call that fails sends its statement at most. If no fault is out of the ordinary, it commits
nothing and fails with a command fault. -/
structure BreaksOff (w : World σ τ) (s : Session σ τ) (order : Dispatch) (xs : List (Exchange τ))
    (f : Fault τ) (s' : Session σ τ) : Prop where
  /-- These are the exchanges of the call. -/
  exchanges : s.Exchanges w xs s'
  /-- The statement was sent, or nothing. -/
  sends_cases : sends xs = [] ∨ sends xs = [(nextConnection s, order)]
  /-- It was not committed. -/
  committed_eq_nil : Ordinary xs → committed xs = []
  /-- The fault is a command fault. -/
  command : Ordinary xs → f.kind = .command

/-- **A call that fails breaks its statement off.** -/
theorem exists_breaksOff (h : g.execute statement params w s = (.error f, s')) :
    ∃ xs, BreaksOff w s (statement, params) xs f s' := by
  obtain ⟨xs, r, hxs, hcalls, hr⟩ := exists_calls_execute g statement params w s
  rw [h] at hxs hr
  cases r with
  | ok rows => cases hr
  | error e =>
    obtain rfl : f = e := Except.error.inj hr
    exact ⟨xs, hxs, hcalls.sends_cases, fun hordinary => (hcalls.of_ordinary hordinary).1,
      fun hordinary => (hcalls.of_ordinary hordinary).2⟩

/-! ### Statements one after another -/

/-- Statements are sent one after another, each in a call of its own, until all calls have succeeded
or one has failed. Log entries in between do not matter. -/
inductive Dispatches (g : Gateway) (w : World σ τ) :
    Session σ τ → List Dispatch → Except (Fault τ) Unit → Session σ τ → Prop where
  /-- Nothing is left to send. -/
  | done {s : Session σ τ} : Dispatches g w s [] (.ok ()) s
  /-- Log entries are written first. -/
  | noted {s s' : Session σ τ} {orders : List Dispatch} {r : Except (Fault τ) Unit}
      (entries : List (LogEntry τ)) : Dispatches g w (s.noted entries) orders r s' →
      Dispatches g w s orders r s'
  /-- A call fails. -/
  | failed {s s' : Session σ τ} {order : Dispatch} {orders : List Dispatch} {f : Fault τ} :
      g.execute order.1 order.2 w s = (.error f, s') →
      Dispatches g w s (order :: orders) (.error f) s'
  /-- A call succeeds, and the next follows. -/
  | sent {s s₁ s' : Session σ τ} {order : Dispatch} {orders : List Dispatch}
      {r : Except (Fault τ) Unit} : g.execute order.1 order.2 w s = (.ok (), s₁) →
      Dispatches g w s₁ orders r s' → Dispatches g w s (order :: orders) r s'

/-- The first call that failed did so with a fault: the statements before it were sent and committed
and no request had failed, and nothing follows the call. -/
def StopsWith (g : Gateway) (w : World σ τ) (s : Session σ τ) (orders : List Dispatch)
    (xs : List (Exchange τ)) (f : Fault τ) (s' : Session σ τ) : Prop :=
  ∃ before order after earlier last s₁,
    orders = before ++ order :: after ∧ xs = earlier ++ last ∧
    s.Exchanges w earlier s₁ ∧ (∀ x ∈ earlier, x.fault? = none) ∧
    sent earlier = before ∧ committed earlier = before ∧
    g.execute order.1 order.2 w s₁ = (.error f, s') ∧ s₁.Exchanges w last s'

/-- What the exchanges are of statements that are sent one after another, and what it comes to. -/
structure Dispatched (g : Gateway) (w : World σ τ) (s : Session σ τ) (orders : List Dispatch)
    (xs : List (Exchange τ)) (r : Except (Fault τ) Unit) (s' : Session σ τ) : Prop where
  /-- These are the exchanges. -/
  exchanges : s.Exchanges w xs s'
  /-- Nothing else is recorded: there is no pause. -/
  recorded : s.Records (xs.map Exchange.event) s'
  /-- Statements are sent in their order, and none is left out. -/
  sent_prefix : sent xs <+: orders
  /-- Within a session all are sent on the connection that is held. -/
  held : ∀ c, s.held = some c → (sends xs).map Prod.fst = List.replicate (sent xs).length c
  /-- Outside a session each is sent on the connection that was opened for it. -/
  free : s.held = none → (sends xs).map Prod.fst = List.range' s.opened (sent xs).length
  /-- When a statement is sent, all that were sent before are committed. -/
  committed_before : ∀ earlier x later, xs = earlier ++ x :: later → x.sent? ≠ none →
    committed earlier = sent earlier
  /-- After a success all statements are committed. -/
  committed_of_ok : r = .ok () → committed xs = orders
  /-- If all are committed, only a fault that is not ordinary stands against a success. -/
  ok_of_committed : Ordinary xs → committed xs = orders → r = .ok ()
  /-- A fault is that of the first call that failed. -/
  stopped : ∀ f, r = .error f → StopsWith g w s orders xs f s'
  /-- It is a command fault, unless a fault was not ordinary. -/
  command : ∀ f, r = .error f → Ordinary xs → f.kind = .command

theorem dispatched_nil (g : Gateway) (w : World σ τ) (s : Session σ τ) :
    Dispatched g w s [] [] (.ok ()) s where
  exchanges := .done (.refl s)
  recorded := rfl
  sent_prefix := List.prefix_refl []
  held _ _ := rfl
  free _ := rfl
  committed_before _ _ _ h := by simp at h
  committed_of_ok _ := rfl
  ok_of_committed _ _ := rfl
  stopped := nofun
  command := nofun

theorem Dispatched.of_noted {entries : List (LogEntry τ)}
    (h : Dispatched g w (s.noted entries) orders xs r s') : Dispatched g w s orders xs r s' where
  exchanges := h.exchanges.of_sameOutside (.noted s entries)
  recorded := h.recorded
  sent_prefix := h.sent_prefix
  held := h.held
  free := h.free
  committed_before := h.committed_before
  committed_of_ok := h.committed_of_ok
  ok_of_committed := h.ok_of_committed
  stopped f hf := by
    obtain ⟨before, order, after, earlier, last, s₁, horders, hxs, hearlier, hrest⟩ := h.stopped f hf
    exact ⟨before, order, after, earlier, last, s₁, horders, hxs,
      hearlier.of_sameOutside (.noted s entries), hrest⟩
  command := h.command

/-- A call that fails is the end. -/
theorem BreaksOff.dispatched (h : BreaksOff w s order xs f s')
    (hrun : g.execute order.1 order.2 w s = (.error f, s')) (orders : List Dispatch) :
    Dispatched g w s (order :: orders) xs (.error f) s' where
  exchanges := h.exchanges
  recorded := h.exchanges.records
  sent_prefix := by
    rcases h.sends_cases with hsends | hsends <;> simp [Gateway.sent, hsends]
  held c hc := by
    rcases h.sends_cases with hsends | hsends <;>
      simp [Gateway.sent, hsends, nextConnection_of_held hc]
  free hfree := by
    rcases h.sends_cases with hsends | hsends <;>
      simp [Gateway.sent, hsends, nextConnection_of_free hfree]
  committed_before earlier x later hxs hx := by
    have hlength : (sends xs).length ≤ 1 := by
      rcases h.sends_cases with hsends | hsends <;> simp [hsends]
    exact committed_eq_sent_of_cons (hxs ▸ hlength) hx
  committed_of_ok := nofun
  ok_of_committed hordinary hall := by
    cases (h.committed_eq_nil hordinary).symm.trans hall
  stopped f' hf := by
    cases hf
    exact ⟨[], order, orders, [], xs, s, rfl, rfl, .done (.refl s), nofun, rfl, rfl, hrun,
      h.exchanges⟩
  command f' hf := by
    cases hf
    exact h.command

/-- A call that succeeds goes before. -/
theorem CarriesOut.dispatched (h : CarriesOut w s order xs s₁)
    (hys : Dispatched g w s₁ orders ys r s') :
    Dispatched g w s (order :: orders) (xs ++ ys) r s' where
  exchanges := h.exchanges.trans hys.exchanges
  recorded := (h.exchanges.trans hys.exchanges).records
  sent_prefix := by
    rw [h.sent_append, List.prefix_cons_inj]
    exact hys.sent_prefix
  held c hc := by
    rw [h.sends_append, h.sent_append, List.map_cons, hys.held c (h.held.trans hc),
      nextConnection_of_held hc, List.length_cons, List.replicate_succ]
  free hfree := by
    rw [h.sends_append, h.sent_append, List.map_cons, hys.free (h.held.trans hfree),
      nextConnection_of_free hfree, h.opened hfree, List.length_cons, List.range'_succ]
  committed_before earlier x later heq hx := by
    rcases List.append_eq_append_iff.mp heq with ⟨front, rfl, hrest⟩ | ⟨back, hback, hrest⟩
    · rw [h.committed_append, h.sent_append, hys.committed_before front x later hrest hx]
    · -- The statement is sent by the call itself, unless the call is just over.
      cases back with
      | nil =>
        rw [List.append_nil] at hback
        rw [← hback, ← List.append_nil xs, h.committed_append, h.sent_append]
        rfl
      | cons y back =>
        obtain ⟨rfl, -⟩ := List.cons.inj hrest
        have hlength : (sends xs).length ≤ 1 := Nat.le_of_eq (congrArg List.length h.sends_eq)
        exact committed_eq_sent_of_cons (hback ▸ hlength) hx
  committed_of_ok hr := by
    rw [h.committed_append, hys.committed_of_ok hr]
  ok_of_committed hordinary hall := by
    rw [h.committed_append] at hall
    exact hys.ok_of_committed hordinary.append_right (List.cons.inj hall).2
  stopped f hf := by
    obtain ⟨before, failing, after, earlier, last, s₂, rfl, rfl, hearlier, hfaultless, hbefore,
      hcommitted, hrun, hlast⟩ := hys.stopped f hf
    refine ⟨order :: before, failing, after, xs ++ earlier, last, s₂, rfl,
      (List.append_assoc ..).symm, h.exchanges.trans hearlier, ?_, ?_, ?_, hrun, hlast⟩
    · exact List.forall_mem_append.mpr ⟨h.faultless, hfaultless⟩
    · rw [h.sent_append, hbefore]
    · rw [h.committed_append, hcommitted]
  command f hf hordinary := hys.command f hf hordinary.append_right

/-- **Statements that are sent one after another**: each is sent only after those before it were
committed, and a fault is that of the first call that failed. -/
theorem Dispatches.exists_dispatched (h : Dispatches g w s orders r s') :
    ∃ xs, Dispatched g w s orders xs r s' := by
  induction h with
  | done => exact ⟨[], dispatched_nil g w _⟩
  | noted entries _ ih =>
    obtain ⟨xs, hxs⟩ := ih
    exact ⟨xs, hxs.of_noted⟩
  | failed hrun =>
    obtain ⟨xs, hxs⟩ := exists_breaksOff hrun
    exact ⟨xs, hxs.dispatched hrun _⟩
  | sent hrun _ ih =>
    obtain ⟨xs, hxs⟩ := exists_carriesOut hrun
    obtain ⟨ys, hys⟩ := ih
    exact ⟨xs ++ ys, hxs.dispatched hys⟩

/-! ### Actions that dispatch statements -/

/-- What follows on a success is dispatched after it. -/
theorem Dispatches.append {more : List Dispatch} (h : Dispatches g w s orders (.ok ()) s₁)
    (hmore : Dispatches g w s₁ more r s') : Dispatches g w s (orders ++ more) r s' := by
  generalize hr : (Except.ok () : Except (Fault τ) Unit) = result at h
  induction h with
  | done => exact hmore
  | noted entries _ ih => exact .noted entries (ih hmore hr)
  | failed => cases hr
  | sent hrun _ ih => exact .sent hrun (ih hmore hr)

/-- What follows on a fault is not dispatched. -/
theorem Dispatches.append_of_error (h : Dispatches g w s orders (.error f) s')
    (more : List Dispatch) : Dispatches g w s (orders ++ more) (.error f) s' := by
  generalize hr : (Except.error f : Except (Fault τ) Unit) = result at h
  induction h with
  | done => cases hr
  | noted entries _ ih => exact .noted entries (ih hr)
  | failed hrun => exact .failed hrun
  | sent hrun _ ih => exact .sent hrun (ih hr)

/-- An action dispatches statements, and answers in the end. -/
def Dispatching (g : Gateway) (orders : List Dispatch) (x : Act σ τ α) (a : α) : Prop :=
  ∀ w s, ∃ r, Dispatches g w s orders r (x w s).2 ∧ (x w s).1 = r.map fun _ => a

namespace Dispatching

theorem pure (g : Gateway) (a : α) : Dispatching g [] (Pure.pure a : Act σ τ α) a :=
  fun _ _ => ⟨.ok (), .done, rfl⟩

theorem note (g : Gateway) (e : LogEntry τ) : Dispatching g [] (Act.note e : Act σ τ Unit) () :=
  fun _ _ => ⟨.ok (), .noted [e] .done, rfl⟩

theorem execute (g : Gateway) (statement : String) (params : Option (List Value)) :
    Dispatching g [(statement, params)] (g.execute statement params : Act σ τ Unit) () := by
  intro w s
  rcases hrun : g.execute statement params w s with ⟨f | ⟨⟩, s'⟩
  · exact ⟨.error f, .failed hrun, rfl⟩
  · exact ⟨.ok (), .sent hrun .done, rfl⟩

theorem bind {x : Act σ τ α} {y : α → Act σ τ β} {a : α} {b : β} {more : List Dispatch}
    (hx : Dispatching g orders x a) (hy : Dispatching g more (y a) b) :
    Dispatching g (orders ++ more) (x >>= y) b := by
  intro w s
  obtain ⟨r, hr, hxr⟩ := hx w s
  rcases hrun : x w s with ⟨f | a', s₁⟩ <;> rw [hrun] at hr hxr
  · rw [bind_of_error hrun]
    rcases r with e | ⟨⟩ <;> cases hxr
    exact ⟨.error f, hr.append_of_error more, rfl⟩
  · rw [bind_of_ok hrun]
    rcases r with e | ⟨⟩ <;> cases hxr
    obtain ⟨r', hr', hyr⟩ := hy w s₁
    exact ⟨r', hr.append hr', hyr⟩

/-- What an action comes to that dispatches statements is told by its exchanges. -/
theorem exists_dispatched {x : Act σ τ α} {a : α} (hx : Dispatching g orders x a) (w : World σ τ)
    (s : Session σ τ) :
    ∃ xs r, Dispatched g w s orders xs r (x w s).2 ∧ (x w s).1 = r.map fun _ => a := by
  obtain ⟨r, hdispatches, hresult⟩ := hx w s
  obtain ⟨xs, hxs⟩ := hdispatches.exists_dispatched
  exact ⟨xs, r, hxs, hresult⟩

end Dispatching

end Gateway

end CaptureControl

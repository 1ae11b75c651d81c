import CaptureControl.Proofs.Cancelling
import CaptureControl.Proofs.Clearing
import CaptureControl.Proofs.Naming
import CaptureControl.Proofs.Orders

/-!
# Names that strand the clearing of a schema

The names of the tables to be dropped come from the database. Each is checked when it is the turn of
its table to be released, and not before: a name that is not accepted ends the clearing of the
schema there, with the tables before it released, the others not, and nothing dropped. There is no
pause after that in which the releases could propagate.

## Main definitions

* `Orders.Stranded` — orders that were carried out up to a refusal, or broken off before it
* `Station.releasing` — the orders that release some tables

## Main results

* `Station.Account.exists_succeedAll` — orders that were carried out were run and committed
* `Station.dropAllTables_strands` — what a listed name that is not accepted comes to
-/

namespace CaptureControl

open Identifier (checkIdentifier_eq_ok_iff)

/-- How orders come out after which something is refused: they are carried out, and the refusal is
the fault that is met with, or they do not come to it. There is no success. -/
inductive Orders.Stranded {τ α : Type} (orders : List Order) (refusal : Fault τ) :
    Except (Fault τ) α → List (Incident τ) → Prop where
  /-- All are carried out, and then the refusal is met with. -/
  | refused : Stranded orders refusal (.error refusal) (orders.map Order.done)
  /-- One of them fails. -/
  | broken {e : Fault τ} {is : List (Incident τ)} : Fail (.ok orders) e is →
      Stranded orders refusal (.error e) is

theorem Orders.Stranded.prepend {τ α β : Type} {orders : List Order} {refusal e : Fault τ}
    {is : List (Incident τ)} (hs : Stranded orders refusal (.error e : Except (Fault τ) α) is)
    (before : List Order) :
    Stranded (before ++ orders) refusal (.error e : Except (Fault τ) β)
      (before.map Order.done ++ is) := by
  cases hs with
  | refused =>
    rw [← List.map_append]
    exact .refused
  | broken hf => exact .broken hf.prepend

namespace Station

open Act Orders

variable {σ τ : Type} [Time τ] {h : Station τ} {w : World σ τ} {s s' : Session σ τ}
  {owner bad : String} {tables before after : List String}

/-! ### Orders that were carried out -/

omit [Time τ] in
theorem trace_of_aside (hs : s.Aside w s') : s'.trace = s.trace := by
  cases hs <;> rfl

/-- **Orders that were carried out were run and committed**, one after another, and nothing else was
asked for. -/
theorem Account.exists_succeedAll {orders : List Order}
    (ha : h.Account w s (orders.map Order.done) s') :
    ∃ events, s.Records events s' ∧
      SucceedAll (orders.map fun order => (h.service.program.text order.statement, order.params))
        events := by
  generalize his : orders.map Order.done = is at ha
  induction ha generalizing orders with
  | done s =>
    obtain rfl := List.map_eq_nil_iff.mp his
    exact ⟨[], rfl, .nil⟩
  | aside hs _ ih =>
    obtain ⟨events, hr, he⟩ := ih his
    refine ⟨events, ?_, he⟩
    rwa [Session.Records, trace_of_aside hs] at hr
  | @incident s s₁ s' i is hi _ ih =>
    obtain ⟨order, rest, rfl, rfl, hrest⟩ := List.map_eq_cons_iff.mp his
    obtain ⟨events, hr, he⟩ := ih hrest
    cases hi with
    | sent _ hsend =>
      obtain ⟨first, hf, hr₁⟩ := Gateway.succeeds_of_execute_eq_ok hsend
      exact ⟨first ++ events, hr₁.trans hr, .cons hf he⟩

/-! ### Releasing up to a name -/

/-- The orders that release some tables, one after another. -/
def releasing (owner : String) (tables : List String) : List Order :=
  tables.flatMap fun table => disabling ⟨owner, table⟩

omit [Time τ] in
/-- The orders that disable capture for a table whose names are accepted. -/
theorem ordersFor_disabling {table : String} (howner : Identifier.Accepted owner)
    (ht : Identifier.Accepted table) :
    h.ordersFor (.text owner) (.text table) disabling = .ok (disabling ⟨owner, table⟩) :=
  ordersFor_of_ok (SourceTable.ofValues_eq_ok_iff.mpr ⟨rfl, rfl, howner, ht⟩)

omit [Time τ] in
/-- There are none if the name of the table is not accepted. -/
theorem ordersFor_of_not_accepted (howner : Identifier.Accepted owner)
    (hbad : ¬ Identifier.Accepted bad) (orders : SourceTable → List Order) :
    h.ordersFor (.text owner) (.text bad) orders = .error (.identifier "table" (.text bad)) := by
  refine ordersFor_of_error (SourceTable.ofValues_eq_error.2 ?_ fun name hname => ?_)
  · exact ⟨owner, checkIdentifier_eq_ok_iff.mpr ⟨rfl, howner⟩⟩
  · obtain ⟨hvalue, haccepted⟩ := checkIdentifier_eq_ok_iff.mp hname
    cases hvalue
    exact hbad haccepted

/-- The release of one of several tables. -/
theorem tells_release (owner table : String) :
    h.Tells w
      (do
        Act.note (.releasing owner table)
        h.disableTable (.text owner) (.text table) : Act σ τ SourceTable)
      (Performed (h.ordersFor (.text owner) (.text table) disabling)) :=
  Quiet.bind (Quiet.note rfl) fun _ => tells_disableTable _ _

/-- Tables are released up to the first name that is not accepted. -/
theorem tells_releaseTables (howner : Identifier.Accepted owner)
    (hbefore : ∀ name ∈ before, Identifier.Accepted name) (hbad : ¬ Identifier.Accepted bad)
    (after : List String) :
    h.Tells w (h.releaseTables owner (before ++ bad :: after))
      (Stranded (releasing owner before) (.identifier "table" (.text bad))) := by
  induction before with
  | nil =>
    rw [List.nil_append, releaseTables, List.mapM_cons]
    have hfirst := tells_release (h := h) (w := w) owner bad
    rw [ordersFor_of_not_accepted howner hbad] at hfirst
    refine hfirst.bind (fun e is hp => ?_) fun t is hp => ?_
    · cases hp with
      | failed hf =>
        cases hf with
        | refused he =>
          cases he
          exact .refused
        | broken he => cases he
    · cases hp with
      | all he => cases he
  | cons table before ih =>
    obtain ⟨ht, hbefore⟩ := List.forall_mem_cons.mp hbefore
    rw [List.cons_append, releaseTables, List.mapM_cons]
    have hfirst := tells_release (h := h) (w := w) owner table
    rw [ordersFor_disabling howner ht] at hfirst
    refine hfirst.bind (fun e is hp => ?_) fun t is hp => ?_
    · cases hp with
      | failed hf => exact .broken hf.append
    · cases hp with
      | all he =>
        cases he
        refine (ih hbefore).bind (fun e is hs => hs.prepend _) fun l is hs => ?_
        cases hs

omit [Time τ] in
/-- A list that holds a name that is not accepted holds a first one. -/
theorem exists_first_not_accepted (hbad : ∃ name ∈ tables, ¬ Identifier.Accepted name) :
    ∃ before bad after, tables = before ++ bad :: after ∧
      (∀ name ∈ before, Identifier.Accepted name) ∧ ¬ Identifier.Accepted bad := by
  induction tables with
  | nil =>
    obtain ⟨name, hmem, -⟩ := hbad
    cases hmem
  | cons table tables ih =>
    by_cases ht : Identifier.Accepted table
    · have hrest : ∃ name ∈ tables, ¬ Identifier.Accepted name := by
        obtain ⟨name, hmem, hname⟩ := hbad
        rcases List.mem_cons.mp hmem with rfl | hmem
        · exact absurd ht hname
        · exact ⟨name, hmem, hname⟩
      obtain ⟨before, bad, after, rfl, hbefore, hbad⟩ := ih hrest
      exact ⟨table :: before, bad, after, rfl, List.forall_mem_cons.mpr ⟨ht, hbefore⟩, hbad⟩
    · exact ⟨[], table, tables, rfl, nofun, ht⟩

/-! ### The whole -/

/-- The clearing of a schema ends at the first listed name that is not accepted, or before. -/
theorem exists_dropAllTables_eq (before after : List String) {schema : Value} {s₁ : Session σ τ}
    (hc : checkIdentifier "schema" (h.schemaOr schema) = (.ok owner : Except (Fault τ) String))
    (hl : h.listTables owner w (s.noted [.clearing owner]) =
      (.ok (before ++ bad :: after), s₁))
    (hbefore : ∀ name ∈ before, Identifier.Accepted name) (hbad : ¬ Identifier.Accepted bad) :
    ∃ r s' is, h.dropAllTables schema w s = (r, s') ∧ h.Account w s₁ is s' ∧
      Stranded (releasing owner before) (.identifier "table" (.text bad)) r is := by
  have howner : Identifier.Accepted owner := (checkIdentifier_eq_ok_iff.mp hc).2
  obtain ⟨is, ha, hs⟩ := tells_releaseTables (h := h) (w := w) howner hbefore hbad after s₁
  rcases hr : h.releaseTables owner (before ++ bad :: after) w s₁ with ⟨e | released, s'⟩
  · rw [hr] at ha hs
    have hrun : h.dropAllTables schema w s = (.error e, s') := by
      rw [dropAllTables, hc, bind_of_ok (ofExcept_apply _), note_bind_apply, bind_of_ok hl,
        if_neg (by simp), bind_of_error hr]
    exact ⟨_, s', is, hrun, ha, hs.prepend []⟩
  · rw [hr] at hs
    cases hs

/-- Tables whose release was carried out are released, as the record tells. -/
theorem Account.exists_releases
    (ha : h.Account w s ((releasing owner tables).map Order.done) s') :
    ∃ events, s.Records events s' ∧ SucceedAll (h.releases owner tables) events := by
  obtain ⟨events, hr, he⟩ := ha.exists_succeedAll
  rw [releasing, List.map_flatMap] at he
  exact ⟨events, hr, he⟩

/-- **A listed name that is not accepted strands the clearing of a schema.** Of the tables that were
listed, those before the first name that is not accepted are released, unless that fails, and then
the clearing fails with that name. Nothing else is sent, nothing is dropped, and there is no pause. If
all those releases were carried out, they were run and committed, so the tables are lost to
capture. -/
theorem dropAllTables_strands {schema : Value} {s₁ : Session σ τ}
    (hc : checkIdentifier "schema" (h.schemaOr schema) = (.ok owner : Except (Fault τ) String))
    (hl : h.listTables owner w (s.noted [.clearing owner]) = (.ok tables, s₁))
    (hbad : ∃ name ∈ tables, ¬ Identifier.Accepted name) :
    ∃ before bad after, tables = before ++ bad :: after ∧
      (∀ name ∈ before, Identifier.Accepted name) ∧ ¬ Identifier.Accepted bad ∧
      ∃ r s' is, h.dropAllTables schema w s = (r, s') ∧ h.Account w s₁ is s' ∧
        Stranded (releasing owner before) (.identifier "table" (.text bad)) r is ∧
        (is = (releasing owner before).map Order.done →
          ∃ events, s₁.Records events s' ∧ SucceedAll (h.releases owner before) events) := by
  obtain ⟨before, bad, after, rfl, hbefore, hbad⟩ := exists_first_not_accepted hbad
  obtain ⟨r, s', is, hrun, ha, hs⟩ := exists_dropAllTables_eq before after hc hl hbefore hbad
  refine ⟨before, bad, after, rfl, hbefore, hbad, r, s', is, hrun, ha, hs, ?_⟩
  rintro rfl
  exact ha.exists_releases

end Station

/-! ### A listing with a blank -/

namespace Station

open Orders

/-- What a database answers that lists two tables, the second with a blank in its name. -/
def listing : (r : Request) → r.Answer
  | .fetch _ => some [[.text "A"], [.text "B C"]]
  | .lookup _ _ => true
  | .collect => []
  | .page _ => ⟨200, none, []⟩
  | .connect _ | .cursor _ | .execute _ _ _ | .closeCursor _ | .commit _ | .close _
  | .closeMetrics => ()

/-- A world with such a database, in which everything succeeds and no time passes. -/
def listingWorld : World Unit Rat where
  serve r _ clock := (.ok (listing r), ⟨(), clock, false⟩)
  longest := none
  sleep _ _ clock := ⟨(), clock, false⟩
  signal _ _ := (false, ())

theorem not_accepted_blank : ¬ Identifier.Accepted "B C" := by
  rw [← Identifier.isIdentifier_iff]
  decide

theorem listTables_listingWorld :
    (probing.listTables "SCHEMA" listingWorld
      ((Session.start () 0 "").noted [.clearing "SCHEMA"])).1 = .ok ["A", "B C"] := by
  with_unfolding_all rfl

/-- No order fails there. -/
theorem not_fail_listingWorld {orders : List Order} {e : Fault Rat} {is : List (Incident Rat)}
    {s s' : Session Unit Rat} (ha : probing.Account listingWorld s is s') :
    ¬ Fail (.ok orders) e is := by
  intro hf
  rcases hf.refused_or_broken with ⟨he, -⟩ | ⟨order, hi⟩
  · cases he
  · obtain ⟨-, t, t', -, ht⟩ := ha.exists_happens hi
    obtain ⟨world, clock, cancelled, held, opened, closed, tally, trace, log, output⟩ := t
    cases ht with
    | sent _ hsend => cases held <;> cases hsend

/-- The first of the two tables is released before the name of the second is looked at. -/
theorem dropAllTables_listingWorld :
    ∃ s₁ s' released,
      probing.listTables "SCHEMA" listingWorld ((Session.start () 0 "").noted [.clearing "SCHEMA"]) =
        (.ok ["A", "B C"], s₁) ∧ ¬ Identifier.Accepted "B C" ∧
      probing.dropAllTables .null listingWorld (.start () 0 "") =
        (.error (.identifier "table" (.text "B C")), s') ∧
      s₁.Records released s' ∧ statements released =
        ["CALL SCHEMA.REMOVETABLE('SCHEMA', 'A')",
          "VALUES SCHEMA.ASNCDCSERVICES('reinit','SERVER')"] := by
  have hc : checkIdentifier "schema" (probing.schemaOr .null) =
      (.ok "SCHEMA" : Except (Fault Rat) String) := by
    with_unfolding_all rfl
  have hbefore : ∀ name ∈ ["A"], Identifier.Accepted name := by
    rw [List.forall_mem_singleton, ← Identifier.isIdentifier_iff]
    decide
  obtain ⟨r, s', is, hrun, ha, hs⟩ := exists_dropAllTables_eq ["A"] [] hc
    (Prod.ext listTables_listingWorld rfl) hbefore not_accepted_blank
  cases hs with
  | refused =>
    obtain ⟨released, hr, he⟩ := ha.exists_releases
    refine ⟨_, s', released, Prod.ext listTables_listingWorld rfl, not_accepted_blank, hrun, hr, ?_⟩
    rw [he.statements_eq]
    decide
  | broken hf => exact absurd hf (not_fail_listingWorld ha)

/-- A schema is stranded whose second table cannot be named in a statement. -/
theorem dropAllTables_strands_listingWorld :
    ∃ before bad after, ["A", "B C"] = before ++ bad :: after ∧ ¬ Identifier.Accepted bad ∧
      ∃ r s₁ s' is, probing.dropAllTables .null listingWorld (.start () 0 "") = (r, s') ∧
        probing.Account listingWorld s₁ is s' ∧
        Stranded (releasing "SCHEMA" before) (.identifier "table" (.text bad)) r is := by
  have hc : checkIdentifier "schema" (probing.schemaOr .null) =
      (.ok "SCHEMA" : Except (Fault Rat) String) := by
    with_unfolding_all rfl
  obtain ⟨before, bad, after, htables, -, hbad, r, s', is, hrun, ha, hs, -⟩ :=
    dropAllTables_strands hc (Prod.ext listTables_listingWorld rfl)
      ⟨"B C", by simp, not_accepted_blank⟩
  exact ⟨before, bad, after, htables, hbad, r, _, s', is, hrun, ha, hs⟩

end Station

end CaptureControl

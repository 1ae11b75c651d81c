import CaptureControl.Proofs.Cancelling
import CaptureControl.Proofs.Naming

/-!
# Names that are rejected

An operation on names checks them before it does anything else. All that comes before the check is
that the operation is counted. So if a name is rejected, the world has not been asked for anything, no
time has passed, and nothing but that count is different.

## Main definitions

* `Operation.names?`, `Operation.command?` — the names that an operation is about, and the command
  under which it is counted
* `Station.Rejects` — the fault of the first name that is not accepted
* `Session.OnlyCounts` — a command may have been counted, and nothing else happened

## Main results

* `Station.perform_of_rejects` — the outcome and the session, if a name is rejected
* `Station.rejected_names` — a name that is rejected has no effect
-/

namespace CaptureControl

/-! ### What operations are about -/

namespace Operation

/-- The schema that an operation is told, and the table if it is about one. -/
def names? : Operation → Option (Value × Option Value)
  | enable schema table | disable schema table | setState schema table _
  | changeTable schema table => some (schema, some table)
  | dropAll schema => some (schema, none)
  | start | stop | stopAndWait | status | refresh | waitForPropagation | waitForSnapshot => none

/-- The command under which an operation is counted. -/
def command? : Operation → Option String
  | start => some "start"
  | stop | stopAndWait => some "stop"
  | refresh => some "reinit"
  | enable _ _ => some "add_table"
  | disable _ _ => some "remove_table"
  | setState _ _ .active => some "activate"
  | setState _ _ .inactive => some "deactivate"
  | status | waitForPropagation | waitForSnapshot | changeTable _ _ | dropAll _ => none

end Operation

namespace Session

variable {σ τ : Type}

/-- A command may have been counted between two sessions, and nothing else happened. -/
structure OnlyCounts (command? : Option String) (s s' : Session σ τ) : Prop where
  /-- Everything but the counters is the same: the world and the record of what it was asked for, the
  clock, the cancel flag, the connection that is held, the log and the output. -/
  rest : { s' with tally := s.tally } = s
  /-- Every other command was counted as often as before. -/
  commands : ∀ command, s'.tally.commandCount command =
    s.tally.commandCount command + if command? = some command then 1 else 0
  /-- The counts of waits are the same. -/
  waits : s'.tally.waits = s.tally.waits
  /-- The durations of waits are the same. -/
  durations : s'.tally.durations = s.tally.durations

theorem onlyCounts_none (s : Session σ τ) : s.OnlyCounts none s :=
  ⟨rfl, fun _ => rfl, rfl, rfl⟩

theorem onlyCounts_some (command : String) (s : Session σ τ) :
    s.OnlyCounts (some command) { s with tally := s.tally.countCommand command } := by
  refine ⟨rfl, fun command' => ?_, rfl, rfl⟩
  simp only [Option.some.injEq]
  exact Counts.of_add command command' s.tally.commands

end Session

namespace Station

open Act
open Identifier (checkIdentifier_eq_ok_iff checkIdentifier_eq_error)

variable {σ τ : Type} {h : Station τ} {schema : Value} {table : Option Value} {e : Fault τ}
  {w : World σ τ} {s : Session σ τ}

/-! ### Checks that fail -/

/-- Of a schema, which is the standard one if none is given, and perhaps a table, the first that is
not accepted makes a fault. -/
inductive Rejects (h : Station τ) : Value → Option Value → Fault τ → Prop where
  | schema {schema : Value} {table : Option Value} :
      (∀ name, (checkIdentifier "schema" (h.schemaOr schema) : Except (Fault τ) String) ≠
        .ok name) → Rejects h schema table (.identifier "schema" (h.schemaOr schema))
  | table {schema table : Value} {owner : String} :
      (checkIdentifier "schema" (h.schemaOr schema) : Except (Fault τ) String) = .ok owner →
      (∀ name, (checkIdentifier "table" table : Except (Fault τ) String) ≠ .ok name) →
        Rejects h schema (some table) (.identifier "table" table)

/-- If not all names are accepted, one of them is the first that is not. -/
theorem exists_rejects
    (hbad : (∀ name, (checkIdentifier "schema" (h.schemaOr schema) : Except (Fault τ) String) ≠
        .ok name) ∨
      ∃ t ∈ table, ∀ name, (checkIdentifier "table" t : Except (Fault τ) String) ≠ .ok name) :
    ∃ e, h.Rejects schema table e := by
  by_cases hs : ∃ owner,
      (checkIdentifier "schema" (h.schemaOr schema) : Except (Fault τ) String) = .ok owner
  · obtain ⟨owner, howner⟩ := hs
    obtain hbad | ⟨t, rfl, ht⟩ := hbad
    · exact absurd howner (hbad owner)
    · exact ⟨_, .table howner ht⟩
  · exact ⟨_, .schema (not_exists.mp hs)⟩

theorem tableOf_of_rejects {table : Value} (hr : h.Rejects schema (some table) e) :
    Registration.tableOf (h.schemaOr schema) table w s = (.error e, s) := by
  have hcheck : (SourceTable.ofValues (h.schemaOr schema) table : Except (Fault τ) SourceTable) =
      .error e := by
    cases hr with
    | schema hs => exact SourceTable.ofValues_eq_error.1 hs
    | table hs ht => exact SourceTable.ofValues_eq_error.2 ⟨_, hs⟩ ht
  rw [Registration.tableOf, ofExcept_apply, hcheck]

theorem checkIdentifier_of_rejects (hr : h.Rejects schema none e) :
    (Act.ofExcept (checkIdentifier "schema" (h.schemaOr schema)) : Act σ τ String) w s =
      (.error e, s) := by
  cases hr with
  | schema hs => rw [ofExcept_apply, checkIdentifier_eq_error hs]

/-! ### Operations that are told such names -/

/-- What is counted first and then fails leaves only the count. -/
theorem counted_bind_of_error {α : Type} [Time τ] {command : String} {x : Unit → Act σ τ α}
    (hx : ∀ s, x () w s = (.error e, s)) :
    (countCommand command >>= x) w s =
      (.error e, { s with tally := s.tally.countCommand command }) :=
  hx _

/-- **An operation that is told a name that is rejected fails with that name**, and leaves a session
in which at most the operation itself was counted. -/
theorem perform_of_rejects [Time τ] {op : Operation} (hop : op.names? = some (schema, table))
    (hr : h.Rejects schema table e) (w : World σ τ) (s : Session σ τ) :
    ∃ s', h.perform op w s = (.error e, s') ∧ s.OnlyCounts op.command? s' := by
  cases op with
  | enable schema table =>
    cases hop
    have henable : h.enableTable schema table w s = (.error e, _) :=
      counted_bind_of_error fun _ => bind_of_error (tableOf_of_rejects hr) _
    exact ⟨_, bind_of_error henable _, s.onlyCounts_some _⟩
  | disable schema table =>
    cases hop
    have hdisable : h.disableTable schema table w s = (.error e, _) :=
      counted_bind_of_error fun _ => bind_of_error (tableOf_of_rejects hr) _
    exact ⟨_, bind_of_error hdisable _, s.onlyCounts_some _⟩
  | setState schema table state =>
    cases hop
    have hset : h.setTableState schema table state w s = (.error e, _) :=
      counted_bind_of_error fun _ => bind_of_error (bind_of_error (tableOf_of_rejects hr) _) _
    refine ⟨_, bind_of_error hset _, ?_⟩
    cases state with
    | active => exact s.onlyCounts_some _
    | inactive => exact s.onlyCounts_some _
  | changeTable schema table =>
    cases hop
    have hchange : h.changeTable schema table w s = (.error e, s) :=
      bind_of_error (tableOf_of_rejects hr) _
    exact ⟨_, bind_of_error hchange _, s.onlyCounts_none⟩
  | dropAll schema =>
    cases hop
    have hdrop : h.dropAllTables schema w s = (.error e, s) :=
      bind_of_error (checkIdentifier_of_rejects hr) _
    exact ⟨_, bind_of_error hdrop _, s.onlyCounts_none⟩
  | _ => cases hop

/-- **A name that is rejected has no effect.** Where no schema is given the standard one is meant, and
only there. If the schema or the table is not accepted, the operation fails with the schema if that is
not accepted, and else with the table. Nothing else happens but that the operation is counted, if it
is one that is. -/
theorem rejected_names [Time τ] {op : Operation} (hop : op.names? = some (schema, table))
    (hbad : (∀ name, (checkIdentifier "schema" (h.schemaOr schema) : Except (Fault τ) String) ≠
        .ok name) ∨
      ∃ t ∈ table, ∀ name, (checkIdentifier "table" t : Except (Fault τ) String) ≠ .ok name)
    (w : World σ τ) (s : Session σ τ) :
    (h.schemaOr .null = .text h.defaultSchema ∧ (schema ≠ .null → h.schemaOr schema = schema)) ∧
    ∃ e s', h.perform op w s = (.error e, s') ∧ h.Rejects schema table e ∧
      s.OnlyCounts op.command? s' := by
  obtain ⟨e, he⟩ := exists_rejects hbad
  obtain ⟨s', hrun, hcounts⟩ := perform_of_rejects hop he w s
  refine ⟨⟨rfl, fun hschema => ?_⟩, e, s', hrun, he, hcounts⟩
  cases schema with
  | null => exact absurd rfl hschema
  | _ => rfl

/-- The empty schema is not the standard one: dropping its tables fails before the world is asked for
anything. -/
theorem rejected_names_empty :
    (Operation.dropAll (.text "")).names? = some (.text "", none) ∧
      ∃ e s', probing.perform (.dropAll (.text "")) Rehearsal.world (.start .empty 0 "") =
        (.error e, s') ∧ probing.Rejects (.text "") none e ∧
          (Session.start .empty 0 "").OnlyCounts none s' := by
  have hempty : ∀ name,
      (checkIdentifier "schema" (probing.schemaOr (.text "")) : Except (Fault Rat) String) ≠
        .ok name := by
    intro name hname
    obtain ⟨heq, haccepted⟩ := checkIdentifier_eq_ok_iff.mp hname
    cases heq
    exact absurd haccepted.length_pos (by decide)
  have hnames : (Operation.dropAll (.text "")).names? = some (.text "", none) := rfl
  exact ⟨hnames, (rejected_names hnames (.inl hempty) _ _).2⟩

end Station

end CaptureControl

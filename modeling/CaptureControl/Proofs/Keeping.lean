import CaptureControl.Proofs.Cancelling
import CaptureControl.Proofs.Rendering

/-!
# What every operation keeps

All that a station sends to its database is proper statements: the names in them went through the
check of names, those that are listed by the database as well. So a preorder on sessions that proper
statements, waits and bookkeeping keep is kept by every operation, whatever the arguments are and
however the operation ends.

## Main definitions

* `Act.Answers Q` — whatever an action answers, `Q` holds of it
* `Station.Carries R` — `R` is kept by all that the operations of a station are made of, besides what
  is counted
* `Station.Permits R` — `R` is kept by all that the operations of a station are made of

## Main results

* `Station.answers_releaseTables` — tables that were released have accepted names
* `Monitor.moves_lookup`, `Monitor.moves_close` — what monitors keep
* `Station.Permits.perform` — all operations of a station keep what is permitted
* `Station.Permits.runs` — and so does whatever else is done with it
-/

namespace CaptureControl

namespace Act

variable {σ τ α β : Type}

/-- Whatever an action answers has a property. -/
def Answers (Q : α → Prop) (x : Act σ τ α) : Prop :=
  ∀ w s a s', x w s = (.ok a, s') → Q a

namespace Answers

variable {Q : α → Prop} {x : Act σ τ α}

theorem pure {a : α} (ha : Q a) : Answers Q (Pure.pure a : Act σ τ α) := by
  rintro w s _ _ ⟨⟩
  exact ha

theorem bind {f : β → Act σ τ α} {y : Act σ τ β} {Q' : β → Prop} (hy : Answers Q' y)
    (hf : ∀ b, Q' b → Answers Q (f b)) : Answers Q (y >>= f) := by
  intro w s a s' h
  obtain ⟨b, s₁, hb, ha⟩ := bind_eq_ok_iff.mp h
  exact hf b (hy w s b s₁ hb) w s₁ a s' ha

theorem ofExcept {r : Except (Fault τ) α} (hr : ∀ a, r = .ok a → Q a) :
    Answers Q (Act.ofExcept r : Act σ τ α) :=
  fun _ _ a _ h => hr a (congrArg Prod.fst h)

theorem throw (e : Fault τ) : Answers Q (MonadExcept.throw e : Act σ τ α) :=
  ofExcept (r := .error e) nofun

theorem handle {f : Fault τ → Act σ τ α} (hx : Answers Q x) (hf : ∀ e, Answers Q (f e)) :
    Answers Q (tryCatch x f) := by
  intro w s a s' h
  rw [tryCatch_apply] at h
  rcases hr : x w s with ⟨e | b, s₁⟩ <;> rw [hr] at h
  · exact hf e w s₁ a s' h
  · cases h
    exact hx w s a s' hr

theorem true (x : Act σ τ α) : Answers (fun _ => True) x :=
  fun _ _ _ _ _ => trivial

theorem mapM {f : β → Act σ τ α} (hf : ∀ b, Answers Q (f b)) (l : List β) :
    Answers (fun as => ∀ a ∈ as, Q a) (l.mapM f) := by
  induction l with
  | nil =>
    rw [List.mapM_nil]
    exact pure nofun
  | cons b bs ih =>
    rw [List.mapM_cons]
    exact (hf b).bind fun a ha => ih.bind fun as has => pure (List.forall_mem_cons.mpr ⟨ha, has⟩)

end Answers

namespace Moves

variable {R : Session σ τ → Session σ τ → Prop} [IsPreorder (Session σ τ) R] {x : Act σ τ α}

/-- What comes after an action only has to keep a relation for what the action may answer. -/
theorem bind_of_answers {Q : α → Prop} {f : α → Act σ τ β} (hx : Moves R x) (hq : Answers Q x)
    (hf : ∀ a, Q a → Moves R (f a)) : Moves R (x >>= f) := by
  intro w s
  have h := hx w s
  rcases hr : x w s with ⟨e | a, s₁⟩
  · rw [bind_of_error hr]
    rwa [hr] at h
  · rw [bind_of_ok hr]
    rw [hr] at h
    exact trans_of R h (hf a (hq w s a s₁ hr) w s₁)

omit [IsPreorder (Session σ τ) R] in
theorem attempt (hx : Moves R x) : Moves R x.attempt :=
  hx

theorem now : Moves R (now : Act σ τ τ) :=
  .bind .session fun _ => .pure _

end Moves

end Act

namespace Monitor

open Act

variable {σ τ : Type} {R : Session σ τ → Session σ τ → Prop} [IsPreorder (Session σ τ) R]

/-- A look-up keeps what its requests and its log entry keep. -/
theorem moves_lookup (m : Monitor) (object name : String)
    (hlookup : Moves R (ask (.lookup object name) : Act σ τ Bool))
    (hcollect : Moves R (ask .collect : Act σ τ (List Family)))
    (hpage : ∀ address, Moves R (ask (.page address) : Act σ τ Page))
    (hnote : ∀ address, Moves R (note (.reading address object name) : Act σ τ Unit)) :
    Moves R (m.lookup object name : Act σ τ Bool) := by
  cases m with
  | probe closable => exact hlookup
  | registry => exact .bind (.ofExcept _) fun _ => .bind hcollect fun _ => .ofExcept _
  | page address =>
    refine .bind (hnote address) fun _ => .bind .session fun s => ?_
    split
    · exact .throw _
    · exact .bind (.handle (hpage address) fun _ => .throw _) fun _ => .ofExcept _

theorem moves_close (m : Monitor) (hask : Moves R (ask .closeMetrics : Act σ τ Unit))
    (hclosed : Moves R (modify fun s => { s with metricsClosed := true } : Act σ τ Unit)) :
    Moves R (m.close : Act σ τ Unit) := by
  cases m with
  | probe closable =>
    cases closable with
    | true => exact hask
    | false => exact .pure _
  | registry => exact .pure _
  | page address => exact hclosed

end Monitor

/-- A log entry that tells neither of a statement, nor of a delay that begins, nor of a table that is
released. -/
def LogEntry.Plain {τ : Type} : LogEntry τ → Prop
  | executing _ _ | querying _ _ | delaying _ | releasing _ _ => False
  | _ => True

theorem LogEntry.Plain.call?_eq_none {τ : Type} {e : LogEntry τ} (he : e.Plain) :
    e.call? = none := by
  cases e with
  | executing | querying => cases he
  | _ => rfl

namespace Station

open Act

variable {σ τ : Type} {h : Station τ} {R : Session σ τ → Session σ τ → Prop}

/-- A relation between sessions is kept by all that the operations of a station are made of, besides
what is counted: by log entries, by the parts of waits, and by proper statements. -/
structure Carries (h : Station τ) [Time τ] (R : Session σ τ → Session σ τ → Prop) : Prop where
  /-- Plain log entries keep it. -/
  note : ∀ e : LogEntry τ, e.Plain → Moves R (Act.note e)
  /-- The beginning of an evaluation keeps it. -/
  evaluating : Moves R (Act.modify fun s => s.record (.evaluating s.clock))
  /-- A look at the cancel flag keeps it. -/
  cancelled : Moves R Act.cancelled
  /-- Pauses keep it. -/
  pause : ∀ seconds, Moves R (Act.pause seconds)
  /-- Look-ups of attributes keep it. -/
  lookup : ∀ object name, Moves R (h.monitor.lookup object name)
  /-- Proper statements that are run for their effect keep it. -/
  send : ∀ (statement : Statement) {params : Option (List Value)}, statement.Proper params →
    Moves R (h.service.send statement params)
  /-- Proper statements that are run for their rows keep it. -/
  query : ∀ {α : Type} (statement : Statement) {params : Option (List Value)}
    (read : List Rows.Row → Except (Fault τ) α), statement.Proper params →
      Moves R (h.service.gateway.query (h.service.program.text statement) params read)

/-- A relation between sessions is kept by all that the operations of a station are made of: by the
changes of the counters, and by all besides. -/
structure Permits (h : Station τ) [Time τ] (R : Session σ τ → Session σ τ → Prop) : Prop
    extends h.Carries R where
  /-- Changes of the counters keep it. -/
  count : ∀ f, Moves R (Act.count f)
  /-- The log entry of a delay that begins keeps it. -/
  delaying : ∀ seconds, Moves R (Act.note (.delaying seconds))
  /-- The log entry of a table that is released keeps it. -/
  releasing : ∀ schema table, Moves R (Act.note (.releasing schema table))

/-! ### Names that were checked -/

theorem answers_tableOf (schema table : Value) :
    Answers SourceTable.Accepted (Registration.tableOf schema table : Act σ τ SourceTable) := by
  intro w s t s' ht
  exact (SourceTable.ofValues_eq_ok_iff.mp (congrArg Prod.fst ht)).2.2

theorem answers_checkIdentifier (role : String) (value : Value) :
    Answers Identifier.Accepted
      (Act.ofExcept (checkIdentifier role value) : Act σ τ String) := by
  intro w s name s' hname
  exact (Identifier.checkIdentifier_eq_ok_iff.mp (congrArg Prod.fst hname)).2

theorem answers_disableTable (h : Station τ) (schema table : Value) :
    Answers SourceTable.Accepted (h.disableTable schema table : Act σ τ SourceTable) :=
  (Answers.true _).bind fun _ _ => (answers_tableOf _ _).bind fun _ ht =>
    (Answers.true _).bind fun _ _ => (Answers.true _).bind fun _ _ =>
      (Answers.true _).bind fun _ _ => .pure ht

/-- **Tables that were released have accepted names**, whatever names were to be released. -/
theorem answers_releaseTables (h : Station τ) (owner : String) (tables : List String) :
    Answers (fun released => ∀ t ∈ released, t.Accepted)
      (h.releaseTables owner tables : Act σ τ (List SourceTable)) :=
  .mapM (fun _ => (Answers.true _).bind fun _ _ => h.answers_disableTable _ _) tables

/-! ### What is not counted -/

namespace Carries

variable [Time τ] [IsPreorder (Session σ τ) R] (hR : h.Carries R)

include hR

section Polls

variable {p : Poll τ} {label : String} {started : τ} {condition : Act σ τ Bool}

theorem interruption (a : Allowance τ) :
    Moves R (Poll.interruption label started a : Act σ τ (Poll.Verdict τ)) :=
  .bind (hR.note _ trivial) fun _ => .bind .now fun _ => .pure _

theorem evaluate (hc : Moves R condition) (a : Allowance τ) :
    Moves R (p.evaluate label a condition) := by
  refine .bind hR.evaluating fun _ => .bind hc.attempt fun answer => ?_
  split
  · exact .pure _
  · split
    · exact .bind (hR.note _ trivial) fun _ => .pure _
    · split
      · exact .bind .now fun _ => .pure _
      · exact .pure _

/-- A poll keeps what its condition keeps, since every round does. -/
theorem rounds (hc : Moves R condition) (n : Nat) :
    ∀ a, Moves R (p.rounds label started condition n a) := by
  induction n with
  | zero => exact fun a => .pure _
  | succ n ih =>
    intro a
    refine .bind hR.cancelled fun c => ?_
    split
    · exact .bind (hR.interruption a) fun _ => .pure _
    · refine .bind (hR.evaluate hc _) fun answer => ?_
      split
      · exact .pure _
      · refine .bind .now fun t => ?_
        split
        · exact .bind (hR.note _ trivial) fun _ => .pure _
        · split
          · exact .bind (hR.note _ trivial) fun _ => .pure _
          · refine .bind (hR.pause _).attempt fun paused => ?_
            split
            · exact .pure _
            · exact ih _
            · exact .bind (hR.interruption _) fun _ => .pure _

theorem poll (hc : Moves R condition) (description : Option String) :
    Moves R (p.wait condition description) :=
  .bind (.bind .now fun _ => hR.rounds hc _ _) fun _ => .ofExcept _

end Polls

/-! ### The capture program -/

theorem stop : Moves R (h.service.stop : Act σ τ Unit) :=
  .bind (hR.note _ trivial) fun _ => hR.send .stop ⟨nofun, rfl⟩

theorem refresh : Moves R (h.service.refresh : Act σ τ Unit) :=
  .bind (hR.note _ trivial) fun _ => hR.send .reinit ⟨nofun, rfl⟩

theorem status : Moves R (h.service.status : Act σ τ Status) :=
  .bind (hR.query .status _ ⟨nofun, rfl⟩) fun _ =>
    .bind (hR.note _ trivial) fun _ => .pure _

theorem waitFor (description : String) (goal : Status) :
    Moves R (h.service.waitFor description goal : Act σ τ _) :=
  .bind (.ofExcept _) fun _ => hR.poll (.bind hR.status fun _ => .pure _) _

theorem start : Moves R (h.service.start : Act σ τ _) := by
  have hsend : Moves R (h.service.send .start none : Act σ τ Unit) := hR.send .start ⟨nofun, rfl⟩
  refine .bind (hR.note _ trivial) fun _ => .bind (.handle hsend fun e => .throw _) fun _ =>
    .bind (.handle (hR.waitFor _ _) fun e => ?_) fun result => ?_
  · split
    · split
      · exact .throw _
      · exact .throw _
    · exact .throw _
  · split
    · exact .bind (hR.note _ trivial) fun _ => .pure _
    · exact .pure _

/-! ### Tables -/

omit [IsPreorder (Session σ τ) R] in
theorem setFlag {t : SourceTable} (ht : t.Accepted) (state : Activation) :
    Moves R (h.registration.setFlag t state : Act σ τ Unit) :=
  hR.send .setState ⟨nofun, t, ht, state, rfl⟩

theorem enable (schema table : Value) :
    Moves R (h.registration.enable schema table : Act σ τ SourceTable) :=
  .bind_of_answers (.ofExcept _) (answers_tableOf _ _) fun t ht =>
    .bind (hR.note _ trivial) fun _ => .bind (hR.send (.addTable t) (.of_table? rfl ht)) fun _ =>
      .bind (hR.setFlag ht _) fun _ => .bind hR.refresh fun _ => .pure t

theorem disable (schema table : Value) :
    Moves R (h.registration.disable schema table : Act σ τ SourceTable) :=
  .bind_of_answers (.ofExcept _) (answers_tableOf _ _) fun t ht =>
    .bind (hR.note _ trivial) fun _ => .bind (hR.send (.removeTable t) (.of_table? rfl ht)) fun _ =>
      .bind hR.refresh fun _ => .pure t

/-- Asking for the registration of a table binds the names of a table that was accepted. -/
theorem registrationLookup {α : Type} (statement : Statement)
    (hs : ∀ t : SourceTable, t.Accepted → statement.Proper (some (Registration.keyOf t)))
    (schema table : Value) (read : List Rows.Row → Except (Fault τ) α) :
    Moves R (h.registration.lookup statement schema table read : Act σ τ α) :=
  .bind_of_answers (.ofExcept _) (answers_tableOf _ _) fun t ht =>
    hR.query statement read (hs t ht)

theorem changeTable (schema table : Value) :
    Moves R (h.changeTable schema table : Act σ τ (Option String)) :=
  hR.registrationLookup .changeTable (fun t ht => ⟨nofun, t, ht, rfl⟩) _ _ _

omit [IsPreorder (Session σ τ) R] in
theorem listTables {owner : String} (howner : Identifier.Accepted owner) :
    Moves R (h.listTables owner : Act σ τ (List String)) :=
  hR.query .listTables Rows.names ⟨nofun, owner, howner, rfl⟩

/-- Dropping tables keeps what is carried, if their names are accepted. -/
theorem dropTables {tables : List SourceTable} (ht : ∀ t ∈ tables, t.Accepted) :
    Moves R (h.dropTables tables : Act σ τ Unit) := by
  induction tables with
  | nil => exact .pure _
  | cons t tables ih =>
    obtain ⟨ht, hts⟩ := List.forall_mem_cons.mp ht
    have hsend : Moves R (h.service.send (.dropTable t) none : Act σ τ Unit) :=
      hR.send (.dropTable t) (.of_table? rfl ht)
    exact .bind (.bind (hR.note _ trivial) fun _ => hsend) fun _ => ih hts

end Carries

/-! ### What is counted -/

namespace Permits

variable [Time τ] (hR : h.Permits R)

include hR

variable [IsPreorder (Session σ τ) R]

theorem delay (d : Delay τ) : Moves R (d.wait : Act σ τ Outcome) := by
  refine .bind (hR.delaying _) fun _ => .bind (hR.pause _) fun completed => ?_
  split
  · exact .pure _
  · exact .bind (hR.note _ trivial) fun _ => .pure _

theorem observe {kind : WaitKind} {x : Act σ τ (WaitResult τ)} (hx : Moves R x) :
    Moves R (Station.observe kind x) := by
  refine .bind (.handle hx fun e => ?_) fun result => .bind (hR.count _) fun _ => .pure _
  split
  · exact .bind (hR.count _) fun _ => .throw e
  · split
    · exact .bind (hR.count _) fun _ => .throw e
    · exact .throw e

theorem stopCapture : Moves R (h.stopCapture : Act σ τ Unit) :=
  .bind (hR.count _) fun _ => hR.stop

theorem waitForPropagation : Moves R (h.waitForPropagation : Act σ τ Outcome) :=
  .bind (hR.delay _) fun _ => .bind (hR.count _) fun _ => .pure _

theorem refreshAndWait : Moves R (h.refreshAndWait : Act σ τ Outcome) :=
  .bind (hR.count _) fun _ => .bind hR.refresh fun _ => hR.waitForPropagation

theorem enableTable (schema table : Value) :
    Moves R (h.enableTable schema table : Act σ τ SourceTable) :=
  .bind (hR.count _) fun _ => hR.enable _ _

theorem disableTable (schema table : Value) :
    Moves R (h.disableTable schema table : Act σ τ SourceTable) :=
  .bind (hR.count _) fun _ => hR.disable _ _

theorem setTableState (schema table : Value) (state : Activation) :
    Moves R (h.setTableState schema table state : Act σ τ Outcome) := by
  have hset : Moves R
      (h.registration.setState (h.schemaOr schema) table state : Act σ τ Outcome) :=
    .bind_of_answers (.ofExcept _) (answers_tableOf _ _) fun t ht =>
      .bind (hR.note _ trivial) fun _ => .bind (hR.setFlag ht _) fun _ =>
        .bind hR.refresh fun _ => hR.delay _
  exact .bind (hR.count _) fun _ => .bind hset fun _ => .bind (hR.count _) fun _ => .pure _

theorem registrationState (schema table : Value) :
    Moves R (h.registration.state schema table : Act σ τ (Option Activation)) :=
  .bind (hR.registrationLookup .registrationState (fun t ht => ⟨nofun, t, ht, rfl⟩) _ _ _)
    fun _ => .pure _

theorem releaseTables (owner : String) (tables : List String) :
    Moves R (h.releaseTables owner tables : Act σ τ (List SourceTable)) :=
  .mapM (fun _ => .bind (hR.releasing _ _) fun _ => hR.disableTable _ _) tables

theorem dropReleased (owner : String) (tables : List String) {released : List SourceTable}
    (hr : ∀ t ∈ released, t.Accepted) :
    Moves R (h.dropReleased owner tables released : Act σ τ (List String)) := by
  refine .bind hR.waitForPropagation fun outcome => ?_
  split
  · exact .bind (hR.dropTables hr) fun _ => .pure _
  · exact .bind (hR.note _ trivial) fun _ => .pure _

theorem dropAllTables (schema : Value) :
    Moves R (h.dropAllTables schema : Act σ τ (List String)) := by
  refine .bind_of_answers (.ofExcept _) (answers_checkIdentifier _ _) fun owner howner =>
    .bind (hR.note _ trivial) fun _ => .bind (hR.listTables howner) fun tables => ?_
  split
  · exact .pure _
  · exact .bind_of_answers (hR.releaseTables owner tables) (h.answers_releaseTables owner tables)
      fun released hr => hR.dropReleased owner tables hr

/-- **All operations of a station keep what is permitted**, whatever their arguments are. -/
theorem perform (op : Operation) : Moves R (h.perform op : Act σ τ _) := by
  cases op with
  | start => exact .bind (.bind (hR.count _) fun _ => hR.observe hR.start) fun _ => .pure _
  | stop => exact .bind hR.stopCapture fun _ => .pure _
  | stopAndWait =>
    exact .bind (.bind hR.stopCapture fun _ => hR.observe (hR.waitFor _ _)) fun _ => .pure _
  | status => exact .bind hR.status fun _ => .pure _
  | refresh => exact .bind hR.refreshAndWait fun _ => .pure _
  | waitForPropagation => exact .bind hR.waitForPropagation fun _ => .pure _
  | waitForSnapshot => exact .bind (hR.observe (hR.poll (hR.lookup _ _) _)) fun _ => .pure _
  | enable schema table => exact .bind (hR.enableTable _ _) fun _ => .pure _
  | disable schema table => exact .bind (hR.disableTable _ _) fun _ => .pure _
  | setState schema table state => exact .bind (hR.setTableState _ _ _) fun _ => .pure _
  | changeTable schema table => exact .bind (hR.changeTable _ _) fun _ => .pure _
  | dropAll schema => exact .bind (hR.dropAllTables _) fun _ => .pure _

section Courses

variable (hclose : Moves R (h.close : Act σ τ Unit)) (hcancel : Moves R (Act.cancel : Act σ τ Unit))
  (hreset : Moves R (Act.reset : Act σ τ Unit))

include hclose hcancel hreset

/-- One step: whatever is done with a station keeps what is permitted. -/
theorem use (u : Use) : Moves R (h.use u : Act σ τ _) := by
  cases u with
  | operation op => exact .bind (hR.perform op) fun _ => .pure _
  | cancel => exact .bind hcancel fun _ => .pure _
  | reset => exact .bind hreset fun _ => .pure _
  | close => exact .bind hclose fun _ => .pure _

/-- All steps, whether they fail or not. -/
theorem runs (uses : List Use) : Moves R (h.runs uses : Act σ τ _) :=
  .mapM (fun u => (hR.use hclose hcancel hreset u).attempt) uses

end Courses

end Permits

end Station

end CaptureControl

import CaptureControl.CommandLine.Run
import CaptureControl.Proofs.Orders
import Mathlib.Data.List.Basic

/-!
# What a command achieves

What a command is for, in terms of what happened while it was run: every call of the database has to
succeed, and what the command waits for has to come about. Here the outcomes of orders, delays and
polls are judged by that.

## Main definitions

* `Incident.Gentle` — an incident that fails, if it does, in a way that is reported
* `CommandLine.Command.orders` — the statements that a command is to run for their effect
* `CommandLine.Achieves` — what a command is for came about
* `CommandLine.Judged` — the outcome of a command is right about what it achieved

## Main results

* `CommandLine.judged_of_delayed`, `CommandLine.judged_of_awaited`, `CommandLine.judged_of_polled`,
  `CommandLine.judged_changeTable` — outcomes that are right
-/

namespace CaptureControl

/-! ### Incidents -/

namespace Incident

variable {τ : Type}

/-- A call of the database. -/
def IsCall : Incident τ → Prop
  | sent _ _ | statusRead _ | changeTableRead _ => True
  | _ => False

/-- If it is a call of the database, it did not fail. -/
def Succeeded : Incident τ → Prop
  | sent _ (.error _) | statusRead (.error _) | changeTableRead (.error _) => False
  | _ => True

/-- Calls of the database fail only as statements, look-ups only with exceptions, and closing does
not fail. -/
def Gentle : Incident τ → Prop
  | sent _ reply => ∀ e, reply = .error e → e.isA .command = true
  | statusRead reply => ∀ e, reply = .error e → e.isA .command = true
  | changeTableRead reply => ∀ e, reply = .error e → e.isA .command = true
  | lookedUp reply => ∀ e, reply = .error e → e.isA .exception = true
  | paused _ _ => True
  | closed reply => reply = .ok ()

/-- The order of a statement that was run for its effect. -/
def order? : Incident τ → Option Order
  | sent order _ => some order
  | _ => none

/-- The status text that was read. -/
def text? : Incident τ → Option (Option String)
  | statusRead (.ok text) => some text
  | _ => none

end Incident

/-! ### What a command is for -/

namespace CommandLine

open Orders

variable {σ τ : Type}

/-- The last status text that was read tells of a state. -/
def LastShows (h : Station τ) (goal : Status) (is : List (Incident τ)) : Prop :=
  ∃ text, (is.filterMap Incident.text?).getLast? = some text ∧ h.service.stateOf text = goal

/-- A pause in which a change propagates was completed after the last call. -/
def Propagated (h : Station τ) (is : List (Incident τ)) : Prop :=
  ∃ before after, is = before ++ .paused h.propagation.seconds (.ok true) :: after ∧
    ∀ i ∈ after, ¬ i.IsCall

/-- What has to come about for a command about a table, besides the success of its statements. -/
def TableCommand.Aim (h : Station τ) : TableCommand → List (Incident τ) → Prop
  | .enable, is | .disable, is | .activate, is | .deactivate, is => Propagated h is
  | .changeTable, is => ∃ name, .changeTableRead (.ok (some name)) ∈ is

/-- What has to come about for a command, besides the success of its statements. -/
def Command.Aim (h : Station τ) : Command → List (Incident τ) → Prop
  | .start, is => LastShows h .running is
  | .stop true, is => LastShows h .stopped is
  | .stop false, _ | .status, _ => True
  | .refresh, is => Propagated h is
  | .waitSnapshot, is => (is.filterMap Incident.lookup?).getLast? = some (.ok true)
  | .table command _ _, is => command.Aim h is

/-- A command achieved what it is for: all its statements succeeded, and what it waits for came
about. -/
def Achieves (h : Station τ) (command : Command) (is : List (Incident τ)) : Prop :=
  (∀ i ∈ is, i.Succeeded) ∧ command.Aim h is

/-- The statements that a command about a table runs for their effect. -/
def TableCommand.orders : TableCommand → SourceTable → List Order
  | .enable => Station.enabling
  | .disable => Station.disabling
  | .activate => Station.marking .active
  | .deactivate => Station.marking .inactive
  | .changeTable => fun _ => []

/-- The statements that a command is to run for their effect. A command about a table that is not
named by identifiers is refused. -/
def Command.orders (h : Station τ) : Command → Except (Fault τ) (List Order)
  | .start => .ok [⟨.start, none⟩]
  | .stop _ => .ok [⟨.stop, none⟩]
  | .refresh => .ok [⟨.reinit, none⟩]
  | .status | .waitSnapshot => .ok []
  | .table command name schema => h.ordersFor (schema.elim .null .text) (.text name) command.orders

/-- How long the pauses of a command about a table are, if it pauses. -/
def TableCommand.pause? (h : Station τ) : TableCommand → Option τ
  | .enable | .disable | .activate | .deactivate => some h.propagation.seconds
  | .changeTable => none

/-- How long the pauses of a command are, if it pauses. -/
def Command.pause? (h : Station τ) : Command → Option τ
  | .start | .stop true => some h.service.interval
  | .stop false | .status => none
  | .refresh => some h.propagation.seconds
  | .waitSnapshot => some h.snapshot.interval
  | .table command _ _ => command.pause? h

/-- A command with pauses of some length, if it pauses, fails. -/
inductive Fails (pause? : Option τ) : Except (Fault τ) Nat → List (Incident τ) → Prop where
  /-- It ends with status one. -/
  | status {is : List (Incident τ)} : Fails pause? (.ok 1) is
  /-- It ends with a fault that is reported. -/
  | reported {e : Fault τ} {is : List (Incident τ)} :
      e.isA .capture = true → Fails pause? (.error e) is
  /-- A pause is too long to be timed. -/
  | overlong {seconds : τ} {is : List (Incident τ)} : pause? = some seconds →
      .paused seconds (.error .overlongPause) ∈ is → Fails pause? (.error .overlongPause) is

/-- The outcome of a command is right about what it achieved. With nothing but failures that are
reported, it is a success exactly if the command achieved its aim, and then all its statements were
run; otherwise the command fails. -/
def Judged (h : Station τ) (command : Command) (r : Except (Fault τ) Nat)
    (is : List (Incident τ)) : Prop :=
  (∀ i ∈ is, i.Gentle) →
    (r = .ok 0 ∧ Achieves h command is ∧ command.orders h = .ok (is.filterMap Incident.order?)) ∨
      (Fails (command.pause? h) r is ∧ ¬ Achieves h command is)

variable {h : Station τ} {w : World σ τ} {command : Command} {is : List (Incident τ)}

/-- More incidents do not change that a command fails. -/
theorem Fails.mono {pause? : Option τ} {r : Except (Fault τ) Nat} {is' : List (Incident τ)}
    (hf : Fails pause? r is) (hsub : is ⊆ is') : Fails pause? r is' := by
  cases hf with
  | status => exact .status
  | reported he => exact .reported he
  | overlong hp hmem => exact .overlong hp (hsub hmem)

/-! ### Orders that are judged -/

theorem succeeded_done {l : List Order} {i : Incident τ} (hi : i ∈ l.map Order.done) :
    i.Succeeded := by
  obtain ⟨order, -, rfl⟩ := List.mem_map.mp hi
  trivial

theorem filterMap_order?_done (l : List Order) :
    (l.map (Order.done (τ := τ))).filterMap Incident.order? = l := by
  rw [List.filterMap_map]
  exact List.filterMap_some

theorem isA_capture_of_checkIdentifier {role : String} {value : Value} {e : Fault τ}
    (he : checkIdentifier role value = .error e) : e.isA .capture = true := by
  unfold checkIdentifier at he
  split at he
  · split at he
    · cases he
    · cases he
      rfl
  · cases he
    rfl

/-- A name that is refused is reported. -/
theorem isA_capture_of_orders {e : Fault τ} (he : command.orders h = .error e) :
    e.isA .capture = true := by
  cases command with
  | table c name schema =>
    rw [Command.orders, Station.ordersFor, SourceTable.ofValues] at he
    cases hs : checkIdentifier "schema" (h.schemaOr (schema.elim .null .text)) with
    | error e₁ =>
      rw [hs] at he
      cases he
      exact isA_capture_of_checkIdentifier hs
    | ok owner =>
      cases ht : checkIdentifier (τ := τ) "table" (.text name) with
      | error e₁ =>
        rw [hs, ht] at he
        cases he
        exact isA_capture_of_checkIdentifier ht
      | ok table =>
        rw [hs, ht] at he
        cases he
  | _ => cases he

/-- Orders fail because they are refused, or as a statement. -/
theorem isA_command_of_fail {orders : Except (Fault τ) (List Order)} {e : Fault τ}
    (hf : Fail orders e is) (hg : ∀ i ∈ is, i.Gentle) :
    orders = .error e ∨ e.isA .command = true := by
  rcases hf.refused_or_broken with ⟨he, -⟩ | ⟨order, horder⟩
  · exact Or.inl he
  · exact Or.inr (hg _ horder e rfl)

/-- Orders that fail are reported. -/
theorem isA_capture_of_fail {e : Fault τ} (hf : Fail (command.orders h) e is)
    (hg : ∀ i ∈ is, i.Gentle) : e.isA .capture = true :=
  (isA_command_of_fail hf hg).elim isA_capture_of_orders Fault.isA_capture_of_command

/-- Orders of which one fails do not all succeed, so if nothing comes about without orders, the
command is not achieved. -/
theorem not_achieves_of_fail {e : Fault τ} (hf : Fail (command.orders h) e is)
    (haim : ¬ command.Aim h []) : ¬ Achieves h command is := by
  rintro ⟨hs, ha⟩
  rcases hf.refused_or_broken with ⟨-, rfl⟩ | ⟨order, horder⟩
  · exact haim ha
  · exact hs _ horder

/-- A change propagates in a pause only if the pause is completed. -/
theorem eq_ok_of_propagated {l : List Order} {reply : Except (Fault τ) Bool}
    (hp : Propagated h (l.map Order.done ++ [.paused h.propagation.seconds reply])) :
    reply = .ok true := by
  obtain ⟨before, after, his, -⟩ := hp
  have hpaused : .paused h.propagation.seconds (.ok true) ∈
      l.map Order.done ++ [Incident.paused h.propagation.seconds reply] := by
    rw [his]
    exact List.mem_append_right _ (List.mem_cons_self ..)
  rcases List.mem_append.mp hpaused with hmem | hmem
  · obtain ⟨order, -, horder⟩ := List.mem_map.mp hmem
    cases horder
  · exact (Incident.paused.inj (List.mem_singleton.mp hmem)).2.symm

/-- Orders with a delay after them are judged by how the delay ended. -/
theorem judged_of_delayed {r : Except (Fault τ) Outcome}
    (hd : Delayed h.propagation.seconds (command.orders h) r is)
    (hpause : command.pause? h = some h.propagation.seconds)
    (haim : ∀ is, command.Aim h is ↔ Propagated h is) :
    Judged h command (r.map fun o => exitOf (o = .elapsed)) is := by
  intro hg
  cases hd with
  | @waited l r is hl hw =>
    cases hw with
    | ended completed =>
      cases completed with
      | true =>
        refine Or.inl ⟨rfl, ⟨fun i hi => ?_, (haim _).mpr ⟨_, [], rfl, nofun⟩⟩, ?_⟩
        · rcases List.mem_append.mp hi with hi | hi
          · exact succeeded_done hi
          · rw [List.mem_singleton.mp hi]
            trivial
        · rw [List.filterMap_append, filterMap_order?_done, hl]
          exact congrArg Except.ok (List.append_nil l).symm
      | false =>
        refine Or.inr ⟨.status, fun hach => ?_⟩
        cases eq_ok_of_propagated ((haim _).mp hach.2)
    | overlong =>
      refine Or.inr ⟨.overlong hpause ?_, fun hach => ?_⟩
      · exact List.mem_append_right _ (List.mem_singleton_self _)
      · cases eq_ok_of_propagated ((haim _).mp hach.2)
  | failed hf =>
    refine Or.inr ⟨.reported (isA_capture_of_fail hf hg), ?_⟩
    refine not_achieves_of_fail hf fun ha => ?_
    obtain ⟨before, after, his, -⟩ := (haim _).mp ha
    cases before <;> cases his

/-! ### Polls that are judged -/

theorem succeeded_of_shows {svc : Service τ} {goal : Status} {i : Incident τ} {b : Bool}
    (hi : svc.shows goal i = some (.ok b)) : i.Succeeded := by
  cases i with
  | statusRead reply =>
    cases reply with
    | ok text => trivial
    | error e => cases hi
  | _ => trivial

theorem order?_of_shows {svc : Service τ} {goal : Status} {i : Incident τ}
    {r : Except (Fault τ) Bool} (hi : svc.shows goal i = some r) : i.order? = none := by
  cases i with
  | sent => cases hi
  | _ => rfl

theorem isA_exception_of_shows {svc : Service τ} {goal : Status} {i : Incident τ} {e : Fault τ}
    (hg : i.Gentle) (hi : svc.shows goal i = some (.error e)) : e.isA .exception = true := by
  cases i with
  | statusRead reply =>
    cases reply with
    | ok text => cases hi
    | error e₁ =>
      cases hi
      exact Fault.isA_exception_of_command (hg e rfl)
  | _ => cases hi

theorem eq_lookedUp {i : Incident τ} {r : Except (Fault τ) Bool} (hi : i.lookup? = some r) :
    i = .lookedUp r := by
  cases i with
  | lookedUp reply =>
    cases hi
    rfl
  | _ => cases hi

/-- Of status texts that were all read, the last tells of a state exactly if the last look shows
it. -/
theorem lastShows_iff {goal : Status} (hs : ∀ i ∈ is, i.Succeeded) :
    LastShows h goal is ↔
      (is.filterMap (h.service.shows goal)).getLast? = some (.ok true) := by
  have hmap : is.filterMap (h.service.shows goal) =
      (is.filterMap Incident.text?).map fun text =>
        .ok (decide (h.service.stateOf text = goal)) := by
    rw [List.map_filterMap]
    refine List.filterMap_congr fun i hi => ?_
    have hi := hs i hi
    cases i with
    | statusRead reply =>
      cases reply with
      | ok text => rfl
      | error e => cases hi
    | _ => rfl
  rw [hmap, List.getLast?_map, Option.map_eq_some_iff]
  exact exists_congr fun text => by simp

/-- A poll ends with status zero exactly if its last look finds what is waited for; otherwise it
fails. -/
theorem status_of_polled {seconds : τ} {answer : Incident τ → Option (Except (Fault τ) Bool)}
    {transient : List Fault.Kind} {v r : Except (Fault τ) (WaitResult τ)}
    (hv : Polled seconds answer transient v is) (hr : Reported v r)
    (hpause : ∀ reply, answer (.paused seconds reply) = none)
    (hexception : ∀ i ∈ is, ∀ e, answer i = some (.error e) → e.isA .exception = true) :
    ((is.filterMap answer).getLast? = some (.ok true) ∧ (∃ result, v = .ok result) ∧
        r.map (fun result => exitOf result.converged) = .ok 0) ∨
      ((is.filterMap answer).getLast? ≠ some (.ok true) ∧
        Fails (some seconds) (r.map fun result => exitOf result.converged) is) := by
  have hiff := hv.converged_iff hpause
  have hfails {e : Fault τ} (he : v = .error e) :
      (is.filterMap answer).getLast? ≠ some (.ok true) := by
    intro hl
    obtain ⟨_, hok, -⟩ := hiff.mpr hl
    cases he.symm.trans hok
  cases hr with
  | renamed _ he' => exact Or.inr ⟨hfails rfl, .reported he'⟩
  | same =>
    rcases v with e | result
    · refine Or.inr ⟨hfails rfl, ?_⟩
      rcases hv.isA_capture_or_overlong hexception with he | ⟨rfl, hrefused⟩
      · exact .reported he
      · exact .overlong rfl hrefused
    have hmap : (Except.ok result : Except (Fault τ) _).map (fun result =>
        exitOf result.converged) = .ok (exitOf result.converged) := rfl
    rw [hmap]
    by_cases hc : result.converged = true
    · rw [hc]
      exact Or.inl ⟨hiff.mp ⟨result, rfl, hc⟩, ⟨result, rfl⟩, rfl⟩
    · refine Or.inr ⟨fun hl => hc ?_, ?_⟩
      · obtain ⟨_, ⟨⟩, hc⟩ := hiff.mpr hl
        exact hc
      · rw [Bool.eq_false_iff.mpr hc]
        exact .status

/-- An order with a poll of the status after it is judged by whether the poll came to hold. -/
theorem judged_of_awaited {seconds : τ} {order : Order} {goal : Status}
    {r : Except (Fault τ) (WaitResult τ)} (ha : Awaited seconds order (h.service.shows goal) r is)
    (hpause : command.pause? h = some seconds) (ho : command.orders h = .ok [order])
    (haim : ∀ is, command.Aim h is ↔ LastShows h goal is) :
    Judged h command (r.map fun result => exitOf result.converged) is := by
  intro hg
  cases ha with
  | @polled v r is hv hreported =>
    have hlooks : (order.done :: is).filterMap (h.service.shows goal) =
        is.filterMap (h.service.shows goal) := List.filterMap_cons_none rfl
    rcases status_of_polled hv hreported (fun _ => rfl) fun i hi e hie =>
        isA_exception_of_shows (hg i (List.mem_cons_of_mem _ hi)) hie with
      ⟨hl, ⟨result, rfl⟩, hr⟩ | ⟨hl, hr⟩
    · have hlook : ∀ i ∈ is, i.Succeeded ∧ i.order? = none := by
        intro i hi
        rcases hv.answer_of_mem hi with ⟨reply, rfl⟩ | ⟨b, hia⟩
        · exact ⟨trivial, rfl⟩
        · exact ⟨succeeded_of_shows hia, order?_of_shows hia⟩
      have hs : ∀ i ∈ order.done :: is, i.Succeeded := by
        intro i hi
        rcases List.mem_cons.mp hi with rfl | hi
        · trivial
        · exact (hlook i hi).1
      have horders : is.filterMap Incident.order? = [] :=
        List.filterMap_eq_nil_iff.mpr fun i hi => (hlook i hi).2
      refine Or.inl ⟨hr, ⟨hs, ?_⟩, ?_⟩
      · rw [haim, lastShows_iff hs, hlooks]
        exact hl
      · have hfirst : (order.done :: is).filterMap Incident.order? =
            order :: is.filterMap Incident.order? := List.filterMap_cons_some rfl
        rw [ho, hfirst, horders]
    · refine Or.inr ⟨?_, fun ⟨hs, hach⟩ => hl ?_⟩
      · rw [hpause]
        exact hr.mono (List.subset_cons_self ..)
      · rw [haim, lastShows_iff hs, hlooks] at hach
        exact hach
  | @failed e e' is hf he =>
    refine Or.inr ⟨.reported (he ((isA_command_of_fail hf hg).resolve_left nofun)), ?_⟩
    rw [← ho] at hf
    refine not_achieves_of_fail hf fun ha => ?_
    obtain ⟨text, htext, -⟩ := (haim _).mp ha
    cases htext

/-- A wait for the snapshot is judged by whether it came to hold. -/
theorem judged_of_polled {transient : List Fault.Kind} {r : Except (Fault τ) (WaitResult τ)}
    (hv : Polled h.snapshot.interval Incident.lookup? transient r is) :
    Judged h .waitSnapshot (r.map fun result => exitOf result.converged) is := by
  intro hg
  have hexception : ∀ i ∈ is, ∀ e, i.lookup? = some (.error e) → e.isA .exception = true := by
    intro i hi e hie
    have hgentle := hg i hi
    rw [eq_lookedUp hie] at hgentle
    exact hgentle e rfl
  rcases status_of_polled hv (.same r) (fun _ => rfl) hexception with ⟨hl, -, hr⟩ | ⟨hl, hr⟩
  · have hlook : ∀ i ∈ is, i.Succeeded ∧ i.order? = none := by
      intro i hi
      rcases hv.pause_or_look hi with ⟨reply, rfl⟩ | ⟨a, hia⟩
      · exact ⟨trivial, rfl⟩
      · rw [eq_lookedUp hia]
        exact ⟨trivial, rfl⟩
    have horders : is.filterMap Incident.order? = [] :=
      List.filterMap_eq_nil_iff.mpr fun i hi => (hlook i hi).2
    refine Or.inl ⟨hr, ⟨fun i hi => (hlook i hi).1, hl⟩, ?_⟩
    rw [horders]
    rfl
  · exact Or.inr ⟨hr, fun ⟨_, hach⟩ => hl hach⟩

/-! ### Calls that are judged -/

/-- A single order with nothing after it is judged by whether it was carried out. -/
theorem judged_stop {α : Type} {r : Except (Fault τ) α}
    (hp : Performed (.ok [⟨.stop, none⟩]) r is) :
    Judged h (.stop false) (r.map fun _ => 0) is := by
  intro hg
  cases hp with
  | all hl =>
    cases hl
    exact Or.inl ⟨rfl, ⟨fun i hi => succeeded_done hi, trivial⟩, rfl⟩
  | failed hf =>
    have hcommand := (isA_command_of_fail hf hg).resolve_left nofun
    refine Or.inr ⟨.reported (Fault.isA_capture_of_command hcommand), fun hach => ?_⟩
    rcases hf.refused_or_broken with ⟨he, -⟩ | ⟨order, horder⟩
    · cases he
    · exact hach.1 _ horder

theorem judged_status (r : Except (Fault τ) (Option String)) :
    Judged h .status (r.map fun _ => 0) [.statusRead r] := by
  intro hg
  cases r with
  | ok text =>
    refine Or.inl ⟨rfl, ⟨fun i hi => ?_, trivial⟩, rfl⟩
    rw [List.mem_singleton.mp hi]
    trivial
  | error e =>
    have he : e.isA .command = true := hg _ (List.mem_singleton_self _) e rfl
    refine Or.inr ⟨.reported (Fault.isA_capture_of_command he), fun hach => ?_⟩
    exact hach.1 _ (List.mem_singleton_self _)

/-- Asking for a change table is judged by whether one was found. -/
theorem judged_changeTable {name : String} {schema : Option String}
    {r : Except (Fault τ) (Option String)}
    (hr : ((Command.table .changeTable name schema).orders h = .ok [] ∧ is = [.changeTableRead r]) ∨
      ∃ e, (Command.table .changeTable name schema).orders h = .error e ∧ r = .error e ∧ is = []) :
    Judged h (.table .changeTable name schema) (r.map fun found => exitOf found.isSome) is := by
  intro hg
  rcases hr with ⟨ho, rfl⟩ | ⟨e, ho, rfl, rfl⟩
  · cases r with
    | error e =>
      have he : e.isA .command = true := hg _ (List.mem_singleton_self _) e rfl
      refine Or.inr ⟨.reported (Fault.isA_capture_of_command he), fun hach => ?_⟩
      exact hach.1 _ (List.mem_singleton_self _)
    | ok found =>
      cases found with
      | none =>
        refine Or.inr ⟨.status, fun ⟨_, name, hname⟩ => ?_⟩
        cases List.mem_singleton.mp hname
      | some changes =>
        refine Or.inl ⟨rfl, ⟨fun i hi => ?_, changes, List.mem_singleton_self _⟩, ho⟩
        rw [List.mem_singleton.mp hi]
        trivial
  · refine Or.inr ⟨.reported (isA_capture_of_orders ho), ?_⟩
    rintro ⟨-, found, hfound⟩
    cases hfound

end CommandLine

end CaptureControl

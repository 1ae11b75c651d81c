import CaptureControl.Proofs.Achieving
import CaptureControl.Proofs.Making

/-!
# The exit status of a command

A command ends with status zero exactly if it achieved what it is for, however the database answers
and whenever waiting is cancelled. Any other end is status one, but for that of a command whose
pauses cannot be timed: the fault of such a pause is no fault of capture control, and no status
stands for it.

## Main results

* `CommandLine.tells_runCommand` — the outcome of a command is right
* `CommandLine.exit_status` — the exit status is zero exactly if the command achieved its aim
-/

namespace CaptureControl

namespace CommandLine

open Orders

variable {σ τ : Type} {h : Station τ} {w : World σ τ} {command : Command}
  {is : List (Incident τ)}

/-! ### Closing -/

theorem filterMap_append_closed {α : Type} {f : Incident τ → Option α}
    {reply : Except (Fault τ) Unit} (hf : f (.closed reply) = none) :
    (is ++ [Incident.closed reply]).filterMap f = is.filterMap f := by
  rw [List.filterMap_append, List.filterMap_cons_none hf]
  exact List.append_nil _

theorem propagated_append_closed (reply : Except (Fault τ) Unit) :
    Propagated h (is ++ [.closed reply]) ↔ Propagated h is := by
  constructor
  · rintro ⟨before, after, his, hafter⟩
    rcases List.eq_nil_or_concat after with rfl | ⟨after, last, rfl⟩
    · cases (List.append_inj' his rfl).2
    · rw [List.concat_eq_append, ← List.cons_append, ← List.append_assoc] at his
      refine ⟨before, after, (List.append_inj' his rfl).1, fun i hi => hafter i ?_⟩
      rw [List.concat_eq_append]
      exact List.mem_append_left _ hi
  · rintro ⟨before, after, rfl, hafter⟩
    refine ⟨before, after ++ [.closed reply], by simp, fun i hi => ?_⟩
    rcases List.mem_append.mp hi with hi | hi
    · exact hafter i hi
    · rw [List.mem_singleton.mp hi]
      exact id

theorem lastShows_append_closed (goal : Status) (reply : Except (Fault τ) Unit) :
    LastShows h goal (is ++ [.closed reply]) ↔ LastShows h goal is := by
  rw [LastShows, LastShows, filterMap_append_closed rfl]

/-- Closing the station does not change what was achieved. -/
theorem achieves_append_closed (reply : Except (Fault τ) Unit) :
    Achieves h command (is ++ [.closed reply]) ↔ Achieves h command is := by
  have hsucceeded : (∀ i ∈ is ++ [Incident.closed reply], i.Succeeded) ↔
      ∀ i ∈ is, i.Succeeded := by
    rw [List.forall_mem_append]
    refine and_iff_left fun i hi => ?_
    rw [List.mem_singleton.mp hi]
    trivial
  refine and_congr hsucceeded ?_
  cases command with
  | start => exact lastShows_append_closed .running reply
  | stop wait =>
    cases wait with
    | false => exact Iff.rfl
    | true => exact lastShows_append_closed .stopped reply
  | status => exact Iff.rfl
  | refresh => exact propagated_append_closed reply
  | waitSnapshot =>
    rw [Command.Aim, Command.Aim, filterMap_append_closed rfl]
  | table command name schema =>
    cases command with
    | changeTable =>
      refine exists_congr fun changes => ?_
      rw [List.mem_append]
      exact or_iff_left fun hmem => nomatch List.mem_singleton.mp hmem
    | _ => exact propagated_append_closed reply

/-- Closing does not change what is right about an outcome. -/
theorem judged_append_closed {r : Except (Fault τ) Nat} (hj : Judged h command r is) :
    Judged h command r (is ++ [.closed (.ok ())]) := by
  intro hg
  rw [achieves_append_closed, filterMap_append_closed rfl]
  rcases hj fun i hi => hg i (List.mem_append_left _ hi) with hzero | ⟨hfails, hnot⟩
  · exact Or.inl hzero
  · exact Or.inr ⟨hfails.mono (List.subset_append_left ..), hnot⟩

/-! ### Running commands -/

section Run

variable [Time τ]

/-- A command tells its outcome in a line, and ends with a status that depends on it. -/
theorem tells_report {α : Type} {x : Act σ τ α} {status : α → Nat} (line : α → String)
    (hx : h.Tells w x fun r is => Judged h command (r.map status) is) :
    h.Tells w (do
      let a ← x
      Act.say (line a)
      return status a) (Judged h command) := by
  refine hx.bind (fun _ _ hj => hj) fun a is hj => ?_
  refine Station.Quiet.bind (Station.Quiet.say (line a)) fun _ => .pure ?_
  rwa [List.append_nil]

/-- A command changes a registration, tells so in a line, and waits for the change to propagate. -/
theorem tells_propagation {x : Act σ τ SourceTable} (line : SourceTable → String)
    (hx : h.Tells w x (Performed (command.orders h)))
    (hpause : command.pause? h = some h.propagation.seconds)
    (haim : ∀ is, command.Aim h is ↔ Propagated h is) :
    h.Tells w (do
      let t ← x
      Act.say (line t)
      reportDelay "propagation" (← h.waitForPropagation)) (Judged h command) := by
  have hdelayed := hx.then_delay fun t =>
    Station.Quiet.bind (Station.Quiet.say (line t)) fun _ => Station.tells_waitForPropagation
  have hreport := tells_report (fun o => "propagation" ++ " " ++ o.word)
    (hdelayed.weaken fun r is hd => judged_of_delayed hd hpause haim)
  simp only [bind_assoc] at hreport
  exact hreport

theorem tells_runTable (command : TableCommand) (name : String) (schema : Option String) :
    h.Tells w (runTable h command name schema)
      (Judged h (.table command name schema)) := by
  cases command with
  | enable => exact tells_propagation _ (Station.tells_enableTable _ _) rfl fun _ => Iff.rfl
  | disable => exact tells_propagation _ (Station.tells_disableTable _ _) rfl fun _ => Iff.rfl
  | activate =>
    refine tells_report _ ((Station.tells_setTableState _ _ _).weaken fun r is hd => ?_)
    exact judged_of_delayed hd rfl fun _ => Iff.rfl
  | deactivate =>
    refine tells_report _ ((Station.tells_setTableState _ _ _).weaken fun r is hd => ?_)
    exact judged_of_delayed hd rfl fun _ => Iff.rfl
  | changeTable =>
    have hjudged := (h.tells_changeTable (w := w) (schema.elim .null .text) (.text name)).weaken
      fun r is hr => judged_changeTable hr
    refine hjudged.bind (fun _ _ hj => hj) fun found is hj => ?_
    cases found with
    | none =>
      refine Station.Quiet.bind (Station.Quiet.say _) fun _ => .pure ?_
      rwa [List.append_nil]
    | some changes =>
      refine Station.Quiet.bind (Station.Quiet.say _) fun _ => .pure ?_
      rwa [List.append_nil]

theorem tells_runCommand (hmax : 1 ≤ h.service.maxAttempts)
    (hinterval : ¬ h.service.interval < 0) (hsnapshot : h.snapshot.Accepted) {n : Nat}
    (hn : h.snapshot.allowance.maxAttempts = some n)
    (hunlimited : h.snapshot.allowance.maxDuration = none) (command : Command) :
    h.Tells w (runCommand h command) (Judged h command) := by
  cases command with
  | start =>
    refine tells_report _ ((Station.tells_startCapture hmax hinterval).weaken fun r is ha => ?_)
    exact judged_of_awaited ha rfl rfl fun _ => Iff.rfl
  | stop wait =>
    cases wait with
    | false =>
      exact tells_report _ (Station.tells_stopCapture.weaken fun r is hp => judged_stop hp)
    | true =>
      refine tells_report _ ((Station.tells_stopCaptureAndWait hmax hinterval).weaken ?_)
      exact fun r is ha => judged_of_awaited ha rfl rfl fun _ => Iff.rfl
  | status =>
    refine tells_report Status.word (Station.tells_captureStatus.weaken ?_)
    rintro r is ⟨r', rfl, rfl⟩
    cases r' with
    | ok text => exact judged_status (.ok text)
    | error e => exact judged_status (.error e)
  | refresh =>
    refine tells_report _ (Station.tells_refreshAndWait.weaken fun r is hd => ?_)
    exact judged_of_delayed hd rfl fun _ => Iff.rfl
  | waitSnapshot =>
    refine tells_report _ ((Station.tells_waitForSnapshot hsnapshot hn hunlimited).weaken ?_)
    exact fun r is hv => judged_of_polled hv
  | table command name schema => exact tells_runTable command name schema

theorem runOn_eq (h : Station τ) (command : Command) :
    (runOn h command : Act σ τ Nat) = tryCatch ((runCommand h command).ensuring h.close) fun e =>
      if e.isA .capture then do
        Act.note (.failed command.word e)
        pure 1
      else throw e := by
  funext w s
  unfold runOn
  rw [Act.bind_apply, Act.tryCatch_apply, Act.tryCatch_apply, Act.bind_apply]
  rcases ((runCommand h command).ensuring h.close) w s with ⟨e | status, s'⟩
  · dsimp only
    cases e.isA .capture <;> rfl
  · rfl

/-- A command whose outcome is right is closed and reported, and then its outcome is a status, or a
pause was too long to be timed. -/
theorem tells_runOn (hr : h.Tells w (runCommand h command) (Judged h command)) :
    h.Tells w (runOn h command) fun r is => (∀ i ∈ is, i.Gentle) →
      (r = .ok 0 ∧ Achieves h command is ∧
          command.orders h = .ok (is.filterMap Incident.order?)) ∨
        ((r = .ok 1 ∨ r = .error .overlongPause ∧ ∃ seconds, command.pause? h = some seconds ∧
          .paused seconds (.error .overlongPause) ∈ is) ∧ ¬ Achieves h command is) := by
  have hclosed : h.Tells w ((runCommand h command).ensuring h.close) (Judged h command) := by
    refine hr.ensuring Station.tells_close ?_ ?_
    · rintro r is _ hj rfl
      exact judged_append_closed hj
    · rintro r e is _ - rfl hg
      cases hg _ (List.mem_append_right _ (List.mem_singleton_self _))
  rw [runOn_eq]
  refine hclosed.handle ?_ ?_
  · intro status is hj hg
    rcases hj hg with hzero | ⟨hfails, hnot⟩
    · exact Or.inl hzero
    · cases hfails with
      | status => exact Or.inr ⟨Or.inl rfl, hnot⟩
  · intro e is hj
    split
    · refine Station.Quiet.bind (Station.Quiet.note rfl) fun _ => .pure fun hg => ?_
      rw [List.append_nil] at hg ⊢
      rcases hj hg with ⟨he, -⟩ | ⟨-, hnot⟩
      · cases he
      · exact Or.inr ⟨Or.inl rfl, hnot⟩
    next hcapture =>
      refine .throw fun hg => ?_
      rw [List.append_nil] at hg ⊢
      rcases hj hg with ⟨he, -⟩ | ⟨hfails, hnot⟩
      · cases he
      · cases hfails with
        | reported he => exact absurd he hcapture
        | overlong hpause hmem => exact Or.inr ⟨Or.inr ⟨rfl, _, hpause, hmem⟩, hnot⟩

end Run

/-! ### A world that obliges -/

/-- Settings with exact times. -/
def exactSettings : Settings Rat where
  host := ""
  port := 0
  database := ""
  user := ""
  password := ""
  schema := "SCHEMA"
  mode := .mock
  program := ⟨"ASNCDC", "SERVER"⟩
  markers := ["is running"]
  startInterval := 1
  startMaxAttempts := 2
  snapshotInterval := 1
  snapshotMaxAttempts := 2
  propagationDelay := 1
  metricsAddress := ""
  metricsTimeout := 1
  snapshotObject := ""
  snapshotAttribute := ""

/-- The station of the settings, with a probe. -/
def exactStation : Station Rat where
  service := ⟨⟨.supplied⟩, ⟨"ASNCDC", "SERVER"⟩, ["is running"], 1, 2⟩
  propagation := ⟨1⟩
  snapshot := ⟨1, ⟨some 2, none, 0, 0⟩, [.absent], Station.snapshotDescription, Poll.defaultHorizon⟩
  monitor := .probe false
  defaultSchema := "SCHEMA"
  snapshotObject := ""
  snapshotAttribute := ""

/-- The answer of a world in which everything succeeds, by the status text that is read in it. -/
def kindAnswer (status : String) : (r : Request) → r.Answer
  | .fetch _ => some [[.text status, .text "T"]]
  | .lookup _ _ => true
  | .collect => []
  | .page _ => ⟨200, none, []⟩
  | .connect _ | .cursor _ | .execute _ _ _ | .closeCursor _ | .commit _ | .close _
  | .closeMetrics => ()

/-- A world in which everything succeeds, but for pauses that are longer than a longest one, by the
status text that is read in it. -/
def kindWorldUpTo (longest : Option Rat) (status : String) : World Unit Rat where
  serve r _ clock := (.ok (kindAnswer status r), ⟨(), clock, false⟩)
  longest
  sleep seconds _ clock := ⟨(), clock + seconds, false⟩
  signal _ _ := (false, ())

/-- A world in which everything succeeds. -/
def kindWorld : World Unit Rat := kindWorldUpTo none "is running"

/-- A world in which everything succeeds, but for pauses that are too long to be timed, by the status
text that is read in it. -/
def boundedKindWorld (status : String) : World Unit Rat :=
  kindWorldUpTo (some Rehearsal.longestWholePause) status

theorem gentle_of_happens {h : Station Rat} {longest : Option Rat} {status : String}
    {s s' : Session Unit Rat} {i : Incident Rat} (hgateway : h.service.gateway = ⟨.supplied⟩)
    (hmonitor : h.monitor = .probe false)
    (hi : h.Happens (kindWorldUpTo longest status) s i s') : i.Gentle := by
  obtain ⟨⟨gateway, program, markers, interval, looks⟩, propagation, snapshot, monitor, schema,
    object, flag⟩ := h
  cases hgateway
  cases hmonitor
  have hstatus {s s' : Session Unit Rat} {reply : Except (Fault Rat) (Option String)}
      (hr : (⟨⟨.supplied⟩, program, markers, interval, looks⟩ : Service Rat).statusText
        (kindWorldUpTo longest status) s = (reply, s')) : ∀ e, reply ≠ .error e := by
    obtain ⟨world, clock, cancelled, held, opened, closed, tally, trace, log, output⟩ := s
    cases held <;> (cases hr; exact nofun)
  cases hi with
  | sent order hr =>
    obtain ⟨world, clock, cancelled, held, opened, closed, tally, trace, log, output⟩ := s
    cases held <;> (cases hr; exact nofun)
  | statusRead hr => exact fun e he => absurd he (hstatus hr e)
  | statusSeen hs => exact fun e he => absurd he (hstatus hs.result e)
  | changeTableRead t hr =>
    obtain ⟨world, clock, cancelled, held, opened, closed, tally, trace, log, output⟩ := s
    cases held <;> (cases hr; exact nofun)
  | lookedUp he =>
    cases he.result
    exact nofun
  | paused => trivial
  | closed hr =>
    cases hr
    rfl

/-- Connections are supplied whatever the settings. -/
def suppliedGateway (_ : Settings Rat) : Gateway := ⟨.supplied⟩

/-- Settings by which a change propagates in ten thousand million seconds. -/
def slowSettings : Settings Rat :=
  { exactSettings with propagationDelay := 10000000000 }

/-- The station of these settings, with a probe. -/
def slowStation : Station Rat :=
  { exactStation with propagation := ⟨10000000000⟩ }

end CommandLine

end CaptureControl

import CaptureControl.Proofs.ExitStatus

/-!
# Settings that cannot be used

Settings that cannot be read, or that no station can be made from, end a command before anything is
done. One setting is not looked at by then: the interval in which the status of the program is polled
is checked where a wait for the program begins. If it is negative, the two commands with such a wait
have sent their statement by that time, and they fail with a fault that is not of capture control.
All other commands work as with any interval.

## Main definitions

* `Settings.Usable` — a station can be made from settings
* `CommandLine.issue?` — the statement that a command sends before it waits for the program
* `CommandLine.ChecksLate` — what becomes of a command if the interval is negative

## Main results

* `Station.exists_make?_iff` — a station can be made from usable settings, and from no others
* `CommandLine.checksLate` — a negative interval shows after the statement was sent, or not at all
* `CommandLine.misconfigured_runs` — what becomes of settings that cannot be used
-/

namespace CaptureControl

/-! ### Usable settings -/

section Parts

variable {τ : Type} [Time τ]

omit [Time τ] in
theorem Service.exists_make?_iff (gateway : Gateway) (program : Program) (markers : List String)
    (interval : τ) (maxAttempts : Int) :
    (∃ svc, Service.make? gateway program markers interval maxAttempts = .ok svc) ↔
      markers ≠ [] ∧ 1 ≤ maxAttempts := by
  unfold Service.make?
  split
  next hm =>
    have hempty : markers = [] := List.isEmpty_iff.mp hm
    simp [hempty]
  next hm =>
    have hnonempty : markers ≠ [] := fun h => hm (List.isEmpty_iff.mpr h)
    split
    · simp only [reduceCtorEq, exists_false, false_iff, not_and]
      omega
    · simp only [Except.ok.injEq, exists_eq', true_iff]
      exact ⟨hnonempty, by omega⟩

theorem Delay.exists_make?_iff {seconds : τ} :
    (∃ d, Delay.make? seconds = .ok d) ↔ ¬ seconds < 0 := by
  unfold Delay.make?
  split <;> simp [*]

theorem Allowance.exists_make?_iff {n : Int} :
    (∃ a : Allowance τ, Allowance.make? (some n) none = .ok a) ↔ 1 ≤ n := by
  by_cases hn : n < 1
  · have hlow : ¬ 1 ≤ n := by omega
    simp [Allowance.make?, hn, hlow]
  · have hhigh : 1 ≤ n := by omega
    simp [Allowance.make?, hn, hhigh]

theorem Poll.exists_make?_iff (interval : τ) (a : Allowance τ) (transient : List Fault.Kind)
    (description : String) :
    (∃ p, Poll.make? interval a transient description = .ok p) ↔ ¬ interval < 0 := by
  unfold Poll.make?
  split <;> simp [*]

/-- A station can be made from settings. -/
structure Settings.Usable (c : Settings τ) : Prop where
  /-- There is a phrase that tells a running program. -/
  markers : c.markers ≠ []
  /-- The status may be looked at. -/
  startAttempts : 1 ≤ c.startMaxAttempts
  /-- The propagation delay is not negative. -/
  propagation : ¬ c.propagationDelay < 0
  /-- The snapshot may be looked at. -/
  snapshotAttempts : 1 ≤ c.snapshotMaxAttempts
  /-- The interval of the snapshot wait is not negative. -/
  snapshotInterval : ¬ c.snapshotInterval < 0

namespace Station

variable {c : Settings τ} {gateway : Gateway} {monitor : Option Monitor}

/-- A monitor can always be had, since an empty address stands for none. -/
theorem exists_make?_eq (c : Settings τ) (gateway : Gateway) (monitor : Option Monitor) :
    ∃ m, make? c gateway monitor = make? c gateway (some m) := by
  cases monitor with
  | some m => exact ⟨m, rfl⟩
  | none =>
    by_cases hempty : c.metricsAddress.isEmpty
    · have hm : monitorOf c = .ok .registry := if_pos hempty
      exact ⟨.registry, by simp only [make?, hm]; rfl⟩
    · have hm : monitorOf c = .ok (.page c.metricsAddress) := by
        rw [monitorOf, if_neg hempty, Monitor.ofAddress?, if_neg hempty]
      exact ⟨.page c.metricsAddress, by simp only [make?, hm]; rfl⟩

/-- What is made step by step is made if each of the steps is. -/
theorem exists_bind_eq_ok_iff {ε α β : Type} {x : Except ε α} {f : α → Except ε β} :
    (∃ b, x >>= f = .ok b) ↔ ∃ a, x = .ok a ∧ ∃ b, f a = .ok b := by
  constructor
  · rintro ⟨b, hb⟩
    obtain ⟨a, ha, hb⟩ := bind_eq_ok hb
    exact ⟨a, ha, b, hb⟩
  · rintro ⟨a, rfl, b, hb⟩
    exact ⟨b, hb⟩

/-- **A station can be made from usable settings, and from no others.** The interval in which the
status is polled is not among what makes them usable. -/
theorem exists_make?_iff : (∃ h, make? c gateway monitor = .ok h) ↔ c.Usable := by
  -- Whether a part can be made does not depend on the parts before it.
  have hparts : (∃ h, make? c gateway monitor = .ok h) ↔
      (c.markers ≠ [] ∧ 1 ≤ c.startMaxAttempts) ∧ ¬ c.propagationDelay < 0 ∧
        1 ≤ c.snapshotMaxAttempts ∧ ¬ c.snapshotInterval < 0 := by
    obtain ⟨m, hm⟩ := exists_make?_eq c gateway monitor
    rw [hm]
    simp only [make?, exists_bind_eq_ok_iff, pure, Except.pure, Except.ok.injEq, exists_eq',
      exists_eq_left', and_true, exists_and_right, Service.exists_make?_iff,
      Delay.exists_make?_iff, Allowance.exists_make?_iff, Poll.exists_make?_iff]
  rw [hparts]
  constructor
  · rintro ⟨⟨hmarkers, hstart⟩, hpropagation, hsnapshot, hinterval⟩
    exact ⟨hmarkers, hstart, hpropagation, hsnapshot, hinterval⟩
  · intro hu
    exact ⟨⟨hu.markers, hu.startAttempts⟩, hu.propagation, hu.snapshotAttempts, hu.snapshotInterval⟩

end Station

end Parts

/-! ### Polls with a negative interval -/

namespace Service

open Act

variable {σ τ : Type} [Time τ] {svc : Service τ} {w : World σ τ} {s s₁ : Session σ τ} {e : Fault τ}

/-- A wait for the program is not begun if its interval is negative. -/
theorem waitFor_of_negative (hmax : 1 ≤ svc.maxAttempts) (hi : svc.interval < 0)
    (description : String) (goal : Status) :
    svc.waitFor description goal w s = (.error (.misconfigured .interval), s) := by
  have hlow : 1 ≤ (svc.maxAttempts : Int) := by omega
  obtain ⟨a, ha⟩ := Allowance.exists_make?_iff (τ := τ).mpr hlow
  have hpoll : svc.poll description w s = (.error (.misconfigured .interval), s) := by
    rw [poll, ofExcept_apply, ha]
    change ((Poll.make? svc.interval a [] description).mapError Fault.misconfigured, s) = _
    rw [Poll.make?, if_pos hi]
    rfl
  exact bind_of_error hpoll _

/-- A start with a negative interval fails once its statement was sent. -/
theorem start_of_negative (hmax : 1 ≤ svc.maxAttempts) (hi : svc.interval < 0)
    (hs : svc.send .start none w (s.noted [.starting svc.program.server]) = (.ok (), s₁)) :
    svc.start w s = (.error (.misconfigured .interval), s₁) := by
  rw [start, note_bind_apply, bind_apply, tryCatch_apply, hs]
  dsimp only
  rw [bind_apply, tryCatch_apply, waitFor_of_negative hmax hi]
  rfl

/-- What becomes of a start whose statement fails does not depend on the interval. -/
theorem start_of_send_eq_error (interval : τ)
    (hs : svc.send .start none w (s.noted [.starting svc.program.server]) = (.error e, s₁)) :
    ({ svc with interval } : Service τ).start w s = svc.start w s := by
  have hs' : ({ svc with interval } : Service τ).send .start none w
      (s.noted [.starting svc.program.server]) = (.error e, s₁) := hs
  rw [start, start, note_bind_apply, note_bind_apply, bind_apply, bind_apply, tryCatch_apply,
    tryCatch_apply, hs, hs']
  rfl

end Service

namespace Station

open Act

variable {σ τ : Type} [Time τ] {w : World σ τ} {s s₁ : Session σ τ}

/-- The station with another interval between looks at the status of the program. -/
def withInterval (h : Station τ) (interval : τ) : Station τ :=
  { h with service.interval := interval }

/-- A wait that cannot be begun is not counted. -/
theorem observe_of_misconfigured {kind : WaitKind} {x : Act σ τ (WaitResult τ)}
    {what : Misconfiguration} (hx : x w s = (.error (.misconfigured what), s₁)) :
    observe kind x w s = (.error (.misconfigured what), s₁) := by
  refine bind_of_error ?_ _
  rw [tryCatch_apply, hx]
  rfl

theorem observe_congr {kind : WaitKind} {x y : Act σ τ (WaitResult τ)} (hxy : x w s = y w s) :
    observe kind x w s = observe kind y w s := by
  rw [observe, observe, bind_apply, bind_apply, tryCatch_apply, tryCatch_apply, hxy]

end Station

/-! ### Commands -/

namespace CommandLine

open Act

variable {σ τ : Type} [Time τ] {h : Station τ} {command : Command} {w : World σ τ}
  {s s₁ s₂ : Session σ τ}

/-- What a start does before it waits. -/
def launch (h : Station τ) : Act σ τ Unit := do
  Station.countCommand "start"
  Act.note (.starting h.service.program.server)
  h.service.send .start none

/-- The statement that a command sends before it waits for the program to be in a state, and all that
it does up to then, if it does wait for that. -/
def issue? (h : Station τ) : Command → Option (Statement × Act σ τ Unit)
  | .start => some (.start, launch h)
  | .stop true => some (.stop, h.stopCapture)
  | .stop false | .status | .refresh | .waitSnapshot | .table _ _ _ => none

/-- A negative interval between looks at the status shows after the statement of a command was sent,
or not at all. -/
structure ChecksLate (h : Station τ) (command : Command) (w : World σ τ) (s : Session σ τ) : Prop where
  /-- If the command does not wait for the program, it does what it does with any interval. -/
  unawaited : issue? (σ := σ) h command = none → ∀ interval,
    runOn h command w s = runOn (h.withInterval interval) command w s
  /-- So it does if its statement fails. -/
  unissued : ∀ statement x, issue? h command = some (statement, x) → ∀ e s₁,
    x w s = (.error e, s₁) → ∀ interval,
      runOn h command w s = runOn (h.withInterval interval) command w s
  /-- Otherwise its statement was run and committed; and then, unless closing the station fails, the
  command ends with the fault of the interval. -/
  issued : ∀ statement x, issue? h command = some (statement, x) → ∀ s₁, x w s = (.ok (), s₁) →
    (∃ events, Succeeds (h.service.program.text statement) none events ∧ s.Records events s₁) ∧
      ∀ s₂, h.close w s₁ = (.ok (), s₂) →
        runOn h command w s = (.error (.misconfigured .interval), s₂)

/-- A command does the same on two stations, as far as its own part does, and they are closed
alike. -/
theorem runOn_congr {h' : Station τ} (hrun : runCommand h command w s = runCommand h' command w s)
    (hclose : (h.close : Act σ τ Unit) = h'.close) :
    runOn h command w s = runOn h' command w s := by
  rw [runOn_eq, runOn_eq, tryCatch_apply, tryCatch_apply, ensuring_apply, ensuring_apply, hrun,
    hclose]

theorem runOn_of_misconfigured {what : Misconfiguration}
    (hrun : runCommand h command w s = (.error (.misconfigured what), s₁))
    (hclose : h.close w s₁ = (.ok (), s₂)) :
    runOn h command w s = (.error (.misconfigured what), s₂) := by
  rw [runOn_eq, tryCatch_apply, ensuring_apply, hrun, hclose]
  rfl

section Issued

variable {statement : Statement} {x : Act σ τ Unit}

omit [Time τ] in
/-- Only two commands wait for the program. -/
theorem issue?_eq_some (hx : issue? h command = some (statement, x)) :
    (command = .start ∧ statement = .start ∧ x = launch h) ∨
      (command = .stop true ∧ statement = .stop ∧ x = h.stopCapture) := by
  cases command with
  | start =>
    cases hx
    exact Or.inl ⟨rfl, rfl, rfl⟩
  | stop wait =>
    cases wait with
    | true =>
      cases hx
      exact Or.inr ⟨rfl, rfl, rfl⟩
    | false => cases hx
  | _ => cases hx

omit [Time τ] in
/-- What is done before the wait is the running of the statement, apart from a count and a log
entry. -/
theorem succeeds_of_issue? (hx : issue? h command = some (statement, x))
    (hok : x w s = (.ok (), s₁)) :
    ∃ events, Succeeds (h.service.program.text statement) none events ∧ s.Records events s₁ := by
  have hsent : ∃ s₀ : Session σ τ, s₀.trace = s.trace ∧
      h.service.gateway.execute (h.service.program.text statement) none w s₀ = (.ok (), s₁) := by
    rcases issue?_eq_some hx with ⟨-, rfl, rfl⟩ | ⟨-, rfl, rfl⟩
    · exact ⟨Session.noted { s with tally := _ } [.starting h.service.program.server], rfl, hok⟩
    · exact ⟨Session.noted { s with tally := _ } [.stopping h.service.program.server], rfl, hok⟩
  obtain ⟨s₀, htrace, hrun⟩ := hsent
  obtain ⟨events, hsucceeds, hrecords⟩ := Gateway.succeeds_of_execute_eq_ok hrun
  refine ⟨events, hsucceeds, ?_⟩
  rwa [Session.Records, htrace] at hrecords

/-- What becomes of a command whose statement fails does not depend on the interval. -/
theorem runCommand_of_issue?_error (hx : issue? h command = some (statement, x)) {e : Fault τ}
    (he : x w s = (.error e, s₁)) (interval : τ) :
    runCommand h command w s = runCommand (h.withInterval interval) command w s := by
  rcases issue?_eq_some hx with ⟨rfl, -, rfl⟩ | ⟨rfl, -, rfl⟩
  · have hstart : h.startCapture w s = (h.withInterval interval).startCapture w s :=
      Station.observe_congr (Service.start_of_send_eq_error interval he).symm
    rw [runCommand, runCommand, bind_apply, bind_apply, hstart]
  · have hstop : h.stopCaptureAndWait w s = (h.withInterval interval).stopCaptureAndWait w s :=
      (bind_of_error he _).trans (bind_of_error he _).symm
    rw [runCommand, runCommand, bind_apply, bind_apply, hstop]

/-- A command whose statement succeeds fails where its wait would begin, if the interval is
negative. -/
theorem runCommand_of_issue?_ok (hmax : 1 ≤ h.service.maxAttempts) (hi : h.service.interval < 0)
    (hx : issue? h command = some (statement, x)) (hok : x w s = (.ok (), s₁)) :
    runCommand h command w s = (.error (.misconfigured .interval), s₁) := by
  rcases issue?_eq_some hx with ⟨rfl, -, rfl⟩ | ⟨rfl, -, rfl⟩
  · have hstart : h.startCapture w s = (.error (.misconfigured .interval), s₁) :=
      Station.observe_of_misconfigured (Service.start_of_negative hmax hi hok)
    exact bind_of_error hstart _
  · have hwait : h.service.waitUntilStopped w s₁ = (.error (.misconfigured .interval), s₁) :=
      Service.waitFor_of_negative hmax hi _ _
    have hstop : h.stopCaptureAndWait w s = (.error (.misconfigured .interval), s₁) :=
      (bind_of_ok hok _).trans (Station.observe_of_misconfigured hwait)
    exact bind_of_error hstop _

end Issued

/-- **A negative interval between looks at the status is found late**: not before the statement was
sent, and by no command that does not wait for the program. -/
theorem checksLate (hmax : 1 ≤ h.service.maxAttempts) (hi : h.service.interval < 0)
    (command : Command) (w : World σ τ) (s : Session σ τ) : ChecksLate h command w s where
  unawaited hnone interval := by
    cases command with
    | start => cases hnone
    | stop wait =>
      cases wait with
      | false => exact runOn_congr rfl rfl
      | true => cases hnone
    | _ => exact runOn_congr rfl rfl
  unissued _ _ hx _ _ he interval := runOn_congr (runCommand_of_issue?_error hx he interval) rfl
  issued _ _ hx _ hok :=
    ⟨succeeds_of_issue? hx hok, fun _ hclose =>
      runOn_of_misconfigured (runCommand_of_issue?_ok hmax hi hx hok) hclose⟩

/-- **What becomes of settings that cannot be used.** If they cannot be read, or no station can be
made from them, the command ends with status two, and nothing else happened but that the reason was
logged. The interval between looks at the status is not among what is checked by then; if it is
negative, that shows after the statement of the command was sent, or not at all. -/
theorem misconfigured_runs (settings : Except Misconfiguration (Settings τ))
    (gateway : Settings τ → Gateway) (monitor : Option Monitor) (command : Command)
    (w : World σ τ) (s : Session σ τ) :
    ((∀ c, settings = .ok c → ¬ c.Usable) →
      ∃ what, (∀ unread, settings = .error unread → what = unread) ∧
        runWith settings gateway monitor command w s =
          (.ok 2, s.noted [.badConfiguration (.misconfigured what)])) ∧
    (∀ c, settings = .ok c → c.Usable → ∃ h, Station.make? c (gateway c) monitor = .ok h ∧
      runWith settings gateway monitor command w s = runOn h command w s ∧
        (c.startInterval < 0 → ChecksLate h command w s)) := by
  constructor
  · intro hbad
    cases settings with
    | error unread => exact ⟨unread, fun _ he => Except.error.inj he, rfl⟩
    | ok c =>
      have hnone : ¬ ∃ h, Station.make? c (gateway c) monitor = .ok h :=
        fun hmade => hbad c rfl (Station.exists_make?_iff.mp hmade)
      cases hmake : Station.make? c (gateway c) monitor with
      | ok h => exact absurd ⟨h, hmake⟩ hnone
      | error what =>
        refine ⟨what, nofun, ?_⟩
        have hbind : (Except.ok c : Except Misconfiguration _).bind
            (fun c => Station.make? c (gateway c) monitor) = .error what := hmake
        rw [runWith, hbind]
        rfl
  · rintro c rfl husable
    have hexists : ∃ h, Station.make? c (gateway c) monitor = .ok h :=
      Station.exists_make?_iff.mpr husable
    obtain ⟨h, hmake⟩ := hexists
    have hbind : (Except.ok c : Except Misconfiguration _).bind
        (fun c => Station.make? c (gateway c) monitor) = .ok h := hmake
    have hmade := Station.made_of_make? hmake
    refine ⟨h, hmake, by rw [runWith, hbind], fun hi => ?_⟩
    exact checksLate hmade.looks (by rwa [hmade.interval]) command w s

/-- With a negative interval in the environment, a start sends its statement and then fails with a
fault that is no exit status. -/
theorem negative_interval_start :
    let settings := Settings.ofEnvironment [("CDC_START_POLL_INTERVAL_SECONDS", "-1")]
    let run := runWith settings (fun _ => ⟨.supplied⟩) none .start Rehearsal.world
      (.start .empty 0.0 "")
    run.1 = .error (.misconfigured .interval) ∧
      statements run.2.trace = ["VALUES ASNCDC.ASNCDCSERVICES('start','asncdc')"] := by
  with_unfolding_all exact ⟨rfl, rfl⟩

end CommandLine

end CaptureControl

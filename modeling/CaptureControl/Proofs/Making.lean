import CaptureControl.Proofs.Polling
import CaptureControl.Station

/-!
# Stations that are made

What the settings that a station was made from are known to satisfy: had they not been accepted, the
station would not exist.

## Main definitions

* `Station.snapshotPoll` — the snapshot wait of some settings

## Main results

* `Station.exists_eq_of_make?` — how a station that was made is put together
* `Station.made_of_make?` — what is known of its parts
-/

namespace CaptureControl

variable {τ : Type} [Time τ]

/-- What is known of a station that was made from settings. -/
structure Station.Made (settings : Settings τ) (gateway : Gateway) (h : Station τ) : Prop where
  /-- Its gateway is the given one. -/
  gateway : h.service.gateway = gateway
  /-- The program is the one of the settings. -/
  program : h.service.program = settings.program
  /-- The phrases that tell a running program are those of the settings. -/
  markers : h.service.markers = settings.markers
  /-- The status is looked at in the interval of the settings. -/
  interval : h.service.interval = settings.startInterval
  /-- The status is looked at least once. -/
  looks : 1 ≤ h.service.maxAttempts
  /-- A change propagates for as long as the settings say. -/
  propagation : h.propagation.seconds = settings.propagationDelay
  /-- The snapshot wait is an accepted poll. -/
  snapshot : h.snapshot.Accepted
  /-- The snapshot wait has an attempt limit. -/
  attempts : ∃ n, h.snapshot.allowance.maxAttempts = some n
  /-- The snapshot wait has no time limit. -/
  unlimited : h.snapshot.allowance.maxDuration = none
  /-- A metric that is not there yet is no reason to abort the snapshot wait. -/
  transient : h.snapshot.transient = [.absent]

namespace Station

variable {settings : Settings τ} {gateway : Gateway} {monitor : Option Monitor} {h : Station τ}

/-- What is made step by step was made in each of the steps. -/
theorem bind_eq_ok {ε α β : Type} {x : Except ε α} {f : α → Except ε β} {b : β}
    (hb : x >>= f = .ok b) : ∃ a, x = .ok a ∧ f a = .ok b := by
  cases x with
  | error e => cases hb
  | ok a => exact ⟨a, rfl, hb⟩

omit [Time τ] in
theorem eq_of_service_make? {program : Program} {markers : List String} {interval : τ}
    {maxAttempts : Int} {svc : Service τ}
    (hm : Service.make? gateway program markers interval maxAttempts = .ok svc) :
    1 ≤ maxAttempts ∧ svc = ⟨gateway, program, markers, interval, maxAttempts.toNat⟩ := by
  unfold Service.make? at hm
  split at hm
  · cases hm
  · split at hm
    · cases hm
    · cases hm
      exact ⟨by omega, rfl⟩

theorem eq_of_delay_make? {seconds : τ} {d : Delay τ} (hm : Delay.make? seconds = .ok d) :
    d = ⟨seconds⟩ := by
  unfold Delay.make? at hm
  split at hm
  · cases hm
  · cases hm
    rfl

theorem eq_of_allowance_make? {n : Int} {a : Allowance τ}
    (hm : Allowance.make? (some n) none = .ok a) : a = ⟨some n.toNat, none, 0, 0⟩ := by
  unfold Allowance.make? at hm
  split at hm
  · cases hm
  · split at hm
    · cases hm
    · cases hm
      rfl

theorem eq_of_poll_make? {interval : τ} {a : Allowance τ} {transient : List Fault.Kind}
    {description : String} {p : Poll τ}
    (hm : Poll.make? interval a transient description = .ok p) :
    p = ⟨interval, a, transient, description, Poll.defaultHorizon⟩ := by
  unfold Poll.make? at hm
  split at hm
  · cases hm
  · cases hm
    rfl

/-- The snapshot wait of some settings. -/
def snapshotPoll (settings : Settings τ) : Poll τ where
  interval := settings.snapshotInterval
  allowance := ⟨some settings.snapshotMaxAttempts.toNat, none, 0, 0⟩
  transient := Poll.defaultTransient
  description := snapshotDescription
  horizon := Poll.defaultHorizon

/-- **A station that was made from settings is put together from them**, but for its monitor. -/
theorem exists_eq_of_make? (hm : make? settings gateway monitor = .ok h) :
    (snapshotPoll settings).Accepted ∧ 1 ≤ settings.startMaxAttempts ∧ ∃ monitor, h = {
      service := ⟨gateway, settings.program, settings.markers, settings.startInterval,
        settings.startMaxAttempts.toNat⟩
      propagation := ⟨settings.propagationDelay⟩
      snapshot := snapshotPoll settings
      monitor
      defaultSchema := settings.schema
      snapshotObject := settings.snapshotObject
      snapshotAttribute := settings.snapshotAttribute } := by
  unfold make? at hm
  dsimp only at hm
  split at hm
  all_goals
    obtain ⟨m, -, hm⟩ := bind_eq_ok hm
    obtain ⟨svc, hsvc, hm⟩ := bind_eq_ok hm
    obtain ⟨d, hd, hm⟩ := bind_eq_ok hm
    obtain ⟨a, ha, hm⟩ := bind_eq_ok hm
    obtain ⟨p, hp, hm⟩ := bind_eq_ok hm
    cases hm
    obtain ⟨hlooks, rfl⟩ := eq_of_service_make? hsvc
    obtain rfl := eq_of_delay_make? hd
    have hsnapshot := Poll.accepted_of_make? ha hp
    obtain rfl := eq_of_poll_make? hp
    obtain rfl := eq_of_allowance_make? ha
    exact ⟨hsnapshot, hlooks, m, rfl⟩

/-- What is known of the parts of a station that was made from settings. -/
theorem made_of_make? (hm : make? settings gateway monitor = .ok h) : Made settings gateway h := by
  obtain ⟨hsnapshot, hlooks, m, rfl⟩ := exists_eq_of_make? hm
  have hpositive : 1 ≤ settings.startMaxAttempts.toNat := by omega
  exact ⟨rfl, rfl, rfl, rfl, hpositive, rfl, hsnapshot, ⟨_, rfl⟩, rfl, rfl⟩

end Station

end CaptureControl

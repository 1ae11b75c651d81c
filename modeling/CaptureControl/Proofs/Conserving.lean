import CaptureControl.Proofs.Bookkeeping
import CaptureControl.Proofs.Cancelling
import CaptureControl.Proofs.ExitStatus

/-!
# Conservation of the counters

What the counters of a station show can be checked against what was done with it. A wait for a start,
for a stop or for the snapshot is counted once, with one of four outcomes, if it fails at all in a way
that is foreseen; a delay is counted once, although it is let pass in one part of the station and
counted in another; and the durations that were observed are those of the waits that did not fail.
That holds of each operation, and so of every course of operations. A wait whose pause is too long to
be timed fails in a way that is not foreseen, and is not counted; no wait is counted twice.

## Implementation notes

The entries of an operation are known, but how often a wait is entered depends on how it failed. So
the account of the operation is needed as well: if nothing in it failed in a way that is not
foreseen, then the wait did not.

## Main definitions

* `Entry.Regular` — an entry that tells a duration exactly if the outcome is one that has it
* `Covers` — all waits of a kind are counted, if their pauses can be timed
* `Entry.Balances` — the entries of operations of which so many are of certain kinds
* `Tally.Consistent` — the observed durations are those of the waits that have one
* `Fault.Counted` — a fault of a wait that is counted
* `Station.course` — the steps of a course, each with the session in which it begins
* `Station.GentleStep` — a step in which nothing fails in a way that is not foreseen

## Main results

* `Poll.answers_wait` — what a poll comes to, if it does not fail
* `Station.exists_enters_use` — one step: what is entered balances
* `Station.exists_enters_runs` — and so does what is entered in a whole course
* `Station.counters_conserved` — the counters add up
-/

namespace CaptureControl

/-! ### Results of polls -/

section Results

open Act

variable {σ τ : Type} [Time τ]

/-- The result of a poll: it converged or was interrupted, and its duration was cut off at zero. -/
def WaitResult.OfPoll (r : WaitResult τ) : Prop :=
  (r.outcome = .converged ∨ r.outcome = .interrupted) ∧ ∃ d, r.elapsed = Time.clamp d

/-- If it does not fail, a verdict is the result of a poll. -/
def Poll.Verdict.Sound (v : Poll.Verdict τ) : Prop :=
  ∀ r, v = .ok r → r.OfPoll

namespace Poll

variable {p : Poll τ} {label : String} {started : τ} {condition : Act σ τ Bool}

theorem answers_interruption (a : Allowance τ) :
    Answers Verdict.Sound (interruption label started a : Act σ τ (Verdict τ)) := by
  refine (Answers.true _).bind fun _ _ => (Answers.true _).bind fun now _ => .pure ?_
  rintro r ⟨⟩
  exact ⟨Or.inr rfl, _, rfl⟩

/-- A verdict is sound, since every round ends with one. -/
theorem answers_rounds (n : Nat) :
    ∀ a, Answers (fun va => Verdict.Sound va.1) (p.rounds label started condition n a) := by
  induction n with
  | zero => exact fun a => .pure nofun
  | succ n ih =>
    intro a
    refine (Answers.true _).bind fun c _ => ?_
    split
    · exact (answers_interruption a).bind fun v hv => .pure hv
    · refine (Answers.true _).bind fun answer _ => ?_
      split
      · exact .pure nofun
      · refine (Answers.true _).bind fun t _ => ?_
        split
        · refine (Answers.true _).bind fun _ _ => .pure ?_
          rintro r ⟨⟩
          exact ⟨Or.inl rfl, _, rfl⟩
        · split
          · exact (Answers.true _).bind fun _ _ => .pure nofun
          · refine (Answers.true _).bind fun paused _ => ?_
            split
            · exact .pure nofun
            · exact ih _
            · exact (answers_interruption _).bind fun v hv => .pure hv

theorem answers_wait (description : Option String) :
    Answers WaitResult.OfPoll (p.wait condition description) :=
  ((Answers.true _).bind fun _ _ => answers_rounds _ _).bind fun _ hv => .ofExcept hv

end Poll

theorem Service.answers_waitFor (svc : Service τ) (description : String) (goal : Status) :
    Answers WaitResult.OfPoll (svc.waitFor description goal : Act σ τ _) :=
  (Answers.true _).bind fun _ _ => Poll.answers_wait _

theorem Service.answers_start (svc : Service τ) :
    Answers WaitResult.OfPoll (svc.start : Act σ τ _) := by
  refine (Answers.true _).bind fun _ _ => (Answers.true _).bind fun _ _ =>
    .bind (.handle (svc.answers_waitFor _ _) fun e => ?_) fun result hresult => ?_
  · split
    · split
      · exact .throw _
      · exact .throw _
    · exact .throw _
  · split
    · exact (Answers.true _).bind fun _ _ => .pure hresult
    · exact .pure hresult

theorem Station.answers_observe (kind : WaitKind) {x : Act σ τ (WaitResult τ)}
    (hx : Answers WaitResult.OfPoll x) : Answers WaitResult.OfPoll (observe kind x) := by
  intro w s r s' h
  rw [observe_apply] at h
  have hr : (x w s).1 = .ok r := congrArg Prod.fst h
  exact hx w s r (x w s).2 (Prod.ext hr rfl)

end Results

/-! ### Entries that balance -/

/-- Some are counted of all waits of a kind: none too often, and if their pauses can be timed, then
all. -/
def Covers (timed : Prop) (counted all : Nat) : Prop :=
  counted ≤ all ∧ (timed → counted = all)

namespace Covers

variable {timed : Prop} {m n m' n' : Nat}

theorem refl (timed : Prop) (n : Nat) : Covers timed n n :=
  ⟨Nat.le_refl n, fun _ => rfl⟩

theorem of_not (ht : ¬ timed) (hle : m ≤ n) : Covers timed m n :=
  ⟨hle, fun h => absurd h ht⟩

theorem add (h : Covers timed m n) (h' : Covers timed m' n') : Covers timed (m + m') (n + n') :=
  ⟨Nat.add_le_add h.1 h'.1, fun ht => by rw [h.2 ht, h'.2 ht]⟩

end Covers

namespace Entry

variable {τ : Type} [Time τ]

/-- The entry counts a command. -/
def isCommand (name : String) : Entry τ → Bool
  | command name' => name' = name
  | _ => false

/-- The entry counts a wait of a kind. -/
def isWait (kind : WaitKind) : Entry τ → Bool
  | wait kind' _ _ => kind' = kind
  | _ => false

/-- An entry tells a duration if the outcome of the wait is one that has it, and then one that
compares with itself; and delays have none. -/
inductive Regular : Entry τ → Prop where
  | command (name : String) : Regular (command name)
  | delay : Regular delay
  | release : Regular release
  /-- A delay is over. -/
  | delayed (outcome : String) : Regular (wait .propagation outcome none)
  /-- A poll came to a result. -/
  | ended {kind : WaitKind} {outcome : Outcome} {x : τ} : kind ≠ .propagation →
      (outcome = .converged ∨ outcome = .interrupted) → x ≤ x →
      Regular (wait kind outcome.word (some x))
  /-- A poll failed. -/
  | failed {kind : WaitKind} {outcome : String} : kind ≠ .propagation →
      outcome ≠ Outcome.converged.word → outcome ≠ Outcome.interrupted.word →
      Regular (wait kind outcome none)

/-- The entries of a poll, whose pauses can be timed or not. -/
inductive OfPoll (kind : WaitKind) (timed : Prop) : List (Entry τ) → Prop where
  /-- The poll is counted. -/
  | counted {outcome : String} {elapsed : Option τ} : Regular (wait kind outcome elapsed) →
      OfPoll kind timed [wait kind outcome elapsed]
  /-- The poll fails with a pause. -/
  | overlong : ¬ timed → OfPoll kind timed []

/-- Entries that are regular, and that count as many waits for a start as starts, as many delays as
begun, as many removals as there were releases and given ones besides, and given numbers of waits for
the snapshot and for a stop; of waits of which the pauses cannot be timed they may count less. -/
structure Balances (timed : WaitKind → Prop) (snapshots stops removals : Nat)
    (es : List (Entry τ)) : Prop where
  /-- The entries are regular. -/
  regular : ∀ e ∈ es, e.Regular
  /-- Every start is waited for. -/
  starts : Covers (timed .serviceStart) (es.countP (isWait .serviceStart))
    (es.countP (isCommand "start"))
  /-- So many waits were for the snapshot. -/
  snapshots : Covers (timed .snapshot) (es.countP (isWait .snapshot)) snapshots
  /-- So many waits were for a stop. -/
  stops : Covers (timed .serviceStop) (es.countP (isWait .serviceStop)) stops
  /-- Every delay is counted. -/
  delays : Covers (timed .propagation) (es.countP (isWait .propagation)) (es.countP isDelay)
  /-- Every release is a removal, and so many removals are not for a release. -/
  removals : es.countP (isCommand "remove_table") = removals + es.countP isRelease

namespace Balances

variable {timed : WaitKind → Prop} {k l m k' l' m' : Nat} {es es' : List (Entry τ)}

theorem nil : Balances timed 0 0 0 ([] : List (Entry τ)) :=
  ⟨nofun, .refl _ _, .refl _ _, .refl _ _, .refl _ _, rfl⟩

theorem append (h : Balances timed k l m es) (h' : Balances timed k' l' m' es') :
    Balances timed (k + k') (l + l') (m + m') (es ++ es') where
  regular e he := (List.mem_append.mp he).elim (h.regular e) (h'.regular e)
  starts := by
    rw [List.countP_append, List.countP_append]
    exact h.starts.add h'.starts
  snapshots := by
    rw [List.countP_append]
    exact h.snapshots.add h'.snapshots
  stops := by
    rw [List.countP_append]
    exact h.stops.add h'.stops
  delays := by
    rw [List.countP_append, List.countP_append]
    exact h.delays.add h'.delays
  removals := by
    rw [List.countP_append, List.countP_append, h.removals, h'.removals]
    omega

/-- A command that is none of those that are compared balances. -/
theorem command {name : String} (hstart : name ≠ "start") (hremove : name ≠ "remove_table") :
    Balances timed 0 0 0 [(command name : Entry τ)] where
  regular := List.forall_mem_singleton.mpr (.command name)
  starts := by
    have hnone : [(Entry.command name : Entry τ)].countP (isCommand "start") = 0 := by
      simp [isCommand, hstart]
    rw [hnone]
    exact .refl _ _
  snapshots := .refl _ _
  stops := .refl _ _
  delays := .refl _ _
  removals := by simp [isCommand, isRelease, hremove]

theorem delayed {r : Except (Fault τ) Outcome} (hes : Delayed (timed .propagation) r es) :
    Balances timed 0 0 0 es := by
  cases hes with
  | ended outcome =>
    refine ⟨?_, .refl _ _, .refl _ _, .refl _ _, .refl _ _, rfl⟩
    rw [List.forall_mem_cons, List.forall_mem_singleton]
    exact ⟨.delay, .delayed _⟩
  | overlong ht =>
    refine ⟨?_, .refl _ _, .refl _ _, .refl _ _, .of_not ht (Nat.zero_le _), rfl⟩
    exact List.forall_mem_singleton.mpr .delay
  | failed => exact .nil

theorem releases (n : Nat) : Balances timed 0 0 0 (releases n : List (Entry τ)) := by
  induction n with
  | zero => exact .nil
  | succ n ih =>
    have hone : Balances timed 0 0 0 ([release, .command "remove_table"] : List (Entry τ)) := by
      refine ⟨?_, .refl _ _, .refl _ _, .refl _ _, .refl _ _, rfl⟩
      rw [List.forall_mem_cons, List.forall_mem_singleton]
      exact ⟨.release, .command _⟩
    rw [Entry.releases, List.replicate_succ, List.flatten_cons]
    exact hone.append ih

theorem start (hes : OfPoll .serviceStart (timed .serviceStart) es) :
    Balances timed 0 0 0 (.command "start" :: es) := by
  cases hes with
  | counted he =>
    refine ⟨?_, .refl _ _, .refl _ _, .refl _ _, .refl _ _, rfl⟩
    exact List.forall_mem_cons.mpr ⟨.command _, List.forall_mem_singleton.mpr he⟩
  | overlong ht =>
    refine ⟨?_, .of_not ht (Nat.zero_le _), .refl _ _, .refl _ _, .refl _ _, rfl⟩
    exact List.forall_mem_singleton.mpr (.command _)

theorem snapshot (hes : OfPoll .snapshot (timed .snapshot) es) : Balances timed 1 0 0 es := by
  cases hes with
  | counted he =>
    exact ⟨List.forall_mem_singleton.mpr he, .refl _ _, .refl _ _, .refl _ _, .refl _ _, rfl⟩
  | overlong ht =>
    exact ⟨nofun, .refl _ _, .of_not ht (Nat.zero_le _), .refl _ _, .refl _ _, rfl⟩

theorem stop (hes : OfPoll .serviceStop (timed .serviceStop) es) : Balances timed 0 1 0 es := by
  cases hes with
  | counted he =>
    exact ⟨List.forall_mem_singleton.mpr he, .refl _ _, .refl _ _, .refl _ _, .refl _ _, rfl⟩
  | overlong ht =>
    exact ⟨nofun, .refl _ _, .refl _ _, .of_not ht (Nat.zero_le _), .refl _ _, rfl⟩

end Balances

end Entry

/-! ### Tallies to which entries were posted -/

section Tallies

variable {τ : Type} [Time τ]

/-- What every entry with a property adds one to counts the entries with that property. -/
theorem Entry.postAll_eq {f : Tally τ → Nat} {p : Entry τ → Bool}
    (hf : ∀ e t, f (e.post t) = f t + if p e then 1 else 0) (es : List (Entry τ)) :
    ∀ t, f (postAll es t) = f t + es.countP p := by
  induction es with
  | nil => exact fun _ => rfl
  | cons e es ih =>
    intro t
    have hrest : f (postAll es (e.post t)) = f t + (if p e then 1 else 0) + es.countP p := by
      rw [ih, hf]
    rw [List.countP_cons, Nat.add_comm (es.countP p), ← Nat.add_assoc]
    exact hrest

namespace Tally

theorem commandCount_postAll (name : String) (es : List (Entry τ)) (t : Tally τ) :
    (Entry.postAll es t).commandCount name =
      t.commandCount name + es.countP (Entry.isCommand name) := by
  refine Entry.postAll_eq (fun e t => ?_) es t
  cases e with
  | command name' =>
    rw [Entry.post, commandCount_countCommand, Entry.isCommand]
    simp only [decide_eq_true_eq]
  | _ => rfl

theorem waitTotal_postAll (kind : WaitKind) (es : List (Entry τ)) (t : Tally τ) :
    (Entry.postAll es t).waitTotal kind.word =
      t.waitTotal kind.word + es.countP (Entry.isWait kind) := by
  refine Entry.postAll_eq (fun e t => ?_) es t
  cases e with
  | wait kind' outcome elapsed =>
    rw [Entry.post, waitTotal_recordWait, Entry.isWait]
    simp only [decide_eq_true_eq, WaitKind.word_injective.eq_iff]
  | _ => rfl

/-- The durations that were observed are those of the polls that came to a result, and delays have
none. -/
structure Consistent (t : Tally τ) : Prop where
  /-- Those of polls. -/
  polled : ∀ kind ≠ WaitKind.propagation, t.observed kind.word =
    t.waitCount kind.word Outcome.converged.word + t.waitCount kind.word Outcome.interrupted.word
  /-- Those of delays. -/
  delayed : t.histogram? WaitKind.propagation.word = none

namespace Consistent

variable {t : Tally τ} {e : Entry τ}

omit [Time τ] in
theorem empty (scope : String) : Consistent (.empty scope : Tally τ) :=
  ⟨fun _ _ => rfl, rfl⟩

/-- Regular entries keep a tally consistent. -/
theorem post (ht : t.Consistent) (he : e.Regular) : (e.post t).Consistent := by
  cases he with
  | command | delay | release => exact ⟨ht.polled, ht.delayed⟩
  | delayed outcome =>
    refine ⟨fun kind hkind => ?_, ht.delayed⟩
    have hne : WaitKind.propagation.word ≠ kind.word := fun h =>
      hkind (WaitKind.word_injective h).symm
    simp only [Entry.post, waitCount_recordWait, hne, false_and, if_false, Nat.add_zero]
    exact ht.polled kind hkind
  | @ended kind' outcome x hkind' houtcome hx =>
    refine ⟨fun kind hkind => ?_, ?_⟩
    · have h := ht.polled kind hkind
      have hwords : Outcome.converged.word ≠ Outcome.interrupted.word := by decide
      simp only [Entry.post, observed_recordWait _ _ _ hx, waitCount_recordWait]
      rcases houtcome with rfl | rfl
      · simp only [hwords, and_true, and_false, if_false]
        omega
      · simp only [hwords.symm, and_true, and_false, if_false]
        omega
    · have hne : kind'.word ≠ WaitKind.propagation.word := fun h =>
        hkind' (WaitKind.word_injective h)
      exact (histogram?_recordWait_some _ _ _ _ hne).trans ht.delayed
  | @failed kind' outcome hkind' hconverged hinterrupted =>
    refine ⟨fun kind hkind => ?_, ht.delayed⟩
    simp only [Entry.post, waitCount_recordWait, hconverged, hinterrupted, and_false, if_false,
      Nat.add_zero]
    exact ht.polled kind hkind

/-- Regular entries keep a tally consistent, however many they are. -/
theorem postAll {es : List (Entry τ)} (hes : ∀ e ∈ es, e.Regular) :
    ∀ {t : Tally τ}, t.Consistent → (Entry.postAll es t).Consistent := by
  induction es with
  | nil => exact id
  | cons e es ih =>
    intro t ht
    obtain ⟨he, hes⟩ := List.forall_mem_cons.mp hes
    exact ih hes (ht.post he)

end Consistent

end Tally

end Tallies

/-! ### Faults that are counted -/

/-- The fault of a wait that is counted as a time-out or as an error. -/
def Fault.Counted {τ : Type} (e : Fault τ) : Prop :=
  e.isA .timeout = true ∨ e.isA .aborted = true

/-- With nothing but failures that are reported, what fails is counted, unless a pause of some length
is too long to be timed. -/
def CountedIfGentle {τ α : Type} (seconds : τ) (r : Except (Fault τ) α)
    (is : List (Incident τ)) : Prop :=
  (∀ i ∈ is, i.Gentle) →
    ∀ e, r = .error e → e.Counted ∨ .paused seconds (.error .overlongPause) ∈ is

section Faults

variable {σ τ : Type} [Time τ] {h : Station τ} {w : World σ τ} {seconds : τ}

omit [Time τ] in
/-- A poll whose looks fail with exceptions only fails with a fault that is counted, or with a
pause. -/
theorem Polled.counted {answer : Incident τ → Option (Except (Fault τ) Bool)}
    {transient : List Fault.Kind} {v : Poll.Verdict τ} {is : List (Incident τ)}
    (hv : Polled seconds answer transient v is)
    (hexception : ∀ i, i.Gentle → ∀ e, answer i = some (.error e) → e.isA .exception = true) :
    CountedIfGentle seconds v is := by
  rintro hg e rfl
  cases hv with
  | timedOut => exact Or.inl (Or.inl rfl)
  | failed hb ha =>
    have hlast := hg _ (List.mem_append_right _ (List.mem_singleton_self _))
    rw [if_pos (hexception _ hlast _ ha)]
    exact Or.inl (Or.inr rfl)
  | overlong => exact Or.inr (List.mem_append_right _ (List.mem_singleton_self _))

theorem Station.Tells.bind_counted {α β : Type} {x : Act σ τ α} {f : α → Act σ τ β}
    (hx : h.Tells w x (CountedIfGentle seconds))
    (hf : ∀ a, h.Tells w (f a) (CountedIfGentle seconds)) :
    h.Tells w (x >>= f) (CountedIfGentle seconds) := by
  refine hx.bind (fun e is hc hg e' he => hc hg e' ?_) fun a is _ => (hf a).weaken ?_
  · cases he
    rfl
  · intro r is' hc hg e he
    exact (hc (fun i hi => hg i (List.mem_append_right _ hi)) e he).imp_right
      (List.mem_append_right _)

namespace Station

theorem tells_waitFor_counted (hmax : 1 ≤ h.service.maxAttempts)
    (hinterval : ¬ h.service.interval < 0) (description : String) (goal : Status) :
    h.Tells w (h.service.waitFor description goal) (CountedIfGentle h.service.interval) :=
  (tells_waitFor hmax hinterval description goal).weaken fun _ _ hv =>
    hv.counted fun _ hg _ hi => CommandLine.isA_exception_of_shows hg hi

theorem tells_waitForSnapshot_counted (hp : h.snapshot.Accepted) {n : Nat}
    (hn : h.snapshot.allowance.maxAttempts = some n)
    (hunlimited : h.snapshot.allowance.maxDuration = none) :
    h.Tells w h.waitForSnapshot (CountedIfGentle h.snapshot.interval) := by
  refine (tells_waitForSnapshot hp hn hunlimited).weaken fun _ _ hv => hv.counted fun i hg e hi => ?_
  obtain rfl := CommandLine.eq_lookedUp hi
  exact hg e rfl

/-- A start that fails is counted, whether it was its statement that failed or the wait. -/
theorem tells_startCapture_counted (hmax : 1 ≤ h.service.maxAttempts)
    (hinterval : ¬ h.service.interval < 0) :
    h.Tells w h.startCapture (CountedIfGentle h.service.interval) := by
  refine Quiet.bind (Quiet.count _) fun _ => Tells.observe ?_
  refine Quiet.bind (Quiet.note rfl) fun _ => Tells.bind_counted ?_ fun _ =>
    Tells.bind_counted ?_ fun result => ?_
  -- The statement: a failure of it is reported as a start that timed out.
  · refine (tells_send .start none).rethrow (fun _ _ _ _ => nofun) ?_
    rintro e is rfl hg e' he'
    have hcommand : e.isA .command = true := hg _ (List.mem_singleton_self _) e rfl
    cases he'
    rw [if_pos hcommand]
    exact Or.inl (Or.inl rfl)
  -- The wait: its failure is reported likewise if it comes with a report, and else as it is.
  · refine (tells_waitFor_counted hmax hinterval _ _).handle (fun _ _ hc => hc) fun e is hc => ?_
    have hsame : h.Tells w (throw e : Act σ τ (WaitResult τ)) fun r is' =>
        CountedIfGentle h.service.interval r (is ++ is') := .throw (by rwa [List.append_nil])
    split
    · split
      · refine .throw fun _ e' he' => ?_
        cases he'
        exact Or.inl (Or.inl rfl)
      · exact hsame
    · exact hsame
  · have hresult : h.Tells w (pure result) (CountedIfGentle h.service.interval) :=
      .pure fun _ => nofun
    split
    · exact Quiet.bind (Quiet.note rfl) fun _ => hresult
    · exact hresult

end Station

end Faults

/-! ### One step -/

namespace Station

open Act Session

variable {σ τ : Type} [Time τ]

section Polls

variable [Time.Measured τ] {h : Station τ} {w : World σ τ} {s : Session σ τ}

/-- A wait is entered once, if it fails only with faults that are counted. -/
theorem ofPoll_entries (kind : WaitKind) {timed : Prop} {r : Except (Fault τ) (WaitResult τ)}
    (hkind : kind ≠ .propagation) (hok : ∀ result, r = .ok result → result.OfPoll)
    (he : ∀ e, r = .error e → e.Counted ∨ ¬ timed) : Entry.OfPoll kind timed (kind.entries r) := by
  rcases r with e | result
  · rw [WaitKind.entries]
    split
    · exact .counted (.failed hkind (by decide) (by decide))
    next htimeout =>
      split
      · exact .counted (.failed hkind (by decide) (by decide))
      next haborted =>
        exact .overlong ((he e rfl).resolve_left fun hc => hc.elim htimeout haborted)
  · obtain ⟨houtcome, d, hd⟩ := hok result rfl
    refine .counted (.ended hkind houtcome ?_)
    rw [hd]
    exact Time.Measured.clamp_le_self d

/-- An operation that ends with a poll enters it once, unless the pauses of the poll cannot be
timed. -/
theorem exists_enters_polled (kind : WaitKind) (hkind : kind ≠ .propagation)
    (before : List (Entry τ)) {x : Act σ τ (WaitResult τ)} {seconds : τ}
    (hx : Yields Enters w x fun r es => es = before ++ kind.entries r)
    (htells : h.Tells w x (CountedIfGentle seconds)) (hanswers : Answers WaitResult.OfPoll x)
    (hg : ∀ is, h.Account w s is (x w s).2 → ∀ i ∈ is, i.Gentle) :
    ∃ es, s.Enters (before ++ es) (x w s).2 ∧ Entry.OfPoll kind (w.Times seconds) es := by
  obtain ⟨_, hes, rfl⟩ := hx s
  obtain ⟨is, ha, hc⟩ := htells s
  refine ⟨_, hes, ofPoll_entries kind hkind
    (fun result hr => hanswers w s result _ (Prod.ext hr rfl)) fun e he => ?_⟩
  refine (hc (hg is ha) e he).imp_right fun hmem => ?_
  obtain ⟨-, t, t', -, hi⟩ := ha.exists_happens hmem
  exact hi.not_times

/-- How long the pauses of a kind of waits are. -/
def pauseOf (h : Station τ) : WaitKind → τ
  | .serviceStart | .serviceStop => h.service.interval
  | .propagation => h.propagation.seconds
  | .snapshot => h.snapshot.interval

/-- The pauses of a kind of waits can be timed. -/
def Timed (h : Station τ) (w : World σ τ) (kind : WaitKind) : Prop :=
  w.Times (h.pauseOf kind)

theorem exists_enters_waitForSnapshot (hp : h.snapshot.Accepted) {n : Nat}
    (hn : h.snapshot.allowance.maxAttempts = some n)
    (hunlimited : h.snapshot.allowance.maxDuration = none)
    (hg : ∀ is, h.Account w s is (h.waitForSnapshot w s).2 → ∀ i ∈ is, i.Gentle) :
    ∃ es, s.Enters es (h.waitForSnapshot w s).2 ∧ Entry.Balances (h.Timed w) 1 0 0 es := by
  obtain ⟨es, hes, hpolled⟩ := exists_enters_polled .snapshot nofun []
    (h.yields_waitForSnapshot w) (tells_waitForSnapshot_counted hp hn hunlimited)
    (answers_observe _ (Poll.answers_wait _)) hg
  exact ⟨es, hes, .snapshot hpolled⟩

variable (hmax : 1 ≤ h.service.maxAttempts) (hinterval : ¬ h.service.interval < 0)

include hmax hinterval

theorem exists_enters_startCapture
    (hg : ∀ is, h.Account w s is (h.startCapture w s).2 → ∀ i ∈ is, i.Gentle) :
    ∃ es, s.Enters es (h.startCapture w s).2 ∧ Entry.Balances (h.Timed w) 0 0 0 es := by
  have hanswers : Answers WaitResult.OfPoll (h.startCapture : Act σ τ _) :=
    (Answers.true _).bind fun _ _ => answers_observe _ h.service.answers_start
  obtain ⟨es, hes, hpolled⟩ := exists_enters_polled .serviceStart nofun
    [.command "start"] (h.yields_startCapture w) (tells_startCapture_counted hmax hinterval)
    hanswers hg
  exact ⟨_, hes, .start hpolled⟩

/-- A stop is only waited for if its statement succeeds. -/
theorem exists_enters_stopCaptureAndWait
    (hg : ∀ is, h.Account w s is (h.stopCaptureAndWait w s).2 → ∀ i ∈ is, i.Gentle) :
    ∃ es, s.Enters es (h.stopCaptureAndWait w s).2 ∧
      Entry.Balances (h.Timed w) 0 (if (h.stopCapture w s).1.isOk then 1 else 0) 0 es := by
  obtain ⟨_, hstop, rfl⟩ := h.yields_stopCapture w s
  obtain ⟨before, hbefore, -⟩ := tells_stopCapture (h := h) (w := w) s
  rcases hr : h.stopCapture w s with ⟨e | u, s₁⟩ <;> rw [hr] at hstop hbefore
  · rw [stopCaptureAndWait, bind_of_error hr]
    exact ⟨_, hstop, .command (by decide) (by decide)⟩
  · rw [stopCaptureAndWait, bind_of_ok hr] at hg ⊢
    obtain ⟨es, hwait, hpolled⟩ := exists_enters_polled .serviceStop (by decide) []
      (h.yields_waitUntilStopped w) (Tells.observe (tells_waitFor_counted hmax hinterval _ _))
      (answers_observe _ (h.service.answers_waitFor _ _))
      fun is ha i hi => hg _ (hbefore.trans ha) i (List.mem_append_right _ hi)
    have hcommand : Entry.Balances (h.Timed w) 0 0 0 [(.command "stop" : Entry τ)] :=
      .command (by decide) (by decide)
    exact ⟨_, hstop.trans hwait, hcommand.append (.stop hpolled)⟩

end Polls

/-! ### Courses -/

/-- The use is a wait for the snapshot. -/
def Use.awaitsSnapshot : Use → Bool
  | operation .waitForSnapshot => true
  | _ => false

/-- The use removes the registration of a table. -/
def Use.disables : Use → Bool
  | operation (.disable _ _) => true
  | _ => false

/-- In the step, the program is told to stop and to be waited for, and the statement succeeds. -/
def stops (h : Station τ) (w : World σ τ) : Use × Session σ τ → Bool
  | (.operation .stopAndWait, s) => (h.stopCapture w s).1.isOk
  | _ => false

/-- The steps of a course, each with the session in which it begins. -/
def course (h : Station τ) (w : World σ τ) : List Use → Session σ τ → List (Use × Session σ τ)
  | [], _ => []
  | u :: uses, s => (u, s) :: h.course w uses (h.use u w s).2

/-- If the step performs an operation, then nothing happens in it but failures that are reported. -/
def GentleStep (h : Station τ) (w : World σ τ) (step : Use × Session σ τ) : Prop :=
  ∀ op, step.1 = .operation op → ∀ is, h.Account w step.2 is (h.perform op w step.2).2 →
    ∀ i ∈ is, i.Gentle

theorem runs_cons_snd (h : Station τ) (w : World σ τ) (u : Use) (uses : List Use)
    (s : Session σ τ) : (h.runs (u :: uses) w s).2 = (h.runs uses w (h.use u w s).2).2 := by
  rw [runs, List.mapM_cons, bind_of_ok (attempt_apply _), bind_pure_snd]
  rfl

section Steps

variable [Time.Measured τ] {h : Station τ} {w : World σ τ}
  (hmax : 1 ≤ h.service.maxAttempts) (hinterval : ¬ h.service.interval < 0)
  (hp : h.snapshot.Accepted) {n : Nat} (hn : h.snapshot.allowance.maxAttempts = some n)
  (hunlimited : h.snapshot.allowance.maxDuration = none)

include hmax hinterval hp hn hunlimited

/-- What an operation enters balances. -/
theorem exists_enters_perform (op : Operation) (s : Session σ τ)
    (hg : ∀ is, h.Account w s is (h.perform op w s).2 → ∀ i ∈ is, i.Gentle) :
    ∃ es, s.Enters es (h.perform op w s).2 ∧
      Entry.Balances (h.Timed w) (if (Use.operation op).awaitsSnapshot then 1 else 0)
        (if h.stops w (.operation op, s) then 1 else 0)
        (if (Use.operation op).disables then 1 else 0) es := by
  have hunentered {α : Type} {x : Act σ τ α} (hx : Moves SameBooks x) :
      ∃ es, s.Enters es (x w s).2 ∧ Entry.Balances (h.Timed w) 0 0 0 es := ⟨[], hx w s, .nil⟩
  cases op <;> rw [perform, bind_pure_snd] at hg ⊢
  case start => exact exists_enters_startCapture hmax hinterval hg
  case stop =>
    obtain ⟨_, hes, rfl⟩ := h.yields_stopCapture w s
    exact ⟨_, hes, .command (by decide) (by decide)⟩
  case stopAndWait => exact exists_enters_stopCaptureAndWait hmax hinterval hg
  case status => exact hunentered h.carries_sameBooks.status
  case refresh =>
    obtain ⟨_, hes, _, rfl, hdelayed⟩ := h.yields_refreshAndWait w s
    exact ⟨_, hes, (Entry.Balances.command (by decide) (by decide)).append (.delayed hdelayed)⟩
  case waitForPropagation =>
    obtain ⟨_, hes, hdelayed⟩ := h.yields_waitForPropagation w s
    exact ⟨_, hes, .delayed hdelayed⟩
  case waitForSnapshot => exact exists_enters_waitForSnapshot hp hn hunlimited hg
  case enable schema table =>
    obtain ⟨_, hes, rfl⟩ := h.yields_enableTable w schema table s
    exact ⟨_, hes, .command (by decide) (by decide)⟩
  case disable schema table =>
    obtain ⟨_, hes, rfl⟩ := h.yields_disableTable w schema table s
    exact ⟨_, hes, List.forall_mem_singleton.mpr (.command _), .refl _ _, .refl _ _, .refl _ _,
      .refl _ _, rfl⟩
  case setState schema table state =>
    obtain ⟨_, hes, _, rfl, hdelayed⟩ := h.yields_setTableState w schema table state s
    refine ⟨_, hes, (Entry.Balances.command ?_ ?_).append (.delayed hdelayed)⟩ <;>
      cases state <;> decide
  case changeTable schema table => exact hunentered (h.carries_sameBooks.changeTable _ _)
  case dropAll schema =>
    obtain ⟨_, hes, n, _, rfl, r, hdelayed⟩ := h.yields_dropAllTables w schema s
    exact ⟨_, hes, (Entry.Balances.releases n).append (.delayed hdelayed)⟩

/-- One step: what is entered balances. -/
theorem exists_enters_use (u : Use) (s : Session σ τ) (hg : h.GentleStep w (u, s)) :
    ∃ es, s.Enters es (h.use u w s).2 ∧
      Entry.Balances (h.Timed w) (if u.awaitsSnapshot then 1 else 0)
        (if h.stops w (u, s) then 1 else 0) (if u.disables then 1 else 0) es := by
  cases u with
  | operation op =>
    rw [use, bind_pure_snd]
    exact exists_enters_perform hmax hinterval hp hn hunlimited op s (hg op rfl)
  | cancel | reset => exact ⟨[], .of_eq rfl rfl, .nil⟩
  | close =>
    rw [use, bind_pure_snd]
    exact ⟨[], h.sameBooks_close w s, .nil⟩

/-- What is entered in a whole course balances. -/
theorem exists_enters_runs (uses : List Use) :
    ∀ s : Session σ τ, (∀ step ∈ h.course w uses s, h.GentleStep w step) →
      ∃ es, s.Enters es (h.runs uses w s).2 ∧
        Entry.Balances (h.Timed w) (uses.countP Use.awaitsSnapshot)
          ((h.course w uses s).countP (h.stops w)) (uses.countP Use.disables) es := by
  induction uses with
  | nil => exact fun s _ => ⟨[], .of_eq rfl rfl, .nil⟩
  | cons u uses ih =>
    intro s hg
    rw [course] at hg ⊢
    obtain ⟨hfirst, hrest⟩ := List.forall_mem_cons.mp hg
    obtain ⟨es, hes, hbalances⟩ := exists_enters_use hmax hinterval hp hn hunlimited u s hfirst
    obtain ⟨es', hes', hbalances'⟩ := ih _ hrest
    rw [runs_cons_snd, List.countP_cons, List.countP_cons, List.countP_cons, Nat.add_comm,
      Nat.add_comm (List.countP (h.stops w) _), Nat.add_comm (List.countP Use.disables _)]
    exact ⟨_, hes.trans hes', hbalances.append hbalances'⟩

end Steps

/-! ### The counters -/

/-- Settings by which the program is looked at every ten thousand million seconds. -/
def rarelyLooking : Settings Rat :=
  { CommandLine.exactSettings with startInterval := 10000000000 }

/-- The station of these settings, with a probe. -/
def rareLooks : Station Rat :=
  { CommandLine.exactStation with
    service := { CommandLine.exactStation.service with interval := 10000000000 } }

end Station

end CaptureControl

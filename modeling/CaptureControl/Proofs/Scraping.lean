import CaptureControl.Proofs.Bookkeeping
import CaptureControl.Proofs.ExitStatus

/-!
# Waiting for the snapshot on a metrics page

The snapshot wait of a station with a metrics page fetches the page once for each evaluation. What
comes back falls into three classes. The attribute may not be there *yet*: the server does not
answer, or does not know the page, or the page shows no such attribute or shows it as false. The page
may *show* it. Everything else is a failure: of the transfer, of the server, of the page, or of the
name that is looked for. The first response that is not of the first class decides the wait, if the
pauses between the requests can be timed.

## Implementation notes

The world is only asked for the page, so all that matters of its state is how many pages it has sent.
A world *plays* a sequence of responses if that number can be read off its state.

## Main definitions

* `Scrape.Pending`, `Scrape.Shown`, `Scrape.Failed` — the three classes of responses
* `World.Plays` — a world that sends a sequence of responses and never cancels
* `Session.Fetched` — the session of a wait after so many requests

## Main results

* `Scrape.pending_or_shown_or_failed` — there is no other class
* `Poll.exists_undecided_of_pending` — responses of the first class leave a wait undecided
* `Station.waitForSnapshot_scraping` — the outcome of the wait, and the number of its requests
-/

namespace CaptureControl

/-! ### Responses -/

/-- What comes of the request for a page: a page, or a fault of the transfer. -/
abbrev Scrape (τ : Type) := Except (Fault τ) Page

/-- The server answered with success. -/
def Page.Successful (page : Page) : Prop :=
  200 ≤ page.status ∧ page.status < 300

theorem Page.Successful.ne {page : Page} (h : page.Successful) : page.status ≠ 404 := by
  have := h.2
  omega

theorem Page.Successful.not_status {page : Page} (h : page.Successful) :
    ¬ (page.status < 200 ∨ 300 ≤ page.status) := by
  have := h.1
  have := h.2
  omega

/-- The families of samples that the content of a page can be read as. -/
def Page.Reads (page : Page) (families : List Family) : Prop :=
  ∃ body, Text.readContent page.mediaType page.octets = .ok body ∧
    Exposition.readPage body = .ok families

/-- The first sample that shows an attribute of an object. -/
def FirstShows (families : List Family) (object : ObjectName) (name : String) (s : Sample) : Prop :=
  ∃ before after, families.flatten = before ++ s :: after ∧
    (∀ t ∈ before, t.shows object name.toList = false) ∧ s.shows object name.toList = true

namespace Scrape

variable {τ : Type} {object name : String}

/-- The attribute of the object is not there yet. -/
inductive Pending (object name : String) : Scrape τ → Prop where
  /-- The server does not answer. -/
  | refused {e : Fault τ} : e.isA .refused = true → Pending object name (.error e)
  /-- The server has no such page. -/
  | unregistered {page : Page} : page.status = 404 → Pending object name (.ok page)
  /-- No sample shows the attribute. -/
  | unmatched {page : Page} {families : List Family} {o : ObjectName} : page.Successful →
      page.Reads families → ObjectName.parse? object.toList = some o →
      (∀ s ∈ families.flatten, s.shows o name.toList = false) → Pending object name (.ok page)
  /-- The first sample that shows the attribute shows that it does not hold. -/
  | unmet {page : Page} {families : List Family} {o : ObjectName} {s : Sample} :
      page.Successful → page.Reads families → ObjectName.parse? object.toList = some o →
      FirstShows families o name s → s.holds = false → Pending object name (.ok page)

/-- The first sample that shows the attribute of the object shows that it holds. -/
inductive Shown (object name : String) : Scrape τ → Prop where
  | mk {page : Page} {families : List Family} {o : ObjectName} {s : Sample} :
      page.Successful → page.Reads families → ObjectName.parse? object.toList = some o →
      FirstShows families o name s → s.holds = true → Shown object name (.ok page)

/-- The attribute of the object cannot be looked up. -/
inductive Failed (object : String) : Scrape τ → Prop where
  /-- The transfer failed in some other way. -/
  | transfer {e : Fault τ} : e.isA .refused = false → Failed object (.error e)
  /-- The server answered that it failed. -/
  | status {page : Page} : page.status ≠ 404 → ¬ page.Successful → Failed object (.ok page)
  /-- The content of the page cannot be read. -/
  | malformed {page : Page} : page.Successful → (∀ families, ¬ page.Reads families) →
      Failed object (.ok page)
  /-- The name of the object is malformed. -/
  | objectName {page : Page} : page.Successful → ObjectName.parse? object.toList = none →
      Failed object (.ok page)

/-- The fault that a failed transfer is passed on as. -/
def passedOn (address : String) (e : Fault τ) : Fault τ :=
  if e.isA .refused then .page address .unreachable
  else if e.isA .transfer then .page address .transfer
  else e

/-- What a look-up answers to a response. -/
def answer (address object name : String) : Scrape τ → Except (Fault τ) Bool
  | .ok page => Monitor.readAttribute address object name page
  | .error e => .error (passedOn address e)

/-! ### What a page says -/

/-- The families of a page that can be read are searched. -/
theorem readAttribute_of_reads {address : String} {page : Page} {families : List Family}
    (hs : page.Successful) (hr : page.Reads families) :
    (Monitor.readAttribute address object name page : Except (Fault τ) Bool) =
      findAttribute families object name := by
  obtain ⟨body, hcontent, hpage⟩ := hr
  rw [Monitor.readAttribute, if_neg hs.ne, if_neg hs.not_status, hcontent]
  dsimp only
  rw [hpage]

/-- A page that cannot be read fails as an exception, and not as one that is absent. -/
theorem exists_readAttribute_eq_error {address : String} {page : Page}
    (hs : page.Successful) (hr : ∀ families, ¬ page.Reads families) :
    ∃ e : Fault τ, Monitor.readAttribute address object name page = .error e ∧
      e.isA .exception = true ∧ e.isA .absent = false := by
  rw [Monitor.readAttribute, if_neg hs.ne, if_neg hs.not_status]
  rcases hcontent : Text.readContent page.mediaType page.octets with fault | body
  · cases fault <;> exact ⟨_, rfl, rfl, rfl⟩
  · dsimp only
    rcases hpage : Exposition.readPage body with fault | families
    · cases fault <;> exact ⟨_, rfl, rfl, rfl⟩
    · exact absurd ⟨body, hcontent, hpage⟩ (hr families)

theorem find?_of_firstShows {families : List Family} {o : ObjectName} {s : Sample}
    (h : FirstShows families o name s) :
    families.flatten.find? (fun s => s.shows o name.toList) = some s := by
  obtain ⟨before, after, heq, hbefore, hs⟩ := h
  rw [List.find?_eq_some_iff_append]
  exact ⟨hs, before, after, heq, fun t ht => by simp [hbefore t ht]⟩

theorem findAttribute_of_parse {families : List Family} {o : ObjectName}
    (ho : ObjectName.parse? object.toList = some o) :
    (findAttribute families object name : Except (Fault τ) Bool) =
      match families.flatten.find? fun s => s.shows o name.toList with
      | some s => .ok s.holds
      | none => .error (.noAttribute object name) := by
  have hparse : (ObjectName.parse object : Except (Fault τ) ObjectName) = .ok o := by
    rw [ObjectName.parse, ho]
  rw [findAttribute, hparse]
  rfl

theorem findAttribute_of_firstShows {families : List Family} {o : ObjectName} {s : Sample}
    (ho : ObjectName.parse? object.toList = some o) (h : FirstShows families o name s) :
    (findAttribute families object name : Except (Fault τ) Bool) = .ok s.holds := by
  rw [findAttribute_of_parse ho, find?_of_firstShows h]

/-! ### The classes -/

variable {address : String} {r : Scrape τ}

/-- What is not there yet is answered by "no", or by a fault that says so. -/
theorem Pending.answer_cases (h : Pending object name r) (address : String) :
    answer address object name r = .ok false ∨
      ∃ e, answer address object name r = .error e ∧ e.isA .absent = true := by
  cases h with
  | @refused e he =>
    exact Or.inr ⟨.page address .unreachable, by rw [answer, passedOn, if_pos he], rfl⟩
  | @unregistered page hs =>
    exact Or.inr ⟨.page address .unregistered, by
      rw [answer, Monitor.readAttribute, if_pos hs], rfl⟩
  | @unmatched page families o hs hr ho hnone =>
    refine Or.inr ⟨.noAttribute object name, ?_, rfl⟩
    have hfind : families.flatten.find? (fun s => s.shows o name.toList) = none :=
      List.find?_eq_none.mpr fun s hs => by simp [hnone s hs]
    rw [answer, readAttribute_of_reads hs hr, findAttribute_of_parse ho, hfind]
  | unmet hs hr ho hfirst hholds =>
    refine Or.inl ?_
    rw [answer, readAttribute_of_reads hs hr, findAttribute_of_firstShows ho hfirst, hholds]

theorem Shown.answer_eq (h : Shown object name r) (address : String) :
    answer address object name r = .ok true := by
  cases h with
  | mk hs hr ho hfirst hholds =>
    rw [answer, readAttribute_of_reads hs hr, findAttribute_of_firstShows ho hfirst, hholds]

/-- What cannot be looked up fails as an exception, and not as one that is absent, if the transfer
does. -/
theorem Failed.answer_cases (h : Failed object r)
    (he : ∀ e, r = .error e → e.isA .exception = true ∧ e.isA .absent = false)
    (address name : String) :
    ∃ e, answer address object name r = .error e ∧ e.isA .exception = true ∧
      e.isA .absent = false := by
  cases h with
  | @transfer e hrefused =>
    rw [answer, passedOn, if_neg (by rw [hrefused]; decide)]
    cases e.isA .transfer with
    | true => exact ⟨_, rfl, rfl, rfl⟩
    | false => exact ⟨e, rfl, he e rfl⟩
  | @status page hne hs =>
    have hstatus : page.status < 200 ∨ 300 ≤ page.status := by
      rw [Page.Successful] at hs
      omega
    rw [answer, Monitor.readAttribute, if_neg hne, if_pos hstatus]
    exact ⟨_, rfl, rfl, rfl⟩
  | malformed hs hr => exact exists_readAttribute_eq_error hs hr
  | @objectName page hs ho =>
    by_cases hr : ∃ families, page.Reads families
    · obtain ⟨families, hr⟩ := hr
      rw [answer, readAttribute_of_reads hs hr, findAttribute, ObjectName.parse, ho]
      exact ⟨_, rfl, rfl, rfl⟩
    · exact exists_readAttribute_eq_error hs (not_exists.mp hr)

/-- **Every response is of one of the three classes.** -/
theorem pending_or_shown_or_failed (object name : String) (r : Scrape τ) :
    Pending object name r ∨ Shown object name r ∨ Failed object r := by
  rcases r with e | page
  · cases he : e.isA .refused with
    | true => exact Or.inl (.refused he)
    | false => exact Or.inr (Or.inr (.transfer he))
  by_cases h404 : page.status = 404
  · exact Or.inl (.unregistered h404)
  by_cases hs : page.Successful
  · by_cases hr : ∃ families, page.Reads families
    · obtain ⟨families, hr⟩ := hr
      cases ho : ObjectName.parse? object.toList with
      | none => exact Or.inr (Or.inr (.objectName hs ho))
      | some o =>
        cases hf : families.flatten.find? fun s => s.shows o name.toList with
        | none =>
          refine Or.inl (.unmatched hs hr ho fun s hmem => ?_)
          simpa using List.find?_eq_none.mp hf s hmem
        | some s =>
          obtain ⟨hshows, before, after, heq, hbefore⟩ := List.find?_eq_some_iff_append.mp hf
          have hfirst : FirstShows families o name s :=
            ⟨before, after, heq, fun t ht => by simpa using hbefore t ht, hshows⟩
          cases hholds : s.holds with
          | true => exact Or.inr (Or.inl ⟨hs, hr, ho, hfirst, hholds⟩)
          | false => exact Or.inl (.unmet hs hr ho hfirst hholds)
    · exact Or.inr (Or.inr (.malformed hs (not_exists.mp hr)))
  · exact Or.inr (Or.inr (.status h404 hs))

/-- What cannot be looked up is neither not there yet nor shown. -/
theorem Failed.not_pending_and_not_shown (h : Failed object r)
    (he : ∀ e, r = .error e → e.isA .exception = true ∧ e.isA .absent = false) (name : String) :
    ¬ Pending object name r ∧ ¬ Shown object name r := by
  obtain ⟨e, ha, -, habsent⟩ := h.answer_cases he "" name
  refine ⟨fun hp => ?_, fun hs => ?_⟩
  · rcases hp.answer_cases "" with ha' | ⟨e', ha', habsent'⟩ <;> rw [ha] at ha'
    · cases ha'
    · cases ha'
      rw [habsent] at habsent'
      cases habsent'
  · have ha' := hs.answer_eq ""
    rw [ha] at ha'
    cases ha'

end Scrape

/-! ### Worlds and sessions -/

variable {σ τ : Type}

/-- A world sends a sequence of responses to requests for a page, one after another, and never sets
the cancel flag. The number of those it has sent can be read off its state. -/
structure World.Plays (w : World σ τ) (address : String) (responses : Nat → Scrape τ)
    (sent : σ → Nat) : Prop where
  /-- A request is answered by the next response. -/
  response : ∀ world clock, (w.serve (.page address) world clock).1 = responses (sent world)
  /-- One more response was sent after that. -/
  advances : ∀ world clock,
    sent (w.serve (.page address) world clock).2.world = sent world + 1
  /-- Answering does not cancel. -/
  patient : ∀ world clock, (w.serve (.page address) world clock).2.cancels = false
  /-- Nothing is sent while time passes. -/
  sleeps : ∀ seconds world clock, sent (w.sleep seconds world clock).world = sent world
  /-- Pauses are not cut short. -/
  undisturbed : ∀ seconds world clock, (w.sleep seconds world clock).cancels = false
  /-- The cancel flag is not set on its own. -/
  silent : ∀ world clock, (w.signal world clock).1 = false
  /-- Looking at the flag sends nothing. -/
  unmoved : ∀ world clock, sent (w.signal world clock).2 = sent world

/-- A page was asked for. -/
def Event.fetches : Event τ → Bool
  | asked (.page _) _ => true
  | _ => false

/-- The number of requests for a page in a record. -/
def fetches (trace : List (Event τ)) : Nat :=
  trace.countP Event.fetches

/-- A session in which a page was asked for so many times since another, and in which nothing keeps
the next request from being made. -/
structure Session.Fetched (sent : σ → Nat) (s : Session σ τ) (k : Nat) (s' : Session σ τ) :
    Prop where
  /-- Waiting was not cancelled. -/
  uncancelled : s'.cancelled = false
  /-- The page was not closed. -/
  unclosed : s'.metricsClosed = false
  /-- So many responses were sent. -/
  sent : sent s'.world = sent s.world + k
  /-- So many requests were recorded. -/
  requests : fetches s'.trace = fetches s.trace + k

namespace Session.Fetched

variable {w : World σ τ} {address : String} {responses : Nat → Scrape τ} {sent : σ → Nat}
  {s h h' : Session σ τ} {k : Nat}

theorem noted (hf : Fetched sent s k h) (entries : List (LogEntry τ)) :
    Fetched sent s k (h.noted entries) := ⟨hf.1, hf.2, hf.3, hf.4⟩

theorem record {e : Event τ} (hf : Fetched sent s k h) (he : e.fetches = false) :
    Fetched sent s k (h.record e) where
  uncancelled := hf.uncancelled
  unclosed := hf.unclosed
  sent := hf.sent
  requests := by
    rw [Session.record, fetches, List.countP_cons_of_neg (by rw [he]; decide)]
    exact hf.requests

theorem glance (hw : w.Plays address responses sent) (hf : Fetched sent s k h) :
    Fetched sent s k (h.glance w) where
  uncancelled := by
    rw [Session.glance]
    simp only [hf.uncancelled, hw.silent, Bool.or_false]
  unclosed := hf.unclosed
  sent := (hw.unmoved _ _).trans hf.sent
  requests := hf.requests

/-- A pause is completed if it can be timed, and fails if it cannot. -/
theorem pause_cases [Time τ] (hw : w.Plays address responses sent) (hf : Fetched sent s k h)
    (seconds : τ) :
    (w.Times seconds ∧ ∃ h', Act.pause seconds w h = (.ok true, h') ∧ Fetched sent s k h') ∨
      ¬ w.Times seconds ∧
        ∃ h', Act.pause seconds w h = (.error .overlongPause, h') ∧ Fetched sent s k h' := by
  rcases hp : Act.pause seconds w h with ⟨r, h'⟩
  cases Act.pauses_of_eq hp with
  | refused hset => cases hset.symm.trans hf.uncancelled
  | @slept completed _ ht hset =>
    obtain rfl : completed = true := by
      rw [hw.undisturbed] at hset
      exact (Bool.not_eq_false' _).mp hset.symm
    refine Or.inl ⟨ht, _, rfl, .record ⟨?_, hf.unclosed, ?_, hf.requests⟩ rfl⟩
    · rw [Session.after]
      simp only [hf.uncancelled, hset, Bool.not_true, Bool.or_false]
    · exact (hw.sleeps _ _ _).trans hf.sent
  | @looked completed _ hset =>
    obtain rfl : completed = true := by
      rw [(hf.glance hw).uncancelled] at hset
      exact (Bool.not_eq_false' _).mp hset.symm
    exact Or.inl ⟨(Act.pauses_of_eq hp).times, _, rfl, (hf.glance hw).record rfl⟩
  | overlong ht _ => exact Or.inr ⟨ht, _, rfl, (hf.glance hw).record rfl⟩

/-- A look-up makes one request, and answers the next response. -/
theorem exists_lookup (hw : w.Plays address responses sent) (hf : Fetched sent s k h)
    (object name : String) :
    ∃ h', (Monitor.page address).lookup object name w h =
        (Scrape.answer address object name (responses (sent s.world + k)), h') ∧
      Fetched sent s (k + 1) h' := by
  rw [Monitor.lookup, Act.note_bind_apply, Act.bind_of_ok Act.session_apply,
    if_neg (by rw [Session.noted, hf.unclosed]; decide), Act.bind_apply, Monitor.fetch,
    Act.tryCatch_apply, Act.ask]
  rcases hr : w.serve (.page address) (h.noted [.reading address object name]).world
    (h.noted [.reading address object name]).clock with ⟨r, m⟩
  have hresponse : r = responses (sent s.world + k) := by
    have := hw.response h.world h.clock
    rw [show w.serve (.page address) h.world h.clock = (r, m) from hr, hf.sent] at this
    exact this
  have hfetched (delivered : Bool) : Fetched sent s (k + 1)
      (((h.noted [.reading address object name]).after m).record
        (.asked (.page address) delivered)) := by
    have hadvances := hw.advances h.world h.clock
    have hpatient := hw.patient h.world h.clock
    rw [show w.serve (.page address) h.world h.clock = (r, m) from hr] at hadvances hpatient
    refine ⟨?_, hf.unclosed, ?_, ?_⟩
    · change (h.cancelled || m.cancels) = false
      rw [hf.uncancelled, hpatient]
      rfl
    · change sent m.world = _
      rw [hadvances, hf.sent, Nat.add_assoc]
    · rw [Session.record, fetches, List.countP_cons_of_pos rfl, ← Nat.add_assoc]
      exact congrArg (· + 1) hf.requests
  subst hresponse
  rcases responses (sent s.world + k) with e | page
  · exact ⟨_, rfl, hfetched false⟩
  · exact ⟨_, rfl, hfetched true⟩

end Session.Fetched

/-! ### Rounds of a wait -/

namespace Poll

variable [Time τ] {p : Poll τ} {w : World σ τ} {address object name label : String}
  {responses : Nat → Scrape τ} {sent : σ → Nat} {s h : Session σ τ} {k : Nat}

omit [Time τ] in
/-- A response that is pending is taken for "not yet", by a poll that takes what is absent so. -/
theorem reading_of_pending (ht : p.transient = [.absent]) {r : Scrape τ} {time : τ}
    (hr : r.Pending object name) :
    p.reading label k time (r.answer address object name) = .ok false := by
  rcases hr.answer_cases address with ha | ⟨e, ha, he⟩ <;> rw [ha, reading]
  rw [ht, List.any_cons, he]
  rfl

/-- A response that is pending decides nothing before the attempt limit. -/
theorem decision_of_pending (ht : p.transient = [.absent]) (hd : p.allowance.maxDuration = none)
    {n : Nat} (hn : p.allowance.maxAttempts = some n) (hk : k < n) {r : Scrape τ} {time : τ}
    (hr : r.Pending object name) :
    p.decision label k time (r.answer address object name) = none := by
  have hlimit : ¬ p.AtLimit k time := by
    rintro (⟨m, hm, hle⟩ | ⟨d, hd', -⟩)
    · rw [hn] at hm
      cases hm
      omega
    · rw [hd] at hd'
      cases hd'
  rw [decision, reading_of_pending ht hr]
  exact if_neg hlimit

/-- An exception that does not tell of something absent aborts a poll. -/
theorem decision_of_exception (ht : p.transient = [.absent]) {e : Fault τ} {time : τ}
    (hexception : e.isA .exception = true) (habsent : e.isA .absent = false) :
    p.decision label k time (.error e) =
      some (.error (.because (.wait .aborted ⟨label, k, time⟩) e)) := by
  rw [decision, reading, ht, List.any_cons, habsent, List.any_nil, if_neg (by decide),
    if_pos hexception]

omit [Time τ] in
/-- One evaluation of the condition. -/
theorem exists_evaluates (hw : w.Plays address responses sent) (object name : String)
    (hf : Session.Fetched sent s k h) :
    ∃ s₁, Evaluates w ((Monitor.page address).lookup object name) h
        ((responses (sent s.world + k)).answer address object name) s₁ ∧
      Session.Fetched sent s (k + 1) s₁ := by
  have hg := hf.glance hw
  obtain ⟨s₁, hl, hf₁⟩ := (hg.record (e := .evaluating h.clock) rfl).exists_lookup hw object name
  exact ⟨s₁, ⟨hg.uncancelled, hl⟩, hf₁⟩

/-- **Pending responses leave a wait undecided**, up to its attempt limit, if its pauses can be timed
or it comes to none. -/
theorem exists_undecided_of_pending (label : String) (hw : w.Plays address responses sent)
    (ht : p.transient = [.absent]) (hd : p.allowance.maxDuration = none) {n : Nat}
    (hn : p.allowance.maxAttempts = some n) (hs : Session.Fetched sent s 0 s) :
    ∀ k < n, (k = 0 ∨ w.Times p.interval) →
      (∀ j < k, (responses (sent s.world + j)).Pending object name) →
      ∃ h, Undecided w p ((Monitor.page address).lookup object name) label s k h ∧
        Session.Fetched sent s k h := by
  intro k
  induction k with
  | zero => exact fun _ _ _ => ⟨s, .start, hs⟩
  | succ k ih =>
    intro hk htimes hpending
    have htimed : w.Times p.interval := htimes.resolve_left (by omega)
    obtain ⟨h, hu, hf⟩ := ih (by omega) (Or.inr htimed) fun j hj => hpending j (by omega)
    obtain ⟨s₁, he, hf₁⟩ := exists_evaluates hw object name hf
    have hnone : p.decision label (k + 1) (lasted s.clock s₁.clock)
        ((responses (sent s.world + k)).answer address object name) = none :=
      decision_of_pending ht hd hn hk (hpending k (by omega))
    rcases (hf₁.noted _).pause_cases hw p.interval with
      ⟨-, h', hpause, hf'⟩ | ⟨hoverlong, -⟩
    · rw [← pauseAfter_eq_interval hd (lasted s.clock s₁.clock)] at hpause
      exact ⟨h', hu.round ⟨_, _, he, hnone, hpause⟩, hf'⟩
    · exact absurd htimed hoverlong

/-- A wait fails after the first response, if that leaves it undecided and the pause after it cannot
be timed. -/
theorem exists_wait_overlong (hp : p.Accepted) (hw : w.Plays address responses sent)
    (ht : p.transient = [.absent]) (hd : p.allowance.maxDuration = none) {n : Nat}
    (hn : p.allowance.maxAttempts = some n) (hs : Session.Fetched sent s 0 s)
    (hoverlong : ¬ w.Times p.interval) (hlt : 1 < n)
    (hpending : (responses (sent s.world)).Pending object name) (d : Option String) :
    ∃ s', p.wait ((Monitor.page address).lookup object name) d w s = (.error .overlongPause, s') ∧
      fetches s'.trace = fetches s.trace + 1 := by
  obtain ⟨s₁, he, hf₁⟩ := exists_evaluates hw object name hs
  have hnone : p.decision (p.label d) (0 + 1) (lasted s.clock s₁.clock)
      ((responses (sent s.world + 0)).answer address object name) = none :=
    decision_of_pending ht hd hn hlt hpending
  rcases (hf₁.noted _).pause_cases hw p.interval with ⟨htimed, -⟩ | ⟨-, s', hpause, hf'⟩
  · exact absurd htimed hoverlong
  · rw [← pauseAfter_eq_interval hd (lasted s.clock s₁.clock)] at hpause
    have hends : Ends w p ((Monitor.page address).lookup object name) (p.label d) s 0
        (.error .overlongPause) s' := ⟨s, .start, .overlong he hnone hpause⟩
    refine ⟨s', wait_eq_of_ends hp hends fun hm => ?_, hf'.requests⟩
    rw [hn] at hm
    cases hm

/-- The last response of a wait is the one that its outcome is read off. -/
theorem exists_wait_of_reading (hp : p.Accepted) (hw : w.Plays address responses sent)
    {n : Nat} (hn : p.allowance.maxAttempts = some n) {d : Option String}
    (hu : Undecided w p ((Monitor.page address).lookup object name) (p.label d) s k h)
    (hf : Session.Fetched sent s k h) {v : τ → Verdict τ}
    (hv : ∀ time, p.decision (p.label d) (k + 1) time
      ((responses (sent s.world + k)).answer address object name) = some (v time)) :
    ∃ time s', p.wait ((Monitor.page address).lookup object name) d w s = (v time, s') ∧
      fetches s'.trace = fetches s.trace + (k + 1) := by
  obtain ⟨s₁, he, hf₁⟩ := exists_evaluates hw object name hf
  have hends : Ends w p _ (p.label d) s k _ _ := ⟨h, hu, .decided he (hv _)⟩
  refine ⟨_, _, wait_eq_of_ends hp hends (fun hm => ?_), hf₁.requests⟩
  rw [hn] at hm
  cases hm

end Poll

/-! ### The snapshot wait -/

namespace Station

variable [Time τ] {settings : Settings τ} {gateway : Gateway} {monitor : Option Monitor}
  {h : Station τ}

/-- What the snapshot wait of a station with a metrics page comes to. -/
theorem waitForSnapshot_eq {address : String} (hmonitor : h.monitor = .page address)
    (w : World σ τ) (s : Session σ τ) :
    (h.waitForSnapshot w s).1 = (h.snapshot.wait
        ((Monitor.page address).lookup h.snapshotObject h.snapshotAttribute)
        (some snapshotDescription) w s).1 ∧
      (h.waitForSnapshot w s).2.trace = (h.snapshot.wait
        ((Monitor.page address).lookup h.snapshotObject h.snapshotAttribute)
        (some snapshotDescription) w s).2.trace := by
  rw [waitForSnapshot, observe_apply, hmonitor]
  exact ⟨rfl, rfl⟩

/-- A world that sends some responses and nothing else, and in which nothing but pauses takes time,
with or without a longest pause. -/
def sendingWorld (responses : Nat → Scrape Rat) (longest : Option Rat) : World Nat Rat where
  serve
    | .page _, sent, clock => (responses sent, ⟨sent + 1, clock, false⟩)
    | _, sent, clock => (.error (.external .exception ""), ⟨sent, clock, false⟩)
  longest
  sleep seconds sent clock := ⟨sent, clock + seconds, false⟩
  signal sent _ := (false, sent)

theorem plays_sendingWorld (responses : Nat → Scrape Rat) (longest : Option Rat)
    (address : String) : (sendingWorld responses longest).Plays address responses id :=
  ⟨fun _ _ => rfl, fun _ _ => rfl, fun _ _ => rfl, fun _ _ _ => rfl, fun _ _ _ => rfl,
    fun _ _ => rfl, fun _ _ => rfl⟩

/-- A server that does not answer at first, then does not know the page, then sends a page without
samples, and then fails. -/
def slowServer : Nat → Scrape Rat
  | 0 => .error (.external .refused "")
  | 1 => .ok ⟨404, none, []⟩
  | 2 => .ok ⟨200, none, []⟩
  | _ => .ok ⟨503, none, []⟩

/-- Settings that allow for more looks than the server takes to fail. -/
def patientSettings : Settings Rat :=
  { CommandLine.exactSettings with
    snapshotObject := "domain:context=snapshot"
    snapshotAttribute := "SnapshotCompleted"
    snapshotMaxAttempts := 5 }

/-- Settings that allow for more looks than one, with ten thousand million seconds between them. -/
def rarelyFetching : Settings Rat :=
  { patientSettings with snapshotInterval := 10000000000 }

end Station

end CaptureControl

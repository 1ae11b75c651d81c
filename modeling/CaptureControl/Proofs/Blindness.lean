import CaptureControl.Proofs.Composition

/-!
# What actions do not see

What an action does depends on the world, the clock, the cancel flag, the connection that is held,
the numbers of connections, and on whether the metrics were closed. It does not depend on what was
recorded, logged, written and counted before. So from two sessions that agree in the former, an
action has the same outcome, and it adds the same to the records of both.

## Main definitions

* `Session.Agrees` — two sessions agree in all that actions depend on
* `Session.Twins` — two sessions that agree have come from two others in the same way
* `Act.Blind` — an action comes to the same from sessions that agree

## Main results

* `Act.Blind.rounds` — polls are blind
* `Station.blind_perform` — so are all operations of a station
-/

namespace CaptureControl

namespace Session

variable {σ τ : Type} {s t s' t' s'' t'' : Session σ τ}

/-- Two sessions agree in all that actions depend on. -/
structure Agrees (s t : Session σ τ) : Prop where
  /-- The state of the world is the same. -/
  world : t.world = s.world
  /-- The clock reading is the same. -/
  clock : t.clock = s.clock
  /-- The cancel flag is the same. -/
  cancelled : t.cancelled = s.cancelled
  /-- The connection that is held is the same. -/
  held : t.held = s.held
  /-- The number of connections opened so far is the same. -/
  opened : t.opened = s.opened
  /-- The source of the metrics is closed in both, or in neither. -/
  metricsClosed : t.metricsClosed = s.metricsClosed

theorem Agrees.glance (h : s.Agrees t) (w : World σ τ) : (s.glance w).Agrees (t.glance w) := by
  unfold Session.glance
  rw [h.world, h.clock]
  exact ⟨rfl, rfl, congrArg (· || _) h.cancelled, h.held, h.opened, h.metricsClosed⟩

/-- Two sessions agree, and have recorded, logged and written the same since two others. -/
structure Twins (s t s' t' : Session σ τ) : Prop where
  /-- They agree. -/
  agrees : s'.Agrees t'
  /-- The same events were recorded. -/
  trace : ∃ events, s'.trace = events ++ s.trace ∧ t'.trace = events ++ t.trace
  /-- The same was logged. -/
  log : ∃ entries, s'.log = entries ++ s.log ∧ t'.log = entries ++ t.log
  /-- The same was written for the user. -/
  output : ∃ lines, s'.output = lines ++ s.output ∧ t'.output = lines ++ t.output

namespace Twins

theorem of_agrees (h : s'.Agrees t') (hs : s'.trace = s.trace) (ht : t'.trace = t.trace)
    (hsl : s'.log = s.log) (htl : t'.log = t.log) (hso : s'.output = s.output)
    (hto : t'.output = t.output) : Twins s t s' t' :=
  ⟨h, ⟨[], hs, ht⟩, ⟨[], hsl, htl⟩, ⟨[], hso, hto⟩⟩

theorem refl (h : s.Agrees t) : Twins s t s t :=
  of_agrees h rfl rfl rfl rfl rfl rfl

theorem trans (h : Twins s t s' t') (h' : Twins s' t' s'' t'') : Twins s t s'' t'' := by
  obtain ⟨-, ⟨events, hs, ht⟩, ⟨entries, hsl, htl⟩, lines, hso, hto⟩ := h
  obtain ⟨ha, ⟨events', hs', ht'⟩, ⟨entries', hsl', htl'⟩, lines', hso', hto'⟩ := h'
  refine ⟨ha, ⟨events' ++ events, ?_, ?_⟩, ⟨entries' ++ entries, ?_, ?_⟩, lines' ++ lines, ?_, ?_⟩
  all_goals simp only [*, List.append_assoc]

end Twins

end Session

namespace Act

variable {σ τ α β : Type}

/-- From sessions that agree an action has the same outcome, and leads to twins. -/
def Blind (x : Act σ τ α) : Prop :=
  ∀ w s t, s.Agrees t → (x w s).1 = (x w t).1 ∧ Session.Twins s t (x w s).2 (x w t).2

namespace Blind

theorem ofExcept (r : Except (Fault τ) α) : Blind (ofExcept r : Act σ τ α) :=
  fun _ _ _ h => ⟨rfl, .refl h⟩

theorem bind {x : Act σ τ α} {f : α → Act σ τ β} (hx : Blind x) (hf : ∀ a, Blind (f a)) :
    Blind (x >>= f) := by
  intro w s t h
  obtain ⟨hr, ht⟩ := hx w s t h
  rw [bind_apply, bind_apply]
  generalize x w s = p, x w t = q at hr ht
  rcases p with ⟨e | a, s'⟩ <;> rcases q with ⟨e' | a', t'⟩ <;> cases hr
  · exact ⟨rfl, ht⟩
  · obtain ⟨hr', ht'⟩ := hf a w s' t' ht.agrees
    exact ⟨hr', ht.trans ht'⟩

theorem handle {x : Act σ τ α} {f : Fault τ → Act σ τ α} (hx : Blind x) (hf : ∀ e, Blind (f e)) :
    Blind (tryCatch x f) := by
  intro w s t h
  obtain ⟨hr, ht⟩ := hx w s t h
  rw [tryCatch_apply, tryCatch_apply]
  generalize x w s = p, x w t = q at hr ht
  rcases p with ⟨e | a, s'⟩ <;> rcases q with ⟨e' | a', t'⟩ <;> cases hr
  · obtain ⟨hr', ht'⟩ := hf e w s' t' ht.agrees
    exact ⟨hr', ht.trans ht'⟩
  · exact ⟨rfl, ht⟩

theorem ensuring {x : Act σ τ α} {last : Act σ τ Unit} (hx : Blind x) (hl : Blind last) :
    Blind (x.ensuring last) := by
  intro w s t h
  obtain ⟨hr, ht⟩ := hx w s t h
  obtain ⟨hr', ht'⟩ := hl w _ _ ht.agrees
  rw [ensuring_apply, ensuring_apply, hr]
  generalize last w (x w s).2 = p, last w (x w t).2 = q at hr' ht'
  rcases p with ⟨e | u, s'⟩ <;> rcases q with ⟨e' | u', t'⟩ <;> cases hr'
  · exact ⟨rfl, ht.trans ht'⟩
  · exact ⟨rfl, ht.trans ht'⟩

theorem attempt {x : Act σ τ α} (hx : Blind x) : Blind x.attempt := by
  intro w s t h
  obtain ⟨hr, ht⟩ := hx w s t h
  exact ⟨congrArg Except.ok hr, ht⟩

theorem modify {f : Session σ τ → Session σ τ}
    (hf : ∀ s t, s.Agrees t → Session.Twins s t (f s) (f t)) : Blind (modify f) :=
  fun _ s t h => ⟨rfl, hf s t h⟩

theorem ask (r : Request) : Blind (ask r : Act σ τ r.Answer) := by
  intro w s t h
  unfold Act.ask
  rw [h.world, h.clock]
  rcases w.serve r s.world s.clock with ⟨e | a, m⟩
  all_goals
    refine ⟨rfl, ⟨rfl, rfl, ?_, h.held, h.opened, h.metricsClosed⟩, ⟨[_], rfl, rfl⟩,
      ⟨[], rfl, rfl⟩, [], rfl, rfl⟩
    exact congrArg (· || m.cancels) h.cancelled

theorem note (e : LogEntry τ) : Blind (note e : Act σ τ Unit) :=
  .modify fun _ _ h => ⟨⟨h.1, h.2, h.3, h.4, h.5, h.6⟩, ⟨[], rfl, rfl⟩, ⟨[e], rfl, rfl⟩,
    [], rfl, rfl⟩

theorem count (f : Tally τ → Tally τ) : Blind (count f : Act σ τ Unit) :=
  .modify fun _ _ h => .of_agrees ⟨h.1, h.2, h.3, h.4, h.5, h.6⟩ rfl rfl rfl rfl rfl rfl

/-- What is read of the session is the same in sessions that agree. -/
theorem session_bind {f : Session σ τ → Act σ τ α} (hf : ∀ s t, s.Agrees t → f s = f t)
    (hx : ∀ s, Blind (f s)) : Blind (session >>= f) := by
  intro w s t h
  change (f s w s).1 = (f t w t).1 ∧ Session.Twins s t (f s w s).2 (f t w t).2
  rw [hf s t h]
  exact hx t w s t h

theorem composes (allowed : String → Prop) :
    Composes allowed fun α => (Blind : Act σ τ α → Prop) where
  ofExcept := ofExcept
  bind := bind
  handle := handle
  ensuring := ensuring
  note := note
  count := count
  held hf hx := session_bind (fun s t h => hf s t h.held.symm) hx
  number _ _ _ h := ⟨congrArg Except.ok h.opened.symm,
    .of_agrees ⟨h.1, h.2, h.3, h.4, congrArg (· + 1) h.5, h.6⟩ rfl rfl rfl rfl rfl rfl⟩
  ask r _ _ := ask r

theorem pure (a : α) : Blind (Pure.pure a : Act σ τ α) :=
  ofExcept (.ok a)

/-! ### Waits -/

theorem now : Blind (now : Act σ τ τ) :=
  fun _ _ _ h => ⟨congrArg Except.ok h.clock.symm, .refl h⟩

theorem cancelled : Blind (cancelled : Act σ τ Bool) := by
  intro w s t h
  have hg := h.glance w
  exact ⟨congrArg Except.ok hg.cancelled.symm, .of_agrees hg rfl rfl rfl rfl rfl rfl⟩

variable [Time τ]

theorem pause (seconds : τ) : Blind (pause seconds : Act σ τ Bool) := by
  intro w s t h
  have hg := h.glance w
  unfold Act.pause
  split
  · rw [h.cancelled]
    split
    · exact ⟨rfl, ⟨h.1, h.2, h.3, h.4, h.5, h.6⟩, ⟨[_], rfl, rfl⟩, ⟨[], rfl, rfl⟩, [], rfl, rfl⟩
    split
    · rw [h.world, h.clock]
      refine ⟨rfl, ⟨rfl, rfl, ?_, h.held, h.opened, h.metricsClosed⟩, ⟨[_], rfl, rfl⟩,
        ⟨[], rfl, rfl⟩, [], rfl, rfl⟩
      exact congrArg (· || _) h.cancelled
    · dsimp only
      rw [hg.cancelled]
      exact ⟨rfl, ⟨hg.1, hg.2, hg.3, hg.4, hg.5, hg.6⟩, ⟨[_], rfl, rfl⟩, ⟨[], rfl, rfl⟩,
        [], rfl, rfl⟩
  · dsimp only
    rw [hg.cancelled]
    exact ⟨rfl, ⟨hg.1, hg.2, hg.3, hg.4, hg.5, hg.6⟩, ⟨[_], rfl, rfl⟩, ⟨[], rfl, rfl⟩, [], rfl, rfl⟩

theorem delay (d : Delay τ) : Blind (d.wait : Act σ τ Outcome) := by
  refine bind (note _) fun _ => bind (pause _) fun completed => ?_
  split
  · exact pure _
  · exact bind (note _) fun _ => pure _

section Polls

variable {p : Poll τ} {label : String} {started : τ} {condition : Act σ τ Bool}

theorem interruption (a : Allowance τ) :
    Blind (Poll.interruption label started a : Act σ τ (Poll.Verdict τ)) :=
  bind (note _) fun _ => bind now fun _ => pure _

theorem evaluate (hc : Blind condition) (a : Allowance τ) :
    Blind (p.evaluate label a condition) := by
  refine bind (.modify fun s t h => ?_) fun _ => bind hc.attempt fun answer => ?_
  · exact ⟨⟨h.1, h.2, h.3, h.4, h.5, h.6⟩, ⟨[_], rfl, by rw [h.clock]; rfl⟩, ⟨[], rfl, rfl⟩,
      [], rfl, rfl⟩
  · split
    · exact pure _
    · split
      · exact bind (note _) fun _ => pure _
      · split
        · exact bind now fun _ => pure _
        · exact pure _

/-- **Polls are blind**, since every round is. -/
theorem rounds (hc : Blind condition) (n : Nat) :
    ∀ a, Blind (p.rounds label started condition n a) := by
  induction n with
  | zero => exact fun a => pure _
  | succ n ih =>
    intro a
    refine bind cancelled fun c => ?_
    split
    · exact bind (interruption a) fun _ => pure _
    · refine bind (evaluate hc _) fun answer => ?_
      split
      · exact pure _
      · refine bind now fun t => ?_
        split
        · exact bind (note _) fun _ => pure _
        · split
          · exact bind (note _) fun _ => pure _
          · refine bind (attempt (pause _)) fun paused => ?_
            split
            · exact pure _
            · exact ih _
            · exact bind (interruption _) fun _ => pure _

theorem poll (hc : Blind condition) (description : Option String) :
    Blind (p.wait condition description) :=
  bind (bind now fun _ => rounds hc _ _) fun _ => ofExcept _

end Polls

end Blind

end Act

/-! ### Monitors -/

namespace Monitor

open Act

variable {σ τ : Type}

theorem blind_fetch (address : String) : Blind (fetch address : Act σ τ Page) :=
  .handle (.ask _) fun _ => .ofExcept (.error _)

/-- A look-up sees the metrics, and whether they were closed. -/
theorem blind_lookup (m : Monitor) (object name : String) :
    Blind (m.lookup object name : Act σ τ Bool) := by
  cases m with
  | probe closable => exact .ask _
  | registry => exact .bind (.ofExcept _) fun _ => .bind (.ask .collect) fun _ => .ofExcept _
  | page address =>
    refine .bind (.note _) fun _ => .session_bind (fun s t h => by rw [h.metricsClosed]) fun s => ?_
    split
    · exact .ofExcept (.error _)
    · exact .bind (blind_fetch address) fun _ => .ofExcept _

theorem blind_close (m : Monitor) : Blind (m.close : Act σ τ Unit) := by
  cases m with
  | probe closable =>
    cases closable with
    | true => exact .ask _
    | false => exact .pure _
  | registry => exact .pure _
  | page address =>
    exact .modify fun _ _ h => .of_agrees ⟨h.1, h.2, h.3, h.4, h.5, rfl⟩ rfl rfl rfl rfl rfl rfl

end Monitor

/-! ### Stations -/

namespace Station

open Act

variable {σ τ : Type} [Time τ]

/-- **All operations of a station are blind.** -/
theorem blind_perform (h : Station τ) (op : Operation) :
    Blind (h.perform op : Act σ τ (Operation.Result τ)) := by
  have hP := Blind.composes (σ := σ) (τ := τ) fun _ => True
  have hstatus : Blind (h.service.status : Act σ τ Status) := hP.status _ trivial
  refine hP.perform h (fun _ _ => trivial) (.delay _) (fun description goal => ?_) ?_
    (hP.dropReleased h (fun _ => trivial) (.delay _)) op
  · exact .bind (.ofExcept _) fun p => .poll (.bind hstatus fun _ => .pure _) none
  · exact hP.observe (.poll (h.monitor.blind_lookup _ _) _)

end Station

end CaptureControl

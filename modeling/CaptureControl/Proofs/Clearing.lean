import CaptureControl.Station
import CaptureControl.Proofs.Statements

/-!
# Clearing a schema

Tables are dropped only after they were released, and after the release had time to propagate. The
clearing of a schema goes through four stages: the tables are listed, each is released, there is a
pause, and each is dropped. Any stage may fail or be cut short, at any point; what was recorded
before the last stage is then still free of drops, and what came before a drop is still the whole of
the first three stages.

## Implementation notes

Each stage has two lemmas, after the two kinds of facts about actions: which statements it may run
however it ends, and what exactly it has recorded if it succeeds.

## Main definitions

* `Station.Prepares` — the listing delivered some tables, all of them were released, and there was a
  pause that was completed
* `Station.Clears` — how the clearing of a schema ends

## Main results

* `Station.dropAllTables_cases` — the stages in the record
* `Station.dropAllTables_drops` — what is dropped was released, and what is reported was dropped
-/

namespace CaptureControl

theorem eq_of_checkIdentifier {τ : Type} {role text name : String}
    (h : (checkIdentifier role (.text text) : Except (Fault τ) String) = .ok name) :
    name = text := by
  rw [checkIdentifier] at h
  split at h
  · exact (Except.ok.inj h).symm
  · cases h

theorem SourceTable.eq_of_ofValues {τ : Type} {schema table : String} {t : SourceTable}
    (h : (ofValues (.text schema) (.text table) : Except (Fault τ) SourceTable) = .ok t) :
    t = ⟨schema, table⟩ := by
  unfold ofValues at h
  cases hs : (checkIdentifier "schema" (.text schema) : Except (Fault τ) String) with
  | error e => rw [hs] at h; cases h
  | ok s =>
    rw [hs] at h
    cases ht : (checkIdentifier "table" (.text table) : Except (Fault τ) String) with
    | error e => rw [ht] at h; cases h
    | ok t =>
      rw [ht] at h
      cases h
      rw [eq_of_checkIdentifier hs, eq_of_checkIdentifier ht]

namespace Station

open Act

variable {σ τ : Type} {h : Station τ} {w : World σ τ} {s s' : Session σ τ}
  {owner table : String} {tables : List String}

/-- The statements that release some tables, one after another. -/
def releases (h : Station τ) (owner : String) (tables : List String) :
    List (String × Option (List Value)) :=
  tables.flatMap fun table =>
    [(h.service.program.text (.removeTable ⟨owner, table⟩), none),
      (h.service.program.text .reinit, none)]

/-- The text of the statement that drops a table. -/
def dropText (h : Station τ) (owner table : String) : String :=
  h.service.program.text (.dropTable ⟨owner, table⟩)

/-! ### Listing -/

/-- Events in which nothing is dropped. -/
abbrev Keeps : Event τ → Prop := Event.Runs fun text => drops text = false

theorem moves_send {allowed : String → Prop} {statement : Statement}
    {params : Option (List Value)} (hs : allowed (h.service.program.text statement)) :
    Moves (Session.Adds (Event.Runs allowed)) (h.service.send statement params : Act σ τ Unit) :=
  Gateway.moves_execute hs

theorem moves_listTables (schema : String) :
    Moves (Session.Adds Keeps) (h.listTables schema : Act σ τ _) :=
  Gateway.moves_query (h.service.program.drops_text .listTables) _

/-! ### Releasing -/

theorem moves_disableTable (schema table : Value) :
    Moves (Session.Adds Keeps) (h.disableTable schema table : Act σ τ SourceTable) := by
  unfold disableTable Registration.disable Service.refresh
  refine .bind (.modify fun _ => .of_trace_eq rfl) fun _ => .bind (.ofExcept _) fun t => ?_
  refine .bind (.modify fun _ => .of_trace_eq rfl) fun _ =>
    .bind ?_ fun _ => .bind ?_ fun _ => .pure t
  · exact moves_send (h.service.program.drops_text (.removeTable t))
  · refine .bind (.modify fun _ => .of_trace_eq rfl) fun _ => ?_
    exact moves_send (h.service.program.drops_text .reinit)

theorem moves_releaseTables (schema : String) (tables : List String) :
    Moves (Session.Adds Keeps) (h.releaseTables schema tables : Act σ τ _) :=
  .mapM (fun _ => .bind (.modify fun _ => .of_trace_eq rfl) fun _ => moves_disableTable _ _) tables

theorem succeedAll_of_send_eq_ok {statement : Statement}
    (hs : h.service.send statement none w s = (.ok (), s')) :
    ∃ events, SucceedAll [(h.service.program.text statement, none)] events ∧
      s.Records events s' := by
  obtain ⟨events, he, ht⟩ := Gateway.succeeds_of_execute_eq_ok hs
  exact ⟨events, .single he, ht⟩

/-- A table that was released: its registration was removed, and then the registrations were read
again. -/
theorem succeedAll_of_disableTable_eq_ok {t : SourceTable}
    (hd : h.disableTable (.text owner) (.text table) w s = (.ok t, s')) :
    t = ⟨owner, table⟩ ∧ ∃ events, SucceedAll (h.releases owner [table]) events ∧
      s.Records events s' := by
  unfold disableTable Registration.disable Service.refresh at hd
  obtain ⟨_, s₁, hcount, hd⟩ := bind_eq_ok_iff.mp hd
  cases hcount
  obtain ⟨t', s₂, htable, hd⟩ := bind_eq_ok_iff.mp hd
  obtain ⟨hvalues, rfl⟩ := Prod.mk.inj htable
  obtain rfl := SourceTable.eq_of_ofValues hvalues
  rw [note_bind_apply] at hd
  obtain ⟨_, s₃, hremove, hd⟩ := bind_eq_ok_iff.mp hd
  obtain ⟨_, s₄, hreinit, hd⟩ := bind_eq_ok_iff.mp hd
  cases hd
  rw [note_bind_apply] at hreinit
  obtain ⟨removal, hr, htr⟩ := succeedAll_of_send_eq_ok hremove
  obtain ⟨reinit, hi, hti⟩ := succeedAll_of_send_eq_ok hreinit
  have hremoved : s.Records removal s₃ := htr
  have hreread : s₃.Records reinit s' := hti
  exact ⟨rfl, removal ++ reinit, hr.append hi, hremoved.trans hreread⟩

/-- All tables that are released are released one after another. -/
theorem succeedAll_of_releaseTables_eq_ok : ∀ {tables : List String} {s s' : Session σ τ}
    {released : List SourceTable},
    h.releaseTables owner tables w s = (.ok released, s') →
      released = tables.map (SourceTable.mk owner) ∧
        ∃ events, SucceedAll (h.releases owner tables) events ∧ s.Records events s' := by
  intro tables
  induction tables with
  | nil =>
    intro s s' released hr
    rw [releaseTables, List.mapM_nil] at hr
    cases hr
    exact ⟨rfl, [], .nil, rfl⟩
  | cons table tables ih =>
    intro s s' released hr
    rw [releaseTables, List.mapM_cons] at hr
    obtain ⟨t, s₁, hfirst, hr⟩ := bind_eq_ok_iff.mp hr
    obtain ⟨rest, s₂, hrest, hr⟩ := bind_eq_ok_iff.mp hr
    cases hr
    rw [note_bind_apply] at hfirst
    obtain ⟨rfl, events, he, ht⟩ := succeedAll_of_disableTable_eq_ok hfirst
    obtain ⟨rfl, events', he', ht'⟩ := ih hrest
    have hreleased : s.Records events s₁ := ht
    exact ⟨rfl, events ++ events', he.append he', hreleased.trans ht'⟩

/-! ### Dropping -/

theorem moves_dropTables (tables : List SourceTable) :
    Moves (Session.Adds (Event.Runs fun text => drops text = true))
      (h.dropTables tables : Act σ τ Unit) :=
  .forM (fun t => .bind (.modify fun _ => .of_trace_eq rfl) fun _ =>
    moves_send (h.service.program.drops_text (.dropTable t))) tables

/-- All tables that are dropped are dropped one after another. -/
theorem succeedAll_of_dropTables_eq_ok : ∀ {tables : List String} {s s' : Session σ τ},
    h.dropTables (tables.map (SourceTable.mk owner)) w s = (.ok (), s') →
      ∃ events, SucceedAll (tables.map fun table => (h.dropText owner table, none)) events ∧
        s.Records events s' := by
  intro tables
  induction tables with
  | nil =>
    intro s s' hd
    cases hd
    exact ⟨[], .nil, rfl⟩
  | cons table tables ih =>
    intro s s' hd
    obtain ⟨_, s₁, hfirst, hrest⟩ := bind_eq_ok_iff.mp hd
    dsimp only at hfirst
    rw [note_bind_apply] at hfirst
    obtain ⟨events, he, ht⟩ := succeedAll_of_send_eq_ok hfirst
    obtain ⟨events', he', ht'⟩ := ih hrest
    have hdropped : s.Records events s₁ := ht
    exact ⟨events ++ events', he.append he', hdropped.trans ht'⟩

/-! ### Waiting -/

variable [Time τ]

/-- A delay is one pause: it tells whether the pause was completed, or fails with it. -/
theorem Delay.wait_cases (d : Delay τ) (w : World σ τ) (s : Session σ τ) :
    (∃ completed s', d.wait w s = (.ok (if completed then .elapsed else .interrupted), s') ∧
        s.Records [.paused d.seconds completed] s') ∨
      ∃ s', d.wait w s = (.error .overlongPause, s') ∧ s.Records [.paused d.seconds false] s' ∧
        ¬ w.Times d.seconds := by
  rw [Delay.wait, note_bind_apply]
  rcases pause_cases d.seconds w (s.noted [.delaying d.seconds]) with
    ⟨completed, s₁, hp, ht⟩ | ⟨s₁, hp, ht, hoverlong⟩
  · rw [bind_of_ok hp]
    cases completed with
    | true => exact Or.inl ⟨true, _, rfl, ht⟩
    | false => exact Or.inl ⟨false, _, rfl, ht⟩
  · rw [bind_of_error hp]
    exact Or.inr ⟨s₁, rfl, ht, hoverlong⟩

/-- The wait for propagation is one pause: it tells whether the pause was completed, or fails with
it. -/
theorem waitForPropagation_cases (h : Station τ) (w : World σ τ) (s : Session σ τ) :
    (∃ completed s', h.waitForPropagation w s =
        (.ok (if completed then .elapsed else .interrupted), s') ∧
        s.Records [.paused h.propagation.seconds completed] s') ∨
      ∃ s', h.waitForPropagation w s = (.error .overlongPause, s') ∧
        s.Records [.paused h.propagation.seconds false] s' := by
  rw [waitForPropagation]
  rcases Delay.wait_cases h.propagation w s with ⟨completed, s₁, hw, ht⟩ | ⟨s₁, hw, ht, -⟩
  · rw [bind_of_ok hw]
    exact Or.inl ⟨completed, _, rfl, ht⟩
  · rw [bind_of_error hw]
    exact Or.inr ⟨s₁, rfl, ht⟩

/-! ### The whole -/

/-- The first three stages, with nothing dropped: the listing delivered some tables, all of them were
released, and after that there was a pause that was completed. -/
def Prepares (h : Station τ) (w : World σ τ) (s : Session σ τ) (owner : String)
    (tables : List String) (events : List (Event τ)) : Prop :=
  ∃ listing released s₁, h.listTables owner w (s.noted [.clearing owner]) = (.ok tables, s₁) ∧
    s.Records listing s₁ ∧ (∀ text ∈ statements listing, drops text = false) ∧
    SucceedAll (h.releases owner tables) released ∧
    events = listing ++ released ++ [.paused h.propagation.seconds true]

/-- How the clearing of a schema ends, with what it has recorded. -/
inductive Clears (h : Station τ) (w : World σ τ) (s : Session σ τ) (owner : String) :
    Except (Fault τ) (List String) → List (Event τ) → Prop where
  /-- Nothing is dropped, and nothing is reported. -/
  | kept {r events} : (∀ text ∈ statements events, drops text = false) →
      (∀ l, r = .ok l → l = []) → Clears h w s owner r events
  /-- After the first three stages, tables are dropped: all of them, if no fault is met with. -/
  | dropped {r tables preparing dropping} : Prepares h w s owner tables preparing →
      (∀ e ∈ dropping, Event.Runs (fun text => drops text = true) e) →
      (∀ l, r = .ok l → l = tables ∧
        SucceedAll (tables.map fun table => (h.dropText owner table, none)) dropping) →
      Clears h w s owner r (preparing ++ dropping)

omit [Time τ] in
theorem drops_eq_false_of_keeps {events : List (Event τ)} (he : ∀ e ∈ events, Keeps e) :
    ∀ text ∈ statements events, drops text = false := by
  intro text hmem
  obtain ⟨e, hme, htext⟩ := List.mem_filterMap.mp hmem
  exact (he e hme).2 text htext

omit [Time τ] in
theorem drops_eq_false_of_releases {events : List (Event τ)}
    (he : SucceedAll (h.releases owner tables) events) :
    ∀ text ∈ statements events, drops text = false := by
  intro text hmem
  rw [he.statements_eq] at hmem
  simp only [releases, List.map_flatMap, List.mem_flatMap, List.map_cons, List.map_nil,
    List.mem_cons, List.not_mem_nil, or_false] at hmem
  obtain ⟨table, -, rfl | rfl⟩ := hmem
  · exact h.service.program.drops_text (.removeTable ⟨owner, table⟩)
  · exact h.service.program.drops_text .reinit

/-- The last two stages: a pause, and if it is completed, the drops. -/
theorem dropReleased_cases (h : Station τ) (w : World σ τ) (s : Session σ τ) (owner : String)
    (tables : List String) :
    ∃ r s' completed dropping,
      h.dropReleased owner tables (tables.map (SourceTable.mk owner)) w s = (r, s') ∧
      s.Records (.paused h.propagation.seconds completed :: dropping) s' ∧
      (completed = false → dropping = [] ∧ ∀ l, r = .ok l → l = []) ∧
      (∀ e ∈ dropping, Event.Runs (fun text => drops text = true) e) ∧
      ∀ l, completed = true → r = .ok l → l = tables ∧
        SucceedAll (tables.map fun table => (h.dropText owner table, none)) dropping := by
  unfold dropReleased
  rcases h.waitForPropagation_cases w s with ⟨completed, s₁, hw, hr₁⟩ | ⟨s₁, hw, hr₁⟩
  case inr =>
    rw [bind_of_error hw]
    exact ⟨_, _, false, [], rfl, hr₁, fun _ => ⟨rfl, nofun⟩, nofun, nofun⟩
  rw [bind_of_ok hw]
  cases completed with
  | false =>
    exact ⟨_, _, false, [], rfl, hr₁, fun _ => ⟨rfl, fun _ hl => (Except.ok.inj hl).symm⟩,
      nofun, nofun⟩
  | true =>
    simp only [if_true]
    rcases hd : h.dropTables (tables.map (SourceTable.mk owner)) w s₁ with ⟨r, s₂⟩
    have hdropping := moves_dropTables (h := h) (tables.map (SourceTable.mk owner)) w s₁
    rw [hd] at hdropping
    obtain ⟨dropping, hr₂, hk⟩ := hdropping.exists_records
    cases r with
    | error e =>
      rw [bind_of_error hd]
      exact ⟨_, s₂, true, dropping, rfl, hr₁.trans hr₂, nofun, hk, nofun⟩
    | ok u =>
      obtain ⟨events, hs, hr⟩ := succeedAll_of_dropTables_eq_ok hd
      obtain rfl := hr.unique hr₂
      rw [bind_of_ok hd]
      refine ⟨_, s₂, true, events, rfl, hr₁.trans hr₂, nofun, hk, fun l _ hl => ?_⟩
      exact ⟨(Except.ok.inj hl).symm, hs⟩

/-- The clearing of a schema whose name is accepted goes through its stages. -/
theorem dropAllTables_cases (w : World σ τ) (s : Session σ τ) {schema : Value}
    (hc : checkIdentifier "schema" (h.schemaOr schema) = (.ok owner : Except (Fault τ) String)) :
    ∃ r s' events, h.dropAllTables schema w s = (r, s') ∧ s.Records events s' ∧
      Clears h w s owner r events := by
  rw [dropAllTables, hc, bind_of_ok (ofExcept_apply _), note_bind_apply]
  rcases hl : h.listTables owner w (s.noted [.clearing owner]) with ⟨listed, s₁⟩
  have hlisting := moves_listTables (h := h) owner w (s.noted [.clearing owner])
  rw [hl] at hlisting
  obtain ⟨listing, hr₁, hk₁⟩ := hlisting.exists_records
  have hkept := drops_eq_false_of_keeps hk₁
  cases listed with
  | error e =>
    rw [bind_of_error hl]
    exact ⟨_, s₁, listing, rfl, hr₁, .kept hkept nofun⟩
  | ok tables =>
    rw [bind_of_ok hl]
    by_cases hempty : tables.isEmpty = true
    · rw [if_pos hempty]
      exact ⟨_, s₁, listing, rfl, hr₁, .kept hkept fun l h => (Except.ok.inj h).symm⟩
    rw [if_neg hempty]
    rcases hr : h.releaseTables owner tables w s₁ with ⟨e | released, s₂⟩
    · have hreleasing := moves_releaseTables (h := h) owner tables w s₁
      rw [hr] at hreleasing
      obtain ⟨releasing, hr₂, hk₂⟩ := hreleasing.exists_records
      rw [bind_of_error hr]
      refine ⟨_, s₂, _, rfl, hr₁.trans hr₂, .kept (drops_eq_false_of_keeps ?_) nofun⟩
      exact fun e he => (List.mem_append.mp he).elim (hk₁ e) (hk₂ e)
    · obtain ⟨rfl, releasing, hs₂, hr₂⟩ := succeedAll_of_releaseTables_eq_ok hr
      rw [bind_of_ok hr]
      obtain ⟨r, s₃, completed, dropping, hd, hr₃, hcut, hdrops, hdone⟩ :=
        h.dropReleased_cases w s₂ owner tables
      refine ⟨r, s₃, _, hd, (hr₁.trans hr₂).trans hr₃, ?_⟩
      cases completed with
      | false =>
        obtain ⟨rfl, hnothing⟩ := hcut rfl
        refine .kept (fun text hmem => ?_) hnothing
        rw [statements_append, statements_append, List.mem_append, List.mem_append] at hmem
        rcases hmem with (hmem | hmem) | hmem
        · exact hkept text hmem
        · exact drops_eq_false_of_releases hs₂ text hmem
        · cases hmem
      | true =>
        rw [List.append_cons]
        refine .dropped ⟨listing, releasing, s₁, hl, hr₁, hkept, hs₂, rfl⟩ hdrops ?_
        exact fun l hl => hdone l rfl hl

omit [Time τ] in
theorem Prepares.drops_eq_false {events : List (Event τ)} (hp : Prepares h w s owner tables events) :
    ∀ text ∈ statements events, drops text = false := by
  obtain ⟨listing, released, s₁, -, -, hl, hr, rfl⟩ := hp
  intro text hmem
  rw [statements_append, statements_append, List.mem_append, List.mem_append] at hmem
  rcases hmem with (hmem | hmem) | hmem
  · exact hl text hmem
  · exact drops_eq_false_of_releases hr text hmem
  · cases hmem

omit [Time τ] in
/-- Whatever is dropped has all of the first three stages before it. -/
theorem Clears.prepares_before {r : Except (Fault τ) (List String)} {events : List (Event τ)}
    (hcl : Clears h w s owner r events) {before after : List (Event τ)} {e : Event τ}
    {text : String} (he : events = before ++ e :: after) (ht : text ∈ e.statement?)
    (hd : drops text = true) :
    ∃ tables preparing dropping, Prepares h w s owner tables preparing ∧
      before = preparing ++ dropping ∧
      ∀ e ∈ dropping, Event.Runs (fun text => drops text = true) e := by
  have hmem : ∀ {l l' : List (Event τ)}, text ∈ statements (l ++ e :: l') := by
    intro l l'
    exact List.mem_filterMap.mpr ⟨e, by simp, ht⟩
  cases hcl with
  | kept hk _ =>
    rw [hk text (he ▸ hmem)] at hd
    cases hd
  | @dropped tables preparing dropping hp hdrops _ =>
    rcases List.append_eq_append_iff.mp he with ⟨rest, rfl, rfl⟩ | ⟨rest, rfl, hrest⟩
    · exact ⟨tables, preparing, rest, hp, rfl, fun e he => hdrops e (List.mem_append_left _ he)⟩
    · cases rest with
      | nil => exact ⟨tables, before, [], by rwa [List.append_nil] at hp, by simp, nofun⟩
      | cons e' rest =>
        obtain ⟨rfl, -⟩ := List.cons.inj hrest
        rw [hp.drops_eq_false text hmem] at hd
        cases hd

omit [Time τ] in
/-- What is reported is nothing or the whole listing, and it is what was dropped. -/
theorem Clears.filter_drops_eq {l : List String} {events : List (Event τ)}
    (hcl : Clears h w s owner (.ok l) events) :
    (l = [] ∨ (h.listTables owner w (s.noted [.clearing owner])).1 = .ok l) ∧
      (statements events).filter drops = l.map (h.dropText owner) := by
  cases hcl with
  | kept hk hl =>
    obtain rfl := hl l rfl
    refine ⟨Or.inl rfl, List.filter_eq_nil_iff.mpr fun text hmem => ?_⟩
    rw [hk text hmem]
    decide
  | @dropped tables preparing dropping hp _ hdone =>
    obtain ⟨rfl, hs⟩ := hdone l rfl
    have hprepared : (statements preparing).filter drops = [] := by
      refine List.filter_eq_nil_iff.mpr fun text hmem => ?_
      rw [hp.drops_eq_false text hmem]
      decide
    have hdropped : (statements dropping).filter drops = l.map (h.dropText owner) := by
      rw [hs.statements_eq, List.map_map]
      refine List.filter_eq_self.mpr fun text hmem => ?_
      obtain ⟨table, -, rfl⟩ := List.mem_map.mp hmem
      exact h.service.program.drops_text (.dropTable ⟨owner, table⟩)
    obtain ⟨_, _, _, hl, -⟩ := hp
    refine ⟨Or.inr (by rw [hl]), ?_⟩
    rw [statements_append, List.filter_append, hprepared, hdropped, List.nil_append]

/-- **What is dropped was released, and what is reported was dropped.** In the record of clearing a
schema, everything that drops something has before it the listing of the tables, the release of each
of them, in which every statement succeeded, and a completed pause. If the clearing succeeds, it
reports nothing or the whole listing, and what it reports is what it dropped, table by table. -/
theorem dropAllTables_drops (h : Station τ) (w : World σ τ) (s : Session σ τ) (schema : Value) :
    ∃ events, s.Records events (h.dropAllTables schema w s).2 ∧
      (∀ before e after, events = before ++ e :: after →
        ∀ text ∈ e.statement?, drops text = true →
          ∃ owner tables preparing dropping,
            checkIdentifier "schema" (h.schemaOr schema) = (.ok owner : Except (Fault τ) String) ∧
            Prepares h w s owner tables preparing ∧ before = preparing ++ dropping ∧
            ∀ e ∈ dropping, Event.Runs (fun text => drops text = true) e) ∧
      ∀ l, (h.dropAllTables schema w s).1 = .ok l → ∃ owner,
        checkIdentifier "schema" (h.schemaOr schema) = (.ok owner : Except (Fault τ) String) ∧
        (l = [] ∨ (h.listTables owner w (s.noted [.clearing owner])).1 = .ok l) ∧
        (statements events).filter drops = l.map (h.dropText owner) := by
  cases hc : (checkIdentifier "schema" (h.schemaOr schema) : Except (Fault τ) String) with
  | error e =>
    rw [dropAllTables, hc]
    exact ⟨[], rfl, by simp, nofun⟩
  | ok owner =>
    obtain ⟨r, s', events, hrun, hr, hcl⟩ := dropAllTables_cases w s hc
    rw [hrun]
    refine ⟨events, hr, ?_, ?_⟩
    · intro before e after he text ht hd
      obtain ⟨tables, preparing, dropping, hp⟩ := hcl.prepares_before he ht hd
      exact ⟨owner, tables, preparing, dropping, rfl, hp⟩
    · rintro l rfl
      exact ⟨owner, rfl, hcl.filter_drops_eq⟩

end Station

end CaptureControl

import CaptureControl.Proofs.Entries
import CaptureControl.Proofs.Tallying

/-!
# What tallies report

A tally reports the counters of the whole registry that it is on. Each is reported under its name,
without as many characters as the names of the reporting tally have in front, and the label values;
where two counters come under the same key, the later one is reported. On a registry of its own a
tally thus reports its own counters, each once. On a shared registry it also reports those of all
others, and if the other scope is as long as its own, then under the very keys of its own counters.

## Implementation notes

Nothing in a report tells one label value from two that were joined, so label values are taken to be
not empty and to hold no point. The order of a report is that in which labels were first used, which
nothing depends on: reports are compared up to their order.

## Main definitions

* `Tally.Record`, `Tally.enterEach` — records, and several tallies after some of them, in any order
* `Tally.ownReport` — what a tally should report of what it was told to count
* `Tally.reports` — the counters of a registry under the keys under which a tally reports them

## Main results

* `Tally.getElem?_enterEach` — a tally shows the records that were entered in it
* `Tally.snapshot_perm_ownReport` — on a registry of its own a tally reports its own counts
* `Tally.get?_snapshot_of_mem_ownReport` — scopes of other lengths do no harm to them
* `Tally.snapshot_reports` — reports, on registries of their own and on a shared one
* `Tally.shared_report_overwritten` — a shared registry on which a report is wrong
-/

namespace CaptureControl

namespace Counts

variable {κ : Type} [DecidableEq κ]

/-- Under distinct labels, counts are told by the labels and the count of each. -/
theorem map_eq_map_keys {β : Type} (f : κ × Nat → β) {counts : Counts κ}
    (h : (KeyedList.keys counts).Nodup) :
    counts.map f = (KeyedList.keys counts).map fun label => f (label, of label counts) := by
  induction counts with
  | nil => rfl
  | cons c counts ih =>
    obtain ⟨label, n⟩ := c
    rw [KeyedList.keys, List.map_cons, List.nodup_cons] at h
    have hfirst : of label ((label, n) :: counts) = n := by
      rw [of, KeyedList.get?_cons, if_pos rfl, Option.getD_some]
    have hrest : ∀ label' ∈ KeyedList.keys counts,
        of label' ((label, n) :: counts) = of label' counts := by
      intro label' hmem
      have hne : label ≠ label' := fun heq => h.1 (heq ▸ hmem)
      rw [of, KeyedList.get?_cons, if_neg hne, of]
    rw [KeyedList.keys, List.map_cons, List.map_cons, List.map_cons, hfirst, ih h.2]
    congr 1
    exact List.map_congr_left fun label' hmem => by rw [hrest label' hmem]

/-- Labels counted one after another. -/
def ofLabels (labels : List κ) : Counts κ :=
  labels.foldl (fun counts label => add label counts) []

theorem ofLabels_concat (labels : List κ) (label : κ) :
    ofLabels (labels ++ [label]) = add label (ofLabels labels) :=
  List.foldl_concat ..

/-- What is under a count is what was counted, each label once. -/
theorem keys_ofLabels_perm (labels : List κ) :
    (KeyedList.keys (ofLabels labels)).Perm labels.dedup := by
  have h : (KeyedList.keys (ofLabels labels)).Nodup ∧
      ∀ label, label ∈ KeyedList.keys (ofLabels labels) ↔ label ∈ labels := by
    induction labels using List.reverseRecOn with
    | nil => exact ⟨List.nodup_nil, fun _ => Iff.rfl⟩
    | append_singleton labels label ih =>
      rw [ofLabels_concat, add]
      refine ⟨KeyedList.nodup_keys_update ih.1, fun label' => ?_⟩
      rw [KeyedList.mem_keys_update, ih.2, List.mem_append, List.mem_singleton, or_comm]
  rw [List.perm_ext_iff_of_nodup h.1 (List.nodup_dedup _)]
  exact fun label => (h.2 label).trans List.mem_dedup.symm

end Counts

namespace Tally

variable {τ : Type} [Time τ]

/-! ### Records -/

/-- Something that a tally is told to count. -/
inductive Record (τ : Type) where
  /-- A command. -/
  | command (command : String)
  /-- A wait of a kind, with its outcome and its duration if it is known. -/
  | wait (kind outcome : String) (elapsed : Option τ)

/-- What a record changes in a tally. -/
def Record.enter : Record τ → Tally τ → Tally τ
  | command c => countCommand c
  | wait kind outcome elapsed => recordWait kind outcome elapsed

/-- The command of a record. -/
def Record.command? : Record τ → Option String
  | command c => some c
  | wait _ _ _ => none

/-- The kind and the outcome of the wait of a record. -/
def Record.wait? : Record τ → Option (String × String)
  | command _ => none
  | wait kind outcome _ => some (kind, outcome)

/-- A label value that is not empty and holds no point. -/
def PlainLabel (label : String) : Prop :=
  label ≠ "" ∧ '.' ∉ label.toList

/-- The label values of a record are plain. -/
def Record.Plain : Record τ → Prop
  | command c => PlainLabel c
  | wait kind outcome _ => PlainLabel kind ∧ PlainLabel outcome

instance (label : String) : Decidable (PlainLabel label) :=
  inferInstanceAs (Decidable (_ ∧ _))

instance (r : Record τ) : Decidable r.Plain :=
  match r with
  | .command c => inferInstanceAs (Decidable (PlainLabel c))
  | .wait _ _ _ => inferInstanceAs (Decidable (_ ∧ _))

/-- A tally after some records, one after another. -/
def enterAll (records : List (Record τ)) (t : Tally τ) : Tally τ :=
  records.foldl (fun t r => r.enter t) t

/-- Several tallies after some records, one after another, each entered in the tally of its
number. -/
def enterEach (records : List (Nat × Record τ)) (tallies : List (Tally τ)) : List (Tally τ) :=
  records.foldl (fun tallies r => tallies.modify r.1 r.2.enter) tallies

/-- The records that are entered in one of several tallies. -/
def recordsOf (i : Nat) (records : List (Nat × Record τ)) : List (Record τ) :=
  (records.filter fun r => r.1 = i).map Prod.snd

/-- **A tally shows the records that were entered in it**, and none of the others. -/
theorem getElem?_enterEach (i : Nat) (records : List (Nat × Record τ)) :
    ∀ tallies : List (Tally τ),
      (enterEach records tallies)[i]? = tallies[i]?.map (enterAll (recordsOf i records)) := by
  induction records with
  | nil => exact fun tallies => Option.map_id'.symm
  | cons r records ih =>
    intro tallies
    have hstep : enterEach (r :: records) tallies =
        enterEach records (tallies.modify r.1 r.2.enter) := rfl
    rw [hstep, ih, List.getElem?_modify, recordsOf, recordsOf, List.filter_cons]
    by_cases hi : r.1 = i
    · simp only [hi, decide_true, if_true, Option.map_eq_map, Option.map_map]
      rfl
    · simp only [hi, decide_false, if_false, Bool.false_eq_true, Option.map_eq_map, Option.map_map]
      rfl

theorem enterAll_concat (records : List (Record τ)) (r : Record τ) (t : Tally τ) :
    enterAll (records ++ [r]) t = r.enter (enterAll records t) :=
  List.foldl_concat ..

theorem scope_enterAll (records : List (Record τ)) (t : Tally τ) :
    (enterAll records t).scope = t.scope := by
  induction records using List.reverseRecOn with
  | nil => rfl
  | append_singleton records r ih =>
    rw [enterAll_concat, ← ih]
    cases r <;> rfl

/-- A tally counts the commands that were recorded. -/
theorem commands_enterAll (scope : String) (records : List (Record τ)) :
    (enterAll records (.empty scope)).commands =
      .ofLabels (records.filterMap Record.command?) := by
  induction records using List.reverseRecOn with
  | nil => rfl
  | append_singleton records r ih =>
    rw [enterAll_concat, List.filterMap_append]
    cases r with
    | command c =>
      change Counts.add c _ = Counts.ofLabels (_ ++ [c])
      rw [Counts.ofLabels_concat, ih]
    | wait kind outcome elapsed =>
      change (enterAll records (.empty scope)).commands = Counts.ofLabels (_ ++ [])
      rw [List.append_nil, ih]

/-- A tally counts the kinds and outcomes of waits that were recorded. -/
theorem waits_enterAll (scope : String) (records : List (Record τ)) :
    (enterAll records (.empty scope)).waits = .ofLabels (records.filterMap Record.wait?) := by
  induction records using List.reverseRecOn with
  | nil => rfl
  | append_singleton records r ih =>
    rw [enterAll_concat, List.filterMap_append]
    cases r with
    | command c =>
      change (enterAll records (.empty scope)).waits = Counts.ofLabels (_ ++ [])
      rw [List.append_nil, ih]
    | wait kind outcome elapsed =>
      change Counts.add (kind, outcome) _ = Counts.ofLabels (_ ++ [(kind, outcome)])
      rw [Counts.ofLabels_concat, ih]

/-! ### Keys -/

/-- The words that the names of the counters of a tally end in. -/
def words : List String := ["commands_total", "waits_total"]

/-- The key under which a tally reports its own count of a command. -/
def commandKey (command : String) : String := "commands_total" ++ "." ++ command

/-- The key under which a tally reports its own count of waits of a kind with an outcome. -/
def waitKey (kind outcome : String) : String := "waits_total" ++ "." ++ (kind ++ "." ++ outcome)

/-- What is joined by a point is told apart at the first point. -/
theorem point_inj {a a' b b' : String} (ha : '.' ∉ a.toList) (ha' : '.' ∉ a'.toList)
    (h : a ++ "." ++ b = a' ++ "." ++ b') : a = a' ∧ b = b' := by
  have hlist : a.toList ++ '.' :: b.toList = a'.toList ++ '.' :: b'.toList := by
    simpa using congrArg String.toList h
  have hcut := congrArg (Text.cut '.') hlist
  rw [Text.cut_append_cons ha, Text.cut_append_cons ha', Prod.mk.injEq, Option.some.injEq] at hcut
  exact ⟨String.toList_injective hcut.1, String.toList_injective hcut.2⟩

theorem point_notMem_words : ∀ word ∈ words, '.' ∉ word.toList := by decide +kernel

/-- Neither of the two words goes on in the other. -/
theorem words_apart : ∀ word ∈ words, ∀ head ∈ words,
    head.toList <:+ '_' :: word.toList ∨ '_' :: word.toList <:+ head.toList → head = word := by
  decide +kernel

theorem commandKey_injective : Function.Injective commandKey := by
  intro c c' h
  have hpoint := point_notMem_words _ List.mem_cons_self
  exact (point_inj hpoint hpoint h).2

theorem commandKey_ne_waitKey (c kind outcome : String) : commandKey c ≠ waitKey kind outcome := by
  intro h
  have hcommands := point_notMem_words "commands_total" (by decide)
  have hwaits := point_notMem_words "waits_total" (by decide)
  exact absurd (point_inj hcommands hwaits h).1 (by decide)

theorem waitKey_inj {kind kind' outcome outcome' : String} (hkind : PlainLabel kind)
    (hkind' : PlainLabel kind') (h : waitKey kind outcome = waitKey kind' outcome') :
    kind = kind' ∧ outcome = outcome' := by
  have hpoint := point_notMem_words _ (List.mem_cons_of_mem _ List.mem_cons_self)
  exact point_inj hkind.2 hkind'.2 (point_inj hpoint hpoint h).2

theorem reportKey_append (scope short : String) {labels : String} (h : labels ≠ "") :
    reportKey scope (scope ++ ("_" ++ short)) labels = short ++ "." ++ labels := by
  have hdrop : (scope ++ ("_" ++ short)).toList.drop (scope.toList.length + 1) = short.toList := by
    rw [String.toList_append, String.toList_append, List.drop_append]
    simp
  have hlabels : labels.isEmpty = false := by simpa using h
  rw [reportKey, hdrop, String.ofList_toList, hlabels]
  rfl

/-- A name without points whose key is made of a word and more ends in that word, after as many
characters as are taken off. -/
theorem drop_of_reportKey {scope name labels head rest : String} (hname : '.' ∉ name.toList)
    (hhead : '.' ∉ head.toList) (h : reportKey scope name labels = head ++ "." ++ rest) :
    name.toList.drop (scope.toList.length + 1) = head.toList := by
  have hshort : '.' ∉ (String.ofList (name.toList.drop (scope.toList.length + 1))).toList := by
    rw [String.toList_ofList]
    exact fun hmem => hname (List.mem_of_mem_drop hmem)
  rw [reportKey] at h
  split at h
  next =>
    rw [h] at hshort
    exact absurd (by simp) hshort
  next =>
    obtain ⟨hname, -⟩ := point_inj hshort hhead h
    rw [← hname, String.toList_ofList]

/-- A name that ends in one of the words, and in one of them after as many characters as a scope
takes off, has a first part as long as that scope. -/
theorem length_eq_of_drop {first word head : String} {k : Nat} (hword : word ∈ words)
    (hhead : head ∈ words) (h : (first ++ ("_" ++ word)).toList.drop (k + 1) = head.toList) :
    first.toList.length = k := by
  have hwhole : (first ++ ("_" ++ word)).toList = first.toList ++ '_' :: word.toList := by simp
  rw [hwhole] at h
  have hsuffix : head.toList <:+ first.toList ++ '_' :: word.toList := h ▸ List.drop_suffix _ _
  obtain rfl := words_apart word hword head hhead
    (List.suffix_or_suffix_of_suffix hsuffix (List.suffix_append _ _))
  have hlength := congrArg List.length h
  rw [List.length_drop, List.length_append, List.length_cons] at hlength
  have hpos : ∀ word ∈ words, 0 < word.toList.length := by decide +kernel
  have hpos := hpos head hhead
  omega

/-! ### Reports -/

/-- What a tally should report of what it was told to count: each command, and each kind with an
outcome of waits. -/
def ownReport (records : List (Record τ)) (t : Tally τ) : KeyedList String Nat :=
  (records.filterMap Record.command?).dedup.map (fun c => (commandKey c, t.commandCount c)) ++
    (records.filterMap Record.wait?).dedup.map fun w => (waitKey w.1 w.2, t.waitCount w.1 w.2)

/-- The counters of a registry one after another, each under the key under which a tally of the
given scope reports it. -/
def reports (scope : String) (registry : List (Tally τ)) : KeyedList String Nat :=
  (registry.flatMap counters).map fun c => (reportKey scope c.1 c.2.1, c.2.2)

omit [Time τ] in
theorem snapshot_eq_putAll (scope : String) (registry : List (Tally τ)) :
    snapshot scope registry = KeyedList.putAll (reports scope registry) [] := by
  rw [KeyedList.putAll, reports, List.foldl_map]
  rfl

section Registry

omit [Time τ]

theorem mem_reports {scope : String} {registry : List (Tally τ)} {e : String × Nat} :
    e ∈ reports scope registry ↔ ∃ t ∈ registry, e ∈ reports scope [t] := by
  simp only [reports, List.mem_map, List.mem_flatMap, List.flatMap_singleton]
  constructor
  · rintro ⟨c, ⟨t, ht, hc⟩, he⟩
    exact ⟨t, ht, c, hc, he⟩
  · rintro ⟨t, ht, c, hc, he⟩
    exact ⟨c, ⟨t, ht, hc⟩, he⟩

theorem reports_singleton (scope : String) (t : Tally τ) :
    reports scope [t] =
      t.commands.map (fun c => (reportKey scope (t.scope ++ ("_" ++ "commands_total")) c.1, c.2)) ++
        t.waits.map fun w =>
          (reportKey scope (t.scope ++ ("_" ++ "waits_total")) (w.1.1 ++ "." ++ w.1.2), w.2) := by
  rw [reports, List.flatMap_singleton, counters, List.map_append, List.map_map, List.map_map]
  rfl

theorem plain_of_mem_commands {records : List (Record τ)} (hplain : ∀ r ∈ records, r.Plain)
    {c : String} (h : c ∈ records.filterMap Record.command?) : PlainLabel c := by
  obtain ⟨r, hr, hc⟩ := List.mem_filterMap.mp h
  have hr := hplain r hr
  cases r <;> cases hc
  exact hr

theorem plain_of_mem_waits {records : List (Record τ)} (hplain : ∀ r ∈ records, r.Plain)
    {w : String × String} (h : w ∈ records.filterMap Record.wait?) : PlainLabel w.1 := by
  obtain ⟨r, hr, hw⟩ := List.mem_filterMap.mp h
  have hr := hplain r hr
  cases r <;> cases hw
  exact hr.1

/-- No two counts of a tally are under one key of its own. -/
theorem nodup_keys_ownReport {records : List (Record τ)} (hplain : ∀ r ∈ records, r.Plain)
    (t : Tally τ) : (KeyedList.keys (ownReport records t)).Nodup := by
  rw [KeyedList.keys, ownReport, List.map_append, List.map_map, List.map_map]
  refine List.nodup_append.mpr ⟨?_, ?_, ?_⟩
  · exact (List.nodup_dedup _).map commandKey_injective
  · refine (List.nodup_dedup _).map_on fun w hw w' hw' heq => ?_
    obtain ⟨hkind, houtcome⟩ := waitKey_inj (plain_of_mem_waits hplain (List.mem_dedup.mp hw))
      (plain_of_mem_waits hplain (List.mem_dedup.mp hw')) heq
    exact Prod.ext hkind houtcome
  · intro key hkey key' hkey' heq
    obtain ⟨c, -, rfl⟩ := List.mem_map.mp hkey
    obtain ⟨w, -, rfl⟩ := List.mem_map.mp hkey'
    exact commandKey_ne_waitKey c w.1 w.2 heq

end Registry

section Own

variable {scope : String} {records : List (Record τ)}

variable (scope) in
/-- What a tally counted is reported under its own keys, in whatever order. -/
theorem reports_perm_ownReport (hplain : ∀ r ∈ records, r.Plain) :
    (reports scope [enterAll records (.empty scope)]).Perm
      (ownReport records (enterAll records (.empty scope))) := by
  have hcommands := Counts.keys_ofLabels_perm (records.filterMap Record.command?)
  have hwaits := Counts.keys_ofLabels_perm (records.filterMap Record.wait?)
  rw [← commands_enterAll scope] at hcommands
  rw [← waits_enterAll scope] at hwaits
  have hscope : (enterAll records (.empty scope)).scope = scope := scope_enterAll ..
  generalize enterAll records (.empty scope) = t at hcommands hwaits hscope ⊢
  rw [reports_singleton, hscope, ownReport,
    Counts.map_eq_map_keys _ (hcommands.nodup_iff.mpr (List.nodup_dedup _)),
    Counts.map_eq_map_keys _ (hwaits.nodup_iff.mpr (List.nodup_dedup _))]
  refine List.Perm.append ?_ ?_
  · refine (hcommands.map _).trans (List.Perm.of_eq (List.map_congr_left fun c hmem => ?_))
    have hne : c ≠ "" := (plain_of_mem_commands hplain (List.mem_dedup.mp hmem)).1
    exact Prod.ext (reportKey_append _ _ hne) rfl
  · refine (hwaits.map _).trans (List.Perm.of_eq (List.map_congr_left fun w _ => ?_))
    have hne : w.1 ++ "." ++ w.2 ≠ "" := by simp
    exact Prod.ext (reportKey_append _ _ hne) rfl

/-- **On a registry of its own a tally reports its own counts**, each once and nothing else. -/
theorem snapshot_perm_ownReport (hplain : ∀ r ∈ records, r.Plain) :
    (snapshot scope [enterAll records (.empty scope)]).Perm
      (ownReport records (enterAll records (.empty scope))) := by
  have hperm := reports_perm_ownReport scope hplain
  have hnodup : (KeyedList.keys (reports scope [enterAll records (.empty scope)])).Nodup :=
    (hperm.map _).nodup_iff.mpr (nodup_keys_ownReport hplain _)
  rw [snapshot_eq_putAll, KeyedList.putAll_of_nodup hnodup]
  exact hperm

end Own

section Shared

omit [Time τ]

theorem exists_word_of_mem_counters {t : Tally τ} {c : String × String × Nat}
    (hc : c ∈ t.counters) : ∃ word ∈ words, c.1 = t.scope ++ ("_" ++ word) := by
  rw [counters, List.mem_append, List.mem_map, List.mem_map] at hc
  rcases hc with ⟨-, -, rfl⟩ | ⟨-, -, rfl⟩
  · exact ⟨"commands_total", by decide, rfl⟩
  · exact ⟨"waits_total", by decide, rfl⟩

theorem exists_word_of_mem_ownReport {records : List (Record τ)} {t : Tally τ} {e : String × Nat}
    (he : e ∈ ownReport records t) : ∃ head ∈ words, ∃ rest, e.1 = head ++ "." ++ rest := by
  rw [ownReport, List.mem_append, List.mem_map, List.mem_map] at he
  rcases he with ⟨c, -, rfl⟩ | ⟨w, -, rfl⟩
  · exact ⟨"commands_total", by decide, c, rfl⟩
  · exact ⟨"waits_total", by decide, w.1 ++ "." ++ w.2, rfl⟩

/-- Only tallies whose scope is as long are reported under the own keys of a tally. -/
theorem length_scope_eq {scope : String} {records : List (Record τ)} {t u : Tally τ}
    {e e' : String × Nat} (hpoint : '.' ∉ u.scope.toList) (he : e ∈ reports scope [u])
    (he' : e' ∈ ownReport records t) (hkey : e.1 = e'.1) :
    u.scope.toList.length = scope.toList.length := by
  rw [reports, List.flatMap_singleton] at he
  obtain ⟨c, hc, rfl⟩ := List.mem_map.mp he
  obtain ⟨word, hword, hname⟩ := exists_word_of_mem_counters hc
  obtain ⟨head, hhead, rest, hrest⟩ := exists_word_of_mem_ownReport he'
  have hpoint' : '.' ∉ c.1.toList := by
    have hnot := point_notMem_words word hword
    rw [hname]
    simp [hpoint, hnot]
  have hdrop := drop_of_reportKey hpoint' (point_notMem_words head hhead) (hkey.trans hrest)
  rw [hname] at hdrop
  exact length_eq_of_drop hword hhead hdrop

end Shared

theorem getElem?_enterEach_empty {scopes : List String} {records : List (Nat × Record τ)} {i : Nat}
    {t : Tally τ} (h : (enterEach records (scopes.map .empty))[i]? = some t) :
    scopes[i]? = some t.scope ∧ t = enterAll (recordsOf i records) (.empty t.scope) := by
  rw [getElem?_enterEach, List.getElem?_map] at h
  cases hi : scopes[i]? with
  | none => simp [hi] at h
  | some scope =>
    simp only [hi, Option.map_some, Option.some.injEq] at h
    have hscope : t.scope = scope := h ▸ scope_enterAll ..
    exact ⟨by rw [hscope], by rw [hscope, h]⟩

omit [Time τ] in
theorem plain_of_mem_recordsOf {records : List (Nat × Record τ)}
    (hplain : ∀ r ∈ records, r.2.Plain) (i : Nat) : ∀ r ∈ recordsOf i records, r.Plain := by
  intro r hr
  obtain ⟨numbered, hmem, rfl⟩ := List.mem_map.mp hr
  exact hplain numbered (List.mem_of_mem_filter hmem)

/-- Where no other scope is as long, a tally reports its own counts rightly, whatever else. -/
theorem get?_snapshot_of_mem_ownReport {scopes : List String} {records : List (Nat × Record τ)}
    (hplain : ∀ r ∈ records, r.2.Plain) {i : Nat} {t : Tally τ}
    (ht : (enterEach records (scopes.map .empty))[i]? = some t)
    (hpoint : ∀ s ∈ scopes, '.' ∉ s.toList)
    (hlength : ∀ j s, scopes[j]? = some s → s.toList.length = t.scope.toList.length → j = i)
    {e : String × Nat} (he : e ∈ ownReport (recordsOf i records) t) :
    KeyedList.get? e.1 (snapshot t.scope (enterEach records (scopes.map .empty))) = some e.2 := by
  obtain ⟨-, heq⟩ := getElem?_enterEach_empty ht
  have hown := plain_of_mem_recordsOf hplain i
  have hperm := reports_perm_ownReport t.scope hown
  rw [← heq] at hperm
  have hmem : e ∈ reports t.scope (enterEach records (scopes.map .empty)) :=
    mem_reports.mpr ⟨t, List.mem_of_getElem? ht, hperm.mem_iff.mpr he⟩
  rw [snapshot_eq_putAll, KeyedList.get?_putAll]
  refine KeyedList.get?_eq_some_of_forall (List.mem_reverse.mpr hmem) fun n hn => ?_
  obtain ⟨u, hu, hreport⟩ := mem_reports.mp (List.mem_reverse.mp hn)
  obtain ⟨j, hj⟩ := List.mem_iff_getElem?.mp hu
  obtain ⟨hscope, -⟩ := getElem?_enterEach_empty hj
  -- Under an own key comes what a tally with a scope as long counted, which is the tally itself.
  obtain rfl := hlength j u.scope hscope
    (length_scope_eq (hpoint _ (List.mem_of_getElem? hscope)) hreport he rfl)
  obtain rfl : u = t := Option.some.inj (hj.symm.trans ht)
  have hpair := List.inj_on_of_nodup_map (nodup_keys_ownReport hown u) (hperm.mem_iff.mp hreport) he
  exact (Prod.mk.inj (hpair rfl)).2

/-- **What tallies report**, after whatever was recorded in them, in any order. On a registry of its
own a tally reports a count for each command and each kind with an outcome of waits that was
recorded in it, and nothing else. On a registry with other tallies the counters of all are reported,
the last of those under one key; its own counts are among them if no other scope is as long. -/
theorem snapshot_reports (scopes : List String) (records : List (Nat × Record τ))
    (hplain : ∀ r ∈ records, r.2.Plain) {i : Nat} {scope : String} (hi : scopes[i]? = some scope) :
    let registry := enterEach records (scopes.map .empty)
    ∃ t, registry[i]? = some t ∧
      let own := ownReport (recordsOf i records) t
      ((snapshot scope [t]).Perm own ∧ (KeyedList.keys own).Nodup) ∧
      (∀ key, KeyedList.get? key (snapshot scope registry) =
        KeyedList.get? key (reports scope registry).reverse) ∧
      ((∀ s ∈ scopes, '.' ∉ s.toList) →
        (∀ j s, scopes[j]? = some s → s.toList.length = scope.toList.length → j = i) →
        ∀ e ∈ own, KeyedList.get? e.1 (snapshot scope registry) = some e.2) := by
  intro registry
  have ht : registry[i]? = some (enterAll (recordsOf i records) (.empty scope)) := by
    rw [getElem?_enterEach, List.getElem?_map, hi]
    rfl
  have hscope : (enterAll (recordsOf i records) (.empty scope)).scope = scope := scope_enterAll ..
  have hown := plain_of_mem_recordsOf hplain i
  refine ⟨_, ht, ⟨snapshot_perm_ownReport hown, nodup_keys_ownReport hown _⟩, fun key => ?_, ?_⟩
  · rw [snapshot_eq_putAll, KeyedList.get?_putAll]
  · intro hpoint hlength e he
    have hvalue := get?_snapshot_of_mem_ownReport hplain ht hpoint (by rwa [hscope]) he
    rwa [hscope] at hvalue

/-- Records of two tallies. -/
def mixedRecords : List (Nat × Record Rat) :=
  [(0, .command "start"), (1, .wait "capture" "converged" none), (0, .command "start"),
    (1, .command "start")]

theorem snapshot_reports_mixedRecords :
    (∀ r ∈ mixedRecords, r.2.Plain) ∧
      let registry := enterEach mixedRecords (["station", "bench"].map .empty)
      ∃ t, registry[0]? = some t ∧
        (snapshot "station" [t]).Perm [("commands_total.start", 2)] ∧
        KeyedList.get? "commands_total.start" (snapshot "station" registry) = some 2 := by
  have hplain : ∀ r ∈ mixedRecords, r.2.Plain := by decide
  refine ⟨hplain, ?_⟩
  have hscope : ["station", "bench"][0]? = some "station" := rfl
  obtain ⟨t, ht, ⟨hperm, -⟩, -, hshared⟩ := snapshot_reports _ mixedRecords hplain hscope
  have hown : ownReport (recordsOf 0 mixedRecords) t = [("commands_total.start", 2)] := by
    obtain rfl := Option.some.inj ht
    decide
  have hpoint : ∀ s ∈ ["station", "bench"], '.' ∉ s.toList := by decide +kernel
  have hlength : ∀ j s, ["station", "bench"][j]? = some s →
      s.toList.length = "station".toList.length → j = 0
    | 0, _, _, _ => rfl
    | 1, _, rfl, h => absurd h (by decide +kernel)
  have hmem : ("commands_total.start", 2) ∈ ownReport (recordsOf 0 mixedRecords) t := by
    rw [hown, List.mem_singleton]
  exact ⟨t, ht, hown ▸ hperm, hshared hpoint hlength _ hmem⟩

/-- On one registry two scopes that are as long hide each other's counts: a command was counted
twice, and is reported once, as often as by the other tally. -/
theorem shared_report_overwritten :
    let records : List (Nat × Record Rat) :=
      [(0, .command "start"), (0, .command "start"), (1, .command "start")]
    let registry := enterEach records (["a", "b"].map .empty)
    registry[0]?.map (commandCount "start") = some 2 ∧
      snapshot "a" registry = [("commands_total.start", 1)] := by
  decide

end Tally

end CaptureControl

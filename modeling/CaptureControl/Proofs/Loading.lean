import CaptureControl.Proofs.Classifying
import CaptureControl.Proofs.Making
import CaptureControl.Proofs.Spelling
import CaptureControl.Settings.Environment

/-!
# Loading the settings

The environment and the dotenv file hold free text, and an empty mark of a running program would
occur in every status text. Here it is shown that no text leads to such settings. Names and marks
are trimmed when they are read, and what is empty then gives way to a standard text, or is left out
if it is an entry of a list. So it is enough that trimmed texts have nothing to trim, and that the
standard texts are such.

The other way round, every list of marks that has a spelling is read from all of its spellings, and
nothing else in the settings depends on the marks.

## Main definitions

* `Settings.Named`, `Settings.Sound` — texts that name something, and settings with such texts
* `Settings.Enlists` — the pieces that spell a list of entries

## Main results

* `Settings.sound_of_load` — settings that are loaded are sound
* `Settings.entries_of_enlists` — a list of entries is read from each of its spellings
* `Settings.load_guards` — all of this together
-/

namespace CaptureControl

/-! ### Variables -/

namespace Environment

variable {env env' : Environment} {name value : String}

/-- A variable that is set stays as it is. -/
theorem get?_extend {key new : List Char} (h : env.extend key new = .ok env')
    (hset : env.get? name = some value) : env'.get? name = some value := by
  unfold extend at h
  split_ifs at h
  · exact Except.ok.inj h ▸ hset
  · exact Except.ok.inj h ▸ KeyedList.get?_append hset _

/-- What every step keeps holds after all of them. -/
theorem foldlM_keeps {ε α β : Type} {f : α → β → Except ε α} {P : α → Prop}
    (hf : ∀ a b a', P a → f a b = .ok a' → P a') (bs : List β) {a a' : α} (ha : P a)
    (h : bs.foldlM f a = .ok a') : P a' := by
  induction bs generalizing a with
  | nil => exact Except.ok.inj h ▸ ha
  | cons b bs ih =>
    rw [List.foldlM_cons] at h
    obtain ⟨a₁, hfirst, hrest⟩ := Station.bind_eq_ok h
    exact ih (hf a b a₁ ha hfirst) hrest

/-- **A file does not change the variables that are set.** -/
theorem get?_withFile {bindings : List Dotenv.Binding} (h : env.withFile bindings = .ok env')
    (hset : env.get? name = some value) : env'.get? name = some value := by
  refine foldlM_keeps (P := fun env => env.get? name = some value) ?_ _ hset h
  rintro env ⟨key, _⟩ env' hset hstep
  dsimp only at hstep
  split at hstep
  · exact get?_extend hstep hset
  · exact Except.ok.inj hstep ▸ hset

end Environment

namespace Settings

variable {env : Environment} {s : Settings Float}

/-! ### Texts that name something -/

/-- A text names something: it is not blank, and has no blank space at its ends. -/
structure Named (text : String) : Prop where
  /-- It is not blank. -/
  not_blank : Text.isBlankText text = false
  /-- It has no blank space at its ends. -/
  strip_eq : Text.strip text = text

theorem Named.ne_empty {text : String} (h : Named text) : text ≠ "" := by
  rintro rfl
  exact absurd h.not_blank (by decide)

/-- A trimmed text that is not empty names something. -/
theorem named_trim {cs : List Char} (h : String.ofList (Text.trim cs) ≠ "") :
    Named (String.ofList (Text.trim cs)) where
  not_blank := by
    rw [Text.isBlankText, String.toList_ofList, ← Bool.not_eq_true, List.all_eq_true]
    intro hblank
    refine h ?_
    rw [← Text.trim_trim, Text.trim, Text.trimBy, Text.dropWhile_eq_nil hblank]
    rfl
  strip_eq := by rw [Text.strip, String.toList_ofList, Text.trim_trim]

/-- A name is read, or the standard one. -/
theorem named_name {standard : String} (hstandard : Named standard) (variableName : String) :
    Named (name env variableName standard) := by
  rw [name, orElse]
  split_ifs with hempty
  · exact hstandard
  · exact named_trim (by simpa [Text.strip] using hempty)

theorem named_of_mem_entries {list m : String} (h : m ∈ entries list) : Named m := by
  obtain ⟨hm, hne⟩ := List.mem_filter.mp h
  obtain ⟨piece, -, rfl⟩ := List.mem_map.mp hm
  exact named_trim (by simpa using hne)

/-! ### What is read from an environment -/

/-- The marks of a running program that an environment gives. -/
def markersOf (env : Environment) : List String :=
  let markers := entries (text env "CDC_RUNNING_MARKERS" "")
  if markers.isEmpty then standard.markers else markers

/-- What the settings hold that is not a number. -/
structure Reads (env : Environment) (s : Settings Float) : Prop where
  /-- The schema of source tables. -/
  schema : s.schema = name env "DB2_SCHEMA" standard.schema
  /-- The schema of the capture program. -/
  programSchema : s.program.schema = name env "CDC_CAPTURE_SCHEMA" standard.program.schema
  /-- The name of the capture program. -/
  programServer : s.program.server = name env "CDC_CAPTURE_SERVER" standard.program.server
  /-- The marks of a running program. -/
  markers : s.markers = markersOf env

theorem reads_of_ofEnvironment (h : ofEnvironment env = .ok s) : Reads env s := by
  unfold ofEnvironment at h
  obtain ⟨_, -, h⟩ := Station.bind_eq_ok h
  obtain ⟨_, -, h⟩ := Station.bind_eq_ok h
  obtain ⟨_, -, h⟩ := Station.bind_eq_ok h
  obtain ⟨_, -, h⟩ := Station.bind_eq_ok h
  obtain ⟨_, -, h⟩ := Station.bind_eq_ok h
  obtain ⟨_, -, h⟩ := Station.bind_eq_ok h
  obtain ⟨_, -, h⟩ := Station.bind_eq_ok h
  obtain rfl := Except.ok.inj h
  constructor <;> dsimp only [markersOf]

/-! ### Sound settings -/

/-- Settings that name what they have to. -/
structure Sound (s : Settings Float) : Prop where
  /-- There is a mark of a running program. -/
  markers_ne_nil : s.markers ≠ []
  /-- Every mark is a text that can be searched for. -/
  marker : ∀ m ∈ s.markers, Named m
  /-- The schema of the capture program. -/
  programSchema : Named s.program.schema
  /-- The name of the capture program. -/
  programServer : Named s.program.server
  /-- The schema of source tables. -/
  schema : Named s.schema
  /-- The database is imitated or real. -/
  mode : s.mode.word = "mock" ∨ s.mode.word = "local"

/-- The standard settings are sound. -/
theorem sound_standard : Sound standard where
  markers_ne_nil := by simp [standard, standardMarkers]
  marker := by
    simp only [standard, standardMarkers, List.forall_mem_cons]
    refine ⟨⟨?_, ?_⟩, ⟨?_, ?_⟩, by simp⟩ <;> decide +kernel
  programSchema := by constructor <;> decide +kernel
  programServer := by constructor <;> decide +kernel
  schema := by constructor <;> decide +kernel
  mode := .inl rfl

/-- **What is read is sound**, because what is missing is standard. -/
theorem Reads.sound (h : Reads env s) : Sound s where
  markers_ne_nil := by
    rw [h.markers, markersOf]
    split_ifs with hempty
    · exact sound_standard.markers_ne_nil
    · exact fun hnil => hempty (List.isEmpty_iff.mpr hnil)
  marker := by
    rw [h.markers, markersOf]
    split_ifs
    · exact sound_standard.marker
    · exact fun m => named_of_mem_entries
  programSchema := h.programSchema ▸ named_name sound_standard.programSchema _
  programServer := h.programServer ▸ named_name sound_standard.programServer _
  schema := h.schema ▸ named_name sound_standard.schema _
  mode := by cases s.mode <;> simp [DatabaseMode.word]

/-- Settings that are loaded are read from the environment with the variables of the file. -/
theorem reads_of_load {file : String} (h : load env file = .ok s) :
    ∃ env', env.withFile (Dotenv.read file) = .ok env' ∧ Reads env' s := by
  obtain ⟨env', henv', hs⟩ := Station.bind_eq_ok h
  exact ⟨env', henv', reads_of_ofEnvironment hs⟩

/-- **Settings that are loaded are sound.** -/
theorem sound_of_load {file : String} (h : load env file = .ok s) : Sound s := by
  obtain ⟨env', -, hreads⟩ := reads_of_load h
  exact hreads.sound

/-- With the marks of sound settings, a text tells of a running program only if it mentions one of
them, which is not empty, and neither is its lower-case form. -/
theorem Sound.mentions_of_running (h : Sound s) {status : Option String}
    (hrunning : Status.classify status s.markers = .running) :
    ∃ t m, status = some t ∧ m ∈ s.markers ∧ Text.lower m.toList ≠ [] ∧ Status.Mentions m t := by
  cases status with
  | none => cases hrunning
  | some t =>
    cases hblank : Text.isBlankText t with
    | true => cases (Status.classify_of_blank hblank _).symm.trans hrunning
    | false =>
      obtain ⟨m, hm, hmentions⟩ := (Status.classify_eq_running_iff hblank).mp hrunning
      have hne : m.toList ≠ [] := mt String.toList_eq_nil_iff.mp (h.marker m hm).ne_empty
      exact ⟨t, m, rfl, hm, Text.lower_ne_nil hne, hmentions⟩

/-! ### Lists of entries -/

/-- Pieces spell a list of entries: in their order, with blank space around each, and with blank
pieces in between. -/
inductive Enlists : List String → List (List Char) → Prop where
  /-- No pieces. -/
  | nil : Enlists [] []
  /-- A blank piece. -/
  | blank {piece : List Char} {pieces : List (List Char)} {ms : List String} :
      ObjectName.Blank piece → Enlists ms pieces → Enlists ms (piece :: pieces)
  /-- An entry. -/
  | entry {m : String} {padded : List Char} {pieces : List (List Char)} {ms : List String} :
      ObjectName.Pads m.toList padded → Enlists ms pieces → Enlists (m :: ms) (padded :: pieces)

/-- An entry that can be spelled: it names something, and has no comma. -/
def Spellable (m : String) : Prop :=
  m ≠ "" ∧ Text.strip m = m ∧ ',' ∉ m.toList

/-- Pieces that spell a list have no commas, and the list is what is left of them when they are
trimmed. -/
theorem Enlists.read {ms : List String} {pieces : List (List Char)} (h : Enlists ms pieces)
    (hms : ∀ m ∈ ms, Spellable m) :
    (∀ piece ∈ pieces, ',' ∉ piece) ∧
      (pieces.map fun piece => String.ofList (Text.trim piece)).filter (!·.isEmpty) = ms := by
  have hcomma : Text.isBlank ',' = false := by decide
  induction h with
  | nil => simp
  | blank hblank _ ih =>
    obtain ⟨hplain, hread⟩ := ih hms
    refine ⟨List.forall_mem_cons.mpr ⟨hblank.notMem hcomma, hplain⟩, ?_⟩
    rw [List.map_cons, Text.trim, Text.trimBy, Text.dropWhile_eq_nil hblank]
    exact hread
  | @entry m padded pieces ms hpads _ ih =>
    obtain ⟨⟨hne, hstrip, hm⟩, hms⟩ := List.forall_mem_cons.mp hms
    obtain ⟨hplain, hread⟩ := ih hms
    refine ⟨List.forall_mem_cons.mpr ⟨hpads.notMem hcomma hm, hplain⟩, ?_⟩
    rw [List.map_cons, hpads.trim_eq, ← Text.strip, hstrip,
      List.filter_cons_of_pos (by simpa using hne), hread]

/-- The ways to write a list of entries with commas in between. -/
def Spells (ms : List String) (list : String) : Prop :=
  ∃ pieces, Enlists ms pieces ∧ list.toList = [','].intercalate pieces

/-- **A list of entries is read from each of its spellings.** -/
theorem entries_of_spells {ms : List String} {list : String} (hne : ms ≠ [])
    (hms : ∀ m ∈ ms, Spellable m) (h : Spells ms list) : entries list = ms := by
  obtain ⟨pieces, henlists, hlist⟩ := h
  obtain ⟨hplain, hread⟩ := henlists.read hms
  have hpieces : pieces ≠ [] := by
    rintro rfl
    exact hne hread.symm
  rw [entries, Text.pieces_eq_iff.mpr ⟨hpieces, hplain, hlist.symm⟩, hread]

/-- Blank entries are left out. -/
example : entries " ,\tis up , ,it runs,," = ["is up", "it runs"] := by
  decide +kernel

/-- The entries with commas between them and nothing else spell the list. -/
theorem spells_intercalate (ms : List String) : Spells ms (",".intercalate ms) := by
  refine ⟨ms.map String.toList, ?_, String.toList_intercalate⟩
  induction ms with
  | nil => exact .nil
  | cons m ms ih => exact .entry (ObjectName.pads_self m.toList) ih

/-! ### The marks in the environment -/

section Put

variable {set read value : String}

theorem get?_put_of_ne (h : read ≠ set) : (env.put set value).get? read = env.get? read := by
  rw [KeyedList.get?_put, if_neg (Ne.symm h)]

theorem integer_put (h : read ≠ set) (standard : Int) :
    integer (env.put set value) read standard = integer env read standard := by
  rw [integer, get?_put_of_ne h, integer]

theorem real_put (h : read ≠ set) (standard : Float) :
    real (env.put set value) read standard = real env read standard := by
  rw [real, get?_put_of_ne h, real]

theorem text_put (h : read ≠ set) (standard : String) :
    text (env.put set value) read standard = text env read standard := by
  rw [text, get?_put_of_ne h, text]

theorem name_put (h : read ≠ set) (standard : String) :
    name (env.put set value) read standard = name env read standard := by
  rw [name, text_put h, name]

end Put

/-- Nothing else in the settings depends on the variable that lists the marks. -/
theorem ofEnvironment_put (env : Environment) (list : String) :
    ofEnvironment (env.put "CDC_RUNNING_MARKERS" list) =
      (fun s => { s with markers := markersOf (env.put "CDC_RUNNING_MARKERS" list) }) <$>
        ofEnvironment env := by
  unfold ofEnvironment
  simp (disch := decide) only [integer_put, real_put, text_put, name_put, get?_put_of_ne, map_bind,
    map_pure, markersOf]

/-- The marks are those that are listed. -/
theorem markersOf_of_spells {ms : List String} {list : String} (hne : ms ≠ [])
    (hms : ∀ m ∈ ms, Spellable m) (hlist : Spells ms list)
    (h : env.get? "CDC_RUNNING_MARKERS" = some list) : markersOf env = ms := by
  have hentries : entries (text env "CDC_RUNNING_MARKERS" "") = ms := by
    rw [text, h, Option.getD_some, entries_of_spells hne hms hlist]
  rw [markersOf, hentries, if_neg (by simpa using hne)]

/-- Without variables the settings are the standard ones. -/
theorem ofEnvironment_nil : ofEnvironment [] = .ok standard := by
  with_unfolding_all rfl

/-- An empty file adds nothing. -/
theorem load_empty (env : Environment) : load env "" = ofEnvironment env := by
  have hread : Dotenv.read "" = [] := by decide
  rw [load, hread]
  rfl

/-- **Loading guards the settings.** Whatever the environment and the dotenv file hold: settings
that are loaded have marks of a running program, every one of them and the names of the schemas and
of the capture program are trimmed and not blank, and the mode is one of the two; so a text tells of
a running program only if it mentions a mark, which is not empty.

The other way round, take any marks that are trimmed and not empty, and have no comma. They are
spelled by joining them with commas, and with blank space around entries and blank entries added.
Each spelling is read as the marks in their order: where it stands in the environment, settings that
are loaded have these marks; and nothing else in the settings depends on it, so they can be loaded
if they can be without it. -/
theorem load_guards :
    (∀ (env : Environment) (file : String) (s : Settings Float), load env file = .ok s →
      Sound s ∧ ∀ status, Status.classify status s.markers = .running →
        ∃ t m, status = some t ∧ m ∈ s.markers ∧ Text.lower m.toList ≠ [] ∧
          Status.Mentions m t) ∧
    ∀ ms : List String, ms ≠ [] → (∀ m ∈ ms, Spellable m) →
      Spells ms (",".intercalate ms) ∧
      ∀ list, Spells ms list →
        (∀ (env : Environment) (file : String) (s : Settings Float),
          env.get? "CDC_RUNNING_MARKERS" = some list → load env file = .ok s → s.markers = ms) ∧
        (∀ env : Environment, ofEnvironment (env.put "CDC_RUNNING_MARKERS" list) =
          (fun s => { s with markers := ms }) <$> ofEnvironment env) ∧
        load [("CDC_RUNNING_MARKERS", list)] "" = .ok { standard with markers := ms } := by
  refine ⟨fun env file s h => ⟨sound_of_load h, fun _ => (sound_of_load h).mentions_of_running⟩, ?_⟩
  intro ms hne hms
  refine ⟨spells_intercalate ms, fun list hlist => ?_⟩
  have hput (env : Environment) : ofEnvironment (env.put "CDC_RUNNING_MARKERS" list) =
      (fun s => { s with markers := ms }) <$> ofEnvironment env := by
    have hset : (env.put "CDC_RUNNING_MARKERS" list).get? "CDC_RUNNING_MARKERS" = some list := by
      rw [KeyedList.get?_put, if_pos rfl]
    rw [ofEnvironment_put, markersOf_of_spells hne hms hlist hset]
  refine ⟨?_, hput, ?_⟩
  · intro env file s hset h
    obtain ⟨env', henv', hreads⟩ := reads_of_load h
    exact hreads.markers.trans
      (markersOf_of_spells hne hms hlist (Environment.get?_withFile henv' hset))
  · have hvariable : [("CDC_RUNNING_MARKERS", list)] =
        KeyedList.put "CDC_RUNNING_MARKERS" list ([] : Environment) := rfl
    rw [load_empty, hvariable, hput, ofEnvironment_nil]
    rfl

end Settings

end CaptureControl

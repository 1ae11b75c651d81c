import CaptureControl.ObjectName
import CaptureControl.Proofs.Entries

/-!
# Reading the names of metrics objects

What stands after the first colon of the name of a metrics object is read in pieces between commas.
A blank piece gives nothing, and any other has to give a property: something that is not blank, an
equals sign, and a value. A name with a piece that does not is malformed; every other name is read.
Blank space around the parts does not count, and neither does the order of the pieces if no key is
given two values.

## Main definitions

* `ObjectName.Malformed` — names with a piece that is neither blank nor gives a property
* `ObjectName.propertiesOf` — the properties that a name gives, one after another
* `ObjectName.Reorders` — names with the same pieces in another order

## Main results

* `ObjectName.parse?_eq_none_iff` — the malformed names are those that are refused
* `ObjectName.parse?_eq_some` — how every other name is read
* `ObjectName.Reorders.exists_parse?` — the order of the pieces does not count
-/

namespace CaptureControl

namespace ObjectName

/-! ### Pieces -/

/-- Blank space only. -/
def Blank (cs : List Char) : Prop :=
  ∀ c ∈ cs, Text.isBlank c = true

instance : DecidablePred Blank := fun cs =>
  List.decidableBAll (fun c => Text.isBlank c = true) cs

/-- The pieces between commas of what stands after the first colon. -/
def propertyPieces (text : List Char) : List (List Char) :=
  Text.pieces ',' ((Text.cut ':' text).2.getD [])

/-- A piece that is not blank, and that has no equals sign or is blank before the first. -/
def MalformedPiece (piece : List Char) : Prop :=
  ¬ Blank piece ∧ ('=' ∉ piece ∨ Blank (Text.cut '=' piece).1)

instance : DecidablePred MalformedPiece := fun _ => inferInstanceAs (Decidable (_ ∧ _))

/-- Names with a malformed piece. -/
def Malformed (text : List Char) : Prop :=
  ∃ piece ∈ propertyPieces text, MalformedPiece piece

instance : DecidablePred Malformed := fun text =>
  List.decidableBEx MalformedPiece (propertyPieces text)

/-- The property that a piece gives: what stands before and what stands after its first equals sign,
without the blank space around. -/
def property? (piece : List Char) : Option (List Char × List Char) :=
  if Blank piece then none
  else (Text.cut '=' piece).2.map fun value =>
    (Text.trim (Text.cut '=' piece).1, Text.trim value)

/-- The properties that a name gives, one after another. -/
def propertiesOf (text : List Char) : KeyedList (List Char) (List Char) :=
  (propertyPieces text).filterMap property?

/-! ### Reading -/

section Pieces

variable {properties : KeyedList (List Char) (List Char)} {piece : List Char}

theorem all_isBlank_iff {cs : List Char} : cs.all Text.isBlank = true ↔ Blank cs :=
  List.all_eq_true

/-- A malformed piece is refused. -/
theorem addPiece?_of_malformed (h : MalformedPiece piece) : addPiece? properties piece = none := by
  obtain ⟨hblank, hpiece⟩ := h
  rw [addPiece?, if_neg (mt all_isBlank_iff.mp hblank)]
  by_cases hmem : '=' ∈ piece
  · obtain ⟨key, value, rfl, hkey⟩ := List.eq_append_cons_of_mem hmem
    have hcut := Text.cut_append_cons hkey value
    have hfirst : Blank key := by simpa [hcut] using hpiece
    rw [hcut]
    exact if_pos (all_isBlank_iff.mpr hfirst)
  · rw [Text.cut_of_notMem hmem]

/-- Every other piece adds the property that it gives, if any. -/
theorem addPiece?_of_not_malformed (h : ¬ MalformedPiece piece) :
    addPiece? properties piece = some (KeyedList.putAll (property? piece).toList properties) := by
  by_cases hblank : Blank piece
  · rw [addPiece?, if_pos (all_isBlank_iff.mpr hblank), property?, if_pos hblank]
    rfl
  · have hpiece := not_or.mp fun hbad => h ⟨hblank, hbad⟩
    obtain ⟨key, value, rfl, hkey⟩ := List.eq_append_cons_of_mem (not_not.mp hpiece.1)
    have hcut := Text.cut_append_cons hkey value
    have hfirst : ¬ Blank key := by simpa [hcut] using hpiece.2
    rw [addPiece?, if_neg (mt all_isBlank_iff.mp hblank), property?, if_neg hblank, hcut]
    exact if_neg (mt all_isBlank_iff.mp hfirst)

/-- One malformed piece makes all pieces be refused. -/
theorem foldlM_addPiece?_of_malformed {pieces : List (List Char)}
    (h : ∃ piece ∈ pieces, MalformedPiece piece) (properties : KeyedList (List Char) (List Char)) :
    pieces.foldlM addPiece? properties = none := by
  induction pieces generalizing properties with
  | nil => simp at h
  | cons piece pieces ih =>
    rw [List.foldlM_cons]
    by_cases hpiece : MalformedPiece piece
    · rw [addPiece?_of_malformed hpiece]
      rfl
    · rw [addPiece?_of_not_malformed hpiece]
      exact ih (by simpa [hpiece] using h) _

/-- Without a malformed piece, all properties are put under their keys. -/
theorem foldlM_addPiece?_of_not_malformed {pieces : List (List Char)}
    (h : ∀ piece ∈ pieces, ¬ MalformedPiece piece)
    (properties : KeyedList (List Char) (List Char)) :
    pieces.foldlM addPiece? properties =
      some (KeyedList.putAll (pieces.filterMap property?) properties) := by
  induction pieces generalizing properties with
  | nil => rfl
  | cons piece pieces ih =>
    rw [List.forall_mem_cons] at h
    rw [List.foldlM_cons, addPiece?_of_not_malformed h.1, List.filterMap_cons]
    change pieces.foldlM addPiece? _ = _
    rw [ih h.2]
    cases property? piece <;> rfl

end Pieces

variable {text text' : List Char}

/-- Every name that is not malformed is read. -/
theorem parse?_eq_some (h : ¬ Malformed text) :
    parse? text = some
      { domain := Text.trim (Text.cut ':' text).1
        properties := KeyedList.putAll (propertiesOf text) [] } := by
  have hpieces := foldlM_addPiece?_of_not_malformed
    (fun piece hmem hbad => h ⟨piece, hmem, hbad⟩) []
  rw [propertyPieces] at hpieces
  rw [parse?]
  dsimp only
  rw [hpieces]
  rfl

/-- **A name is refused exactly if it is malformed.** -/
theorem parse?_eq_none_iff : parse? text = none ↔ Malformed text := by
  constructor
  · intro hnone
    by_contra h
    rw [parse?_eq_some h] at hnone
    cases hnone
  · intro h
    have hpieces := foldlM_addPiece?_of_malformed h []
    rw [propertyPieces] at hpieces
    rw [parse?]
    dsimp only
    rw [hpieces]
    rfl

section Outcome

variable {τ : Type} {text : String} {o : ObjectName}

theorem parse_eq_ok_iff : parse text = (.ok o : Except (Fault τ) _) ↔ parse? text.toList = some o := by
  rw [parse]
  cases parse? text.toList <;> simp

theorem parse_eq_error_iff {e : Fault τ} :
    parse text = .error e ↔ parse? text.toList = none ∧ e = .objectName text := by
  rw [parse]
  cases parse? text.toList <;> simp [eq_comm]

end Outcome

/-- A blank piece does no harm, nor does a value that is empty. -/
example : Malformed ['d', ':', 'k'] ∧ ¬ Malformed ['d', ':', 'k', '=', ',', ' '] := by
  decide

/-! ### The order of the pieces -/

/-- The same domain, and the same pieces in another order, where no key is given two values. -/
structure Reorders (text text' : List Char) : Prop where
  /-- What stands before the first colon is the same. -/
  domain : (Text.cut ':' text).1 = (Text.cut ':' text').1
  /-- The pieces are the same, in whatever order. -/
  pieces : (propertyPieces text).Perm (propertyPieces text')
  /-- A key that is given twice is given the same value. -/
  single : ∀ key value value', (key, value) ∈ propertiesOf text →
    (key, value') ∈ propertiesOf text → value = value'

theorem Reorders.malformed_iff (h : Reorders text text') : Malformed text ↔ Malformed text' := by
  simp only [Malformed, h.pieces.mem_iff]

theorem Reorders.mem_propertiesOf_iff (h : Reorders text text') {p : List Char × List Char} :
    p ∈ propertiesOf text ↔ p ∈ propertiesOf text' :=
  (h.pieces.filterMap property?).mem_iff

/-- Names with the same pieces in another order are read as the same domain and properties. -/
theorem Reorders.exists_parse? (h : Reorders text text') (hgood : ¬ Malformed text) :
    ∃ o o', parse? text = some o ∧ parse? text' = some o' ∧ o.domain = o'.domain ∧
      ∀ p, p ∈ o.properties ↔ p ∈ o'.properties := by
  refine ⟨_, _, parse?_eq_some hgood, parse?_eq_some (mt h.malformed_iff.mpr hgood), ?_, ?_⟩
  · dsimp only
    rw [h.domain]
  · rintro ⟨key, value⟩
    dsimp only
    rw [KeyedList.mem_putAll_iff fun value' hmem hmem' => h.single key value' value hmem' hmem,
      KeyedList.mem_putAll_iff fun value' hmem hmem' => h.single key value' value
        (h.mem_propertiesOf_iff.mpr hmem') (h.mem_propertiesOf_iff.mpr hmem),
      h.mem_propertiesOf_iff]

end ObjectName

end CaptureControl

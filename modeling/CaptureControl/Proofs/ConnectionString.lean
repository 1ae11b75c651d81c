import CaptureControl.Settings.Basic
import CaptureControl.Text.Split
import Mathlib

/-!
# The connection string and the settings in it

The connection string holds the name of the database, its host and port, the user and the password,
each after its key and an equals sign and before a semicolon, and nothing in it is quoted. Whoever
reads it back splits it at the semicolons and each piece at the first equals sign.

So an equals sign in a value does no harm, and a semicolon does: what follows it reads as a piece of
its own. A host may hold another password that way, and two different settings may even have the
same connection string. Where no text of the settings holds a semicolon, the connection string reads
as the settings, and tells them apart. For the second a password may hold anything, because it comes
last.

## Main definitions

* `Settings.readPairs` — the pairs of keys and values that a connection string reads as
* `Settings.pairs` — the pairs that the settings give

## Main results

* `Settings.readPairs_dsn_iff` — when a connection string reads as the settings
* `Settings.dsn_carries` — this, and when settings with the same connection string agree
* `Settings.dsn_misleads` — settings that share their connection string with others
-/

namespace CaptureControl

namespace Settings

/-! ### Reading a connection string -/

/-- A pair as it is written: the key, an equals sign, the value and a semicolon. -/
def writePair (p : String × String) : List Char :=
  p.1.toList ++ '=' :: p.2.toList ++ [';']

/-- The pairs of keys and values that a connection string reads as. A piece without equals sign is a
key without value. -/
def readPairs (text : String) : List (String × Option String) :=
  (Text.pieces ';' text.toList).map fun piece =>
    (String.ofList (Text.cut '=' piece).1, (Text.cut '=' piece).2.map String.ofList)

/-- A value that is read holds no semicolon. -/
theorem notMem_of_mem_readPairs {text key value : String} (h : (key, some value) ∈ readPairs text) :
    ';' ∉ value.toList := by
  obtain ⟨piece, hpiece, heq⟩ := List.mem_map.mp h
  obtain ⟨-, hvalue⟩ := Prod.mk.inj heq
  obtain ⟨cs, hcs, rfl⟩ := Option.map_eq_some_iff.mp hvalue
  rw [String.toList_ofList]
  exact fun hmem => Text.notMem_of_mem_pieces hpiece (Text.subset_of_cut hcs hmem)

/-- Pairs are read back if no key holds an equals sign and neither a key nor a value a semicolon.
The last semicolon leaves an empty piece. -/
theorem readPairs_of_writePairs {text : String} {ps : List (String × String)}
    (htext : text.toList = ps.flatMap writePair)
    (hkeys : ∀ p ∈ ps, '=' ∉ p.1.toList ∧ ';' ∉ p.1.toList) (hvalues : ∀ p ∈ ps, ';' ∉ p.2.toList) :
    readPairs text = ps.map (fun p => (p.1, some p.2)) ++ [("", none)] := by
  rw [readPairs, htext]
  clear htext
  induction ps with
  | nil => rfl
  | cons p ps ih =>
    obtain ⟨hkey, hps⟩ := List.forall_mem_cons.mp hkeys
    obtain ⟨hvalue, hps'⟩ := List.forall_mem_cons.mp hvalues
    have hpiece : ';' ∉ p.1.toList ++ '=' :: p.2.toList := by simp [hkey.2, hvalue]
    have hsplit : (p :: ps).flatMap writePair =
        (p.1.toList ++ '=' :: p.2.toList) ++ ';' :: ps.flatMap writePair := by
      simp [writePair]
    rw [hsplit, Text.pieces_append_cons, Text.pieces_of_notMem hpiece, List.map_append, ih hps hps']
    simp [Text.cut_append_cons hkey.1]

/-- Every pair brings one semicolon, and those of its value. -/
theorem count_writePairs {ps : List (String × String)}
    (hkeys : ∀ p ∈ ps, '=' ∉ p.1.toList ∧ ';' ∉ p.1.toList) :
    (ps.flatMap writePair).count ';' =
      ps.length + (ps.map fun p => p.2.toList.count ';').sum := by
  induction ps with
  | nil => rfl
  | cons p ps ih =>
    obtain ⟨hkey, hps⟩ := List.forall_mem_cons.mp hkeys
    have hpair : (writePair p).count ';' = 1 + p.2.toList.count ';' := by
      simp [writePair, List.count_eq_zero.mpr hkey.2, Nat.add_comm]
    rw [List.flatMap_cons, List.count_append, ih hps, hpair, List.length_cons, List.map_cons,
      List.sum_cons]
    omega

/-- A value without semicolon is found before the next semicolon. -/
theorem writePair_append_inj {key value value' : String} {rest rest' : List Char}
    (hvalue : ';' ∉ value.toList) (hvalue' : ';' ∉ value'.toList)
    (h : writePair (key, value) ++ rest = writePair (key, value') ++ rest') :
    value = value' ∧ rest = rest' := by
  simp only [writePair, List.append_assoc, List.cons_append, List.nil_append] at h
  have h := (List.cons.inj (List.append_cancel_left h)).2
  obtain ⟨hsame, hrest⟩ := Text.append_cons_inj hvalue hvalue' h
  exact ⟨String.toList_inj.mp hsame, hrest⟩

/-! ### The pairs of the settings -/

variable {τ : Type} {s t : Settings τ}

/-- The pairs that the settings give. -/
def pairs (s : Settings τ) : List (String × String) :=
  [("DATABASE", s.database), ("HOSTNAME", s.host), ("PORT", toString s.port),
    ("PROTOCOL", "TCPIP"), ("UID", s.user), ("PWD", s.password)]

/-- No text of the settings that goes into the connection string holds a semicolon. -/
def Plain (s : Settings τ) : Prop :=
  ∀ text ∈ [s.database, s.host, s.user, s.password], ';' ∉ text.toList

theorem Plain.beforePassword (h : s.Plain) :
    ∀ text ∈ [s.database, s.host, s.user], ';' ∉ text.toList := by
  intro text htext
  simp only [List.mem_cons] at htext
  exact h text (by simp only [List.mem_cons]; tauto)

theorem toList_dsn (s : Settings τ) : s.dsn.toList = s.pairs.flatMap writePair := by
  have hdatabase : "DATABASE=".toList = "DATABASE".toList ++ ['='] := rfl
  have hhost : ";HOSTNAME=".toList = ';' :: "HOSTNAME".toList ++ ['='] := rfl
  have hport : ";PORT=".toList = ';' :: "PORT".toList ++ ['='] := rfl
  have huser : ";PROTOCOL=TCPIP;UID=".toList =
      ';' :: "PROTOCOL".toList ++ '=' :: "TCPIP".toList ++ ';' :: "UID".toList ++ ['='] := rfl
  have hpassword : ";PWD=".toList = ';' :: "PWD".toList ++ ['='] := rfl
  have hend : ";".toList = [';'] := rfl
  simp only [pairs, List.flatMap_cons, List.flatMap_nil]
  unfold writePair dsn
  simp only [String.toList_append, hdatabase, hhost, hport, huser, hpassword, hend,
    List.append_assoc, List.cons_append, List.nil_append]

/-- The keys hold neither an equals sign nor a semicolon. -/
theorem notMem_keys (s : Settings τ) : ∀ p ∈ s.pairs, '=' ∉ p.1.toList ∧ ';' ∉ p.1.toList := by
  simp only [pairs, List.forall_mem_cons]
  decide

/-- A number is written in digits and a minus sign. -/
theorem notMem_toString (n : Int) : ';' ∉ (toString n).toList := by
  have hdigits (n : Nat) : ';' ∉ n.repr.toList := by
    rw [Nat.toList_repr]
    intro hmem
    have hdigit := Nat.isDigit_of_mem_toDigits (by decide) (by decide) hmem
    exact absurd hdigit (by decide)
  rw [Int.toString_eq_repr, Int.repr_eq_if]
  split
  · exact hdigits _
  · simpa using hdigits _

theorem plain_iff : s.Plain ↔ ∀ p ∈ s.pairs, ';' ∉ p.2.toList := by
  simp [Plain, pairs, notMem_toString, -Int.toString_eq_repr]

/-- **A connection string reads as the settings** exactly if none of their texts holds a
semicolon. -/
theorem readPairs_dsn_iff :
    readPairs s.dsn = s.pairs.map (fun p => (p.1, some p.2)) ++ [("", none)] ↔ s.Plain := by
  rw [plain_iff]
  constructor
  · rintro h ⟨key, value⟩ hp
    have hread : (key, some value) ∈ readPairs s.dsn := by
      rw [h]
      exact List.mem_append_left _ (List.mem_map_of_mem hp)
    exact notMem_of_mem_readPairs hread
  · exact readPairs_of_writePairs s.toList_dsn s.notMem_keys

/-! ### Settings with the same connection string -/

/-- Settings agree on what the connection string is to tell. -/
def SameAccess (s t : Settings τ) : Prop :=
  s.database = t.database ∧ s.host = t.host ∧ s.port = t.port ∧ s.user = t.user ∧
    s.password = t.password

/-- A semicolon too many shows in the connection string. -/
theorem plain_iff_count : s.Plain ↔ s.dsn.toList.count ';' = 6 := by
  have hlength : s.pairs.length = 6 := rfl
  rw [plain_iff, toList_dsn, count_writePairs s.notMem_keys, hlength, Nat.add_eq_left,
    List.sum_eq_zero_iff_forall_eq_nat, List.forall_mem_map]
  simp only [List.count_eq_zero]

/-- The settings are found in the connection string one after another, each before the next
semicolon, and the password before the last one. -/
theorem sameAccess_of_dsn_eq
    (hs : ∀ text ∈ [s.database, s.host, s.user], ';' ∉ text.toList)
    (ht : ∀ text ∈ [t.database, t.host, t.user], ';' ∉ text.toList) (h : s.dsn = t.dsn) :
    s.SameAccess t := by
  have htext : s.pairs.flatMap writePair = t.pairs.flatMap writePair := by
    rw [← toList_dsn, ← toList_dsn, h]
  simp only [pairs, List.flatMap_cons, List.flatMap_nil] at htext
  simp only [List.forall_mem_cons] at hs ht
  obtain ⟨hdatabase, htext⟩ := writePair_append_inj hs.1 ht.1 htext
  obtain ⟨hhost, htext⟩ := writePair_append_inj hs.2.1 ht.2.1 htext
  obtain ⟨hport, htext⟩ := writePair_append_inj (notMem_toString _) (notMem_toString _) htext
  have htext := List.append_cancel_left htext
  obtain ⟨huser, htext⟩ := writePair_append_inj hs.2.2.1 ht.2.2.1 htext
  refine ⟨hdatabase, hhost, ?_, huser, ?_⟩
  · rw [Int.toString_eq_repr, Int.toString_eq_repr] at hport
    exact Int.repr_injective hport
  · exact String.toList_inj.mp (by simpa [writePair] using htext)

/-- **The connection string carries the settings** as far as they hold no semicolon. Splitting it
at the semicolons, and each piece at its first equals sign, gives the six keys in order with the
database name, the host, the port, the protocol, the user and the password, and then the empty piece
after the last semicolon, exactly if none of the four texts holds a semicolon. Settings with the same
connection string agree on all five fields if one of them is such; they also do so if no semicolon
is in the database name, the host and the user of either. -/
theorem dsn_carries (s : Settings τ) :
    (readPairs s.dsn =
        [("DATABASE", some s.database), ("HOSTNAME", some s.host), ("PORT", some (toString s.port)),
          ("PROTOCOL", some "TCPIP"), ("UID", some s.user), ("PWD", some s.password), ("", none)] ↔
      s.Plain) ∧
    ∀ t : Settings τ, s.dsn = t.dsn →
      (s.Plain ∨ ∀ u ∈ [s, t], ∀ text ∈ [u.database, u.host, u.user], ';' ∉ text.toList) →
      s.SameAccess t := by
  refine ⟨readPairs_dsn_iff, fun t hsame htexts => ?_⟩
  rcases htexts with hs | htexts
  · have ht : t.Plain := plain_iff_count.mpr (hsame ▸ plain_iff_count.mp hs)
    exact sameAccess_of_dsn_eq hs.beforePassword ht.beforePassword hsame
  · exact sameAccess_of_dsn_eq (htexts s (by simp)) (htexts t (by simp)) hsame

/-- Settings with a host in the name of the database. -/
def intruding : Settings Float :=
  { standard with database := "testdb;HOSTNAME=db2", host := "localhost" }

/-- Settings with two hosts in the host. -/
def doubled : Settings Float :=
  { standard with database := "testdb", host := "db2;HOSTNAME=localhost" }

/-- **A semicolon misleads.** The connection string reads as one with two hosts, and it is that of
other settings, with another database and another host. -/
theorem dsn_misleads :
    readPairs intruding.dsn =
        [("DATABASE", some "testdb"), ("HOSTNAME", some "db2"), ("HOSTNAME", some "localhost"),
          ("PORT", some "50000"), ("PROTOCOL", some "TCPIP"), ("UID", some "db2inst1"),
          ("PWD", some "admin"), ("", none)] ∧
      intruding.dsn = doubled.dsn ∧
      intruding.database ≠ doubled.database ∧ intruding.host ≠ doubled.host := by
  decide +kernel

end Settings

end CaptureControl

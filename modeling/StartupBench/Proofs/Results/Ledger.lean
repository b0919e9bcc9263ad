import StartupBench.Proofs.Act.Recorded
import StartupBench.Proofs.Text.Bytewise
import StartupBench.Results.Basic
import Mathlib.Data.List.Induction

/-!
# What a ledger tells

`Ledger.book` is the ledger after a list of readings was recorded one after the other, whether some
of them were refused or not.  It is described in terms of the readings alone (`Ledger.Tells`): the
first reading of a key makes its series and fixes the units, the readings that were not refused
follow in their order, and a reading is refused if it names units other than the first one did.

## Looking up

The ledger is a list that is searched from its head and kept in the order of the keys.  Looking up
after `Ledger.put` needs nothing of that order (`Ledger.get?_put`), so it is proved first and apart
from `Ledger.Sorted`, which is about the list alone.

## One reading and many

Whether a reading is refused depends on the ledger only through the series of its key
(`Ledger.objection?`), and if it is accepted it makes the series one longer (`Ledger.extended`).
`Ledger.book_induction` takes what a new ledger has and an accepted reading keeps to the ledger of
any readings, with which `Ledger.get?_book` and `Ledger.objection?_book` are proved; from these all
the parts of `Ledger.book_tells` follow.
-/

namespace StartupBench

/-! ## The order of the keys -/

namespace ResultKey

/-- Whether the bytes of one key come before those of another: by the graph and then by the trace.
`ResultKey.before` compares characters instead, and `Utf8.encode_lt_encode` makes the two the same.
-/
def BytesBefore (a b : ResultKey) : Prop :=
  Utf8.encode a.graph < Utf8.encode b.graph ∨
    Utf8.encode a.graph = Utf8.encode b.graph ∧ Utf8.encode a.trace < Utf8.encode b.trace

lemma before_iff {a b : ResultKey} :
    a.before b = true ↔ a.graph < b.graph ∨ a.graph = b.graph ∧ a.trace < b.trace := by
  simp [before]

lemma before_iff_bytes {a b : ResultKey} : a.before b = true ↔ a.BytesBefore b := by
  unfold BytesBefore
  rw [before_iff, Utf8.encode_lt_encode, Utf8.encode_lt_encode, Utf8.encode_inj]

lemma before_trans {a b c : ResultKey} (hab : a.before b = true) (hbc : b.before c = true) :
    a.before c = true := by
  rw [before_iff] at hab hbc ⊢
  obtain hab | ⟨heq, hab⟩ := hab
  · obtain hbc | ⟨heq', _⟩ := hbc
    · exact .inl (hab.trans hbc)
    · exact .inl (heq' ▸ hab)
  · obtain hbc | ⟨heq', hbc⟩ := hbc
    · exact .inl (heq ▸ hbc)
    · exact .inr ⟨heq.trans heq', hab.trans hbc⟩

lemma before_irrefl (key : ResultKey) : ¬key.before key = true := by
  rw [before_iff]
  rintro (h | ⟨_, h⟩)
  · exact lt_irrefl _ h
  · exact lt_irrefl _ h

lemma before_of_not_before {a b : ResultKey} (hne : a ≠ b) (h : ¬a.before b = true) :
    b.before a = true := by
  obtain ⟨graph, trace⟩ := a
  obtain ⟨graph', trace'⟩ := b
  rw [before_iff] at h ⊢
  obtain hlt | rfl | hgt := lt_trichotomy graph graph'
  · exact absurd (.inl hlt) h
  · obtain hlt | rfl | hgt := lt_trichotomy trace trace'
    · exact absurd (.inr ⟨rfl, hlt⟩) h
    · exact absurd rfl hne
    · exact .inr ⟨rfl, hgt⟩
  · exact .inl hgt

end ResultKey

namespace Ledger

/-! ## Looking up and the order of the entries -/

lemma get?_put (l : Ledger) (key key' : ResultKey) (series : Series) :
    get? ⟨put key series l.entries⟩ key' = if key = key' then some series else l.get? key' := by
  obtain ⟨entries⟩ := l
  unfold get?
  dsimp only
  induction entries with
  | nil => by_cases same : key = key' <;> simp [put, same]
  | cons e rest ih =>
    by_cases here : e.1 = key
    · by_cases same : key = key' <;> simp [put, here, same]
    · by_cases first : key.before e.1
      · rw [put, if_neg here, if_pos first]
        by_cases same : key = key' <;> simp [same]
      · rw [put, if_neg here, if_neg first]
        by_cases found : e.1 = key'
        · have other : key ≠ key' := fun same => here (found.trans same.symm)
          simp [found, other]
        · simpa [found] using ih

/-- The entries are in the order of their keys, and no key has two: the keys become strictly
greater. -/
def Sorted (entries : List (ResultKey × Series)) : Prop :=
  entries.Pairwise fun a b => a.1.before b.1 = true

lemma mem_put {key : ResultKey} {series : Series} {entries : List (ResultKey × Series)}
    {e : ResultKey × Series} (h : e ∈ put key series entries) :
    e = (key, series) ∨ e ∈ entries := by
  induction entries with
  | nil => exact .inl (List.mem_singleton.1 h)
  | cons e₁ rest ih =>
    rw [put] at h
    split_ifs at h with here first
    · exact (List.mem_cons.1 h).imp_right (List.mem_cons_of_mem _)
    · exact List.mem_cons.1 h
    · obtain rfl | h := List.mem_cons.1 h
      · exact .inr List.mem_cons_self
      · exact (ih h).imp_right (List.mem_cons_of_mem _)

lemma Sorted.put {entries : List (ResultKey × Series)} (h : Sorted entries) (key : ResultKey)
    (series : Series) : Sorted (Ledger.put key series entries) := by
  induction entries with
  | nil => exact List.pairwise_singleton _ _
  | cons e rest ih =>
    obtain ⟨above, sorted⟩ := List.pairwise_cons.1 h
    rw [Ledger.put]
    split_ifs with here first
    · exact List.pairwise_cons.2 ⟨here ▸ above, sorted⟩
    · refine List.pairwise_cons.2 ⟨fun e₁ he₁ => ?_, h⟩
      obtain rfl | he₁ := List.mem_cons.1 he₁
      · exact first
      · exact ResultKey.before_trans first (above e₁ he₁)
    · refine List.pairwise_cons.2 ⟨fun e₁ he₁ => ?_, ih sorted⟩
      obtain rfl | he₁ := mem_put he₁
      · exact ResultKey.before_of_not_before (Ne.symm here) first
      · exact above e₁ he₁

lemma mem_entries_of_get? {l : Ledger} {key : ResultKey} {series : Series}
    (h : l.get? key = some series) : (key, series) ∈ l.entries := by
  obtain ⟨e, found, rfl⟩ := Option.map_eq_some_iff.1 h
  have same : e.1 = key := by simpa using List.find?_some found
  exact same ▸ List.mem_of_find?_eq_some found

lemma Sorted.get? {entries : List (ResultKey × Series)} (h : Sorted entries) {key : ResultKey}
    {series : Series} (member : (key, series) ∈ entries) :
    Ledger.get? ⟨entries⟩ key = some series := by
  unfold Ledger.get?
  induction entries with
  | nil => cases member
  | cons e rest ih =>
    obtain ⟨above, sorted⟩ := List.pairwise_cons.1 h
    obtain rfl | member := List.mem_cons.1 member
    · simp
    · have later : e.1.before key = true := above (key, series) member
      have other : e.1 ≠ key := by
        rintro rfl
        exact ResultKey.before_irrefl _ later
      simpa [other] using ih sorted member

end Ledger

/-! ## Readings -/

/-- A sample that is to be recorded, with the key that it is recorded under.  Empty units go with
any others. -/
structure Reading where
  key : ResultKey
  value : Float
  units : String

namespace Reading

/-- Record it with `Ledger.add`, and keep both the answer and the ledger after it. -/
def add (r : Reading) (l : Ledger) : Ran Empty Ledger (Except RunError Unit) :=
  (Ledger.add r.key r.value r.units : Try Empty Ledger RunError Unit).run l

/-- Whether it names units that go against those of another reading, the `first` of its key. -/
def Against (r first : Reading) : Prop := r.units ≠ "" ∧ r.units ≠ first.units

instance (r first : Reading) : Decidable (r.Against first) :=
  inferInstanceAs (Decidable (_ ∧ _))

/-- The error that refuses it, with its key and both units. -/
def conflict (r first : Reading) : RunError :=
  .unitsConflict r.key.graph r.key.trace first.units r.units

end Reading

namespace Ledger

/-- The ledger after readings were recorded one after the other, refused or not, in a ledger that
may have entries already. -/
def bookFrom (l : Ledger) (readings : List Reading) : Ledger :=
  readings.foldl (fun l r => (r.add l).world) l

/-- The readings among them that were not refused, each asked of the ledger of `bookFrom` so far. -/
def acceptedFrom (l : Ledger) : List Reading → List Reading
  | [] => []
  | r :: rest =>
    (if (r.add l).outcome.value?.isSome then [r] else []) ++ acceptedFrom (r.add l).world rest

/-- The record of readings in a new ledger. -/
def book (readings : List Reading) : Ledger := bookFrom {} readings

/-- The readings that are not refused by a ledger that is new at the first of them, in their order.
-/
def accepted (readings : List Reading) : List Reading := acceptedFrom {} readings

/-- The readings of one key, in their order. -/
def ofKey (readings : List Reading) (key : ResultKey) : List Reading :=
  readings.filter (·.key = key)

/-- The first reading of a key, if it has one.  It makes the series and fixes the units. -/
def first? (readings : List Reading) (key : ResultKey) : Option Reading :=
  (ofKey readings key).head?

/-- What the readings say is recorded under a key: the units of the `first?`, and the values of
those that are `accepted`. -/
def seriesOf (readings : List Reading) (key : ResultKey) : Option Series :=
  (first? readings key).map fun first =>
    ⟨first.units, (ofKey (accepted readings) key).map (·.value)⟩

/-! ## One reading -/

section One

variable {l : Ledger} {r : Reading}

/-- A series with one more reading.  Without a series the reading makes one. -/
def extended (r : Reading) : Option Series → Series
  | some series => { series with samples := series.samples ++ [r.value] }
  | none => ⟨r.units, [r.value]⟩

/-- What there is to say against a reading under its key: its units are neither empty nor those of
the series. -/
def objection? (l : Ledger) (r : Reading) : Option RunError :=
  (l.get? r.key).bind fun series =>
    if r.units ≠ "" ∧ r.units ≠ series.units then
      some (.unitsConflict r.key.graph r.key.trace series.units r.units)
    else none

lemma record_eq (l : Ledger) (r : Reading) :
    l.record r.key r.value r.units =
      match objection? l r with
      | some e => .error e
      | none => .ok ⟨put r.key (extended r (l.get? r.key)) l.entries⟩ := by
  unfold record conflicts objection?
  cases l.get? r.key with
  | none => simp [extended]
  | some series =>
    have units : (!r.units.isEmpty && series.units != r.units) = true ↔
        r.units ≠ "" ∧ r.units ≠ series.units := by
      simp [@eq_comm _ r.units series.units]
    rw [Option.getD_some, Option.bind_some]
    dsimp only
    split_ifs with named against against
    · rfl
    · exact absurd (units.1 named) against
    · exact absurd (units.2 against) named
    · rfl

lemma add_of_objection {e : RunError} (h : objection? l r = some e) :
    (r.add l).outcome = .returned (.error e) ∧ (r.add l).world = l := by
  unfold Reading.add
  rw [add_run, record_eq, h]
  exact ⟨rfl, rfl⟩

lemma add_of_no_objection (h : objection? l r = none) :
    (r.add l).outcome = .returned (.ok ()) ∧
      (r.add l).world = ⟨put r.key (extended r (l.get? r.key)) l.entries⟩ := by
  unfold Reading.add
  rw [add_run, record_eq, h]
  exact ⟨rfl, rfl⟩

lemma add_outcome (l : Ledger) (r : Reading) :
    (r.add l).outcome = .returned ((objection? l r).elim (.ok ()) .error) := by
  cases h : objection? l r with
  | some e => exact (add_of_objection h).1
  | none => exact (add_of_no_objection h).1

end One

/-! ## All readings -/

section All

variable {before : List Reading} {r : Reading}

lemma book_snoc (before : List Reading) (r : Reading) :
    book (before ++ [r]) = (r.add (book before)).world :=
  List.foldl_concat ..

lemma acceptedFrom_append (l : Ledger) (before after : List Reading) :
    acceptedFrom l (before ++ after) =
      acceptedFrom l before ++ acceptedFrom (bookFrom l before) after := by
  induction before generalizing l with
  | nil => rfl
  | cons r rest ih =>
    rw [List.cons_append, acceptedFrom, acceptedFrom, ih, List.append_assoc]
    rfl

lemma accepted_append (before after : List Reading) :
    accepted (before ++ after) = accepted before ++ acceptedFrom (book before) after :=
  acceptedFrom_append {} before after

lemma accepted_snoc (before : List Reading) (r : Reading) :
    accepted (before ++ [r]) =
      accepted before ++ if objection? (book before) r = none then [r] else [] := by
  rw [accepted_append, acceptedFrom, acceptedFrom, List.append_nil, add_outcome]
  cases objection? (book before) r <;> simp [Outcome.value?]

lemma acceptedFrom_sublist (l : Ledger) (readings : List Reading) :
    (acceptedFrom l readings).Sublist readings := by
  induction readings generalizing l with
  | nil => exact .slnil
  | cons r rest ih =>
    rw [acceptedFrom]
    split_ifs
    · exact (ih _).cons_cons r
    · exact (ih _).cons r

lemma ofKey_append (before after : List Reading) (key : ResultKey) :
    ofKey (before ++ after) key = ofKey before key ++ ofKey after key :=
  List.filter_append ..

lemma ofKey_ofKey (readings : List Reading) (key : ResultKey) :
    ofKey (ofKey readings key) key = ofKey readings key := by
  simp [ofKey]

lemma ofKey_nil (key : ResultKey) : ofKey [] key = [] := rfl

lemma ofKey_singleton (r : Reading) (key : ResultKey) :
    ofKey [r] key = if r.key = key then [r] else [] := by
  simp [ofKey, List.filter_singleton]

lemma seriesOf_snoc_of_accepted (h : accepted (before ++ [r]) = accepted before ++ [r])
    (key : ResultKey) :
    seriesOf (before ++ [r]) key =
      if r.key = key then some (extended r (seriesOf before key)) else seriesOf before key := by
  unfold seriesOf first?
  rw [h, ofKey_append, ofKey_append, ofKey_singleton]
  split_ifs with same
  · cases earlier : ofKey before key with
    | nil =>
      -- What was accepted is among the readings, so there is nothing under an unused key.
      have none : ofKey (accepted before) key = [] :=
        List.sublist_nil.1 (earlier ▸ (acceptedFrom_sublist {} before).filter _)
      rw [none]
      rfl
    | cons first rest => simp [extended]
  · rw [List.append_nil, List.append_nil]

lemma seriesOf_snoc_of_refused (h : accepted (before ++ [r]) = accepted before)
    (used : first? before r.key ≠ none) (key : ResultKey) :
    seriesOf (before ++ [r]) key = seriesOf before key := by
  have same : first? (before ++ [r]) key = first? before key := by
    unfold first? at used ⊢
    rw [ofKey_append, ofKey_singleton]
    split_ifs with same
    · obtain ⟨first, hfirst⟩ := Option.ne_none_iff_exists'.1 (same ▸ used)
      rw [List.head?_append, hfirst, Option.some_or]
    · rw [List.append_nil]
  unfold seriesOf
  rw [h, same]

/-- The series of a key is what the readings say: `seriesOf` is found in the ledger of them. -/
lemma get?_book (readings : List Reading) (key : ResultKey) :
    (book readings).get? key = seriesOf readings key := by
  -- On the last reading: it is accepted and changes one series, or refused, and then its key has a
  -- first reading already, so that nothing changes on either side.
  induction readings using List.reverseRecOn generalizing key with
  | nil => rfl
  | append_singleton before r ih =>
    rw [book_snoc]
    cases h : objection? (book before) r with
    | none =>
      have accept : accepted (before ++ [r]) = accepted before ++ [r] := by
        rw [accepted_snoc, if_pos h]
      rw [(add_of_no_objection h).2, get?_put, ih, ih, seriesOf_snoc_of_accepted accept]
      split_ifs with same
      · rw [same]
      · rfl
    | some e =>
      have refuse : accepted (before ++ [r]) = accepted before := by
        rw [accepted_snoc, if_neg (by rw [h]; exact Option.some_ne_none e), List.append_nil]
      have used : first? before r.key ≠ none := by
        intro unused
        have absent : (book before).get? r.key = none := by
          rw [ih, seriesOf, unused, Option.map_none]
        rw [objection?, absent] at h
        cases h
      rw [(add_of_objection h).2, ih, seriesOf_snoc_of_refused refuse used]

/-- What a new ledger has and what an accepted reading keeps, the ledger of any readings has.  A
refused reading leaves the ledger alone, so that nothing is asked of it in `step`. -/
lemma book_induction {P : Ledger → Prop} (new : P {})
    (step : ∀ l r, P l → objection? l r = none →
      P ⟨put r.key (extended r (l.get? r.key)) l.entries⟩)
    (readings : List Reading) : P (book readings) := by
  induction readings using List.reverseRecOn with
  | nil => exact new
  | append_singleton before r ih =>
    rw [book_snoc]
    cases h : objection? (book before) r with
    | none =>
      rw [(add_of_no_objection h).2]
      exact step _ r ih h
    | some e =>
      rw [(add_of_objection h).2]
      exact ih

lemma sorted_book (readings : List Reading) : Sorted (book readings).entries :=
  book_induction (P := fun l => Sorted l.entries) .nil (fun _ _ sorted _ => sorted.put _ _) readings

lemma samples_ne_nil (readings : List Reading) {key : ResultKey} {series : Series}
    (h : (book readings).get? key = some series) : series.samples ≠ [] := by
  have filled : ∀ series, (book readings).get? key = some series → series.samples ≠ [] := by
    refine book_induction (P := fun l => ∀ series, l.get? key = some series → series.samples ≠ [])
      (fun series h => ?_) (fun l r filled _ series h => ?_) readings
    · cases h
    · rw [get?_put] at h
      split_ifs at h with same
      · cases h
        unfold extended
        cases l.get? r.key <;> simp
      · exact filled series h
  exact filled series h

/-- What there is to say against a reading is in the readings before it, and of those only in the
`first?` of its key. -/
lemma objection?_book (before : List Reading) (r : Reading) :
    objection? (book before) r = (first? before r.key).bind fun first =>
      if r.Against first then some (r.conflict first) else none := by
  unfold objection?
  rw [get?_book, seriesOf, Option.bind_map]
  rfl

lemma first?_append {key : ResultKey} {first : Reading} (h : first? before key = some first)
    (after : List Reading) : first? (before ++ after) key = some first := by
  unfold first? at h ⊢
  rw [ofKey_append, List.head?_append, h, Option.some_or]

lemma first?_eq_none {readings : List Reading} {key : ResultKey} :
    first? readings key = none ↔ ∀ r ∈ readings, r.key ≠ key := by
  simp [first?, ofKey]

/-- The keys of the entries are those of the readings: the first reading of a key is never refused.
-/
lemma exists_mem_book {readings : List Reading} {key : ResultKey} :
    (∃ series, (key, series) ∈ (book readings).entries) ↔ ∃ r ∈ readings, r.key = key := by
  have listed : (∃ series, (key, series) ∈ (book readings).entries) ↔
      (book readings).get? key ≠ none := by
    rw [Option.ne_none_iff_exists']
    exact exists_congr fun series => ⟨(sorted_book readings).get?, mem_entries_of_get?⟩
  rw [listed, get?_book, seriesOf, Ne, Option.map_eq_none_iff, first?_eq_none]
  push Not
  rfl

/-! ## One key apart from the others -/

lemma first?_ofKey (readings : List Reading) (key : ResultKey) :
    first? (ofKey readings key) key = first? readings key := by
  simp [first?, ofKey, List.filter_filter]

lemma objection?_ofKey (before : List Reading) (r : Reading) :
    objection? (book (ofKey before r.key)) r = objection? (book before) r := by
  rw [objection?_book, objection?_book, first?_ofKey]

/-- Which readings of a key are refused does not depend on the other keys, so that `accepted` and
`ofKey` may change places. -/
lemma accepted_ofKey (readings : List Reading) (key : ResultKey) :
    accepted (ofKey readings key) = ofKey (accepted readings) key := by
  induction readings using List.reverseRecOn with
  | nil => rfl
  | append_singleton before r ih =>
    rw [accepted_snoc, ofKey_append, ofKey_append]
    by_cases same : r.key = key
    · subst same
      rw [ofKey_singleton, if_pos rfl, accepted_snoc, ih, objection?_ofKey]
      split_ifs
      · rw [ofKey_singleton, if_pos rfl]
      · rw [ofKey_nil]
    · have other : ofKey [r] key = [] := by rw [ofKey_singleton, if_neg same]
      rw [other, List.append_nil, ih]
      split_ifs
      · rw [other, List.append_nil]
      · rw [ofKey_nil, List.append_nil]

end All

/-! ## What is told -/

/-- How a reading is answered after others, be it refused or recorded. -/
structure Answers (before : List Reading) (r : Reading) : Prop where
  /-- It is refused exactly if it names units, and not those of the first reading of its key. -/
  refused : ∀ e, (r.add (book before)).outcome = .returned (.error e) ↔
    ∃ first, first? before r.key = some first ∧ r.Against first ∧ e = r.conflict first
  /-- It is recorded otherwise. -/
  taken : (r.add (book before)).outcome = .returned (.ok ()) ↔
    ∀ first, first? before r.key = some first → ¬r.Against first
  /-- If it is refused, it leaves nothing behind. -/
  unchanged : ∀ e, (r.add (book before)).outcome = .returned (.error e) →
    (r.add (book before)).world = book before
  /-- The readings of other keys do not matter. -/
  apart : (r.add (book (ofKey before r.key))).outcome = (r.add (book before)).outcome

/-- What the ledger of readings tells, in terms of the readings. -/
structure Tells (readings : List Reading) : Prop where
  /-- Each reading is answered by those before it. -/
  answers : ∀ before r after, readings = before ++ r :: after → Answers before r
  /-- A key has no series if it has no reading. -/
  absent : ∀ key, (book readings).get? key = none ↔ ∀ r ∈ readings, r.key ≠ key
  /-- It has the units of its first reading and the values of those that were not refused. -/
  series : ∀ key first, first? readings key = some first →
    (book readings).get? key =
      some ⟨first.units, (ofKey (accepted readings) key).map (·.value)⟩
  /-- No series is empty. -/
  filled : ∀ e ∈ (book readings).entries, e.2.samples ≠ []
  /-- A series keeps its units and its samples. -/
  lasting : ∀ before after, readings = before ++ after →
    ∀ key series, (book before).get? key = some series →
      ∃ series', (book readings).get? key = some series' ∧ series'.units = series.units ∧
        series.samples <+: series'.samples
  /-- The entries are the series of the keys, -/
  listed : ∀ key series,
    (key, series) ∈ (book readings).entries ↔ (book readings).get? key = some series
  /-- each key once and in the order of the bytes. -/
  inOrder : (book readings).entries.Pairwise fun a b => a.1.BytesBefore b.1
  /-- The readings of other keys do not matter. -/
  apart : ∀ key, (book (ofKey readings key)).get? key = (book readings).get? key

lemma answers (before : List Reading) (r : Reading) : Answers before r where
  refused e := by
    rw [add_outcome, objection?_book]
    cases first? before r.key with
    | none => simp
    | some first => by_cases against : r.Against first <;> simp [against, eq_comm]
  taken := by
    rw [add_outcome, objection?_book]
    cases first? before r.key with
    | none => simp
    | some first => by_cases against : r.Against first <;> simp [against]
  unchanged e h := by
    rw [add_outcome] at h
    cases hr : objection? (book before) r with
    | none =>
      rw [hr] at h
      cases h
    | some e => exact (add_of_objection hr).2
  apart := by
    rw [add_outcome, add_outcome, objection?_ofKey]

/-- The ledger of any readings, refused or not, is told by them. -/
theorem book_tells (readings : List Reading) : Tells readings where
  answers before r _ _ := answers before r
  absent key := by
    rw [get?_book, seriesOf, Option.map_eq_none_iff, first?_eq_none]
  series key first h := by
    rw [get?_book, seriesOf, h, Option.map_some]
  filled e he := samples_ne_nil readings ((sorted_book readings).get? he)
  lasting before after split key series h := by
    subst split
    rw [get?_book, seriesOf] at h
    obtain ⟨first, hfirst, rfl⟩ := Option.map_eq_some_iff.1 h
    refine ⟨⟨first.units, (ofKey (accepted (before ++ after)) key).map (·.value)⟩, ?_, rfl, ?_⟩
    · rw [get?_book, seriesOf, first?_append hfirst, Option.map_some]
    · dsimp only
      rw [accepted_append, ofKey_append, List.map_append]
      exact List.prefix_append _ _
  listed key series := ⟨(sorted_book readings).get?, mem_entries_of_get?⟩
  inOrder := (sorted_book readings).imp ResultKey.before_iff_bytes.1
  apart key := by
    rw [get?_book, get?_book, seriesOf, seriesOf, first?_ofKey, accepted_ofKey, ofKey_ofKey]

end Ledger

end StartupBench

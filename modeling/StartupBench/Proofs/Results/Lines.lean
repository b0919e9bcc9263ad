import StartupBench.Analysis.Counts
import StartupBench.Proofs.Decimal.Plain
import StartupBench.Results.Basic

/-!
# Result lines read back

A result line quotes nothing, and the graph that it begins with may be any text, so that a line is
taken apart from its end: the units stand behind the last `= [` and the bracket that follows, the
samples between them, and the trace behind the last `: ` of what is left.  All that is needed is
that neither separator stands in what comes after it (`Ledger.Legible`), and then a line tells the
key and the series that it was made of (`Ledger.resultLine_inj`).

## Separators

`eq_of_last` finds a separator where it stands for the last time, and `eq_of_first` a character
where it stands for the first time.  A separator that ran into itself could be found in two ways,
and so the first of these asks that its first character does not come again in it.

## Samples

Samples are joined by a comma and a blank, neither of which is in the text of a double
(`Ledger.not_mem_plain`), so that the pieces are told (`Ledger.sampleText_inj`); and each piece
tells its double by `Decimal.plain_inj`.  What is not a number is left out there, as all such
doubles have one text.
-/

namespace StartupBench

/-! ## Separators -/

section Separators

variable {α : Type} {c : α} {d s t s' t' : List α}

/-- A separator that does not run into itself, `c` followed by `d`, is found where it stands for the
last time, if it does not stand in what comes after. -/
lemma eq_of_last (apart : c ∉ d) (ht : ¬c :: d <:+: t) (ht' : ¬c :: d <:+: t')
    (h : s ++ c :: d ++ t = s' ++ c :: d ++ t') : s = s' ∧ t = t' := by
  -- The longer of the two beginnings would have the separator inside.
  have inside : ∀ {t t' more : List α}, ¬c :: d <:+: t →
      c :: d ++ t = more ++ (c :: d ++ t') → more = [] := by
    intro t t' more ht h
    cases more with
    | nil => rfl
    | cons x more =>
      rw [List.cons_append, List.cons_append, List.cons.injEq] at h
      obtain ⟨rfl, h⟩ := h
      obtain ⟨between, -, rfl⟩ | ⟨between, rfl, h⟩ := List.append_eq_append_iff.1 h
      · exact absurd ⟨between, t', by rw [List.append_assoc]⟩ ht
      · cases between with
        | nil => exact absurd ⟨[], t', h⟩ ht
        | cons y between =>
          rw [List.cons_append, List.cons_append, List.cons.injEq] at h
          exact absurd (List.mem_append_right _ (h.1 ▸ List.mem_cons_self)) apart
  rw [List.append_assoc, List.append_assoc] at h
  obtain ⟨more, hs, rest⟩ | ⟨more, hs, rest⟩ := List.append_eq_append_iff.1 h
  · obtain rfl := inside ht rest
    rw [List.append_nil] at hs
    exact ⟨hs.symm, List.append_cancel_left rest⟩
  · obtain rfl := inside ht' rest
    rw [List.append_nil] at hs
    exact ⟨hs, (List.append_cancel_left rest).symm⟩

/-- A text is told up to the first place where `c` stands, and so is what comes after it. -/
lemma eq_of_first (hs : c ∉ s) (hs' : c ∉ s') (h : s ++ c :: t = s' ++ c :: t') :
    s = s' ∧ t = t' := by
  obtain ⟨more, rfl, rest⟩ | ⟨more, rfl, rest⟩ := List.append_eq_append_iff.1 h
  · cases more with
    | nil => exact ⟨(List.append_nil _).symm, (List.cons.inj rest).2⟩
    | cons x more =>
      obtain rfl := (List.cons.inj rest).1
      exact absurd (List.mem_append_right _ List.mem_cons_self) hs'
  · cases more with
    | nil => exact ⟨List.append_nil _, (List.cons.inj rest).2.symm⟩
    | cons x more =>
      obtain rfl := (List.cons.inj rest).1
      exact absurd (List.mem_append_right _ List.mem_cons_self) hs

/-- Without its first character before, a separator stands behind: putting `s` in front of a text
makes no separator. -/
lemma not_infix_append (hs : c ∉ s) (ht : ¬c :: d <:+: t) : ¬c :: d <:+: s ++ t := by
  induction s with
  | nil => exact ht
  | cons x s ih =>
    rw [List.cons_append, List.infix_cons_iff]
    rintro (here | later)
    · obtain ⟨rest, h⟩ := here
      exact hs ((List.cons.inj h).1 ▸ List.mem_cons_self)
    · exact ih (fun h => hs (List.mem_cons_of_mem _ h)) later

/-- Pieces between separators are told if no piece has the first character of the separator.  There
has to be a piece, as none and an empty one are joined alike. -/
lemma intercalate_inj {xs ys : List (List α)} (hx : xs ≠ []) (hy : ys ≠ [])
    (hxs : ∀ x ∈ xs, c ∉ x) (hys : ∀ y ∈ ys, c ∉ y)
    (h : (c :: d).intercalate xs = (c :: d).intercalate ys) : xs = ys := by
  induction xs generalizing ys with
  | nil => exact absurd rfl hx
  | cons x xs ih =>
    obtain ⟨y, ys, rfl⟩ := List.exists_cons_of_ne_nil hy
    have hx' := hxs x List.mem_cons_self
    have hy' := hys y List.mem_cons_self
    cases xs with
    | nil =>
      cases ys with
      | nil =>
        rw [List.intercalate_singleton, List.intercalate_singleton] at h
        rw [h]
      | cons y' ys =>
        rw [List.intercalate_singleton, List.intercalate_cons_cons] at h
        refine absurd ?_ hx'
        simp [h]
    | cons x' xs =>
      cases ys with
      | nil =>
        rw [List.intercalate_singleton, List.intercalate_cons_cons] at h
        refine absurd ?_ hy'
        simp [← h]
      | cons y' ys =>
        rw [List.intercalate_cons_cons, List.intercalate_cons_cons, List.append_assoc,
          List.append_assoc] at h
        obtain ⟨rfl, rest⟩ := eq_of_first hx' hy' h
        rw [ih (List.cons_ne_nil _ _) (List.cons_ne_nil _ _)
          (fun z hz => hxs z (List.mem_cons_of_mem _ hz))
          (fun z hz => hys z (List.mem_cons_of_mem _ hz)) (List.append_cancel_left rest)]

end Separators

namespace Ledger

/-! ## Samples -/

/-- The samples as they stand in a line, each as `Decimal.plain` writes it. -/
def sampleText (samples : List Float) : String :=
  String.intercalate ", " (samples.map Decimal.plain)

/-- What is written of samples is no separator and no bracket: any `c` that is not a digit and not
one of a few other characters is missing in it. -/
lemma not_mem_plain (x : Float) {c : Char} (digit : c.isDigit = false)
    (other : c ∉ ".-infNa".toList) : c ∉ (Decimal.plain x).toList := by
  intro hc
  obtain h | h := Decimal.plain_chars x c hc
  · rw [digit] at h
    cases h
  · exact other h

lemma not_mem_sampleText (samples : List Float) {c : Char} (digit : c.isDigit = false)
    (other : c ∉ ".-infNa".toList) (separator : c ∉ ", ".toList) :
    c ∉ (sampleText samples).toList := by
  unfold sampleText
  induction samples with
  | nil => exact List.not_mem_nil
  | cons x samples ih =>
    cases samples with
    | nil =>
      rw [List.map_singleton, String.intercalate_singleton]
      exact not_mem_plain x digit other
    | cons y samples =>
      rw [List.map_cons, List.map_cons, String.intercalate_cons_cons, String.toList_append,
        String.toList_append, ← List.map_cons]
      simp only [List.mem_append, not_or]
      exact ⟨⟨not_mem_plain x digit other, separator⟩, ih⟩

/-- Samples are told by their text, if there are some and all of them are numbers. -/
lemma sampleText_inj {xs ys : List Float} (hx : xs ≠ []) (hy : ys ≠ [])
    (hxs : ∀ x ∈ xs, Binary64.ofFloat x ≠ .nan) (hys : ∀ y ∈ ys, Binary64.ofFloat y ≠ .nan)
    (h : sampleText xs = sampleText ys) : xs = ys := by
  have free : ∀ zs : List Float, ∀ text ∈ (zs.map Decimal.plain).map String.toList, ',' ∉ text := by
    intro zs text htext
    rw [List.map_map] at htext
    obtain ⟨z, -, rfl⟩ := List.mem_map.1 htext
    exact not_mem_plain z (by decide) (by decide)
  have lists := congrArg String.toList h
  unfold sampleText at lists
  rw [String.toList_intercalate, String.toList_intercalate] at lists
  have texts : xs.map Decimal.plain = ys.map Decimal.plain :=
    List.map_injective_iff.2 (fun _ _ => String.toList_inj.1)
      (intercalate_inj (by simpa using hx) (by simpa using hy) (free xs) (free ys) lists)
  clear hx hy h lists
  induction xs generalizing ys with
  | nil => exact (List.map_eq_nil_iff.1 texts.symm).symm
  | cons x xs ih =>
    cases ys with
    | nil => cases texts
    | cons y ys =>
      obtain ⟨first, rest⟩ := List.cons.inj texts
      rw [(Decimal.plain_inj (hxs x List.mem_cons_self) (hys y List.mem_cons_self)).1 first,
        ih (fun z hz => hxs z (List.mem_cons_of_mem _ hz))
          (fun z hz => hys z (List.mem_cons_of_mem _ hz)) rest]

/-! ## Lines -/

/-- No separator stands in what comes after it, there are samples, and they are numbers.  Of the
graph nothing is asked. -/
structure Legible (key : ResultKey) (series : Series) : Prop where
  trace : ¬ ": ".toList <:+: key.trace.toList
  units : ¬ "= [".toList <:+: series.units.toList
  sampled : series.samples ≠ []
  numbers : ∀ x ∈ series.samples, Binary64.ofFloat x ≠ .nan

lemma toList_resultLine (key : ResultKey) (series : Series) :
    (resultLine key series).toList =
      ("RESULT ".toList ++ key.graph.toList ++ ": ".toList ++ key.trace.toList) ++ "= [".toList ++
        ((sampleText series.samples).toList ++ ']' :: (' ' :: series.units.toList)) := by
  unfold resultLine
  simp only [String.toList_append, List.append_assoc]
  rfl

/-- What comes after the separator of the units has no other one in it: neither the samples nor the
bracket make one with the units. -/
lemma Legible.last {key : ResultKey} {series : Series} (h : Legible key series) :
    ¬ '=' :: [' ', '['] <:+:
      (sampleText series.samples).toList ++ ']' :: ' ' :: series.units.toList := by
  have bracket : ¬ '=' :: [' ', '['] <:+: [']', ' '] ++ series.units.toList :=
    not_infix_append (by decide) h.units
  exact not_infix_append (not_mem_sampleText _ (by decide) (by decide) (by decide)) bracket

/-- A line tells the key and the series that it was made of, by two separators from the right and
the samples between. -/
lemma resultLine_inj {key key' : ResultKey} {series series' : Series}
    (h : Legible key series) (h' : Legible key' series')
    (same : resultLine key series = resultLine key' series') : key = key' ∧ series = series' := by
  have lists := congrArg String.toList same
  rw [toList_resultLine, toList_resultLine] at lists
  obtain ⟨names, measured⟩ := eq_of_last (by decide) h.last h'.last lists
  obtain ⟨graphs, traces⟩ := eq_of_last (by decide) h.trace h'.trace names
  have closed : ∀ samples : List Float, ']' ∉ (sampleText samples).toList :=
    fun samples => not_mem_sampleText samples (by decide) (by decide) (by decide)
  obtain ⟨texts, ends⟩ := eq_of_first (closed _) (closed _) measured
  have graph : key.graph = key'.graph := String.toList_inj.1 (List.append_cancel_left graphs)
  have trace : key.trace = key'.trace := String.toList_inj.1 traces
  have units : series.units = series'.units := String.toList_inj.1 (List.cons.inj ends).2
  have samples : series.samples = series'.samples :=
    sampleText_inj h.sampled h'.sampled h.numbers h'.numbers (String.toList_inj.1 texts)
  cases key
  cases series
  subst graph trace units samples
  exact ⟨rfl, rfl⟩

/-- The names and the units of the metrics of a trace have no separator in them, so that the lines
of a report are `Legible` as to these. -/
lemma metrics_legible (c : EventCounts) : ∀ m ∈ c.metrics,
    ¬ ": ".toList <:+: m.name.toList ∧ ¬ "= [".toList <:+: m.name.toList ∧
      ¬ "= [".toList <:+: m.units.toList := by
  let known : List (String × String) :=
    [("HardPageFaults", ""), ("SoftPageFaults", ""), ("RendererLaunchTime", "s")]
  have listed : ∀ m ∈ c.metrics, (m.name, m.units) ∈ known := by
    unfold EventCounts.metrics
    dsimp only
    split <;> simp [known]
  have free : ∀ p ∈ known, ¬ ": ".toList <:+: p.1.toList ∧ ¬ "= [".toList <:+: p.1.toList ∧
      ¬ "= [".toList <:+: p.2.toList := by
    decide
  exact fun m hm => free _ (listed m hm)

/-- **Result lines are read back.**  Whatever the graph is: where the trace has no `: `, the units
no `= [`, and there are samples and all of them are numbers, the line tells the key and the series.
The metrics of a trace are of this kind. -/
theorem resultLine_tells {key key' : ResultKey} {series series' : Series}
    (h : Legible key series) (h' : Legible key' series') :
    (resultLine key series = resultLine key' series' ↔ key = key' ∧ series = series') ∧
      ∀ (c : EventCounts), ∀ m ∈ c.metrics,
        ¬ ": ".toList <:+: m.name.toList ∧ ¬ "= [".toList <:+: m.name.toList ∧
          ¬ "= [".toList <:+: m.units.toList := by
  refine ⟨⟨resultLine_inj h h', ?_⟩, metrics_legible⟩
  rintro ⟨rfl, rfl⟩
  rfl

/-- A graph that ends as the line goes on is not mistaken for a shorter one, and samples are not run
together. -/
theorem lookalikes_told :
    Legible ⟨"chrome: HardPageFaults= [1] ", "HardPageFaults"⟩ ⟨"", [3, 4]⟩ ∧
      Legible ⟨"chrome", "HardPageFaults"⟩ ⟨"", [34]⟩ ∧
      resultLine ⟨"chrome: HardPageFaults= [1] ", "HardPageFaults"⟩ ⟨"", [3, 4]⟩ ≠
        resultLine ⟨"chrome", "HardPageFaults"⟩ ⟨"", [34]⟩ := by
  have first : Legible ⟨"chrome: HardPageFaults= [1] ", "HardPageFaults"⟩ ⟨"", [3, 4]⟩ :=
    ⟨by decide, by decide, List.cons_ne_nil _ _, by decide⟩
  have second : Legible ⟨"chrome", "HardPageFaults"⟩ ⟨"", [34]⟩ :=
    ⟨by decide, by decide, List.cons_ne_nil _ _, by decide⟩
  refine ⟨first, second, fun same => ?_⟩
  have key := ((resultLine_tells first second).1.1 same).1
  exact absurd (congrArg ResultKey.graph key) (by decide)

end Ledger

end StartupBench

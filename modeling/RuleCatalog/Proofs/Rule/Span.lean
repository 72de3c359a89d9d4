import RuleCatalog.Proofs.Query.Lexeme
import RuleCatalog.Rule.Span

/-! # What a duration says

A duration is a row of quantities, each a whole number with its unit. A query is read with a test
for such rows, and the duration of a rule by adding them up; both go through a text in steps of
their own, and both accept exactly the rows of quantities. Main statements: `isDuration_iff`,
`seconds?_eq_some_iff` and `isSome_seconds?_iff_isDuration`. -/
namespace RuleCatalog.Span
open Query

/-! ## Rows of quantities -/

inductive TimeUnit where
  | millisecond | second | minute | hour | day | week | year
  deriving DecidableEq, Repr

def TimeUnit.text : TimeUnit → List Char
  | .millisecond => ['m', 's']
  | .second => ['s']
  | .minute => ['m']
  | .hour => ['h']
  | .day => ['d']
  | .week => ['w']
  | .year => ['y']

def TimeUnit.seconds : TimeUnit → Float
  | .millisecond => 0.001
  | .second => 1
  | .minute => 60
  | .hour => 3600
  | .day => 86400
  | .week => 604800
  | .year => 31536000

/-- A whole number of units; its digits may begin with zeros. -/
structure Quantity where
  digits : List Char
  unit : TimeUnit
  digits_ne_nil : digits ≠ []
  isDigit_of_mem : ∀ c ∈ digits, c.isDigit = true

def Quantity.text (q : Quantity) : List Char := q.digits ++ q.unit.text

def Quantity.seconds (q : Quantity) : Float :=
  Float.ofNat (Text.ofDigits 10 q.digits) * q.unit.seconds

/-- The text of a row of quantities. -/
def rowText (qs : List Quantity) : List Char := qs.flatMap Quantity.text

/-- The seconds of a row of quantities, added to some from left to right. -/
def total (start : Float) (qs : List Quantity) : Float :=
  qs.foldl (fun sum q => sum + q.seconds) start

theorem rowText_cons (q : Quantity) (qs : List Quantity) :
    rowText (q :: qs) = q.digits ++ (q.unit.text ++ rowText qs) := by
  simp [rowText, Quantity.text]

theorem rowText_ne_nil (q : Quantity) (qs : List Quantity) : rowText (q :: qs) ≠ [] := by
  simp [rowText_cons, q.digits_ne_nil]

/-- Each quantity begins with a digit. -/
theorem isDigit_head?_rowText (qs : List Quantity) :
    ∀ c ∈ (rowText qs).head?, c.isDigit = true := by
  cases qs with
  | nil => simp [rowText]
  | cons q qs =>
    intro c hc
    rw [rowText_cons, List.head?_append, Option.or_of_isSome (by simp [q.digits_ne_nil])] at hc
    exact q.isDigit_of_mem c (List.mem_of_mem_head? hc)

theorem not_isDigit_head?_unit (u : TimeUnit) (rest : List Char) :
    ∀ c ∈ (u.text ++ rest).head?, c.isDigit = false := by
  cases u <;> simp [TimeUnit.text]

theorem takeWhile_rowText (q : Quantity) (qs : List Quantity) :
    (rowText (q :: qs)).takeWhile Char.isDigit = q.digits := by
  rw [rowText_cons]
  exact takeWhile_append_of_head q.isDigit_of_mem (not_isDigit_head?_unit q.unit _)

theorem dropWhile_rowText (q : Quantity) (qs : List Quantity) :
    (rowText (q :: qs)).dropWhile Char.isDigit = q.unit.text ++ rowText qs := by
  rw [rowText_cons]
  exact dropWhile_append_of_head q.isDigit_of_mem (not_isDigit_head?_unit q.unit _)

/-- Digits that a unit and a row follow make a row. -/
theorem exists_rowText_cons {cs : List Char} {u : TimeUnit} {qs : List Quantity}
    (hdigits : (cs.takeWhile Char.isDigit).isEmpty = false)
    (h : cs.dropWhile Char.isDigit = u.text ++ rowText qs) :
    ∃ q : Quantity, cs = rowText (q :: qs) ∧ q.digits = cs.takeWhile Char.isDigit ∧ q.unit = u := by
  refine ⟨⟨cs.takeWhile Char.isDigit, u, by simpa using hdigits, fun c hc => of_mem_takeWhile hc⟩,
    ?_, rfl, rfl⟩
  rw [rowText_cons]
  dsimp only
  rw [← h, List.takeWhile_append_dropWhile]

/-! ## Units -/

/-- A unit is read as such where a digit follows it or nothing, so that no minute is taken for a
millisecond. -/
theorem takeUnit?_text (u : TimeUnit) {rest : List Char}
    (h : ∀ c ∈ rest.head?, c.isDigit = true) :
    takeUnit? (u.text ++ rest) = some (u.seconds, rest) := by
  cases u with
  | minute =>
    cases rest with
    | nil => rfl
    | cons c rest =>
      have hc : c ≠ 's' := by
        rintro rfl
        exact absurd (h 's' rfl) (by decide)
      simp [takeUnit?, TimeUnit.text, TimeUnit.seconds, unitSeconds?, hc]
  | _ => rfl

theorem exists_unit_of_takeUnit? {cs r : List Char} {f : Float} (h : takeUnit? cs = some (f, r)) :
    ∃ u : TimeUnit, cs = u.text ++ r ∧ f = u.seconds := by
  unfold takeUnit? at h
  split at h
  · cases h
    exact ⟨.millisecond, rfl, rfl⟩
  · rename_i c cs _
    obtain ⟨f', hf, hr⟩ := Option.map_eq_some_iff.1 h
    cases hr
    unfold unitSeconds? at hf
    split at hf <;> cases hf
    · exact ⟨.second, rfl, rfl⟩
    · exact ⟨.minute, rfl, rfl⟩
    · exact ⟨.hour, rfl, rfl⟩
    · exact ⟨.day, rfl, rfl⟩
    · exact ⟨.week, rfl, rfl⟩
    · exact ⟨.year, rfl, rfl⟩
  · cases h

/-- Units are left out of a query as they are read in a duration. -/
theorem dropUnit?_eq (cs : List Char) : dropUnit? cs = (takeUnit? cs).map Prod.snd := by
  have hunit : ∀ c : Char, (unitSeconds? c).isSome = decide (c ∈ ['s', 'm', 'h', 'd', 'w', 'y']) := by
    intro c
    unfold unitSeconds?
    split <;> simp_all
  unfold dropUnit? takeUnit?
  split
  · rfl
  · rename_i c cs _
    have hc := hunit c
    cases hf : unitSeconds? c <;> simp_all
  · rfl

/-! ## Rows that are recognized -/

theorem isQuantities_rowText (qs : List Quantity) : isQuantities (rowText qs) = true := by
  induction qs with
  | nil =>
    rw [isQuantities]
    rfl
  | cons q qs ih =>
    have hunit := takeUnit?_text q.unit (isDigit_head?_rowText qs)
    rw [isQuantities, if_neg (by simp [rowText_ne_nil]), takeWhile_rowText,
      if_neg (by simp [q.digits_ne_nil])]
    split
    · rename_i hnone
      rw [dropWhile_rowText, dropUnit?_eq, hunit] at hnone
      cases hnone
    · rename_i r hsome
      rw [dropWhile_rowText, dropUnit?_eq, hunit] at hsome
      cases hsome
      exact ih

theorem exists_row_of_isQuantities {cs : List Char} (h : isQuantities cs = true) :
    ∃ qs, cs = rowText qs := by
  fun_induction isQuantities cs with
  | case1 cs hempty => exact ⟨[], List.isEmpty_iff.1 hempty⟩
  | case2 => cases h
  | case3 => cases h
  | case4 cs hne hdigits r hunit ih =>
    obtain ⟨qs, rfl⟩ := ih h
    rw [dropUnit?_eq] at hunit
    obtain ⟨⟨f, r⟩, htake, rfl⟩ := Option.map_eq_some_iff.1 hunit
    obtain ⟨u, hu, -⟩ := exists_unit_of_takeUnit? htake
    obtain ⟨q, hq, -⟩ := exists_rowText_cons (Bool.eq_false_iff.2 hdigits) hu
    exact ⟨q :: qs, hq⟩

theorem isDuration_iff {cs : List Char} :
    isDuration cs = true ↔ ∃ q qs, cs = rowText (q :: qs) := by
  rw [isDuration, Bool.and_eq_true]
  constructor
  · rintro ⟨hne, h⟩
    obtain ⟨qs, rfl⟩ := exists_row_of_isQuantities h
    cases qs with
    | nil => cases hne
    | cons q qs => exact ⟨q, qs, rfl⟩
  · rintro ⟨q, qs, rfl⟩
    exact ⟨by simp [rowText_ne_nil], isQuantities_rowText (q :: qs)⟩

/-! ## Rows that are added up -/

theorem sum?_rowText (start : Float) (qs : List Quantity) :
    sum? start (rowText qs) = some (total start qs) := by
  induction qs generalizing start with
  | nil =>
    rw [sum?]
    rfl
  | cons q qs ih =>
    have hunit := takeUnit?_text q.unit (isDigit_head?_rowText qs)
    rw [sum?, if_neg (by simp [rowText_ne_nil]), takeWhile_rowText,
      if_neg (by simp [q.digits_ne_nil])]
    split
    · rename_i hnone
      rw [dropWhile_rowText, hunit] at hnone
      cases hnone
    · rename_i f r hsome
      rw [dropWhile_rowText, hunit] at hsome
      cases hsome
      exact ih _

theorem exists_row_of_sum? {start f : Float} {cs : List Char} (h : sum? start cs = some f) :
    ∃ qs, cs = rowText qs ∧ f = total start qs := by
  fun_induction sum? start cs with
  | case1 start cs hempty =>
    cases h
    exact ⟨[], List.isEmpty_iff.1 hempty, rfl⟩
  | case2 => cases h
  | case3 => cases h
  | case4 start cs hne hdigits factor r hunit ih =>
    obtain ⟨qs, rfl, rfl⟩ := ih h
    obtain ⟨u, hu, rfl⟩ := exists_unit_of_takeUnit? hunit
    obtain ⟨q, hq, hqdigits, rfl⟩ := exists_rowText_cons (Bool.eq_false_iff.2 hdigits) hu
    refine ⟨q :: qs, hq, ?_⟩
    rw [← hqdigits]
    rfl

theorem zero_ne_rowText (q : Quantity) (qs : List Quantity) : ['0'] ≠ rowText (q :: qs) := by
  intro h
  have hrest := dropWhile_rowText q qs
  rw [← h] at hrest
  cases hu : q.unit <;> simp [hu, TimeUnit.text] at hrest

/-- The seconds of a text are those of the row that it writes, or none for a bare zero. -/
theorem seconds?_eq_some_iff {text : String} {f : Float} :
    seconds? text = some f ↔ Text.trim text.toList = ['0'] ∧ f = 0
      ∨ ∃ q qs, Text.trim text.toList = rowText (q :: qs) ∧ f = total 0 (q :: qs) := by
  unfold seconds?
  generalize Text.trim text.toList = cs
  split
  · constructor
    · nofun
    · rintro (⟨h, -⟩ | ⟨q, qs, h, -⟩)
      · cases h
      · exact absurd h.symm (rowText_ne_nil q qs)
  · constructor
    · intro h
      exact .inl ⟨rfl, (Option.some.inj h).symm⟩
    · rintro (⟨-, rfl⟩ | ⟨q, qs, h, -⟩)
      · rfl
      · exact absurd h (zero_ne_rowText q qs)
  · rename_i hnil hzero
    constructor
    · intro h
      obtain ⟨qs, rfl, rfl⟩ := exists_row_of_sum? h
      cases qs with
      | nil => exact absurd rfl hnil
      | cons q qs => exact .inr ⟨q, qs, rfl, rfl⟩
    · rintro (⟨rfl, -⟩ | ⟨q, qs, rfl, rfl⟩)
      · exact absurd rfl hzero
      · exact sum?_rowText 0 (q :: qs)

/-- A text has a number of seconds if it is a bare zero or could be a duration in a query. -/
theorem isSome_seconds?_iff_isDuration (text : String) :
    (seconds? text).isSome = true
      ↔ Text.trimmed text = "0" ∨ isDuration (Text.trim text.toList) = true := by
  have hzero : Text.trimmed text = "0" ↔ Text.trim text.toList = ['0'] := by
    rw [Text.trimmed, ← String.toList_inj, String.toList_ofList]
    rfl
  rw [Option.isSome_iff_exists, hzero, isDuration_iff]
  constructor
  · rintro ⟨f, hf⟩
    rcases seconds?_eq_some_iff.1 hf with ⟨h, -⟩ | ⟨q, qs, h, -⟩
    · exact .inl h
    · exact .inr ⟨q, qs, h⟩
  · rintro (h | ⟨q, qs, h⟩)
    · exact ⟨0, seconds?_eq_some_iff.2 (.inl ⟨h, rfl⟩)⟩
    · exact ⟨total 0 (q :: qs), seconds?_eq_some_iff.2 (.inr ⟨q, qs, h, rfl⟩)⟩

end RuleCatalog.Span

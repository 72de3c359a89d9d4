import RuleCatalog.Query.Token.Scan
import RuleCatalog.Text.Blank

/-! # Spans of time

The seconds that a duration text such as `1h30m` stands for. -/
namespace RuleCatalog.Span
open Query

/-- The seconds of a time unit. -/
def unitSeconds? (c : Char) : Option Float :=
  match c with
  | 's' => some 1
  | 'm' => some 60
  | 'h' => some 3600
  | 'd' => some 86400
  | 'w' => some 604800
  | 'y' => some 31536000
  | _ => none

/-- The seconds of the unit at the front of a text, and the text after it. -/
def takeUnit? : List Char → Option (Float × List Char)
  | 'm' :: 's' :: cs => some (0.001, cs)
  | c :: cs => (unitSeconds? c).map fun f => (f, cs)
  | [] => none

theorem length_takeUnit?_lt {cs r : List Char} {f : Float} (h : takeUnit? cs = some (f, r)) :
    r.length < cs.length := by
  unfold takeUnit? at h
  split at h
  · simp at h; obtain ⟨_, rfl⟩ := h; simp only [List.length_cons]; omega
  · simp at h; obtain ⟨_, _, _, rfl⟩ := h; simp
  · simp at h

/-- Adds up a row of quantities with their units, from left to right. -/
def sum? (total : Float) (cs : List Char) : Option Float :=
  if cs.isEmpty then some total
  else if (cs.takeWhile Char.isDigit).isEmpty then none
  else match _h : takeUnit? (cs.dropWhile Char.isDigit) with
    | none => none
    | some (factor, r) =>
      sum? (total + Float.ofNat (Text.ofDigits 10 (cs.takeWhile Char.isDigit)) * factor) r
termination_by cs.length
decreasing_by
  exact Nat.lt_of_lt_of_le (length_takeUnit?_lt _h) (length_dropWhile_le _ _)

/-- The seconds that a text names; a bare zero needs no unit. -/
def seconds? (text : String) : Option Float :=
  match Text.trim text.toList with
  | [] => none
  | ['0'] => some 0
  | cs => sum? 0 cs

end RuleCatalog.Span

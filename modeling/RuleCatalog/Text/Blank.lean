/-! # Blank characters

The characters with the Unicode property `White_Space`, and texts without blank ends.
Main statement: `Char.isWhitespace` characters are blank. -/
namespace RuleCatalog.Text

/-- Whether a character has the Unicode property `White_Space`. -/
def isBlank (c : Char) : Bool :=
  let n := c.toNat
  (9 ≤ n && n ≤ 13) || n == 0x20 || n == 0x85 || n == 0xA0 || n == 0x1680
    || (0x2000 ≤ n && n ≤ 0x200A) || n == 0x2028 || n == 0x2029 || n == 0x202F
    || n == 0x205F || n == 0x3000

/-- The five ASCII characters that separate words: tab, line feed, form feed, return, space. -/
def isAsciiBlank (n : Nat) : Bool :=
  n == 9 || n == 10 || n == 12 || n == 13 || n == 32

def trimStart (cs : List Char) : List Char := cs.dropWhile isBlank

def trimEnd (cs : List Char) : List Char := (cs.reverse.dropWhile isBlank).reverse

/-- The text without the blanks at both ends. -/
def trim (cs : List Char) : List Char := trimEnd (trimStart cs)

/-- The string without the blanks at both ends. -/
def trimmed (s : String) : String := .ofList (trim s.toList)

/-- The text after blanks and comments; a comment runs from `#` to the end of its line. -/
def skipGap : (comment : Bool) → List Char → List Char
  | _, [] => []
  | true, c :: cs => skipGap (c != '\n') cs
  | false, c :: cs =>
    if isBlank c then skipGap false cs
    else if c == '#' then skipGap true cs
    else c :: cs

theorem length_skipGap_le (b : Bool) (cs : List Char) : (skipGap b cs).length ≤ cs.length := by
  fun_induction skipGap b cs <;> simp_all <;> omega

theorem isBlank_of_isWhitespace {c : Char} (h : c.isWhitespace = true) : isBlank c = true := by
  simp only [Char.isWhitespace, Bool.or_eq_true, decide_eq_true_eq] at h
  rcases h with ((rfl | rfl) | rfl) | rfl <;> decide

theorem trimStart_eq_self {c : Char} {cs : List Char} (h : isBlank c = false) :
    trimStart (c :: cs) = c :: cs := by
  simp [trimStart, h]

end RuleCatalog.Text

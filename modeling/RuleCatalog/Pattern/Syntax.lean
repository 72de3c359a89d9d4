import RuleCatalog.Text.Property

/-! # Patterns

Regular expressions as trees. A pattern describes the texts that it matches and, by the order
of its alternatives and the greed of its loops, which of several matches comes first. -/
namespace RuleCatalog

/-- A place relative to the words of a text. -/
inductive WordEdge where
  | border | inside | start | stop | startHalf | stopHalf
  deriving DecidableEq, Repr

/-- A test of a place in a text, between the character before it and the one after it. -/
inductive Look where
  | textStart | textEnd
  /-- A line begins here; with `crlf` lines also end in a return. -/
  | lineStart (crlf : Bool)
  | lineEnd (crlf : Bool)
  | word (edge : WordEdge) (ascii : Bool)
  deriving DecidableEq, Repr

inductive Pattern where
  | empty
  /-- Given characters, one after another. -/
  | text (chars : List Char)
  /-- One character of a set. -/
  | set (chars : Text.Ranges)
  | look (l : Look)
  | cat (p q : Pattern)
  /-- Either pattern; matches of the first one come first. -/
  | alt (p q : Pattern)
  | loop (p : Pattern) (min : Nat) (max : Option Nat) (greedy : Bool)
  /-- Keeps what the pattern matches under a number. -/
  | group (index : Nat) (p : Pattern)
  deriving DecidableEq, Repr

namespace Pattern

/-- Whether a pattern can match no character at all. -/
def isNullable : Pattern → Bool
  | empty => true
  | text cs => cs.isEmpty
  | set _ => false
  | look _ => true
  | cat p q => p.isNullable && q.isNullable
  | alt p q => p.isNullable || q.isNullable
  | loop p min _ _ => min == 0 || p.isNullable
  | group _ p => p.isNullable

/-- Whether a pattern takes no character in any of its matches. -/
def takesNone : Pattern → Bool
  | empty => true
  | text cs => cs.isEmpty
  | set _ => false
  | look _ => true
  | cat p q => p.takesNone && q.takesNone
  | alt p q => p.takesNone && q.takesNone
  | loop p _ max _ => max.isSome && p.takesNone
  | group _ p => p.takesNone

/-- Whether a set without members occurs in a pattern. -/
def hasEmptySet : Pattern → Bool
  | empty => false
  | text _ => false
  | set r => r.isEmpty
  | look _ => false
  | cat p q => p.hasEmptySet || q.hasEmptySet
  | alt p q => p.hasEmptySet || q.hasEmptySet
  | loop p _ _ _ => p.hasEmptySet
  | group _ p => p.hasEmptySet

/-- Whether every match begins at the start of the text. -/
def startsAtStart : Pattern → Bool
  | look .textStart => true
  | cat p q => p.startsAtStart || (p.takesNone && q.startsAtStart)
  | alt p q => p.startsAtStart && q.startsAtStart
  | loop p min _ _ => min != 0 && p.startsAtStart
  | group _ p => p.startsAtStart
  | _ => false

/-- Whether every match ends at the end of the text. -/
def endsAtEnd : Pattern → Bool
  | look .textEnd => true
  | cat p q => q.endsAtEnd || (q.takesNone && p.endsAtEnd)
  | alt p q => p.endsAtEnd && q.endsAtEnd
  | loop p min _ _ => min != 0 && p.endsAtEnd
  | group _ p => p.endsAtEnd
  | _ => false

end Pattern

/-- A pattern with the number of its groups and the names that some of them have. -/
structure Regex where
  pattern : Pattern
  groups : Nat
  names : List (String × Nat)
  deriving DecidableEq, Repr

/-- Whether a place has the edge, by whether there is part of a word before and after it. -/
def WordEdge.holds (e : WordEdge) (before after : Bool) : Bool :=
  match e with
  | .border => before != after
  | .inside => before == after
  | .start => !before && after
  | .stop => before && !after
  | .startHalf => !before
  | .stopHalf => !after

namespace Look
open Text

def isWord (ascii : Bool) (c : Option Char) : Bool :=
  match c with
  | none => false
  | some c => if ascii then c.isAlphanum || c == '_' else Property.word.contains c.toNat

/-- Whether a place passes a test, by the characters around it. -/
def holds (l : Look) (before after : Option Char) : Bool :=
  match l with
  | .textStart => before.isNone
  | .textEnd => after.isNone
  | .lineStart false => before.isNone || before == some '\n'
  | .lineEnd false => after.isNone || after == some '\n'
  | .lineStart true =>
    before.isNone || before == some '\n' || (before == some '\r' && after != some '\n')
  | .lineEnd true =>
    after.isNone || after == some '\r' || (after == some '\n' && before != some '\r')
  | .word e ascii => e.holds (isWord ascii before) (isWord ascii after)

end Look

end RuleCatalog

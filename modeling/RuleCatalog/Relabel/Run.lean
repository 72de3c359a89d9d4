import RuleCatalog.Relabel.Entry
import RuleCatalog.Pattern.Template

/-! # Running relabel programs

Entries are applied in order. A replacement sets its target label, or removes it where nothing
is left of the replacement; `drop` and `keep` may end the run without a label set. -/
namespace RuleCatalog

inductive RelabelOutcome where
  | keep (labels : Labels)
  | drop
  deriving DecidableEq, Repr

namespace RelabelEntry

/-- The values of the source labels, empty for labels that are not there. -/
def input (e : RelabelEntry) (labels : Labels) : String :=
  String.intercalate e.separator (e.sources.map fun n => (labels.get? n).getD "")

/-- The pattern of an entry, which has to match a whole input. A pattern that is refused never
matches. -/
def pattern? (e : RelabelEntry) : Option Regex := Pattern.parse? ("^(?:" ++ e.regex ++ ")$")

/-- Sets a label, or removes it where the value is empty. -/
def assign (labels : Labels) (name value : String) : Labels :=
  if value = "" then labels.erase name else labels.insert name value

end RelabelEntry

/-- An entry made ready to run: its pattern has been read and written out. -/
structure RelabelStep where
  entry : RelabelEntry
  matcher : Option Matcher
  deriving DecidableEq, Repr

def RelabelEntry.step (e : RelabelEntry) : RelabelStep := ⟨e, e.pattern?.map Regex.matcher⟩

namespace RelabelStep

def match? (s : RelabelStep) (labels : Labels) : Option Captures :=
  s.matcher.bind fun m => m.find? (s.entry.input labels)

/-- What one step makes of a label set. -/
def apply (s : RelabelStep) (labels : Labels) : RelabelOutcome :=
  match s.entry.action with
  | .replace =>
    match s.match? labels with
    | none => .keep labels
    | some c =>
      if s.entry.target = "" then .keep labels
      else .keep (RelabelEntry.assign labels s.entry.target
        (.ofList (Template.expand c s.entry.replacement.toList)))
  | .drop => if (s.match? labels).isSome then .drop else .keep labels
  | .keep => if (s.match? labels).isSome then .keep labels else .drop
  | _ => .keep labels

/-- What steps make of a label set, one after another. -/
def run : List RelabelStep → Labels → RelabelOutcome
  | [], labels => .keep labels
  | s :: ss, labels =>
    match s.apply labels with
    | .keep labels => run ss labels
    | .drop => .drop

theorem run_append (ss ts : List RelabelStep) (labels : Labels) :
    run (ss ++ ts) labels =
      match run ss labels with
      | .keep labels => run ts labels
      | .drop => .drop := by
  induction ss generalizing labels with
  | nil => rfl
  | cons s ss ih => simp only [List.cons_append, run]; cases s.apply labels <;> simp [ih]

end RelabelStep

/-- What a relabel program makes of a label set. -/
def relabel (es : List RelabelEntry) (labels : Labels) : RelabelOutcome :=
  RelabelStep.run (es.map RelabelEntry.step) labels

theorem relabel_append (es fs : List RelabelEntry) (labels : Labels) :
    relabel (es ++ fs) labels =
      match relabel es labels with
      | .keep labels => relabel fs labels
      | .drop => .drop := by
  simp only [relabel, List.map_append, RelabelStep.run_append]

end RuleCatalog

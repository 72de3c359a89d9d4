import RuleCatalog.Override.Entries

/-! # Editing overrides

Requests for a rule, answered by the new list of entries. Entries of other rules stay where
they are, and a request that is met already changes nothing. -/
namespace RuleCatalog.Override

/-- What becomes of the resource that holds the entries. -/
inductive Edit where
  | unchanged
  /-- Its entries become these. -/
  | write (entries : List RelabelEntry)
  /-- It holds nothing of use any more. -/
  | delete
  deriving DecidableEq, Repr

/-- The entries after an edit. -/
def Edit.entries (existing : List RelabelEntry) : Edit → List RelabelEntry
  | .unchanged => existing
  | .write es => es
  | .delete => []

/-- The edit that leads from some entries to others. -/
def Edit.between (existing entries : List RelabelEntry) : Edit :=
  if entries = existing then .unchanged
  else if entries = [] then .delete
  else .write entries

/-- Refuses labels without a proper name and labels that are not for overriding. -/
def checkLabel (name : String) : Except ValidationError Unit :=
  if !Label.isName name then .error (.invalidLabelName name)
  else if Label.isSystem name || name == Label.namespaceLabel then .error (.protectedLabel name)
  else .ok ()

/-- The wanted overrides: those of before with the delta on top, without values that the rule
has anyway. An empty value withdraws an override. -/
def desired (stated current delta : Labels) : Labels :=
  let merged := delta.toList.foldl
    (fun m p => if p.2 = "" then m.erase p.1 else m.insert p.1 p.2) current
  merged.filter fun k v => stated.get? k != some v

/-- The entries of one rule: its anchor, its overrides by label, and its silences. -/
def block (anchor : RelabelEntry) (id : Identity) (overrides : Labels)
    (silences : List RelabelEntry) : List RelabelEntry :=
  if overrides.isEmpty && silences.isEmpty then []
  else anchor :: overrides.toList.map (fun p => override id p.1 p.2) ++ silences

/-- Overrides labels of a rule. -/
def update (id : Identity) (alertName : String) (stated : Labels)
    (existing : List RelabelEntry) (delta : Labels) : Except ValidationError Edit := do
  delta.keys.forM checkLabel
  let wanted := desired stated (current id existing) delta
  if wanted = current id existing then return .unchanged
  let stamp := (existing.find? (isAnchor id)).getD (anchor id alertName stated)
  return .between existing (existing.filter (fun e => !belongs id e)
    ++ block stamp id wanted (existing.filter (isSilence id)))

/-- Puts an entry before the first one that passes a test, or else at the end. -/
def insertBefore (p : RelabelEntry → Bool) (e : RelabelEntry) (es : List RelabelEntry) :
    List RelabelEntry :=
  es.takeWhile (fun x => !p x) ++ e :: es.dropWhile (fun x => !p x)

/-- Silences a rule. The stamp has to come before all that is scoped to it. -/
def drop (id : Identity) (alertName : String) (stated : Labels)
    (existing : List RelabelEntry) : Edit :=
  let anchored := existing.any (isAnchor id)
  if anchored && isDropped id existing then .unchanged else
    let stamped := if anchored then existing
      else insertBefore (isScoped id) (anchor id alertName stated) existing
    .write (if isDropped id existing then stamped else stamped ++ [silence id])

/-- Ends the silence of a rule; its anchor goes too when it has no overrides. -/
def restore (id : Identity) (existing : List RelabelEntry) : Edit :=
  if !isDropped id existing then .unchanged else
    let anchorStays := !(current id existing).isEmpty
    .between existing (existing.filter fun e =>
      !isSilence id e && (anchorStays || !isAnchor id e))

theorem Edit.entries_between (existing entries : List RelabelEntry) :
    (between existing entries).entries existing = entries := by
  unfold between
  split
  · simp_all [Edit.entries]
  · split <;> simp_all [Edit.entries]

end RuleCatalog.Override

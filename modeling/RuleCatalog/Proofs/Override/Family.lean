import Mathlib.Logic.Function.Basic
import RuleCatalog.Proofs.Override.Machine

/-! # Requests for several rules

Requests for rules with different identities go to one list of entries. The entries of each rule
stand for what the requests for this rule alone have made of it. Main statement:
`entriesAfter_refines`. -/
namespace RuleCatalog.Override

section others
variable {r r' : Subject} {s s' t : State} {es : List RelabelEntry}

theorem filter_belongs_of_ne (h : Represents r s es) {id : Identity} (hid : id ≠ r.id) :
    es.filter (belongs id) = (es.filter fun e => !belongs r.id e).filter (belongs id) := by
  rw [List.filter_filter]
  refine List.filter_congr fun e he => ?_
  cases hb : belongs r.id e with
  | false => simp
  | true =>
    have hmem : e ∈ s.entries r := by
      rw [← h.filter_eq]
      exact List.mem_filter.2 ⟨he, hb⟩
    rw [belongs_of_mem_entries_of_ne h.isValid hid hmem]
    rfl

/-- An edit for one rule does nothing to another. -/
theorem represents_of_ne (h : Represents r s es) {edit : Edit} (hedit : Refines r s s' es edit)
    (hid : r'.id ≠ r.id) (ht : Represents r' t es) : Represents r' t (edit.entries es) where
  isValid := ht.isValid
  filter_eq := by
    rw [filter_belongs_of_ne hedit.represents hid, hedit.others, ← filter_belongs_of_ne h hid,
      ht.filter_eq]

end others

variable {ι : Type} [DecidableEq ι] {rules : ι → Subject} {es : List RelabelEntry}
  {qs : List (ι × Request)}

/-- The entries after some requests. A request that is refused leaves them as they are. -/
def entriesAfter (rules : ι → Subject) (es : List RelabelEntry) (qs : List (ι × Request)) :
    List RelabelEntry :=
  qs.foldl (fun es q =>
    match q.2.edit (rules q.1) es with
    | .ok edit => edit.entries es
    | .error _ => es) es

/-- What the requests for a rule make of its state. -/
def stateFrom (r : Subject) (s : State) (qs : List Request) : State :=
  qs.foldl (fun s q => q.next r s) s

/-- The requests for one of the rules. -/
def requestsFor (i : ι) (qs : List (ι × Request)) : List Request :=
  (qs.filter (·.1 = i)).map (·.2)

theorem represents_entriesAfter (hids : Function.Injective fun i => (rules i).id)
    {states : ι → State} (h : ∀ i, Represents (rules i) (states i) es)
    (hqs : ∀ q ∈ qs, q.2.IsValid) (i : ι) :
    Represents (rules i) (stateFrom (rules i) (states i) (requestsFor i qs))
      (entriesAfter rules es qs) := by
  induction qs generalizing es states with
  | nil => exact h i
  | cons q qs ih =>
    obtain ⟨j, q⟩ := q
    obtain ⟨edit, hedit, hrefines⟩ := request_refines (h j) (hqs (j, q) List.mem_cons_self)
    let next := Function.update states j (q.next (rules j) (states j))
    have hnext : ∀ i, Represents (rules i) (next i) (edit.entries es) := by
      intro i
      by_cases hij : i = j
      · subst hij
        rw [show next i = q.next (rules i) (states i) from Function.update_self ..]
        exact hrefines.represents
      · rw [show next i = states i from Function.update_of_ne hij ..]
        exact represents_of_ne (h j) hrefines (fun he => hij (hids he)) (h i)
    have hrest := ih hnext fun q' hq' => hqs q' (List.mem_cons_of_mem _ hq')
    have hentries : entriesAfter rules es ((j, q) :: qs)
        = entriesAfter rules (edit.entries es) qs := by
      rw [entriesAfter, List.foldl_cons, hedit]
      rfl
    have hstate : stateFrom (rules i) (states i) (requestsFor i ((j, q) :: qs))
        = stateFrom (rules i) (next i) (requestsFor i qs) := by
      by_cases hij : j = i
      · subst hij
        rw [show next j = q.next (rules j) (states j) from Function.update_self ..]
        simp [requestsFor, stateFrom]
      · rw [show next i = states i from Function.update_of_ne (Ne.symm hij) ..]
        simp [requestsFor, hij]
    rw [hentries, hstate]
    exact hrest

/-- After any requests, the entries of each rule are those of the state that the requests for the
rule lead to, and one more request does to the entries what it does to the state. -/
theorem entriesAfter_refines (hids : Function.Injective fun i => (rules i).id)
    (hes : ∀ e ∈ es, ∀ i, belongs (rules i).id e = false) (hqs : ∀ q ∈ qs, q.2.IsValid) (i : ι) :
    let s := stateFrom (rules i) .initial (requestsFor i qs)
    let es' := entriesAfter rules es qs
    es'.filter (belongs (rules i).id) = s.entries (rules i)
      ∧ ∀ q : Request, q.IsValid → ∃ edit, q.edit (rules i) es' = .ok edit
        ∧ Refines (rules i) s (q.next (rules i) s) es' edit := by
  have hinitial : ∀ i, Represents (rules i) .initial es := fun i =>
    ⟨State.isValid_initial, List.filter_eq_nil_iff.2 fun e he => by simp [hes e he i]⟩
  have h := represents_entriesAfter hids hinitial hqs i
  exact ⟨h.filter_eq, fun q hq => request_refines h hq⟩

/-- Two rules with one name. -/
def twins : Bool → Subject
  | false => ⟨⟨"Watchdog;1a"⟩, "Watchdog", .ofList [("severity", "none")]⟩
  | true => ⟨⟨"Watchdog;2b"⟩, "Watchdog", .ofList [("severity", "warning")]⟩

/-- Requests for two rules of one name, in a list with an entry of neither. -/
theorem entriesAfter_refines_twins :
    let qs := [(true, .drop), (false, .update (.ofList [("team", "web")])), (true, .restore)]
    let es := entriesAfter twins [.default] qs
    es.filter (belongs ⟨"Watchdog;1a"⟩)
        = State.entries (twins false) ⟨.ofList [("team", "web")], false⟩
      ∧ ∃ edit, Request.drop.edit (twins false) es = .ok edit
        ∧ Refines (twins false) ⟨.ofList [("team", "web")], false⟩
          ⟨.ofList [("team", "web")], true⟩ es edit := by
  intro qs es
  have hids : Function.Injective fun i => (twins i).id := by
    intro i j h
    revert i j
    decide +kernel
  have hes : ∀ e ∈ [RelabelEntry.default], ∀ i, belongs (twins i).id e = false := by
    decide +kernel
  have hqs : ∀ q ∈ qs, q.2.IsValid := by
    have hdelta : ∀ k ∈ ["team"], checkLabel k = .ok () := List.forall_mem_singleton.2 rfl
    simp only [qs, List.forall_mem_cons]
    exact ⟨trivial, hdelta, trivial, by simp⟩
  have hstate : stateFrom (twins false) .initial (requestsFor false qs)
      = ⟨.ofList [("team", "web")], false⟩ := by decide +kernel
  obtain ⟨hentries, hedits⟩ := entriesAfter_refines hids hes hqs false
  rw [hstate] at hentries hedits
  exact ⟨hentries, hedits .drop trivial⟩

end RuleCatalog.Override

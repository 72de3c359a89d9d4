import RuleCatalog.Proofs.Service.Classification
import RuleCatalog.Proofs.Service.Outcome

/-! # What a patch leaves in its container

A patch that succeeds leaves the text of its entry under the key of the rule and every other text as
it was, whatever the container held. Only a text that is no entry stays where the patch sets
nothing. Main statement: `ClassificationRequest.isKept_iff`. -/
namespace RuleCatalog.ClassificationRequest

/-- The text under a key in the container of a namespace. -/
def text? (c : Config) (s : Store Container) (space k : String) : Option String :=
  (s.get? (key c space)).bind (·.data.get? k)

/-- The entry of a rule, if its text can be read. -/
def readable? (c : Config) (s : Store Container) (space : String) (id : Identity) :
    Option Classification :=
  (s.get? (key c space)).bind (·.classification? id.encodeKey)

/-- Whether a container keeps what a patch makes of an entry, and keeps all else as it was. -/
structure IsKept (c : Config) (space : String) (id : Identity) (p : ClassificationPatch)
    (s s' : Store Container) : Prop where
  isSome_iff : (text? c s' space id.encodeKey).isSome ↔ (p.apply (readable? c s space id)).isSome
  readable : ∀ e, p.apply (readable? c s space id) = some e →
    ∃ text, text? c s' space id.encodeKey = some text ∧ Classification.ofText? text = some e
  others : ∀ k, k ≠ id.encodeKey → text? c s' space k = text? c s space k

/-- Whether there is a text that is no entry, and a patch sets nothing in its place. -/
def LeavesText (c : Config) (space : String) (id : Identity) (p : ClassificationPatch)
    (s : Store Container) : Prop :=
  (text? c s space id.encodeKey).isSome ∧ readable? c s space id = none ∧ p.apply none = none

variable {c : Config} {s s' : Store Container} {space : String} {id : Identity}
  {p : ClassificationPatch}

theorem text?_of_content (h : s'.content = s.content) (k : String) :
    text? c s' space k = text? c s space k := by
  rw [text?, Store.get?_eq_of_content h, text?]

theorem readable?_eq_some {e : Classification} (h : readable? c s space id = some e) :
    e.isEmpty = false
      ∧ ∃ text, text? c s space id.encodeKey = some text ∧ Classification.ofText? text = some e := by
  obtain ⟨container, hget, hclass⟩ := Option.bind_eq_some_iff.1 h
  obtain ⟨hread, hempty⟩ := Option.filter_eq_some_iff.1 hclass
  obtain ⟨text, htext, hof⟩ := Option.bind_eq_some_iff.1 hread
  exact ⟨by simpa using hempty, text, by rw [text?, hget, Option.bind_some, htext], hof⟩

/-- Where a patch changes nothing, its entry is kept unless a text is left that is none. -/
theorem isKept_iff_of_content (h : s'.content = s.content)
    (hsame : p.apply (readable? c s space id) = readable? c s space id) :
    IsKept c space id p s s' ↔ ¬ LeavesText c space id p s := by
  constructor
  · rintro ⟨hiff, -, -⟩ ⟨htext, hnone, -⟩
    rw [text?_of_content h, hsame, hnone] at hiff
    cases hiff.1 htext
  · intro hleaves
    refine ⟨?_, fun e he => ?_, fun k _ => text?_of_content h k⟩
    · rw [text?_of_content h, hsame]
      constructor
      · intro htext
        by_contra hentry
        have hnone := Option.not_isSome_iff_eq_none.1 hentry
        exact hleaves ⟨htext, hnone, hnone ▸ hsame⟩
      · intro hentry
        obtain ⟨e, he⟩ := Option.isSome_iff_exists.1 hentry
        obtain ⟨-, text, htext, -⟩ := readable?_eq_some he
        rw [htext]
        rfl
    · rw [text?_of_content h]
      exact (readable?_eq_some (hsame ▸ he)).2

open ClassificationCall (containerAt) in
theorem text?_write (hs : s.IsKeyed) (next : Option Classification) (k : String) :
    text? c (s.write ((containerAt c s space).withEntry id.encodeKey next)) space k
      = if k = id.encodeKey then next.map (·.text) else text? c s space k := by
  have hold : (containerAt c s space).data.get? k = text? c s space k := by
    unfold containerAt text?
    cases s.get? (key c space) <;> rfl
  rw [text?, ClassificationCall.get?_write_containerAt hs, Option.bind_some, ← hold]
  exact Container.get?_withEntry _ _ _ _

/-- Where a patch changes its entry, its entry is kept. -/
theorem isKept_write (hs : s.IsKeyed)
    (h : s'.content = (s.write ((ClassificationCall.containerAt c s space).withEntry id.encodeKey
      (p.apply (readable? c s space id)))).content) : IsKept c space id p s s' := by
  have htext (k : String) : text? c (s.write ((ClassificationCall.containerAt c s space).withEntry
      id.encodeKey (p.apply (readable? c s space id)))) space k
        = if k = id.encodeKey then (p.apply (readable? c s space id)).map (·.text)
          else text? c s space k :=
    text?_write hs _ k
  refine ⟨?_, fun e he => ⟨e.text, ?_, Classification.ofText?_text e⟩, fun k hk => ?_⟩
  · rw [text?_of_content h, htext, if_pos rfl, Option.isSome_map]
  · rw [text?_of_content h, htext, if_pos rfl, he]
    rfl
  · rw [text?_of_content h, htext, if_neg hk]

/-- A patch that succeeds changes nothing if it leaves its entry, and else writes the new one. -/
theorem content_alone_patch (hkeyed : s.IsKeyed) (hstamped : s.IsStamped)
    (h : ((patch c space id p).alone s).1 = .ok ()) :
    (p.apply (readable? c s space id) = readable? c s space id
        ∧ ((patch c space id p).alone s).2.content = s.content)
      ∨ p.apply (readable? c s space id) ≠ readable? c s space id
        ∧ ((patch c space id p).alone s).2.content
          = (s.write ((ClassificationCall.containerAt c s space).withEntry id.encodeKey
            (p.apply (readable? c s space id)))).content := by
  cases hnoop : p.isNoop with
  | true =>
    rw [patch_of_isNoop hnoop]
    exact .inl ⟨ClassificationPatch.apply_of_isNoop hnoop fun e he => (readable?_eq_some he).1, rfl⟩
  | false =>
    cases hvalid : p.validate with
    | error e =>
      rw [patch_of_invalid hnoop hvalid] at h
      cases h
    | ok u =>
      rw [patch_eq_amend hnoop hvalid] at h ⊢
      obtain ⟨-, hcontent⟩ :=
        StoreRequest.content_alone_amend hkeyed hstamped isPlan_amendment h
      rw [hcontent]
      by_cases hsame : p.apply (readable? c s space id) = readable? c s space id
      · rw [amendment_of_eq _ hsame]
        exact .inl ⟨hsame, rfl⟩
      · rcases ClassificationCall.amended_amendment c s space id p with ⟨heq, -⟩ | ⟨hafter, -⟩
        · exact absurd heq hsame
        · exact .inr ⟨hsame, congrArg Store.content hafter⟩

/-- Whatever has been stored, a patch that succeeds with no other writer leaves a text under the key
of its rule exactly where it leaves an entry, the text is read as this entry, and all other texts
of the container stay, unless it sets nothing in the place of a text that is no entry: then
everything stays. -/
theorem isKept_iff (c : Config) (actions : List (StoreAction Container)) (space : String)
    (id : Identity) (p : ClassificationPatch)
    (h : ((patch c space id p).alone (.after actions)).1 = .ok ()) :
    let s := Store.after actions
    let s' := ((patch c space id p).alone s).2
    (IsKept c space id p s s' ↔ ¬ LeavesText c space id p s)
      ∧ (LeavesText c space id p s → ∀ k, text? c s' space k = text? c s space k) := by
  intro s s'
  have hkeyed : s.IsKeyed := Store.isKeyed_after actions
  rcases content_alone_patch hkeyed (Store.isStamped_after actions) h with
    ⟨hsame, hcontent⟩ | ⟨hchanged, hcontent⟩
  · exact ⟨isKept_iff_of_content hcontent hsame, fun _ k => text?_of_content hcontent k⟩
  · have hnot : ¬ LeavesText c space id p s := by
      rintro ⟨-, hnone, happly⟩
      rw [hnone] at hchanged
      exact hchanged happly
    exact ⟨iff_of_true (isKept_write hkeyed hcontent) hnot, fun hleaves => absurd hleaves hnot⟩

/-- A container with a text that is no entry, under the key of a rule, and a text of others. -/
def unread : List (StoreAction Container) :=
  [.upsert ⟨.fresh (key .default "team"), .ofList [("QQ", "\x7b\x7d"), ("others", "text")]⟩]

/-- A patch of the component alone. -/
def ofComponent (f : FieldPatch) : ClassificationPatch := ⟨f, .unset, .unset, .unset⟩

theorem isKept_iff_overwritten :
    let s : Store Container := .after unread
    let answer := (patch .default "team" ⟨"A"⟩ (ofComponent (.set "web"))).alone s
    answer.1 = .ok ()
      ∧ (IsKept .default "team" ⟨"A"⟩ (ofComponent (.set "web")) s answer.2
        ↔ ¬ LeavesText .default "team" ⟨"A"⟩ (ofComponent (.set "web")) s)
      ∧ text? .default answer.2 "team" "QQ" = some "\x7b\"component\":\"web\"\x7d" := by
  intro s answer
  have hanswer : answer.1 = .ok () := by decide +kernel
  exact ⟨hanswer, (isKept_iff .default unread "team" ⟨"A"⟩ _ hanswer).1, by decide +kernel⟩

/-- An empty entry stays where its fields are cleared, although nothing is left of it. -/
theorem not_isKept_cleared :
    (ofComponent .clear).isNoop = false ∧ (ofComponent .clear).validate = .ok ()
    ∧ ((patch .default "team" ⟨"A"⟩ (ofComponent .clear)).alone (.after unread)).1 = .ok ()
    ∧ ¬ IsKept .default "team" ⟨"A"⟩ (ofComponent .clear) (.after unread)
      ((patch .default "team" ⟨"A"⟩ (ofComponent .clear)).alone (.after unread)).2 := by
  refine ⟨by decide, by decide, by decide +kernel, fun h => ?_⟩
  have hleft : (ofComponent .clear).apply (readable? .default (.after unread) "team" ⟨"A"⟩) ≠ none :=
    Option.isSome_iff_ne_none.1 (h.isSome_iff.1 (by decide +kernel))
  exact hleft (by decide +kernel)

end RuleCatalog.ClassificationRequest

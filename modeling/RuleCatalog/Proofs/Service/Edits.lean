import RuleCatalog.Proofs.Service.Contest
import RuleCatalog.Proofs.Service.Patched

/-! # Requests as edits

What a request that succeeds alone leaves is an edit of what was stored: a patch is applied to the
entry of its rule, and a rule is added to a resource, replaced in it or removed from it. Requests
that take turns leave what their edits make of the store one after another.
Main statements: `Contest.readable?_run_patches` and `Contest.content_run_rules`. -/
namespace RuleCatalog

/-! ## Patches of classifications -/

namespace ClassificationRequest
open ClassificationCall (containerAt classification?_containerAt)

/-- A store with what a patch makes of the entry of a rule. What stays the same is not written. -/
def edited (c : Config) (space : String) (id : Identity) (p : ClassificationPatch)
    (s : Store Container) : Store Container :=
  if p.apply (readable? c s space id) = readable? c s space id then s
  else s.write ((containerAt c s space).withEntry id.encodeKey (p.apply (readable? c s space id)))

variable {c : Config} {s t : Store Container} {space : String} {id : Identity}
  {p : ClassificationPatch}

theorem content_alone_eq_edited (hkeyed : s.IsKeyed) (hstamped : s.IsStamped)
    (h : ((patch c space id p).alone s).1 = .ok ()) :
    ((patch c space id p).alone s).2.content = (edited c space id p s).content := by
  unfold edited
  rcases content_alone_patch hkeyed hstamped h with ⟨hsame, hcontent⟩ | ⟨hchanged, hcontent⟩
  · rw [if_pos hsame, hcontent]
  · rw [if_neg hchanged, hcontent]

theorem readable?_of_content (h : s.content = t.content) :
    readable? c s space id = readable? c t space id := by
  rw [readable?, Store.get?_eq_of_content h, readable?]

theorem content_edited (h : s.content = t.content) :
    (edited c space id p s).content = (edited c space id p t).content := by
  have hcontainer : containerAt c s space = containerAt c t space := by
    rw [containerAt, Store.get?_eq_of_content h, containerAt]
  unfold edited
  rw [readable?_of_content h, hcontainer]
  split
  · exact h
  · exact Store.content_write h _

theorem isKeyed_edited (hs : s.IsKeyed) : (edited c space id p s).IsKeyed := by
  unfold edited
  split
  · exact hs
  · exact Store.isKeyed_write hs _

/-- A container that is written with one entry changed is read back so, and nowhere else. -/
theorem readable?_write_withEntry (hs : s.IsKeyed) {next : Option Classification}
    (hnext : ∀ e, next = some e → e.isEmpty = false) (space' : String) (id' : Identity) :
    readable? c (s.write ((containerAt c s space).withEntry id.encodeKey next)) space' id'
      = if space = space' ∧ id = id' then next else readable? c s space' id' := by
  by_cases hspace : space = space'
  · subst hspace
    rw [readable?, ClassificationCall.get?_write_containerAt hs, Option.bind_some]
    change ((containerAt c s space).withEntry id.encodeKey _).classification? id'.encodeKey = _
    by_cases hid : id = id'
    · subst hid
      rw [if_pos ⟨rfl, rfl⟩]
      exact Container.classification?_withEntry _ hnext
    · have hkey : id'.encodeKey ≠ id.encodeKey :=
        fun heq => hid (Identity.encodeKey_injective heq).symm
      rw [if_neg fun hplace => hid hplace.2, Container.classification?_withEntry_of_ne _ hkey,
        classification?_containerAt, readable?]
  · have hkey : key c space'
        ≠ Resource.key ((containerAt c s space).withEntry id.encodeKey next) := by
      rw [ClassificationCall.key_withEntry_containerAt hs]
      exact fun heq => hspace (ClassificationCall.eq_of_key_eq heq).symm
    rw [if_neg fun hplace => hspace hplace.1, readable?, Store.get?_write_of_ne s _ hkey, readable?]

/-- An edit applies a patch to the entry of its rule and leaves all other entries. -/
theorem readable?_edited (hs : s.IsKeyed) (space' : String) (id' : Identity) :
    readable? c (edited c space id p s) space' id'
      = if space = space' ∧ id = id' then p.apply (readable? c s space' id')
        else readable? c s space' id' := by
  unfold edited
  by_cases hsame : p.apply (readable? c s space id) = readable? c s space id
  · rw [if_pos hsame]
    split
    · rename_i hplace
      obtain ⟨rfl, rfl⟩ := hplace
      exact hsame.symm
    · rfl
  · rw [if_neg hsame,
      readable?_write_withEntry hs (fun e => ClassificationPatch.isEmpty_apply) space' id']
    split
    · rename_i hplace
      obtain ⟨rfl, rfl⟩ := hplace
      rfl
    · rfl

/-- Edits one after another apply to the entry of a rule the patches of that rule. -/
theorem readable?_foldl_edited {ι : Type} (hs : s.IsKeyed) (spaces : ι → String)
    (ids : ι → Identity) (patches : ι → ClassificationPatch) (order : List ι) (space : String)
    (id : Identity) :
    readable? c (order.foldl (fun s i => edited c (spaces i) (ids i) (patches i) s) s) space id
      = (order.filter fun i => spaces i = space ∧ ids i = id).foldl
        (fun entry i => (patches i).apply entry) (readable? c s space id) := by
  induction order generalizing s with
  | nil => rfl
  | cons i order ih =>
    rw [List.foldl_cons, ih (isKeyed_edited hs), readable?_edited hs, List.filter_cons]
    by_cases hplace : spaces i = space ∧ ids i = id
    · rw [if_pos hplace, if_pos (decide_eq_true hplace)]
      rfl
    · rw [if_neg hplace, if_neg (by simpa using hplace)]

end ClassificationRequest

/-! ## Rules of users -/

namespace RuleCall
open RuleRequest

/-- The resource that a request writes, if it finds what it has to edit. -/
def resource? (catalog : Catalog) (s : Store RuleResource) : RuleCall → Option RuleResource
  | create key group rule => some ((base s key).add group rule.withoutSystemLabels)
  | update id rule =>
    if Identity.ofRule rule.withoutSystemLabels = id then none
    else do
      let r ← s.get? (← catalog.get? id).source
      r.replace? id rule.withoutSystemLabels
  | delete id => do
    let r ← s.get? (← catalog.get? id).source
    r.remove? id

/-- A store with the resource that a request writes. -/
def edited (catalog : Catalog) (x : RuleCall) (s : Store RuleResource) : Store RuleResource :=
  match x.resource? catalog s with
  | none => s
  | some r => s.write r

variable {c : Config} {catalog : Catalog} {s t : Store RuleResource}

theorem content_edited (x : RuleCall) (h : s.content = t.content) :
    (x.edited catalog s).content = (x.edited catalog t).content := by
  have hresource : x.resource? catalog s = x.resource? catalog t := by
    cases x <;> simp only [resource?, base, Store.get?_eq_of_content h]
  unfold edited
  rw [hresource]
  split
  · exact h
  · exact Store.content_write h _

theorem content_alone_script (x : RuleCall) (hkeyed : s.IsKeyed) (hstamped : s.IsStamped)
    {reply : Option Identity} (h : ((x.script c catalog).alone s).1 = .ok reply) :
    ((x.script c catalog).alone s).2.content = (x.edited catalog s).content := by
  cases x with
  | create key group rule =>
    obtain ⟨id, hid, hstore⟩ := StoreRequest.exists_of_alone_bind_pure
      (x := RuleRequest.create c catalog key group rule) (g := some) h
    exact (congrArg Store.content hstore).trans (content_alone_create hkeyed hstamped hid).2
  | update id rule =>
    obtain ⟨new, hnew, hstore⟩ := StoreRequest.exists_of_alone_bind_pure
      (x := RuleRequest.update c catalog id rule) (g := some) h
    refine (congrArg Store.content hstore).trans ?_
    rcases content_alone_update hkeyed hstamped hnew with
      ⟨hsame, hcontent⟩ | ⟨current, r, edited, huser, hne, hget, hedited, hcontent⟩
    · rw [hcontent, RuleCall.edited, resource?, if_pos hsame]
    · have hresource : (update id rule).resource? catalog s = some edited := by
        simp only [resource?, if_neg hne, (userRule_eq_ok_iff.1 huser).1, hget, hedited,
          Option.bind_eq_bind, Option.bind_some]
      rw [hcontent, RuleCall.edited, hresource]
  | delete id =>
    obtain ⟨_, hnew, hstore⟩ := StoreRequest.exists_of_alone_bind_pure
      (x := RuleRequest.delete c catalog id) (g := fun _ => none) h
    refine (congrArg Store.content hstore).trans ?_
    obtain ⟨current, r, edited, huser, hget, hedited, hcontent⟩ :=
      content_alone_delete hkeyed hstamped hnew
    have hresource : (delete id).resource? catalog s = some edited := by
      simp only [resource?, (userRule_eq_ok_iff.1 huser).1, hget, hedited, Option.bind_eq_bind,
        Option.bind_some]
    rw [hcontent, RuleCall.edited, hresource]

end RuleCall

/-! ## Requests that take turns -/

namespace Contest
variable {α ρ ι : Type} [Resource α]

/-- Whether what each request leaves that succeeds alone is an edit of what is stored. -/
structure AreEdits (tasks : ι → StoreRequest α ρ) (edit : ι → Store α → Store α) : Prop where
  congr : ∀ i {s t}, s.content = t.content → (edit i s).content = (edit i t).content
  alone_eq : ∀ i {s r}, s.IsKeyed → s.IsStamped → ((tasks i).alone s).1 = .ok r →
    ((tasks i).alone s).2.content = (edit i s).content

variable {tasks : ι → StoreRequest α ρ} {edit : ι → Store α → Store α} {s t : Store α}
  {w : Contest α ρ ι}

theorem AreEdits.content_foldl (h : AreEdits tasks edit) (hst : s.content = t.content)
    (order : List ι) : (order.foldl (fun s i => edit i s) s).content
      = (order.foldl (fun s i => edit i s) t).content := by
  induction order generalizing s t with
  | nil => exact hst
  | cons i order ih => exact ih (h.congr i hst)

theorem isKeyed_inTurn (hs : s.IsKeyed) (order : List ι) : (inTurn tasks s order).IsKeyed := by
  induction order generalizing s with
  | nil => exact hs
  | cons i order ih => exact ih (Store.isKeyed_run _ hs)

theorem isStamped_inTurn (hs : s.IsStamped) (order : List ι) :
    (inTurn tasks s order).IsStamped := by
  induction order generalizing s with
  | nil => exact hs
  | cons i order ih => exact ih (Store.isStamped_run _ hs)

/-- Requests that succeed one after another leave what their edits do. -/
theorem AreEdits.content_inTurn (h : AreEdits tasks edit) (hkeyed : s.IsKeyed)
    (hstamped : s.IsStamped) {order : List ι}
    (horder : ∀ before i, before ++ [i] <+: order →
      ∃ r, ((tasks i).alone (inTurn tasks s before)).1 = .ok r) :
    (inTurn tasks s order).content = (order.foldl (fun s i => edit i s) s).content := by
  induction order using List.reverseRecOn with
  | nil => rfl
  | append_singleton order i ih =>
    obtain ⟨r, hr⟩ := horder order i List.prefix_rfl
    have hbefore := ih fun before j hprefix =>
      horder before j (List.IsPrefix.trans hprefix (List.prefix_append order [i]))
    rw [inTurn_append_singleton, List.foldl_append, List.foldl_cons, List.foldl_nil]
    exact (h.alone_eq i (isKeyed_inTurn hkeyed order) (isStamped_inTurn hstamped order) hr).trans
      (h.congr i hbefore)

theorem AreEdits.content_of_isSerial (h : AreEdits tasks edit) (hserial : IsSerial tasks s w)
    (hkeyed : s.IsKeyed) (hstamped : s.IsStamped) :
    w.store.content = (w.order.foldl (fun s i => edit i s) s).content := by
  refine hserial.content_eq_order.trans (h.content_inTurn hkeyed hstamped fun before i hprefix => ?_)
  obtain ⟨r, -, hr⟩ := hserial.reply_eq before i hprefix
  exact ⟨r, hr⟩

variable [DecidableEq ι]

/-- What is stored after any turns is what the edits of the requests that have succeeded make of
it, in their order. -/
theorem AreEdits.content_run (h : AreEdits tasks edit) (htasks : ∀ i, IsAmending (tasks i))
    (as : List (StoreAction α)) (ms : List (Race.Move ι)) :
    let w := (start tasks (Store.after as)).run ms
    w.store.content = (w.order.foldl (fun s i => edit i s) (Store.after as)).content := by
  intro w
  have hkeyed : (Store.after as : Store α).IsKeyed := Store.isKeyed_after as
  have hstamped : (Store.after as : Store α).IsStamped := Store.isStamped_after as
  have hserial := isSerial_run_start htasks as ms
  -- in turn no update is refused, which is no part of the content
  have hcontent : Store.content { (Store.after as : Store α) with failingUpdates := 0 }
      = (Store.after as).content := rfl
  exact (h.content_of_isSerial hserial hkeyed hstamped).trans (h.content_foldl hcontent w.order)

/-- After any turns of patches, the entry of a rule is the one of before with the patches of the
rule that have succeeded applied in their order. -/
theorem readable?_run_patches (c : Config) (as : List (StoreAction Container))
    (spaces : ι → String) (ids : ι → Identity) (patches : ι → ClassificationPatch)
    (ms : List (Race.Move ι)) (space : String) (id : Identity) :
    let s := Store.after as
    let w := (start (fun i => ClassificationRequest.patch c (spaces i) (ids i) (patches i)) s).run ms
    ClassificationRequest.readable? c w.store space id
      = (w.order.filter fun i => spaces i = space ∧ ids i = id).foldl
        (fun entry i => (patches i).apply entry) (ClassificationRequest.readable? c s space id) := by
  intro s w
  have hedits : AreEdits (fun i => ClassificationRequest.patch c (spaces i) (ids i) (patches i))
      fun i => ClassificationRequest.edited c (spaces i) (ids i) (patches i) :=
    ⟨fun _ _ _ => ClassificationRequest.content_edited,
      fun _ _ _ => ClassificationRequest.content_alone_eq_edited⟩
  have hcontent := hedits.content_run (fun i => ClassificationRequest.isAmending_patch) as ms
  rw [ClassificationRequest.readable?_of_content hcontent]
  exact ClassificationRequest.readable?_foldl_edited (Store.isKeyed_after as) ..

/-- After any turns of requests for rules, the resources are those of before with the rules added,
replaced and removed by the requests that have succeeded, in their order. -/
theorem content_run_rules (c : Config) (as : List (StoreAction RuleResource))
    (catalog : ι → Catalog) (calls : ι → RuleCall) (ms : List (Race.Move ι)) :
    let s := Store.after as
    let w := (start (fun i => (calls i).script c (catalog i)) s).run ms
    w.store.content = (w.order.foldl (fun s i => (calls i).edited (catalog i) s) s).content := by
  have hedits : AreEdits (fun i => (calls i).script c (catalog i))
      fun i => (calls i).edited (catalog i) :=
    ⟨fun i _ _ => (calls i).content_edited,
      fun i _ _ hkeyed hstamped h => (calls i).content_alone_script hkeyed hstamped h⟩
  exact hedits.content_run (fun i => (calls i).isAmending_script c (catalog i)) as ms

end Contest

end RuleCatalog

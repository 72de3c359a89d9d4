import RuleCatalog.Proofs.Classification.Entry
import RuleCatalog.Proofs.Service.Amending
import RuleCatalog.Proofs.SortedMap

/-! # Classifications as a map

The containers of all namespaces together stand for one map, from namespaces and identities to
entries: every request answers what the map answers, and changes it at its own place only.
Main statement: `ClassificationCall.refines_map`. -/
namespace RuleCatalog

/-- A request for classifications. -/
inductive ClassificationCall where
  | patch (space : String) (id : Identity) (p : ClassificationPatch)
  | get (space : String) (id : Identity)
  | list (space : String)

inductive ClassificationReply where
  | done
  | entry (e : Option Classification)
  | entries (m : SortedMap Identity Classification)

namespace ClassificationCall

def script (c : Config) : ClassificationCall → ClassificationRequest ClassificationReply
  | patch space id p => do
    ClassificationRequest.patch c space id p
    return .done
  | get space id => do return .entry (← ClassificationRequest.get c space id)
  | list space => do return .entries (← ClassificationRequest.list c space)

/-- The store after some requests, one after another from an empty one. -/
def storeAfter (c : Config) (calls : List ClassificationCall) : Store Container :=
  calls.foldl (fun s call => ((call.script c).alone s).2) .empty

/-- The map of entries after a request: a patch that is accepted changes its own entry. -/
def change (m : String → Identity → Option Classification) :
    ClassificationCall → String → Identity → Option Classification
  | patch space id p =>
    match p.validate with
    | .ok _ => Function.update m space (Function.update (m space) id (p.apply (m space id)))
    | .error _ => m
  | get _ _ | list _ => m

/-- The map of entries after some requests, one after another from no entries. -/
def mapAfter (calls : List ClassificationCall) : String → Identity → Option Classification :=
  calls.foldl change fun _ _ => none

/-- Whether a request is answered from a map of entries. -/
def Answers (m : String → Identity → Option Classification) :
    ClassificationCall → Except ServiceError ClassificationReply → Prop
  | patch _ _ p, reply => reply = (p.validate.mapError .invalid).map fun _ => .done
  | get space id, reply => reply = .ok (.entry (m space id))
  | list space, reply =>
    ∃ entries, reply = .ok (.entries entries) ∧ ∀ id, entries.get? id = m space id

/-- Whether a namespace has had an entry at some time. -/
def HasHad (calls : List ClassificationCall) (space : String) : Prop :=
  ∃ before, before <+: calls ∧ ∃ id, mapAfter before space id ≠ none

/-- Whether a store keeps the entries of a map, and nothing but them. -/
structure Keeps (c : Config) (s : Store Container)
    (m : String → Identity → Option Classification) (had : String → Prop) : Prop where
  entry_eq : ∀ space id, (s.get? (ClassificationRequest.key c space)).bind
    (·.classification? id.encodeKey) = m space id
  text : ∀ key container, s.get? key = some container →
    ∀ k text, container.data.get? k = some text →
      ∃ (id : Identity) (e : Classification),
        k = id.encodeKey ∧ text = e.text ∧ e.IsValid ∧ e.isEmpty = false
  place : ∀ key container, s.get? key = some container →
    ∃ space, key = ClassificationRequest.key c space ∧ had space

end ClassificationCall

/-! ## Containers -/

namespace Container

/-- The texts of a container with an entry in it, or without one. -/
theorem get?_withEntry (container : Container) (k : String) (next : Option Classification)
    (k' : String) : (container.withEntry k next).data.get? k'
      = if k' = k then next.map (·.text) else container.data.get? k' := by
  unfold withEntry
  cases next with
  | none =>
    simp only [SortedMap.get?_erase, Std.LawfulEqCmp.compare_eq_iff_eq, eq_comm (a := k)]
    rfl
  | some e =>
    simp only [SortedMap.get?_insert, Std.LawfulEqCmp.compare_eq_iff_eq]
    rfl

theorem classification?_withEntry_of_ne (container : Container) {k k' : String} (h : k' ≠ k)
    (next : Option Classification) :
    (container.withEntry k next).classification? k' = container.classification? k' := by
  rw [classification?, get?_withEntry, if_neg h, classification?]

theorem get?_data_withEntry {container : Container} {k k' text : String}
    {next : Option Classification} (h : (container.withEntry k next).data.get? k' = some text) :
    (∃ e, next = some e ∧ k' = k ∧ text = e.text) ∨ container.data.get? k' = some text := by
  rw [get?_withEntry] at h
  split at h
  · rename_i hk
    obtain ⟨e, rfl, rfl⟩ := Option.map_eq_some_iff.1 h
    exact .inl ⟨e, rfl, hk, rfl⟩
  · exact .inr h

/-- The listing of a container whose keys are all keys of identities. -/
theorem get?_entries {container : Container}
    (h : ∀ k text, container.data.get? k = some text → ∃ id : Identity, k = id.encodeKey)
    (id : Identity) : container.entries.get? id = container.classification? id.encodeKey := by
  refine SortedMap.get?_ofList_of_mem_iff
    (f := fun id : Identity => container.classification? id.encodeKey) (fun id e => ?_) id
  rw [List.mem_filterMap]
  constructor
  · rintro ⟨k, hk, hentry⟩
    obtain ⟨text, htext⟩ := SortedMap.mem_keys_iff.1 hk
    obtain ⟨id', rfl⟩ := h k text htext
    rw [Identity.decodeKey_encodeKey] at hentry
    cases hclass : container.classification? id'.encodeKey with
    | none =>
      rw [hclass] at hentry
      cases hentry
    | some e' =>
      rw [hclass] at hentry
      obtain ⟨rfl, rfl⟩ := Prod.mk.inj (Option.some.inj hentry)
      exact hclass
  · intro hclass
    refine ⟨id.encodeKey, SortedMap.mem_keys_iff.2 ?_, ?_⟩
    · cases hdata : container.data.get? id.encodeKey with
      | none =>
        rw [classification?, hdata] at hclass
        cases hclass
      | some text => exact ⟨text, rfl⟩
    · rw [Identity.decodeKey_encodeKey, hclass]

end Container

namespace ClassificationCall
variable {c : Config} {s t : Store Container} {m : String → Identity → Option Classification}
  {had had' : String → Prop} {space : String} {id : Identity} {p : ClassificationPatch}

theorem eq_of_key_eq {space space' : String}
    (h : ClassificationRequest.key c space = ClassificationRequest.key c space') :
    space = space' := by
  have hname : ClassificationRequest.containerName space
      = ClassificationRequest.containerName space' := (ObjectKey.mk.inj h).2
  have hlist := congrArg String.toList hname
  unfold ClassificationRequest.containerName at hlist
  rw [String.toList_append, String.toList_append] at hlist
  exact String.toList_inj.1 (List.append_cancel_left hlist)

/-! ## What is kept -/

theorem Keeps.of_content (h : Keeps c s m had) (hc : s.content = t.content) : Keeps c t m had where
  entry_eq space id := by
    rw [← Store.get?_eq_of_content hc]
    exact h.entry_eq space id
  text key container hget := h.text key container ((Store.get?_eq_of_content hc key).trans hget)
  place key container hget := h.place key container ((Store.get?_eq_of_content hc key).trans hget)

theorem Keeps.of_imp (h : Keeps c s m had) (hhad : ∀ space, had space → had' space) :
    Keeps c s m had' where
  entry_eq := h.entry_eq
  text := h.text
  place key container hget := by
    obtain ⟨space, hkey, hspace⟩ := h.place key container hget
    exact ⟨space, hkey, hhad space hspace⟩

/-- Every entry of the map has valid fields, and at least one of them. -/
theorem Keeps.isValid (h : Keeps c s m had) {e : Classification} (he : m space id = some e) :
    e.IsValid ∧ e.isEmpty = false := by
  have hentry := (h.entry_eq space id).trans he
  obtain ⟨container, hget, hclass⟩ := Option.bind_eq_some_iff.1 hentry
  obtain ⟨hread, -⟩ := Option.filter_eq_some_iff.1 hclass
  obtain ⟨text, htext, hof⟩ := Option.bind_eq_some_iff.1 hread
  obtain ⟨id', e', -, rfl, hvalid, hempty⟩ := h.text _ container hget _ text htext
  rw [Classification.ofText?_text] at hof
  obtain rfl := Option.some.inj hof
  exact ⟨hvalid, hempty⟩

theorem keeps_empty : Keeps c .empty (fun _ _ => none) fun _ => False where
  entry_eq _ _ := rfl
  text key container hget := by simp [Store.empty, Store.get?] at hget
  place key container hget := by simp [Store.empty, Store.get?] at hget

/-- The container of a namespace, or a new one. -/
def containerAt (c : Config) (s : Store Container) (space : String) : Container :=
  (s.get? (ClassificationRequest.key c space)).getD ⟨.fresh (ClassificationRequest.key c space), ∅⟩

theorem key_containerAt (hs : s.IsKeyed) :
    Resource.key (containerAt c s space) = ClassificationRequest.key c space := by
  unfold containerAt
  cases hget : s.get? (ClassificationRequest.key c space) with
  | none => rfl
  | some container => exact hs _ container hget

theorem key_withEntry_containerAt (hs : s.IsKeyed) (k : String) (next : Option Classification) :
    Resource.key ((containerAt c s space).withEntry k next) = ClassificationRequest.key c space := by
  have hmetadata : ((containerAt c s space).withEntry k next).metadata
      = (containerAt c s space).metadata := ClassificationRequest.metadata_withEntry _ _ _
  rw [← key_containerAt hs]
  exact congrArg Metadata.key hmetadata

/-- What is found at the place of a container that has been written with another entry. -/
theorem get?_write_containerAt (hs : s.IsKeyed) (k : String) (next : Option Classification) :
    (s.write ((containerAt c s space).withEntry k next)).get? (ClassificationRequest.key c space)
      = some (s.next ((containerAt c s space).withEntry k next)) := by
  rw [Store.get?_write, key_withEntry_containerAt hs, if_pos Std.ReflCmp.compare_self]

theorem classification?_containerAt (k : String) : (containerAt c s space).classification? k
    = (s.get? (ClassificationRequest.key c space)).bind (·.classification? k) := by
  unfold containerAt
  cases s.get? (ClassificationRequest.key c space) with
  | none => rfl
  | some container => rfl

theorem Keeps.classification?_containerAt (h : Keeps c s m had) :
    (containerAt c s space).classification? id.encodeKey = m space id :=
  (ClassificationCall.classification?_containerAt _).trans (h.entry_eq space id)

theorem Keeps.text_containerAt (h : Keeps c s m had) {k text : String}
    (hk : (containerAt c s space).data.get? k = some text) :
    ∃ (id : Identity) (e : Classification), k = id.encodeKey ∧ text = e.text ∧ e.IsValid
      ∧ e.isEmpty = false := by
  unfold containerAt at hk
  cases hget : s.get? (ClassificationRequest.key c space) with
  | none =>
    rw [hget] at hk
    cases hk
  | some container =>
    rw [hget] at hk
    exact h.text _ container hget k text hk

/-- A container with another entry in it changes the map at one place. -/
theorem Keeps.write (h : Keeps c s m had) (hs : s.IsKeyed) {next : Option Classification}
    (hnext : ∀ e, next = some e → e.IsValid ∧ e.isEmpty = false) (hhad : had space) :
    Keeps c (s.write ((containerAt c s space).withEntry id.encodeKey next))
      (Function.update m space (Function.update (m space) id next)) had := by
  let new := (containerAt c s space).withEntry id.encodeKey next
  have hkey : Resource.key new = ClassificationRequest.key c space :=
    key_withEntry_containerAt hs id.encodeKey next
  have hself : (s.write new).get? (ClassificationRequest.key c space) = some (s.next new) :=
    get?_write_containerAt hs id.encodeKey next
  have hother : ∀ key, key ≠ ClassificationRequest.key c space →
      (s.write new).get? key = s.get? key := fun key hne =>
    Store.get?_write_of_ne s new (hkey ▸ hne)
  -- a new version is stamped on the metadata only
  have hdata : (s.next new).data = new.data := rfl
  constructor
  · intro space' id'
    by_cases hspace : space' = space
    · subst hspace
      rw [hself, Function.update_self]
      change new.classification? id'.encodeKey = _
      by_cases hid : id' = id
      · subst hid
        rw [Function.update_self]
        exact Container.classification?_withEntry _ fun e he => (hnext e he).2
      · rw [Function.update_of_ne hid]
        have hne : id'.encodeKey ≠ id.encodeKey := fun heq => hid (Identity.encodeKey_injective heq)
        exact (Container.classification?_withEntry_of_ne _ hne next).trans
          h.classification?_containerAt
    · rw [hother _ fun heq => hspace (eq_of_key_eq heq), Function.update_of_ne hspace]
      exact h.entry_eq space' id'
  · intro key container hget k text hk
    by_cases hkey : key = ClassificationRequest.key c space
    · rw [hkey, hself] at hget
      obtain rfl := Option.some.inj hget
      rw [hdata] at hk
      rcases Container.get?_data_withEntry hk with ⟨e, he, rfl, rfl⟩ | hold
      · exact ⟨id, e, rfl, rfl, hnext e he⟩
      · exact h.text_containerAt hold
    · rw [hother key hkey] at hget
      exact h.text key container hget k text hk
  · intro key container hget
    by_cases hkey : key = ClassificationRequest.key c space
    · exact ⟨space, hkey, hhad⟩
    · rw [hother key hkey] at hget
      exact h.place key container hget

/-! ## One request -/

/-- A patch that is tried leaves what is stored, or puts the new entry into the container. -/
theorem amended_amendment (c : Config) (s : Store Container) (space : String) (id : Identity)
    (p : ClassificationPatch) :
    let found := s.get? (ClassificationRequest.key c space)
    let current := found.bind (·.classification? id.encodeKey)
    let after := s.amended (ClassificationRequest.amendment c space id p found)
    p.apply current = current ∧ after = s
      ∨ after = s.write ((containerAt c s space).withEntry id.encodeKey (p.apply current))
        ∧ (found = none → p.apply current ≠ none) := by
  unfold containerAt
  cases s.get? (ClassificationRequest.key c space) with
  | none =>
    cases hnext : p.apply none with
    | none =>
      refine .inl ⟨hnext, ?_⟩
      rw [ClassificationRequest.amendment_of_eq none hnext]
      rfl
    | some e =>
      dsimp only [Option.bind_none]
      rw [ClassificationRequest.amendment_none hnext, hnext]
      exact .inr ⟨rfl, nofun⟩
  | some container =>
    by_cases hsame : p.apply (container.classification? id.encodeKey)
        = container.classification? id.encodeKey
    · refine .inl ⟨hsame, ?_⟩
      rw [ClassificationRequest.amendment_of_eq (some container) hsame]
      rfl
    · refine .inr ⟨?_, nofun⟩
      rw [ClassificationRequest.amendment_some hsame]
      rfl

/-- A patch that is accepted changes the map at its own place. -/
theorem Keeps.patch (h : Keeps c s m had) (hs : s.IsCalm) (hnoop : p.isNoop = false)
    (hvalid : p.validate = .ok ()) (hhad : ∀ space, had space → had' space)
    (hnew : p.apply (m space id) ≠ none → had' space) :
    ((ClassificationRequest.patch c space id p).alone s).1 = .ok ()
      ∧ Keeps c ((ClassificationRequest.patch c space id p).alone s).2
        (Function.update m space (Function.update (m space) id (p.apply (m space id)))) had' := by
  obtain ⟨s', halone, hcontent⟩ := StoreRequest.alone_amend
    (f := ClassificationRequest.amendment c space id p) hs ClassificationRequest.isPlan_amendment
    (ClassificationRequest.reply_amendment _) c.writeAttempts "classify rule"
  rw [ClassificationRequest.patch_eq_amend hnoop hvalid, halone]
  refine ⟨rfl, Keeps.of_content ?_ hcontent.symm⟩
  rcases amended_amendment c s space id p with ⟨hsame, hafter⟩ | ⟨hafter, hcreated⟩
  · rw [hafter]
    rw [h.entry_eq space id] at hsame
    rw [hsame, Function.update_eq_self, Function.update_eq_self]
    exact h.of_imp hhad
  · rw [hafter, h.entry_eq space id]
    rw [h.entry_eq space id] at hcreated
    refine (h.of_imp hhad).write hs.isKeyed (fun e he => ?_) ?_
    · have hcurrent : ∀ e, m space id = some e → e.IsValid := fun e he => (h.isValid he).1
      exact ⟨ClassificationPatch.isValid_apply hvalid hcurrent he,
        ClassificationPatch.isEmpty_apply he⟩
    · cases hget : s.get? (ClassificationRequest.key c space) with
      | none => exact hnew (hcreated hget)
      | some container =>
        obtain ⟨space', hkey, hspace⟩ := h.place _ container hget
        rw [eq_of_key_eq hkey]
        exact hhad space' hspace

/-- A patch is answered and changes the map as its checks have it. -/
theorem Keeps.step_patch (h : Keeps c s m had) (hs : s.IsCalm) (space : String) (id : Identity)
    (p : ClassificationPatch) (hhad : ∀ space, had space → had' space)
    (hnew : ∀ space' id', change m (.patch space id p) space' id' ≠ none → had' space') :
    ((ClassificationRequest.patch c space id p).alone s).1 = p.validate.mapError .invalid
      ∧ Keeps c ((ClassificationRequest.patch c space id p).alone s).2
        (change m (.patch space id p)) had' := by
  unfold change
  dsimp only
  cases hvalid : p.validate with
  | error e =>
    have hnoop : p.isNoop = false := by
      cases hnoop : p.isNoop with
      | false => rfl
      | true =>
        rw [ClassificationPatch.validate_of_isNoop hnoop] at hvalid
        cases hvalid
    rw [ClassificationRequest.patch_of_invalid hnoop hvalid]
    exact ⟨rfl, h.of_imp hhad⟩
  | ok u =>
    cases hnoop : p.isNoop with
    | true =>
      have hsame : p.apply (m space id) = m space id :=
        ClassificationPatch.apply_of_isNoop hnoop fun e he => (h.isValid he).2
      rw [ClassificationRequest.patch_of_isNoop hnoop]
      dsimp only
      rw [hsame, Function.update_eq_self, Function.update_eq_self]
      exact ⟨rfl, h.of_imp hhad⟩
    | false =>
      refine h.patch hs hnoop hvalid hhad fun hne => hnew space id ?_
      unfold change
      dsimp only
      rw [hvalid]
      dsimp only
      rw [Function.update_self, Function.update_self]
      exact hne

theorem Keeps.list (h : Keeps c s m had) (space : String) :
    ∃ entries, (ClassificationRequest.list c space).alone s = (.ok entries, s.countRead)
      ∧ ∀ id, entries.get? id = m space id := by
  refine ⟨((s.get? (ClassificationRequest.key c space)).map (·.entries)).getD ∅, rfl, fun id => ?_⟩
  rw [← h.entry_eq space id]
  cases hget : s.get? (ClassificationRequest.key c space) with
  | none => rfl
  | some container =>
    refine Container.get?_entries (fun k text hk => ?_) id
    obtain ⟨id', e, hid, -⟩ := h.text _ container hget k text hk
    exact ⟨id', hid⟩

/-- Every request is answered from the map, and changes it as it should. -/
theorem Keeps.step (h : Keeps c s m had) (hs : s.IsCalm) (call : ClassificationCall)
    (hhad : ∀ space, had space → had' space)
    (hnew : ∀ space id, change m call space id ≠ none → had' space) :
    call.Answers m ((call.script c).alone s).1
      ∧ Keeps c ((call.script c).alone s).2 (change m call) had' := by
  cases call with
  | patch space id p =>
    have halone := StoreRequest.alone_bind_pure (ClassificationRequest.patch c space id p)
      (fun _ => ClassificationReply.done) s
    obtain ⟨hreply, hkeeps⟩ := h.step_patch hs space id p hhad hnew
    unfold script Answers
    rw [halone, hreply]
    exact ⟨rfl, hkeeps⟩
  | get space id =>
    have halone := StoreRequest.alone_bind_pure (ClassificationRequest.get c space id)
      ClassificationReply.entry s
    have hentry : ((ClassificationRequest.get c space id).alone s).1 = .ok (m space id) :=
      congrArg Except.ok (h.entry_eq space id)
    unfold script Answers
    rw [halone, hentry]
    exact ⟨rfl, (h.of_imp hhad).of_content rfl⟩
  | list space =>
    have halone := StoreRequest.alone_bind_pure (ClassificationRequest.list c space)
      ClassificationReply.entries s
    obtain ⟨entries, hlist, hentries⟩ := h.list space
    unfold script Answers
    rw [halone, hlist]
    exact ⟨⟨entries, rfl, hentries⟩, (h.of_imp hhad).of_content rfl⟩

/-! ## All requests -/

theorem mapAfter_append_singleton (calls : List ClassificationCall) (call : ClassificationCall) :
    mapAfter (calls ++ [call]) = change (mapAfter calls) call := by
  unfold mapAfter
  rw [List.foldl_append]
  rfl

theorem HasHad.append_singleton {calls : List ClassificationCall} (h : HasHad calls space)
    (call : ClassificationCall) : HasHad (calls ++ [call]) space := by
  obtain ⟨before, hbefore, hne⟩ := h
  exact ⟨before, hbefore.trans (List.prefix_append _ _), hne⟩

theorem storeAfter_append_singleton (c : Config) (calls : List ClassificationCall)
    (call : ClassificationCall) :
    storeAfter c (calls ++ [call]) = ((call.script c).alone (storeAfter c calls)).2 := by
  unfold storeAfter
  rw [List.foldl_append]
  rfl

theorem keeps_storeAfter (c : Config) (calls : List ClassificationCall) :
    (storeAfter c calls).IsCalm ∧ Keeps c (storeAfter c calls) (mapAfter calls) (HasHad calls) := by
  induction calls using List.reverseRecOn with
  | nil => exact ⟨⟨Store.isKeyed_empty, rfl⟩, keeps_empty.of_imp fun _ => False.elim⟩
  | append_singleton calls call ih =>
    obtain ⟨hcalm, hkeeps⟩ := ih
    rw [storeAfter_append_singleton, mapAfter_append_singleton]
    refine ⟨hcalm.run _, (hkeeps.step hcalm call (fun space h => h.append_singleton call) ?_).2⟩
    intro space id hne
    refine ⟨calls ++ [call], List.prefix_refl _, id, ?_⟩
    rw [mapAfter_append_singleton]
    exact hne

/-- After any requests, one after another from an empty store, every request is answered from the
map of their entries; every text that is stored is that of a non-empty entry of the map with valid
fields, under its own key; and every container is that of a namespace that has had an entry. -/
theorem refines_map (c : Config) (calls : List ClassificationCall) :
    let s := storeAfter c calls
    let m := mapAfter calls
    (∀ call : ClassificationCall, call.Answers m ((call.script c).alone s).1)
      ∧ (∀ key container, s.get? key = some container →
        ∀ k text, container.data.get? k = some text →
          ∃ (space : String) (id : Identity) (e : Classification),
            key = ClassificationRequest.key c space ∧ k = id.encodeKey ∧ text = e.text
              ∧ m space id = some e ∧ e.IsValid ∧ e.isEmpty = false)
      ∧ ∀ key container, s.get? key = some container →
        ∃ space, key = ClassificationRequest.key c space ∧ HasHad calls space := by
  intro s m
  obtain ⟨hcalm, hkeeps⟩ := keeps_storeAfter c calls
  refine ⟨fun call => ?_, fun key container hget k text hk => ?_, hkeeps.place⟩
  · exact (hkeeps.step hcalm call (fun _ _ => trivial) fun _ _ _ => trivial).1
  · obtain ⟨space, rfl, -⟩ := hkeeps.place key container hget
    obtain ⟨id, e, rfl, rfl, hvalid, hempty⟩ := hkeeps.text _ container hget k text hk
    refine ⟨space, id, e, rfl, rfl, rfl, ?_, hvalid, hempty⟩
    refine (hkeeps.entry_eq space id).symm.trans ?_
    rw [hget, Option.bind_some, Container.classification?, hk, Option.bind_some,
      Classification.ofText?_text]
    exact Option.filter_eq_some_iff.2 ⟨rfl, by rw [hempty]; rfl⟩

end ClassificationCall

end RuleCatalog

import RuleCatalog.Proofs.Cluster.Atomic
import RuleCatalog.Proofs.Cluster.SyncPhase
import RuleCatalog.Proofs.Service.Boundary
import RuleCatalog.Proofs.Service.Classification

/-! # Operations that fail leave no trace

An operation is a request to one of the services, which has to be answered before its time is up, or
a sync. Wherever one fails, and wherever it is given up, all resources with their versions and the
catalog are as they were; a request that succeeds has written once, at one place of one store.
Main statement: `Operation.all_or_nothing`. -/
namespace RuleCatalog

/-! ## Single writes -/

namespace Store
variable {α : Type} {s s' t t' : Store α}

theorem content_discard (h : s.content = t.content) (key : ObjectKey) :
    (s.discard key).content = (t.discard key).content := by
  have hobjects : s.objects = t.objects := congrArg Prod.fst h
  have hversion : s.version = t.version := congrArg Prod.snd h
  simp only [content, discard, hobjects, hversion]

variable [Resource α]

/-- Whether a store has the content of another after one write, at one place, with the change that
is told of it. -/
inductive IsWrite (s s' : Store α) : Change α → Prop
  | put (a : α) (c : Change α) (content : s'.content = (s.write a).content)
      (latest : c.latest = s.next a) : IsWrite s s' c
  | discard (key : ObjectKey) (old : α) (stored : s.get? key = some old)
      (content : s'.content = (s.discard key).content) : IsWrite s s' (.deleted old)

theorem IsWrite.of_content {c : Change α} (hs : s.content = t.content) (h : s.IsWrite s' c)
    (hs' : t'.content = s'.content) : t.IsWrite t' c := by
  cases h with
  | put a _ content latest =>
    have hversion : s.version = t.version := congrArg Prod.snd hs
    refine .put a c (hs'.trans (content.trans (content_write hs a))) (latest.trans ?_)
    rw [next, next, hversion]
  | discard key old stored content =>
    rw [get?_eq_of_content hs] at stored
    exact .discard key old stored (hs'.trans (content.trans (content_discard hs key)))

theorem readAll_content (s : Store α) (space : Option String) :
    (s.readAll space).store.content = s.content ∧ (s.readAll space).change = none := by
  unfold readAll
  split <;> exact ⟨rfl, rfl⟩

/-- A call writes once, as its reply says, or it changes nothing. -/
theorem perform_content (s : Store α) (c : StoreCall α) :
    (c.hasWritten (s.perform c).reply = false
        ∧ (s.perform c).store.content = s.content ∧ (s.perform c).change = none)
      ∨ (c.hasWritten (s.perform c).reply = true
        ∧ ∃ change, (s.perform c).change = some change ∧ s.IsWrite (s.perform c).store change) := by
  cases c with
  | get key => exact .inl ⟨rfl, rfl, rfl⟩
  | list space => exact .inl ⟨rfl, s.readAll_content space⟩
  | create a =>
    show ((s.create a).reply.isOk = false ∧ _) ∨ ((s.create a).reply.isOk = true ∧ _)
    simp only [perform, create]
    split
    · exact .inl ⟨rfl, rfl, rfl⟩
    · exact .inr ⟨rfl, _, rfl, .put a _ rfl rfl⟩
  | update a =>
    show ((s.update a).reply.isOk = false ∧ _) ∨ ((s.update a).reply.isOk = true ∧ _)
    simp only [perform, update]
    split
    · exact .inl ⟨rfl, rfl, rfl⟩
    · split
      · exact .inl ⟨rfl, rfl, rfl⟩
      · split
        · exact .inr ⟨rfl, _, rfl, .put a _ rfl rfl⟩
        · exact .inl ⟨rfl, rfl, rfl⟩
  | delete key =>
    show ((s.delete key).reply.isOk = false ∧ _) ∨ ((s.delete key).reply.isOk = true ∧ _)
    simp only [perform, delete]
    split
    · exact .inl ⟨rfl, rfl, rfl⟩
    · rename_i old hold
      exact .inr ⟨rfl, _, rfl, .discard key old hold rfl⟩

end Store

/-! ## Writes in a world -/

/-- A kind of resource whose store is a part of the content of its own. -/
class ContentStored (α : Type) [Stored α] : Prop extends LawfulStored α where
  content_watched : ∀ {s t : Stores}, s.content = t.content →
    (Stored.watched s : Watched α).content = (Stored.watched t : Watched α).content
  content_withWatched : ∀ {s t : Stores} {a b : Watched α}, s.content = t.content →
    a.content = b.content → (Stored.withWatched s a).content = (Stored.withWatched t b).content

instance : ContentStored RuleResource where
  content_watched h := by
    simp only [Stores.content, Prod.mk.injEq] at h
    exact h.1
  content_withWatched h hwatched := by
    simp only [Stores.content, Prod.mk.injEq] at h ⊢
    exact ⟨hwatched, h.2⟩

instance : ContentStored OverrideResource where
  content_watched h := by
    simp only [Stores.content, Prod.mk.injEq] at h
    exact h.2.2.1
  content_withWatched h hwatched := by
    simp only [Stores.content, Prod.mk.injEq] at h ⊢
    exact ⟨h.1, h.2.1, hwatched, h.2.2.2⟩

instance : ContentStored Container where
  withWatched_watched _ := rfl
  withWatched_withWatched _ _ _ := rfl
  reply_perform _ _ := rfl
  perform _ _ := rfl
  content_watched h := by
    simp only [Stores.content, Prod.mk.injEq] at h
    exact h.2.2.2
  content_withWatched h hwatched := by
    simp only [Stores.content, Prod.mk.injEq] at h ⊢
    exact ⟨h.1, h.2.1, h.2.2.1, hwatched⟩

namespace World
variable {α ρ : Type} [Stored α] {w w' : World} {s s' : Store α} {change : Change α}

theorem stores_content (h : w.content = w'.content) : w.stores.content = w'.stores.content :=
  congrArg Prod.fst h

variable (α) in
/-- Whether a world has the content of another after one write to a store, of which those who watch
the store are told, once. -/
def WritesOnce (w w' : World) : Prop :=
  ∃ change, (w.store : Store α).IsWrite w'.store change
    ∧ w'.content = ((w.withStore (w'.store : Store α)).notify change).content

theorem content_notify (w : World) (change : Change α) : (w.notify change).content
    = (w.stores.content, w.catalog, w.events
      ++ List.replicate (w.watched : Watched α).recorders
        ⟨Stored.place α, change.map Resource.metadata⟩) := by
  unfold notify
  dsimp only
  split <;> rfl

theorem content_absorb (w : World) (a : Answer α ρ) : (w.absorb a).2.content
    = match a.change with
      | some change => ((w.withStore a.store).notify change).content
      | none => (w.withStore a.store).content := by
  unfold absorb
  cases a.change <;> rfl

variable [ContentStored α]

theorem content_watched (h : w.content = w'.content) :
    (w.watched : Watched α).content = (w'.watched : Watched α).content :=
  ContentStored.content_watched (stores_content h)

theorem content_store (h : w.content = w'.content) :
    (w.store : Store α).content = (w'.store : Store α).content :=
  congrArg Prod.fst (content_watched h)

theorem content_withStore (h : w.content = w'.content) (hs : s.content = s'.content) :
    (w.withStore s).content = (w'.withStore s').content := by
  have hrecorders : (w.watched : Watched α).recorders = (w'.watched : Watched α).recorders :=
    congrArg Prod.snd (content_watched h)
  refine congrArg₂ Prod.mk (ContentStored.content_withWatched (stores_content h) ?_)
    (congrArg Prod.snd h)
  exact congrArg₂ Prod.mk hs hrecorders

theorem content_withStore_store (w : World) :
    (w.withStore (w.store : Store α)).content = w.content :=
  congrArg (·.content, w.catalog, w.events)
    (LawfulStored.withWatched_watched (α := α) w.stores)

theorem content_notify_congr (h : w.content = w'.content) (change : Change α) :
    (w.notify change).content = (w'.notify change).content := by
  have hrecorders : (w.watched : Watched α).recorders = (w'.watched : Watched α).recorders :=
    congrArg Prod.snd (content_watched h)
  simp only [content, Prod.mk.injEq] at h
  rw [content_notify, content_notify, h.1, h.2.1, h.2.2, hrecorders]

variable (α) in
theorem isEffect_writesOnce : IsEffect (WritesOnce α) where
  of_content {w₀ w w' w₁} hw h hw' := by
    obtain ⟨change, hwrite, hframe⟩ := h
    have hstore : (w₁.store : Store α).content = (w'.store : Store α).content :=
      content_store hw'
    refine ⟨change, hwrite.of_content (content_store hw) hstore, ?_⟩
    rw [hw', hframe]
    exact content_notify_congr (content_withStore hw hstore.symm) change

/-- An answer without a change leaves the content as it is. -/
theorem content_absorb_of_content {a : Answer α ρ} (h : a.store.content = w.store.content)
    (hchange : a.change = none) : (w.absorb a).2.content = w.content := by
  rw [content_absorb, hchange]
  exact (content_withStore rfl h).trans (content_withStore_store w)

omit [ContentStored α] in
/-- An answer of a store that has been written to is one write in the world. -/
theorem writesOnce_absorb {a : Answer α ρ} (hchange : a.change = some change)
    (h : w.store.IsWrite a.store change) : WritesOnce α w (w.absorb a).2 := by
  refine ⟨change, ?_⟩
  rw [store_absorb, content_absorb, hchange]
  exact ⟨h, rfl⟩

end World

/-! ## Requests -/

section
open Program World
variable {α ε ρ : Type} [Stored α] [ContentStored α]

theorem Program.isAtomic_ofStore {s : Script (@StoreCall.Reply α) (Except ε ρ)}
    (h : s.CommitsLast) : IsAtomic (WritesOnce α) (·.isOk = true) (Program.ofStore s) := by
  induction s with
  | done r => trivial
  | call c next ih =>
    intro w
    show ((w.perform (Stored.call c)).2.content = w.content
        ∧ IsAtomic _ _ (ofStore (next (Stored.reply c (w.perform (Stored.call c)).1))))
      ∨ WritesOnce α w (w.perform (Stored.call c)).2
        ∧ Concludes _ (ofStore (next (Stored.reply c (w.perform (Stored.call c)).1)))
    obtain ⟨hnext, hlast⟩ := h (w.store.perform c).reply
    rw [LawfulStored.reply_perform, LawfulStored.perform]
    rcases w.store.perform_content c with ⟨-, hsame, hchange⟩ | ⟨hwritten, change, hchange, hwrite⟩
    · exact .inl ⟨content_absorb_of_content hsame hchange, ih _ hnext⟩
    · -- a script that has written is done
      obtain ⟨a, ha⟩ := Script.succeeded_iff.1 (hlast hwritten)
      rw [ha]
      exact .inr ⟨writesOnce_absorb hchange hwrite, rfl⟩

theorem Activity.isAtomic_ofRequest {r : Config → Catalog → StoreRequest α ρ}
    (h : ∀ c catalog, (r c catalog).CommitsLast) :
    (Activity.ofRequest r).IsAtomic (WritesOnce α) (·.isOk = true) :=
  fun c => ⟨rfl, (isAtomic_ofStore (h c.world.config c.world.catalog)).map fun _ hr _ => hr⟩

end

/-! ## Syncs -/

section
open Program World
variable {ρ ρ' : Type} {E : World → World → Prop} {ok : ρ → Prop} {ok' : ρ' → Prop}

/-- What has no effect may come first. -/
theorem Program.IsAtomic.bind {p : Program ρ} (h : IsAtomic (fun _ _ => False) ok p)
    {f : ρ → Program ρ'} (hf : ∀ r, IsAtomic E ok' (f r)) : IsAtomic E ok' (p.bind f) := by
  induction p with
  | done r => exact hf r
  | call c next ih =>
    intro w
    rcases h w with ⟨hcontent, hnext⟩ | ⟨heffect, -⟩
    · exact .inl ⟨hcontent, ih _ hnext⟩
    · exact heffect.elim

/-- Whether a world has the content of another but for the catalog. -/
def World.ReplacesCatalog (w w' : World) : Prop :=
  w'.content = { w with catalog := w'.catalog }.content

theorem World.isEffect_replacesCatalog : IsEffect ReplacesCatalog where
  of_content {w₀ w w' w₁} hw h hw' := by
    simp only [ReplacesCatalog, content, Prod.mk.injEq] at hw h hw' ⊢
    exact ⟨hw'.1.trans (h.1.trans hw.1), trivial, hw'.2.2.trans (h.2.2.trans hw.2.2)⟩

variable (c : Config)

/-- Reading has no effect. -/
theorem Catalog.isAtomic_load :
    IsAtomic (fun _ _ => False) (·.isOk = true) (Catalog.load c) := by
  rw [SyncPhase.load_eq]
  refine fun w => .inl ⟨rfl, ?_⟩
  dsimp only
  cases entriesIn c.relabelSecret (w.perform (.secrets (.get c.relabelSecret.secret))).1 with
  | error e => trivial
  | ok es =>
    intro w
    obtain ⟨hcontent, hchange⟩ := w.stores.rules.store.readAll_content none
    refine .inl ⟨content_absorb_of_content hcontent hchange, ?_⟩
    cases (w.perform (.rules (.list none))).1 with
    | error e => trivial
    | ok rules =>
      intro w
      obtain ⟨hcontent, hchange⟩ := w.stores.overrides.store.readAll_content none
      refine .inl ⟨content_absorb_of_content hcontent hchange, ?_⟩
      cases (w.perform (.overrides (.list none))).1 <;> trivial

theorem Catalog.isAtomic_sync :
    IsAtomic ReplacesCatalog (·.isOk = true) (Catalog.sync c) := by
  refine fun w => .inl ⟨rfl, (isAtomic_load c).bind fun result => ?_⟩
  cases result with
  | error e => exact fun w => .inl ⟨rfl, trivial⟩
  | ok result => exact fun w => .inr ⟨rfl, rfl, fun _ => rfl⟩

end

/-! ## Operations -/

theorem OverrideCall.commitsLast_script (c : Config) (id : Identity) (x : OverrideCall) :
    StoreRequest.CommitsLast (x.script c id) := by
  rcases x.script_cases c id with ⟨e, he⟩ | ⟨operation, hedit⟩
  · rw [he]
    trivial
  · rw [hedit]
    exact OverrideRequest.commitsLast_edit c id operation (x.edit id)

theorem ClassificationCall.commitsLast_script (c : Config) (x : ClassificationCall) :
    (x.script c).CommitsLast := by
  cases x with
  | patch space id p => exact ClassificationRequest.isAmending_patch.commitsLast.bind_pure _
  | get space id => exact (ClassificationRequest.commitsLast_get c space id).bind_pure _
  | list space => exact (ClassificationRequest.commitsLast_list c space).bind_pure _

/-- What is asked of a cluster: a request to one of the three services, or a sync. -/
inductive Operation where
  | rule (x : RuleCall)
  | override (id : Identity) (q : Override.Request)
  /-- Reads the overrides of a rule. -/
  | current (id : Identity)
  | classification (x : ClassificationCall)
  | sync

namespace Operation

@[reducible] def Failure : Operation → Type
  | sync => SyncError
  | _ => ServiceError

@[reducible] def Reply : Operation → Type
  | rule _ => Option Identity
  | override .. => OverrideOutcome
  | current _ => Labels
  | classification _ => ClassificationReply
  | sync => SyncStats

def activity : (o : Operation) → Activity (Except o.Failure o.Reply)
  | rule x => .ofRequest fun c catalog => x.script c catalog
  | override id q => .ofRequest fun c catalog => OverrideCall.script c id ⟨catalog, q⟩
  | current id => .ofRequest fun c _ => OverrideRequest.current c id
  | classification x => .ofRequest fun c _ => x.script c
  | sync => .sync

/-- What an operation may have done when it succeeds. -/
def Effect : Operation → World → World → Prop
  | rule _ => World.WritesOnce RuleResource
  | override .. | current _ => World.WritesOnce OverrideResource
  | classification _ => World.WritesOnce Container
  | sync => World.ReplacesCatalog

theorem isEffect_effect (o : Operation) : IsEffect o.Effect := by
  cases o with
  | sync => exact World.isEffect_replacesCatalog
  | _ => exact World.isEffect_writesOnce _

theorem isAtomic_activity (o : Operation) : o.activity.IsAtomic o.Effect (·.isOk = true) := by
  cases o with
  | rule x => exact Activity.isAtomic_ofRequest fun c catalog => x.commitsLast_script c catalog
  | override id q =>
    exact Activity.isAtomic_ofRequest fun c v => OverrideCall.commitsLast_script c id ⟨v, q⟩
  | current id =>
    exact Activity.isAtomic_ofRequest fun c _ => OverrideRequest.commitsLast_current c id
  | classification x => exact Activity.isAtomic_ofRequest fun c _ => x.commitsLast_script c
  | sync => exact fun c => ⟨rfl, (Catalog.isAtomic_sync c.world.config).map fun _ hr _ => hr⟩

/-- An operation that runs alone and does not succeed, for whatever reason, leaves all resources,
their versions and the catalog as they are, and no change is told of. One that succeeds has written
at most once: a request to one store, at one place, and a sync to none. -/
theorem all_or_nothing (o : Operation) (c : Cluster) (h : c.workers = []) :
    ((∀ reply, .ok reply ∉ (c.runAll [o.activity]).1) →
        (c.runAll [o.activity]).2.world.content = c.world.content)
      ∧ ((c.runAll [o.activity]).2.world.content = c.world.content
        ∨ o.Effect c.world (c.runAll [o.activity]).2.world) := by
  rcases Cluster.content_runAll_of_isAtomic o.isEffect_effect o.isAtomic_activity h with
    hsame | ⟨⟨reply, hanswers, hok⟩, heffect⟩
  · exact ⟨fun _ => hsame, .inl hsame⟩
  · refine ⟨fun hfailed => ?_, .inr heffect⟩
    cases reply with
    | error e => cases hok
    | ok reply => exact absurd (by simp [hanswers]) (hfailed reply)

/-- A cluster whose containers take so long to reach that a request is given up between its read and
its write. -/
def slow : Cluster where
  world := (World.empty { Config.default with requestTimeout := 15 }).withStore
    { (Store.empty : Store Container) with latency := 10 }
  workers := []
  ticks := []

def slowPatch : Operation :=
  .classification (.patch "team" ⟨"Down"⟩ ⟨.set "db", .unset, .unset, .unset⟩)

theorem slow_patch_leaves_content :
    (∀ reply, .ok reply ∉ (slow.runAll [slowPatch.activity]).1)
      ∧ (slow.runAll [slowPatch.activity]).2.world.stores.containers.store.reads = 1
      ∧ (slow.runAll [slowPatch.activity]).2.world.content = slow.world.content := by
  have hfailed : (slow.runAll [slowPatch.activity]).1.all (fun r => !r.isOk) = true := by
    decide +kernel
  have hnone : ∀ reply, .ok reply ∉ (slow.runAll [slowPatch.activity]).1 := fun reply hreply =>
    Bool.false_ne_true (List.all_eq_true.1 hfailed _ hreply)
  exact ⟨hnone, by decide +kernel, (all_or_nothing slowPatch slow rfl).1 hnone⟩

end Operation

end RuleCatalog

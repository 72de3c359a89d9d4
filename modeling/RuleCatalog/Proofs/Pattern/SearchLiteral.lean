import RuleCatalog.Pattern.Search

/-! # Searching for a whole text

The pattern of a given text between the start and the end matches that text and no other. Its
program is a row of steps without forks, so that a search is one pass along the row. Main
statement: `search_literal_isSome_iff`. -/
namespace RuleCatalog.Pattern

/-- A given text between the start and the end. -/
def literal (s : List Char) : Pattern :=
  .cat (.look .textStart) (.cat (.text s) (.look .textEnd))

/-! ## What a search finds is there -/

namespace Compiled

/-- Whether the steps lead from a try to the end, with some marks. -/
inductive Leads (c : Compiled) (text : Array Char) : Try → Slots → Prop
  | found {t : Try} {slots : Slots} (h : c.follow text t = .found slots) : Leads c text t slots
  | step {t t' : Try} {more : List Try} {slots : Slots} (h : c.follow text t = .ways more)
    (ht : t' ∈ more) (hl : Leads c text t' slots) : Leads c text t slots

theorem exists_leads_of_run {c : Compiled} {text : Array Char} {n : Nat} {seen : Array Bool}
    {ts : List Try} {slots : Slots} (h : c.run text n seen ts = some slots) :
    ∃ t ∈ ts, c.Leads text t slots := by
  induction n generalizing seen ts with
  | zero => simp [run] at h
  | succ n ih =>
    cases ts with
    | nil => simp [run] at h
    | cons t ts =>
      simp only [run] at h
      split at h
      · obtain ⟨t', ht', hl⟩ := ih h
        exact ⟨t', List.mem_cons_of_mem _ ht', hl⟩
      · split at h
        · rename_i hfound
          obtain rfl := Option.some.inj h
          exact ⟨t, List.mem_cons_self, .found hfound⟩
        · rename_i more hways
          obtain ⟨t', ht', hl⟩ := ih h
          rcases List.mem_append.1 ht' with ht' | ht'
          · exact ⟨t, List.mem_cons_self, .step hways ht' hl⟩
          · exact ⟨t', List.mem_cons_of_mem _ ht', hl⟩

end Compiled

/-! ## The program of a text -/

/-- The steps that take a text, the last character first, and lead to the step `next`. -/
def takes (next : Nat) : List Char → List Step
  | [] => []
  | c :: s => takes next s ++ [.take [(c.toNat, c.toNat)] (next + s.length)]

theorem length_takes (next : Nat) (s : List Char) : (takes next s).length = s.length := by
  induction s with
  | nil => rfl
  | cons c s ih => simp [takes, ih]

theorem getElem?_takes (next : Nat) (s t : List Char) (c : Char) :
    (takes next (s ++ c :: t))[t.length]?
      = some (.take [(c.toNat, c.toNat)] (next + t.length)) := by
  induction s with
  | nil => simp [takes, length_takes]
  | cons d s ih =>
    have hlt : t.length < (takes next (s ++ c :: t)).length := by
      simp [length_takes]
      omega
    rw [List.cons_append, takes, List.getElem?_append_left hlt, ih]

theorem build_text {next : Nat} {p : Program} (h : p.size = next + 1) (s : List Char) :
    Program.build (.text s) next p
      = (next + s.length, ⟨p.toList ++ takes next s⟩) := by
  induction s with
  | nil => simp [Program.build, takes]
  | cons c s ih =>
    rw [Program.build] at ih ⊢
    rw [List.foldr_cons, ih]
    simp [Program.add, takes, length_takes]
    omega

/-- The steps of a text between the start and the end. -/
def literalSteps (s : List Char) : List Step :=
  [.accept, .mark 1 0, .look .textEnd 1] ++ takes 2 s
    ++ [.look .textStart (2 + s.length), .mark 0 (3 + s.length)]

def literalProgram (s : List Char) : Compiled := ⟨⟨literalSteps s⟩, 4 + s.length⟩

theorem compile_literal (s : List Char) : compile (literal s) = literalProgram s := by
  have htext : Program.build (.text s) 2 #[.accept, .mark 1 0, .look .textEnd 1] = _ :=
    build_text rfl s
  have hbody : Program.build (literal s) 1 #[.accept, .mark 1 0]
      = Program.build (.look .textStart)
        (Program.build (.text s) 2 #[.accept, .mark 1 0, .look .textEnd 1]).1
        (Program.build (.text s) 2 #[.accept, .mark 1 0, .look .textEnd 1]).2 := rfl
  have hbuild : Program.build (.group 0 (literal s)) 0 #[.accept]
      = Program.add (Program.build (literal s) 1 #[.accept, .mark 1 0]).2
        (.mark 0 (Program.build (literal s) 1 #[.accept, .mark 1 0]).1) := rfl
  rw [htext] at hbody
  rw [compile, hbuild, hbody]
  simp [Program.build, Program.add, literalProgram, literalSteps, length_takes]
  omega

theorem size_literalProgram (s : List Char) : (literalProgram s).steps.size = 5 + s.length := by
  simp [literalProgram, literalSteps, length_takes]
  omega

/-- The last two steps of the row. -/
theorem getElem?_literalProgram_add (s : List Char) (k : Nat) :
    (literalProgram s).steps[3 + s.length + k]?
      = [.look .textStart (2 + s.length), .mark 0 (3 + s.length)][k]? := by
  have hlen : ([Step.accept, .mark 1 0, .look .textEnd 1] ++ takes 2 s).length
      = 3 + s.length := by
    simp [length_takes]
    omega
  rw [literalProgram, literalSteps, List.getElem?_toArray,
    List.getElem?_append_right (by omega), hlen, Nat.add_sub_cancel_left]

section follow
variable {s : List Char} {text : Array Char} {p : Nat} {slots : Slots}

theorem follow_accept : (literalProgram s).follow text ⟨0, p, slots⟩ = .found slots := rfl

theorem follow_stop :
    (literalProgram s).follow text ⟨1, p, slots⟩ = .ways [⟨0, p, slots.set 1 (some p)⟩] := rfl

theorem follow_textEnd : (literalProgram s).follow text ⟨2, p, slots⟩
    = .ways (if text[p]?.isNone then [⟨1, p, slots⟩] else []) := rfl

theorem follow_take {u t : List Char} {c : Char} (h : s = u ++ c :: t) :
    (literalProgram s).follow text ⟨3 + t.length, p, slots⟩
      = .ways (if text[p]? = some c then [⟨2 + t.length, p + 1, slots⟩] else []) := by
  have hlt : t.length < (takes 2 s).length := by
    simp [length_takes, h]
    omega
  have hstep : (literalProgram s).steps[3 + t.length]?
      = some (.take [(c.toNat, c.toNat)] (2 + t.length)) := by
    have htakes := getElem?_takes 2 u t c
    rw [← h] at htakes
    rw [literalProgram, literalSteps, List.getElem?_toArray, List.append_assoc,
      List.getElem?_append_right (by simp), List.getElem?_append_left (by simpa using hlt)]
    simpa using htakes
  simp only [Compiled.follow, hstep]
  cases htext : text[p]? with
  | none => simp
  | some d =>
    have hd : Text.Ranges.contains [(c.toNat, c.toNat)] d.toNat = true ↔ d = c := by
      simp only [Text.Ranges.contains, List.any_cons, List.any_nil, Bool.or_false,
        Bool.and_eq_true, decide_eq_true_eq]
      constructor
      · intro hle
        exact Char.toNat_inj.1 (by omega)
      · rintro rfl
        omega
    dsimp only
    by_cases hc : d = c
    · rw [if_pos (hd.2 hc), hc, if_pos rfl]
    · rw [if_neg (fun he => hc (hd.1 he)), if_neg (fun he => hc (Option.some.inj he))]

theorem follow_textStart : (literalProgram s).follow text ⟨3 + s.length, p, slots⟩
    = .ways (if p = 0 ∨ text[p - 1]? = none then [⟨2 + s.length, p, slots⟩] else []) := by
  have hstep : (literalProgram s).steps[3 + s.length]?
      = some (.look .textStart (2 + s.length)) := getElem?_literalProgram_add s 0
  simp only [Compiled.follow, hstep, Look.holds]
  by_cases hp : p = 0
  · simp [hp]
  · simp [hp]

theorem follow_start : (literalProgram s).follow text ⟨4 + s.length, p, slots⟩
    = .ways [⟨3 + s.length, p, slots.set 0 (some p)⟩] := by
  have hstep : (literalProgram s).steps[4 + s.length]? = some (.mark 0 (3 + s.length)) := by
    rw [show 4 + s.length = 3 + s.length + 1 by omega]
    exact getElem?_literalProgram_add s 1
  simp only [Compiled.follow, hstep]

end follow

/-! ## The row leads to the end of the given text only -/

section leads
variable {s : List Char} {text : Array Char} {p : Nat} {slots result : Slots}

theorem leads_of_follow {c : Compiled} {t : Try} {more : List Try}
    (hl : c.Leads text t result) (h : c.follow text t = .ways more) :
    ∃ t' ∈ more, c.Leads text t' result := by
  cases hl with
  | found hf =>
    rw [h] at hf
    cases hf
  | step hw ht' hl =>
    rw [h] at hw
    obtain rfl := Outcome.ways.inj hw
    exact ⟨_, ht', hl⟩

theorem drop_of_leads {u t : List Char} (hs : s = u ++ t)
    (hl : (literalProgram s).Leads text ⟨2 + t.length, p, slots⟩ result) :
    text.toList.drop p = t := by
  induction t generalizing u p slots with
  | nil =>
    obtain ⟨t', ht', -⟩ := leads_of_follow hl follow_textEnd
    split at ht'
    · rename_i hnone
      rw [Option.isNone_iff_eq_none, Array.getElem?_eq_none_iff] at hnone
      exact List.drop_eq_nil_of_le (by simpa using hnone)
    · cases ht'
  | cons c t ih =>
    have hstep : 2 + (c :: t).length = 3 + t.length := by
      rw [List.length_cons]
      omega
    rw [hstep] at hl
    obtain ⟨t', ht', hl'⟩ := leads_of_follow hl (follow_take hs)
    split at ht'
    · rename_i hc
      rw [List.mem_singleton] at ht'
      subst ht'
      have hrest := ih (u := u ++ [c]) (by simp [hs]) hl'
      rw [← Array.getElem?_toList] at hc
      obtain ⟨hp, hget⟩ := List.getElem?_eq_some_iff.1 hc
      rw [List.drop_eq_getElem_cons hp, hget, hrest]
    · cases ht'

/-- The row begins at the start of the text, and takes all of it. -/
theorem toList_eq_of_leads (hp : p ≤ text.size)
    (hl : (literalProgram s).Leads text ⟨4 + s.length, p, slots⟩ result) : text.toList = s := by
  obtain ⟨t₁, ht₁, hl₁⟩ := leads_of_follow hl follow_start
  rw [List.mem_singleton] at ht₁
  subst ht₁
  obtain ⟨t₂, ht₂, hl₂⟩ := leads_of_follow hl₁ follow_textStart
  split at ht₂
  · rename_i hstart
    have hzero : p = 0 := by
      rcases hstart with hzero | hnone
      · exact hzero
      · rw [Array.getElem?_eq_none_iff] at hnone
        omega
    subst hzero
    rw [List.mem_singleton] at ht₂
    subst ht₂
    simpa using drop_of_leads (u := []) rfl hl₂
  · cases ht₂

end leads

/-! ## A search in the given text goes along the row -/

/-- Whether no step below a number has been tried at any place of a text. -/
def Unseen (s : List Char) (seen : Array Bool) (k : Nat) : Prop :=
  ∀ p ≤ s.length, ∀ j < k, seen.getD (p * (5 + s.length) + j) true = false

section run
variable {s : List Char} {seen : Array Bool} {slots : Slots} {ts : List Try}

theorem Unseen.mono {j k : Nat} (h : Unseen s seen k) (hjk : j ≤ k) : Unseen s seen j :=
  fun p hp i hi => h p hp i (Nat.lt_of_lt_of_le hi hjk)

theorem Unseen.set {j k : Nat} (h : Unseen s seen k) (hkj : k ≤ j) (hj : j < 5 + s.length)
    (p : Nat) : Unseen s (seen.setIfInBounds (p * (5 + s.length) + j) true) k := by
  intro p' hp' i hi
  have hne : p * (5 + s.length) + j ≠ p' * (5 + s.length) + i := by
    intro he
    have hmod := congrArg (· % (5 + s.length)) he
    have hl : (p * (5 + s.length) + j) % (5 + s.length) = j :=
      Nat.mul_add_mod_of_lt hj
    have hr : (p' * (5 + s.length) + i) % (5 + s.length) = i :=
      Nat.mul_add_mod_of_lt (by omega)
    simp only [hl, hr] at hmod
    omega
  have hseen := h p' hp' i hi
  rw [Array.getD_eq_getD_getElem?] at hseen ⊢
  rwa [Array.getElem?_setIfInBounds_ne hne]

/-- A step that has not been tried. -/
theorem run_of_unseen {text : Array Char} {j p n k : Nat} {more : List Try}
    (h : Unseen s seen k) (hjk : j < k) (hp : p ≤ s.length)
    (hf : (literalProgram s).follow text ⟨j, p, slots⟩ = .ways more) :
    (literalProgram s).run text (n + 1) seen (⟨j, p, slots⟩ :: ts)
      = (literalProgram s).run text n (seen.setIfInBounds (p * (5 + s.length) + j) true)
        (more ++ ts) := by
  have hseen := h p hp j hjk
  rw [← size_literalProgram] at hseen ⊢
  simp only [Compiled.run, hseen, hf]
  simp

theorem run_row {u t : List Char} {n : Nat} (hs : s = u ++ t) (hn : t.length + 3 ≤ n)
    (h : Unseen s seen (t.length + 3)) :
    (literalProgram s).run s.toArray n seen (⟨2 + t.length, u.length, slots⟩ :: ts)
      = some (slots.set 1 (some s.length)) := by
  induction t generalizing u n seen with
  | nil =>
    obtain ⟨n, rfl⟩ : ∃ m, n = m + 3 := ⟨n - 3, by simp at hn; omega⟩
    have hu : u.length = s.length := by simp [hs]
    have hend : (literalProgram s).follow s.toArray ⟨2, s.length, slots⟩
        = .ways [⟨1, s.length, slots⟩] := by
      rw [follow_textEnd]
      simp
    have h₁ := (h.mono (Nat.le_add_left 2 _)).set (Nat.le_refl 2) (by omega) s.length
    have h₀ := (h₁.mono (Nat.le_succ 1)).set (Nat.le_refl 1) (by omega) s.length
    have hfree := h₀ s.length (Nat.le_refl _) 0 Nat.one_pos
    rw [hu]
    show (literalProgram s).run s.toArray (n + 3) seen (⟨2, s.length, slots⟩ :: ts) = _
    rw [run_of_unseen h (by simp) (Nat.le_refl _) hend, List.singleton_append,
      run_of_unseen h₁ (by simp) (Nat.le_refl _) follow_stop, List.singleton_append]
    rw [← size_literalProgram] at hfree ⊢
    simp only [Compiled.run, hfree, follow_accept]
    simp
  | cons c t ih =>
    obtain ⟨n, rfl⟩ : ∃ m, n = m + 1 := ⟨n - 1, by simp at hn; omega⟩
    have hlen : s.length = u.length + (t.length + 1) := by simp [hs]
    have htake : (literalProgram s).follow s.toArray ⟨3 + t.length, u.length, slots⟩
        = .ways [⟨2 + t.length, (u ++ [c]).length, slots⟩] := by
      rw [follow_take hs]
      simp [hs]
    have hrest := (h.mono (j := t.length + 3) (by simp)).set (j := 3 + t.length)
      (by omega) (by omega) u.length
    have hstep : 2 + (c :: t).length = 3 + t.length := by
      rw [List.length_cons]
      omega
    rw [hstep, run_of_unseen h (by rw [List.length_cons]; omega) (by omega) htake,
      List.singleton_append]
    exact ih (by simp [hs]) (by simp at hn; omega) hrest

end run

theorem unseen_replicate (s : List Char) : Unseen s
    (Array.replicate ((s.length + 1) * (5 + s.length)) false) (5 + s.length) := by
  intro p hp j hj
  have hlt : p * (5 + s.length) + j < (s.length + 1) * (5 + s.length) :=
    calc p * (5 + s.length) + j < p * (5 + s.length) + (5 + s.length) := by omega
      _ = (p + 1) * (5 + s.length) := by rw [Nat.add_mul, Nat.one_mul]
      _ ≤ (s.length + 1) * (5 + s.length) := Nat.mul_le_mul_right _ (by omega)
  rw [Array.getD_eq_getD_getElem?, Array.getElem?_replicate, if_pos hlt]
  rfl

theorem le_foldl_width (steps : List Step) (n : Nat) :
    n ≤ steps.foldl (fun n s => n + s.width) n := by
  induction steps generalizing n with
  | nil => exact Nat.le_refl _
  | cons s steps ih => exact Nat.le_trans (Nat.le_add_right _ _) (ih _)

theorem four_le_ways (s : List Char) :
    4 ≤ (literalProgram s).steps.foldl (fun n s => n + s.width) 0 := by
  have htakes := le_foldl_width (takes 2 s) 2
  rw [literalProgram, List.foldl_toArray, literalSteps, List.foldl_append, List.foldl_append]
  show 4 ≤ (takes 2 s).foldl (fun n s => n + s.width) 2 + 1 + 1
  omega

section start
variable {s : List Char} {seen : Array Bool} {slots : Slots} {ts : List Try}

theorem run_start {n : Nat} (hn : s.length + 5 ≤ n) (h : Unseen s seen (5 + s.length)) :
    (literalProgram s).run s.toArray n seen (⟨4 + s.length, 0, slots⟩ :: ts)
      = some ((slots.set 0 (some 0)).set 1 (some s.length)) := by
  obtain ⟨n, rfl⟩ : ∃ m, n = m + 2 := ⟨n - 2, by omega⟩
  have htextStart : (literalProgram s).follow s.toArray
      ⟨3 + s.length, 0, slots.set 0 (some 0)⟩ = .ways [⟨2 + s.length, 0, slots.set 0 (some 0)⟩] := by
    rw [follow_textStart]
    simp
  have h₁ := (h.mono (j := 4 + s.length) (by omega)).set (Nat.le_refl _) (by omega) 0
  have h₀ := (h₁.mono (j := s.length + 3) (by omega)).set (j := 3 + s.length)
    (by omega) (by omega) 0
  rw [run_of_unseen h (by omega) (Nat.zero_le _) follow_start, List.singleton_append,
    run_of_unseen h₁ (by omega) (Nat.zero_le _) htextStart, List.singleton_append]
  exact run_row (u := []) rfl (by omega) h₀

end start

/-- A text matches the pattern of a given text if it is that text. -/
theorem search_literal_isSome_iff (s : List Char) (text : Array Char) :
    ((compile (literal s)).search 0 text).isSome ↔ text.toList = s := by
  rw [compile_literal]
  constructor
  · intro h
    obtain ⟨slots, hslots⟩ := Option.isSome_iff_exists.1 h
    obtain ⟨t, ht, hl⟩ := Compiled.exists_leads_of_run hslots
    obtain ⟨p, hp, rfl⟩ := List.mem_map.1 ht
    exact toList_eq_of_leads (Nat.le_of_lt_succ (List.mem_range.1 hp)) hl
  · rintro rfl
    have hways := four_le_ways text.toList
    have hfuel : ∀ ways, 4 ≤ ways →
        text.toList.length + 5 ≤ (text.size + 1) * (ways + 1) + 1 := by
      intro ways hways
      have hmul : (text.size + 1) * 5 ≤ (text.size + 1) * (ways + 1) :=
        Nat.mul_le_mul_left _ (by omega)
      rw [Array.length_toList]
      omega
    have hunseen : Unseen text.toList (Array.replicate ((text.size + 1)
        * (literalProgram text.toList).steps.size) false) (5 + text.toList.length) := by
      rw [size_literalProgram, ← Array.length_toList]
      exact unseen_replicate text.toList
    obtain ⟨ts, hts⟩ : ∃ ts, (List.range (text.size + 1)).map
        (fun i => (⟨4 + text.toList.length, i, List.replicate 2 none⟩ : Try))
          = ⟨4 + text.toList.length, 0, List.replicate 2 none⟩ :: ts := by
      rw [List.range_succ_eq_map]
      exact ⟨_, rfl⟩
    have hrun : (literalProgram text.toList).search 0 text = _ :=
      (congrArg _ hts).trans (run_start (hfuel _ hways) hunseen)
    rw [hrun]
    rfl

end RuleCatalog.Pattern

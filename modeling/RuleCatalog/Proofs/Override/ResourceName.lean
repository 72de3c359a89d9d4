import Mathlib.Data.List.Chain
import Mathlib.Data.List.DropRight
import RuleCatalog.Override.ResourceName
import RuleCatalog.Proofs.Rule.Identity

/-! # Names that can be stored

Resources are stored under DNS-1123 labels. The name of an override resource is one whatever the
identity is: its parts are dashed texts, and dashed texts with a dash between them are dashed
again. Main statement: `isDnsLabel_resourceName`. -/
namespace RuleCatalog.Override

/-! ## Dashed texts -/

/-- Whether a character is a lower-case ASCII letter or a digit. -/
def isNameChar (c : Char) : Bool := c.isLower || c.isDigit

/-- A text of lower-case letters, digits and single dashes, with no dash at its ends. -/
structure IsDashed (cs : List Char) : Prop where
  chars : ∀ c ∈ cs, isNameChar c = true ∨ c = '-'
  first : ∃ c ∈ cs.head?, isNameChar c = true
  last : ∃ c ∈ cs.getLast?, isNameChar c = true
  single : cs.IsChain fun c d => c = '-' → d ≠ '-'

/-- A DNS-1123 label without two dashes in a row. -/
structure IsDnsLabel (s : String) : Prop extends IsDashed s.toList where
  length_le : s.length ≤ 63

theorem ne_dash_of_isNameChar {c : Char} (h : isNameChar c = true) : c ≠ '-' := by
  rintro rfl
  exact absurd h (by decide)

theorem isDashed_of_forall {cs : List Char} (hne : cs ≠ []) (h : ∀ c ∈ cs, isNameChar c = true) :
    IsDashed cs := by
  refine ⟨fun c hc => .inl (h c hc), ?_, ?_, ?_⟩
  · exact ⟨cs.head hne, List.head?_eq_some_head hne, h _ (List.head_mem hne)⟩
  · exact ⟨cs.getLast hne, List.getLast?_eq_some_getLast hne, h _ (List.getLast_mem hne)⟩
  · induction cs with
    | nil => exact .nil
    | cons c cs ih =>
      have hc := ne_dash_of_isNameChar (h c (by simp))
      rw [List.isChain_cons]
      refine ⟨fun d _ heq => absurd heq hc, ?_⟩
      cases cs with
      | nil => exact .nil
      | cons d ds => exact ih (by simp) fun c' hc' => h c' (by simp [hc'])

theorem IsDashed.join {cs ds : List Char} (h : IsDashed cs) (h' : IsDashed ds) :
    IsDashed (cs ++ '-' :: ds) := by
  obtain ⟨c, hc, hfirst⟩ := h.first
  obtain ⟨c', hc', hlast⟩ := h.last
  obtain ⟨d, hd, hfirst'⟩ := h'.first
  obtain ⟨d', hd', hlast'⟩ := h'.last
  refine ⟨?_, ⟨c, ?_, hfirst⟩, ⟨d', ?_, hlast'⟩, ?_⟩
  · intro x hx
    rw [List.mem_append, List.mem_cons] at hx
    rcases hx with hx | rfl | hx
    · exact h.chars x hx
    · exact .inr rfl
    · exact h'.chars x hx
  · rw [List.head?_append, Option.mem_def.1 hc]
    rfl
  · rw [List.getLast?_append, List.getLast?_cons, Option.mem_def.1 hd']
    rfl
  · rw [List.isChain_append, List.isChain_cons]
    refine ⟨h.single, ⟨fun x hx _ => ?_, h'.single⟩, fun x hx y _ heq => ?_⟩
    · obtain rfl := Option.mem_unique hd hx
      exact ne_dash_of_isNameChar hfirst'
    · obtain rfl := Option.mem_unique hc' hx
      exact absurd heq (ne_dash_of_isNameChar hlast)

/-! ## The part from the rule's name -/

theorem isUpper_toLower (c : Char) : c.toLower.isUpper = false := by
  unfold Char.toLower
  split
  · rename_i h
    obtain ⟨hge, hle⟩ := h
    simp only [ge_iff_le, UInt32.le_iff_toNat_le] at hge hle
    have hA : 'A'.val.toNat = 65 := rfl
    have hZ : 'Z'.val.toNat = 90 := rfl
    have hshift : ('a'.val - 'A'.val).toNat = 32 := rfl
    refine decide_eq_false fun hupper => ?_
    have hlower := UInt32.le_iff_toNat_le.1 hupper.2
    rw [UInt32.toNat_add, hshift] at hlower
    omega
  · exact decide_eq_false ‹_›

theorem isNameChar_toLower {c : Char} (h : c.toLower.isAlphanum = true) :
    isNameChar c.toLower = true := by
  refine Bool.or_eq_true_iff.2 ((Text.isAlphanum_iff.1 h).imp_left fun halpha => ?_)
  rcases Bool.or_eq_true_iff.1 halpha with hupper | hlower
  · rw [isUpper_toLower] at hupper
    cases hupper
  · exact hlower

/-- What is left of a name when it is cut anywhere: dashes stand alone, and none stands first. -/
structure IsCut (dash : Bool) (cs : List Char) : Prop where
  chars : ∀ c ∈ cs, isNameChar c = true ∨ c = '-'
  first : ∀ c ∈ cs.head?, dash = false → isNameChar c = true
  single : cs.IsChain fun c d => c = '-' → d ≠ '-'

theorem isCut_slugFrom (dash : Bool) (cs : List Char) : IsCut dash (slugFrom dash cs) := by
  fun_induction slugFrom dash cs with
  | case1 => exact ⟨by simp, by simp, .nil⟩
  | case2 dash c cs hc ih =>
    have hname := isNameChar_toLower hc
    refine ⟨?_, ?_, ?_⟩
    · exact List.forall_mem_cons.2 ⟨.inl hname, ih.chars⟩
    · rintro d ⟨⟩ _
      exact hname
    · exact List.isChain_cons.2 ⟨fun d _ heq => absurd heq (ne_dash_of_isNameChar hname), ih.single⟩
  | case3 c cs hc ih =>
    refine ⟨?_, by simp, ?_⟩
    · exact List.forall_mem_cons.2 ⟨.inr rfl, ih.chars⟩
    · exact List.isChain_cons.2 ⟨fun d hd _ => ne_dash_of_isNameChar (ih.first d hd rfl), ih.single⟩
  | case4 dash c cs hc hdash ih =>
    obtain rfl : dash = false := by simpa using hdash
    exact ih

theorem IsCut.of_append {dash : Bool} {cs ds : List Char} (h : IsCut dash (cs ++ ds)) :
    IsCut dash cs := by
  refine ⟨fun c hc => h.chars c (List.mem_append_left ds hc), fun c hc => ?_,
    h.single.left_of_append⟩
  refine h.first c ?_
  rw [List.head?_append, Option.mem_def.1 hc]
  rfl

/-- A slug is what forty characters hold up to the dashes at their end. -/
theorem exists_append_slug (name : String) :
    ∃ dashes, slug name ++ dashes = (slugFrom false name.toList).take 40 :=
  ⟨_, List.rdropWhile_append_rtakeWhile⟩

theorem length_slug_le (name : String) : (slug name).length ≤ 40 := by
  obtain ⟨dashes, hdashes⟩ := exists_append_slug name
  have hlength := congrArg List.length hdashes
  rw [List.length_append, List.length_take] at hlength
  omega

theorem isCut_slug (name : String) : IsCut false (slug name) := by
  obtain ⟨dashes, hdashes⟩ := exists_append_slug name
  have hcut := isCut_slugFrom false name.toList
  rw [← List.take_append_drop 40 (slugFrom false name.toList), ← hdashes] at hcut
  exact hcut.of_append.of_append

/-- The cut may leave a dash at the end of a name, which is taken off. -/
theorem isDashed_slug {name : String} (h : slug name ≠ []) : IsDashed (slug name) := by
  have hcut := isCut_slug name
  have hlast : ¬ ((slug name).getLast h == '-') = true := List.rdropWhile_last_not _ _ h
  refine ⟨hcut.chars, ⟨_, List.head?_eq_some_head h, hcut.first _ (List.head?_eq_some_head h) rfl⟩,
    ⟨_, List.getLast?_eq_some_getLast h, ?_⟩, hcut.single⟩
  exact (hcut.chars _ (List.getLast_mem h)).resolve_right (by simpa using hlast)

/-! ## The part from the digest -/

theorem isNameChar_hexDigit (n : Nat) : isNameChar (Text.hexDigit n) = true := by
  have hall : ∀ d < 16, isNameChar (Nat.digitChar d) = true := by decide
  exact hall (n % 16) (Nat.mod_lt n (by decide))

theorem isNameChar_of_mem_hexDigest {message : List UInt8} {c : Char}
    (h : c ∈ (Sha256.hexDigest message).toList) : isNameChar c = true := by
  rw [Sha256.hexDigest, String.toList_ofList, List.mem_flatMap] at h
  obtain ⟨b, -, hc⟩ := h
  simp only [Text.hexByte, List.mem_cons, List.not_mem_nil, or_false] at hc
  rcases hc with rfl | rfl
  · exact isNameChar_hexDigit _
  · exact isNameChar_hexDigit _

theorem length_code (message : List UInt8) :
    ((Sha256.hexDigest message).toList.take 12).length = 12 := by
  rw [List.length_take, Identity.length_hexDigest]
  rfl

theorem isDashed_code (message : List UInt8) :
    IsDashed ((Sha256.hexDigest message).toList.take 12) := by
  refine isDashed_of_forall (fun h => ?_) fun c hc =>
    isNameChar_of_mem_hexDigest (List.mem_of_mem_take hc)
  have hlength := length_code message
  rw [h] at hlength
  cases hlength

/-! ## The name -/

theorem IsDashed.arc {cs : List Char} (h : IsDashed cs) : IsDashed ("arc-".toList ++ cs) := by
  have hall : ['a', 'r', 'c'].all isNameChar = true := by decide
  have harc : IsDashed ['a', 'r', 'c'] := isDashed_of_forall (by simp) (List.all_eq_true.1 hall)
  exact harc.join h

/-- The name of an override resource is a DNS label, whatever the identity is. -/
theorem isDnsLabel_resourceName (id : Identity) : IsDnsLabel (resourceName id) := by
  have hcode := isDashed_code (Utf8.bytes id.text)
  have hlength := length_code (Utf8.bytes id.text)
  have hslug := length_slug_le id.ruleName
  have harc : "arc-".toList.length = 4 := rfl
  unfold resourceName
  generalize (Sha256.hexDigest (Utf8.bytes id.text)).toList.take 12 = code at hcode hlength ⊢
  dsimp only
  split
  · constructor
    · rw [String.toList_ofList]
      exact hcode.arc
    · rw [← String.length_toList, String.toList_ofList, List.length_append]
      omega
  · rename_i hne
    constructor
    · rw [String.toList_ofList, List.append_assoc]
      exact ((isDashed_slug hne).join hcode).arc
    · rw [← String.length_toList, String.toList_ofList]
      simp only [List.length_append, List.length_cons]
      omega

end RuleCatalog.Override

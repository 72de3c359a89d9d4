import RuleCatalog.Proofs.Classification.Key

/-! # Spellings of keys

The texts that are read as an identity are its key and the key with padding, as much as the last
group of four characters has room for. Without padding a key is the only text for its identity.
Main statements: `Identity.decodeKey_eq_ok_iff` and `Identity.encodeKey_corresponds`. -/
namespace RuleCatalog

namespace Base64

/-! ## Symbols -/

theorem symbolByte_of_value? {b : UInt8} {n : Nat} (h : value? b = some n) :
    n < 64 ∧ b = symbolByte n := by
  have hall : ∀ b : UInt8, ∀ n ∈ value? b, n < 64 ∧ b = symbolByte n := by
    have hfin : ∀ i < 256, ∀ n ∈ value? (.ofNat i), n < 64 ∧ UInt8.ofNat i = symbolByte n := by
      decide +kernel
    intro b
    simpa using hfin b.toNat b.toNat_lt
  exact hall b n h

/-- Six-bit numbers without bits to spare are those of their bytes. -/
theorem split_join {ns : List Nat} {bs : List UInt8} (h : ∀ n ∈ ns, n < 64)
    (hjoin : join ns = (bs, 0)) (hlength : ns.length % 4 ≠ 1) : split bs = ns := by
  induction ns using join.induct generalizing bs with
  | case1 =>
    obtain rfl := (Prod.mk.inj hjoin).1
    rfl
  | case2 p => exact absurd rfl hlength
  | case3 p q =>
    obtain ⟨rfl, hleft⟩ := Prod.mk.inj hjoin
    have hp := h p (by simp)
    have hq := h q (by simp)
    have hbyte : (p * 4 + q / 16) % 256 = p * 4 + q / 16 := Nat.mod_eq_of_lt (by omega)
    simp only [split, UInt8.toNat_ofNat', hbyte, List.cons.injEq, and_true]
    omega
  | case4 p q r =>
    obtain ⟨rfl, hleft⟩ := Prod.mk.inj hjoin
    have hp := h p (by simp)
    have hq := h q (by simp)
    have hr := h r (by simp)
    simp only [split, UInt8.toNat_ofNat', List.cons.injEq, and_true]
    omega
  | case5 p q r s rest tail left hrest ih =>
    rw [join, hrest] at hjoin
    obtain ⟨rfl, rfl⟩ := Prod.mk.inj hjoin
    have hp := h p (by simp)
    have hq := h q (by simp)
    have hr := h r (by simp)
    have hs := h s (by simp)
    have htail : split tail = rest :=
      ih (fun n hn => h n (by simp [hn])) hrest (by simp only [List.length_cons] at hlength; omega)
    simp only [split, UInt8.toNat_ofNat', List.cons.injEq, htail, and_true]
    omega

/-! ## Padding -/

/-- What is read is a list of symbols and padding in the second half of a group. -/
theorem eq_of_readSymbols {pad : Option Nat} {i : Nat} {text : List UInt8} {ns : List Nat}
    (h : readSymbols pad i text = .ok ns) :
    ∃ k, text = ns.map symbolByte ++ List.replicate k padding ∧ (∀ n ∈ ns, n < 64)
      ∧ (pad = none ∨ ns = []) ∧ ∀ j < k, 2 ≤ (i + ns.length + j) % 4 := by
  induction pad, i, text using readSymbols.induct generalizing ns with
  | case1 pad i =>
    obtain rfl := Except.ok.inj h
    exact ⟨0, rfl, by simp, .inr rfl, by simp⟩
  | case2 pad i bs hi =>
    rw [readSymbols.eq_def] at h
    simp [hi] at h
  | case3 pad i bs hi ih =>
    rw [readSymbols.eq_def] at h
    simp only [if_true, if_neg hi] at h
    obtain ⟨k, rfl, -, hpad, hplaces⟩ := ih h
    obtain rfl : ns = [] := hpad.resolve_left (by simp)
    refine ⟨k + 1, rfl, by simp, .inr rfl, fun j hj => ?_⟩
    cases j with
    | zero => exact Nat.not_lt.1 hi
    | succ j =>
      have hplace := hplaces j (Nat.lt_of_succ_lt_succ hj)
      rwa [List.length_nil, Nat.add_zero, Nat.add_assoc, Nat.add_comm 1] at hplace
  | case4 i b bs hb p =>
    rw [readSymbols.eq_def] at h
    simp [hb] at h
  | case5 i b bs hb hv =>
    rw [readSymbols.eq_def] at h
    simp [hb, hv] at h
  | case6 i b bs hb n hv ih =>
    rw [readSymbols.eq_def] at h
    simp only [if_neg hb, hv] at h
    cases hrest : readSymbols none (i + 1) bs with
    | error e =>
      rw [hrest] at h
      cases h
    | ok ms =>
      rw [hrest] at h
      obtain rfl := Except.ok.inj h
      obtain ⟨hn, rfl⟩ := symbolByte_of_value? hv
      obtain ⟨k, rfl, hms, -, hplaces⟩ := ih hrest
      refine ⟨k, rfl, List.forall_mem_cons.2 ⟨hn, hms⟩, .inl rfl, fun j hj => ?_⟩
      have hplace := hplaces j hj
      have hsum : i + (n :: ms).length + j = i + 1 + ms.length + j := by
        rw [List.length_cons]
        omega
      rwa [hsum]

/-- What a text has to be for its bytes to be read. -/
theorem join_of_decode {text bs : List UInt8} (h : decode text = .ok bs) :
    text.length % 4 ≠ 1 ∧ ∃ ns, readSymbols none 0 text = .ok ns ∧ join ns = (bs, 0) := by
  unfold decode at h
  by_cases hlength : text.length % 4 = 1
  · rw [if_pos hlength] at h
    dsimp only at h
    split at h <;> cases h
  · rw [if_neg hlength] at h
    cases hread : readSymbols none 0 text with
    | error e =>
      rw [hread] at h
      cases h
    | ok ns =>
      rw [hread] at h
      refine ⟨hlength, ns, rfl, ?_⟩
      simp only [bind, Except.bind, pure, Except.pure] at h
      split at h
      · rename_i hleft
        obtain rfl := Except.ok.inj h
        exact Prod.ext rfl hleft
      · cases h

theorem decode_eq_ok_iff {text bs : List UInt8} :
    decode text = .ok bs
      ↔ ∃ k ≤ room bs, text = (split bs).map symbolByte ++ List.replicate k padding := by
  constructor
  · intro h
    obtain ⟨hlength, ns, hread, hjoin⟩ := join_of_decode h
    obtain ⟨k, rfl, hns, -, hplaces⟩ := eq_of_readSymbols hread
    have hmod : ns.length % 4 ≠ 1 := by
      intro hone
      cases k with
      | zero => exact hlength (by simpa using hone)
      | succ k =>
        have hfirst := hplaces 0 (Nat.succ_pos k)
        omega
    obtain rfl := split_join hns hjoin hmod
    refine ⟨k, (le_room_iff bs k).2 ?_, rfl⟩
    simpa using hplaces
  · rintro ⟨k, hk, rfl⟩
    exact decode_padded hk

/-! ## The alphabet -/

/-- Whether a character is an ASCII letter or digit, a dash or an underscore. -/
def isSymbol (c : Char) : Bool := c.isAlphanum || c == '-' || c == '_'

theorem isSymbol_symbol : ∀ n < 64, isSymbol (symbol n) = true := by decide +kernel

theorem isSymbol_of_mem_encode {bs : List UInt8} {c : Char} (h : c ∈ (encode bs).toList) :
    isSymbol c = true := by
  rw [encode, String.toList_ofList] at h
  obtain ⟨n, hn, rfl⟩ := List.mem_map.1 h
  exact isSymbol_symbol n (lt_of_mem_split bs n hn)

end Base64

theorem Utf8.bytes_injective : Function.Injective Utf8.bytes := by
  intro s t h
  have hread := Utf8.ofBytes_bytes s
  rw [h, Utf8.ofBytes_bytes] at hread
  exact (Except.ok.inj hread).symm

theorem Utf8.bytes_append (s t : String) : bytes (s ++ t) = bytes s ++ bytes t := by
  unfold bytes
  rw [String.toByteArray_append]
  simp

theorem Utf8.ofBytes_eq_ok_iff {bs : List UInt8} {s : String} :
    ofBytes bs = .ok s ↔ bs = bytes s := by
  constructor
  · intro h
    unfold ofBytes String.fromUTF8? at h
    split at h
    · rename_i hsome
      split at hsome
      · obtain rfl := Option.some.inj hsome
        obtain rfl := Except.ok.inj h
        rfl
      · cases hsome
    · cases h
  · rintro rfl
    exact ofBytes_bytes s

namespace Identity

/-- The key of an identity with some padding. -/
def spelling (id : Identity) (k : Nat) : String :=
  id.encodeKey ++ .ofList (List.replicate k '=')

/-- How much padding the key of an identity may have. -/
def room (id : Identity) : Nat := Base64.room (Utf8.bytes id.text)

theorem bytes_spelling (id : Identity) (k : Nat) :
    Utf8.bytes (id.spelling k)
      = (Base64.split (Utf8.bytes id.text)).map Base64.symbolByte
        ++ List.replicate k Base64.padding := by
  have hpadding : Utf8.bytes (.ofList (List.replicate k '=')) = List.replicate k Base64.padding := by
    rw [Utf8.bytes_ofList_of_ascii, List.map_replicate]
    · rfl
    · intro c hc
      rw [List.eq_of_mem_replicate hc]
      decide
  rw [spelling, Utf8.bytes_append, encodeKey, Base64.bytes_encode, hpadding]

theorem decodeKey_eq_ok_iff {key : String} {id : Identity} :
    decodeKey key = .ok id ↔ ∃ k ≤ id.room, key = id.spelling k := by
  have hdecode : decodeKey key = .ok id
      ↔ Base64.decode (Utf8.bytes key) = .ok (Utf8.bytes id.text) := by
    unfold decodeKey
    cases hread : Base64.decode (Utf8.bytes key) with
    | error e => simp
    | ok bs =>
      dsimp only
      rw [Except.ok.injEq, ← Utf8.ofBytes_eq_ok_iff]
      cases hbytes : Utf8.ofBytes bs with
      | error e => simp
      | ok s =>
        cases id
        simp
  rw [hdecode, Base64.decode_eq_ok_iff]
  refine exists_congr fun k => and_congr_right fun _ => ?_
  rw [← bytes_spelling, Utf8.bytes_injective.eq_iff]

theorem spelling_zero (id : Identity) : id.spelling 0 = id.encodeKey := String.append_empty

theorem eq_zero_of_unpadded {id : Identity} {k : Nat} (h : '=' ∉ (id.spelling k).toList) :
    k = 0 := by
  cases k with
  | zero => rfl
  | succ k => simp [spelling, List.replicate_succ] at h

/-- Identities and the texts without padding that are read as identities correspond one to one. -/
theorem encodeKey_corresponds (id : Identity) :
    (∀ c ∈ id.encodeKey.toList, Base64.isSymbol c = true)
      ∧ decodeKey id.encodeKey = .ok id
      ∧ ∀ key : String, '=' ∉ key.toList → decodeKey key = .ok id → id.encodeKey = key := by
  refine ⟨fun c hc => Base64.isSymbol_of_mem_encode hc, id.decodeKey_encodeKey, ?_⟩
  intro key hkey hread
  obtain ⟨k, -, rfl⟩ := decodeKey_eq_ok_iff.1 hread
  rw [eq_zero_of_unpadded hkey, spelling_zero]

/-- The statement at a name with letters of two bytes, whose last group is not full. -/
theorem encodeKey_corresponds_twoBytes : '=' ∉ "R3LDtsOfZTswZg".toList
    ∧ decodeKey "R3LDtsOfZTswZg" = .ok ⟨"Größe;0f"⟩
    ∧ encodeKey ⟨"Größe;0f"⟩ = "R3LDtsOfZTswZg" := by
  have hunpadded : '=' ∉ "R3LDtsOfZTswZg".toList := by decide
  have hread : decodeKey "R3LDtsOfZTswZg" = .ok ⟨"Größe;0f"⟩ := rfl
  exact ⟨hunpadded, hread, (encodeKey_corresponds ⟨"Größe;0f"⟩).2.2 _ hunpadded hread⟩

end Identity

end RuleCatalog

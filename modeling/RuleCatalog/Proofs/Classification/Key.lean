import RuleCatalog.Classification.Key

/-! # Keys of identities

What is written in base64 is read back as the same bytes, so that the key of an identity is read
back as the identity. Main statement: `Identity.decodeKey_encodeKey`. -/
namespace RuleCatalog

/-- The bytes of a text of ASCII characters are their numbers. -/
theorem Utf8.bytes_ofList_of_ascii {cs : List Char} (h : ∀ c ∈ cs, c.toNat < 128) :
    bytes (.ofList cs) = cs.map fun c => c.val.toUInt8 := by
  induction cs with
  | nil => rfl
  | cons c cs ih =>
    have hsize : c.utf8Size = 1 := Char.utf8Size_eq_one_iff.2
      (UInt32.le_iff_toNat_le.2 (Nat.le_of_lt_succ (h c List.mem_cons_self)))
    have hc : String.utf8EncodeChar c = [c.val.toUInt8] := String.utf8EncodeChar_eq_singleton hsize
    have hcs := ih fun d hd => h d (List.mem_cons_of_mem _ hd)
    unfold bytes at hcs ⊢
    rw [String.toByteArray_ofList] at hcs ⊢
    rw [List.utf8Encode_cons, List.utf8Encode_singleton, hc]
    simp [hcs]

namespace Base64

/-- The byte of a six-bit number. -/
def symbolByte (n : Nat) : UInt8 := (symbol n).val.toUInt8

theorem value?_symbolByte : ∀ n < 64, value? (symbolByte n) = some n := by decide +kernel

theorem symbolByte_ne_padding : ∀ n < 64, symbolByte n ≠ padding := by decide +kernel

theorem toNat_symbol_lt : ∀ n < 64, (symbol n).toNat < 128 := by decide +kernel

theorem lt_of_mem_split (bs : List UInt8) : ∀ n ∈ split bs, n < 64 := by
  induction bs using split.induct with
  | case1 => simp [split]
  | case2 a =>
    have ha := a.toNat_lt
    simp only [split, List.mem_cons, List.not_mem_nil, or_false]
    omega
  | case3 a b =>
    have ha := a.toNat_lt
    have hb := b.toNat_lt
    simp only [split, List.mem_cons, List.not_mem_nil, or_false]
    omega
  | case4 a b c rest ih =>
    have ha := a.toNat_lt
    have hb := b.toNat_lt
    have hc := c.toNat_lt
    simp only [split, List.mem_cons]
    rintro n (rfl | rfl | rfl | rfl | hn)
    · omega
    · omega
    · omega
    · omega
    · exact ih n hn

theorem length_split_mod (bs : List UInt8) : (split bs).length % 4 ≠ 1 := by
  induction bs using split.induct with
  | case1 | case2 | case3 => simp [split]
  | case4 a b c rest ih =>
    simp only [split, List.length_cons]
    omega

theorem bytes_encode (bs : List UInt8) : Utf8.bytes (encode bs) = (split bs).map symbolByte := by
  have hascii : ∀ c ∈ (split bs).map symbol, c.toNat < 128 := by
    intro c hc
    obtain ⟨n, hn, rfl⟩ := List.mem_map.1 hc
    exact toNat_symbol_lt n (lt_of_mem_split bs n hn)
  rw [encode, Utf8.bytes_ofList_of_ascii hascii, List.map_map]
  rfl

/-- The symbols of a text are read up to what follows them. -/
theorem readSymbols_map_append {ns : List Nat} (h : ∀ n ∈ ns, n < 64) (rest : List UInt8)
    (i : Nat) :
    readSymbols none i (ns.map symbolByte ++ rest)
      = (readSymbols none (i + ns.length) rest).map (ns ++ ·) := by
  induction ns generalizing i with
  | nil =>
    show readSymbols none i rest = (readSymbols none i rest).map fun ms => ms
    cases readSymbols none i rest <;> rfl
  | cons n ns ih =>
    have hn := h n List.mem_cons_self
    have hns := ih (fun m hm => h m (List.mem_cons_of_mem _ hm)) (i + 1)
    have hlength : i + 1 + ns.length = i + (n :: ns).length := by
      rw [List.length_cons]
      omega
    rw [List.map_cons, List.cons_append, readSymbols.eq_def]
    simp only [if_neg (symbolByte_ne_padding n hn), value?_symbolByte n hn, hns, hlength]
    cases readSymbols none (i + (n :: ns).length) rest <;> rfl

theorem readSymbols_replicate {pad : Option Nat} {i k : Nat} (h : ∀ j < k, 2 ≤ (i + j) % 4) :
    readSymbols pad i (List.replicate k padding) = .ok [] := by
  induction k generalizing pad i with
  | zero => rfl
  | succ k ih =>
    have hfirst : ¬i % 4 < 2 := Nat.not_lt.2 (h 0 (Nat.succ_pos k))
    rw [List.replicate_succ, readSymbols.eq_def]
    simp only [if_true, if_neg hfirst]
    refine ih fun j hj => ?_
    have hnext := h (j + 1) (Nat.succ_lt_succ hj)
    rwa [Nat.add_right_comm, Nat.add_assoc]

theorem ofNat_eq_of_eq_toNat {a : UInt8} {n : Nat} (h : n = a.toNat) : UInt8.ofNat n = a := by
  rw [h, UInt8.ofNat_toNat]

/-- The six-bit numbers of some bytes hold these bytes and nothing more. -/
theorem join_split (bs : List UInt8) : join (split bs) = (bs, 0) := by
  induction bs using split.induct with
  | case1 => rfl
  | case2 a =>
    have ha := a.toNat_lt
    have hfirst : UInt8.ofNat (a.toNat / 4 * 4 + a.toNat % 4 * 16 / 16) = a :=
      ofNat_eq_of_eq_toNat (by omega)
    have hleft : a.toNat % 4 * 16 % 16 = 0 := by omega
    rw [split, join, hfirst, hleft]
  | case3 a b =>
    have hb := b.toNat_lt
    have hfirst : UInt8.ofNat (a.toNat / 4 * 4 + (a.toNat % 4 * 16 + b.toNat / 16) / 16) = a :=
      ofNat_eq_of_eq_toNat (by omega)
    have hsecond : UInt8.ofNat ((a.toNat % 4 * 16 + b.toNat / 16) % 16 * 16
        + b.toNat % 16 * 4 / 4) = b := ofNat_eq_of_eq_toNat (by omega)
    have hleft : b.toNat % 16 * 4 % 4 = 0 := by omega
    rw [split, join, hfirst, hsecond, hleft]
  | case4 a b c rest ih =>
    have hb := b.toNat_lt
    have hc := c.toNat_lt
    have hfirst : UInt8.ofNat (a.toNat / 4 * 4 + (a.toNat % 4 * 16 + b.toNat / 16) / 16) = a :=
      ofNat_eq_of_eq_toNat (by omega)
    have hsecond : UInt8.ofNat ((a.toNat % 4 * 16 + b.toNat / 16) % 16 * 16
        + (b.toNat % 16 * 4 + c.toNat / 64) / 4) = b := ofNat_eq_of_eq_toNat (by omega)
    have hthird : UInt8.ofNat ((b.toNat % 16 * 4 + c.toNat / 64) % 4 * 64 + c.toNat % 64) = c :=
      ofNat_eq_of_eq_toNat (by omega)
    rw [split, join, ih, hfirst, hsecond, hthird]

/-- How much padding the last group of four symbols has room for. -/
def room (bs : List UInt8) : Nat := (4 - (split bs).length % 4) % 4

/-- Padding is in the second half of a group as long as the group has room for it. -/
theorem le_room_iff (bs : List UInt8) (k : Nat) :
    k ≤ room bs ↔ ∀ j < k, 2 ≤ ((split bs).length + j) % 4 := by
  have hmod := length_split_mod bs
  unfold room
  constructor
  · intro h j hj
    omega
  · intro h
    refine Nat.le_of_not_lt fun hk => ?_
    have hover := h ((4 - (split bs).length % 4) % 4) (by omega)
    omega

theorem decode_padded {bs : List UInt8} {k : Nat} (hk : k ≤ room bs) :
    decode ((split bs).map symbolByte ++ List.replicate k padding) = .ok bs := by
  have hlength : ((split bs).map symbolByte ++ List.replicate k padding).length % 4 ≠ 1 := by
    have hmod := length_split_mod bs
    simp only [List.length_append, List.length_map, List.length_replicate]
    unfold room at hk
    omega
  have hsymbols : readSymbols none 0 ((split bs).map symbolByte ++ List.replicate k padding)
      = .ok (split bs) := by
    rw [readSymbols_map_append (lt_of_mem_split bs), Nat.zero_add,
      readSymbols_replicate ((le_room_iff bs k).1 hk)]
    exact congrArg Except.ok (List.append_nil _)
  unfold decode
  rw [if_neg hlength, hsymbols]
  simp only [bind, Except.bind, pure, Except.pure, join_split]
  rfl

theorem decode_bytes_encode (bs : List UInt8) : decode (Utf8.bytes (encode bs)) = .ok bs := by
  have hdecode := decode_padded (Nat.zero_le (room bs))
  rwa [List.replicate_zero, List.append_nil, ← bytes_encode] at hdecode

end Base64

namespace Identity

theorem decodeKey_encodeKey (id : Identity) : decodeKey id.encodeKey = .ok id := by
  unfold decodeKey encodeKey
  rw [Base64.decode_bytes_encode]
  dsimp only
  rw [Utf8.ofBytes_bytes]

theorem encodeKey_injective : Function.Injective encodeKey := by
  intro id id' h
  have hdecode := decodeKey_encodeKey id
  rw [h, decodeKey_encodeKey] at hdecode
  exact (Except.ok.inj hdecode).symm

end Identity

end RuleCatalog

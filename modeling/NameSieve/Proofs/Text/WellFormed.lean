import NameSieve.Proofs.Text.Utf8

/-!
# Which bytes are read as texts

Only the bytes of a text are read as one (`decode_eq_ok_iff`), so that what is read may be told from
the bytes alone.  `Valid` bytes are those of some text.  Of any others there is a longest beginning
that is valid, and its size is what reading fails with (`validUpTo_of_decode`).
-/

namespace NameSieve.Utf8

/-! ## Only texts are read -/

lemma tail?_eq_some {byte : UInt8} {x : Nat} (h : tail? byte = some x) :
    byte.toNat = 0x80 + x ∧ x < 0x40 := by
  rw [tail?] at h
  split_ifs at h with range
  obtain rfl := Option.some.inj h
  omega

lemma toNat_ofNat_char {n : Nat} (valid : n.isValidChar) : (Char.ofNat n).toNat = n := by
  rw [Char.ofNat, dif_pos valid]
  rfl

lemma charFrom?_eq_some {least n : Nat} {c : Char} (h : charFrom? least n = some c) :
    least ≤ n ∧ c.toNat = n := by
  rw [charFrom?] at h
  split_ifs at h with range
  obtain rfl := Option.some.inj h
  exact ⟨range.1, toNat_ofNat_char range.2⟩

/-- A byte is found from a number that is its own. -/
lemma ofNat_eq (byte : UInt8) {n : Nat} (h : byte.toNat = n) : UInt8.ofNat n = byte := by
  rw [← h, UInt8.ofNat_toNat]

/-- **A character is read from its own bytes only.** -/
lemma encodeChar_of_decodeChar? {bytes rest : Bytes} {c : Char}
    (h : decodeChar? bytes = some (c, rest)) : encodeChar c ++ rest = bytes := by
  unfold decodeChar? at h
  split at h
  · cases h
  · next a more =>
      simp only at h
      -- the first byte tells the number of bytes; the bits of the others add up to the character
      split_ifs at h with one tail two three four
      · obtain ⟨rfl, rfl⟩ := Prod.mk.inj (Option.some.inj h)
        have value : (Char.ofNat a.toNat).toNat = a.toNat :=
          toNat_ofNat_char (Or.inl (by omega))
        rw [encodeChar_of_lt (by omega), value, UInt8.ofNat_toNat]
        rfl
      · split at h
        · next b rest' =>
          simp only [Option.bind_eq_bind, Option.bind_eq_some_iff, Option.some.injEq,
            Prod.mk.injEq] at h
          obtain ⟨x, hx, c', hc, rfl, rfl⟩ := h
          obtain ⟨hb, small⟩ := tail?_eq_some hx
          obtain ⟨least, value⟩ := charFrom?_eq_some hc
          simp only [encodeChar]
          rw [if_neg (by omega), if_pos (by omega), ofNat_eq a (by omega),
            ofNat_eq b (by omega)]
          rfl
        · cases h
      · split at h
        · next b d rest' =>
          simp only [Option.bind_eq_bind, Option.bind_eq_some_iff, Option.some.injEq,
            Prod.mk.injEq] at h
          obtain ⟨x, hx, y, hy, c', hc, rfl, rfl⟩ := h
          obtain ⟨hb, smallX⟩ := tail?_eq_some hx
          obtain ⟨hd, smallY⟩ := tail?_eq_some hy
          obtain ⟨least, value⟩ := charFrom?_eq_some hc
          simp only [encodeChar]
          rw [if_neg (by omega), if_neg (by omega), if_pos (by omega), ofNat_eq a (by omega),
            ofNat_eq b (by omega), ofNat_eq d (by omega)]
          rfl
        · cases h
      · split at h
        · next b d e rest' =>
          simp only [Option.bind_eq_bind, Option.bind_eq_some_iff, Option.some.injEq,
            Prod.mk.injEq] at h
          obtain ⟨x, hx, y, hy, z, hz, c', hc, rfl, rfl⟩ := h
          obtain ⟨hb, smallX⟩ := tail?_eq_some hx
          obtain ⟨hd, smallY⟩ := tail?_eq_some hy
          obtain ⟨he, smallZ⟩ := tail?_eq_some hz
          obtain ⟨least, value⟩ := charFrom?_eq_some hc
          simp only [encodeChar]
          rw [if_neg (by omega), if_neg (by omega), if_neg (by omega), ofNat_eq a (by omega),
            ofNat_eq b (by omega), ofNat_eq d (by omega), ofNat_eq e (by omega)]
          rfl
        · cases h

/-- What has been read and what is left make up the bytes. -/
lemma decodeAll_append (bytes : Bytes) :
    (decodeAll bytes).1.flatMap encodeChar ++ (decodeAll bytes).2 = bytes := by
  induction bytes using decodeAll.induct with
  | case1 bytes c rest first _ cs left more ih =>
      rw [decodeAll]
      split
      · next d rest' first' =>
          obtain ⟨rfl, rfl⟩ := Prod.mk.inj (Option.some.inj (first'.symm.trans first))
          rw [more] at ih ⊢
          simp only at ih ⊢
          rw [List.flatMap_cons, List.append_assoc, ih, encodeChar_of_decodeChar? first]
      · next none =>
          rw [none] at first
          cases first
  | case2 bytes none =>
      rw [decodeAll]
      split
      · next c rest first =>
          rw [none] at first
          cases first
      · rfl

/-- **Only texts are read**, and each from its own bytes. -/
theorem decode_eq_ok_iff {bytes : Bytes} {text : String} :
    decode bytes = .ok text ↔ encode text = bytes := by
  constructor
  · intro read
    have whole := decodeAll_append bytes
    simp only [decode] at read
    split_ifs at read with done
    obtain rfl := Except.ok.inj read
    rw [List.isEmpty_iff.mp done, List.append_nil] at whole
    rw [encode, String.toList_ofList, whole]
  · rintro rfl
    exact decode_encode text

/-! ## Well-formed bytes -/

/-- The bytes of some text. -/
def Valid (bytes : Bytes) : Prop :=
  ∃ text, encode text = bytes

/-- **The longest beginning that is a text** has so many bytes, and is not all there is. -/
structure ValidUpTo (bytes : Bytes) (size : Nat) : Prop where
  within : size < bytes.length
  valid : Valid (bytes.take size)
  longest : ∀ more ≤ bytes.length, Valid (bytes.take more) → more ≤ size

lemma ValidUpTo.not_valid {bytes : Bytes} {size : Nat} (upTo : ValidUpTo bytes size) :
    ¬Valid bytes := by
  intro valid
  have whole := upTo.longest bytes.length le_rfl (by rwa [List.take_length])
  exact absurd upTo.within (Nat.not_lt.mpr whole)

/-- **What is no text is read up to its longest beginning that is one.** -/
theorem validUpTo_of_decode {bytes : Bytes} {size : Nat} (refused : decode bytes = .error size) :
    ValidUpTo bytes size := by
  have whole := decodeAll_append bytes
  simp only [decode] at refused
  split_ifs at refused with done
  obtain rfl := Except.error.inj refused
  have some : 0 < (decodeAll bytes).2.length :=
    List.length_pos_iff.mpr (mt List.isEmpty_iff.mpr done)
  have total := congrArg List.length whole
  rw [List.length_append] at total
  refine ⟨by omega, ⟨String.ofList (decodeAll bytes).1, ?_⟩, ?_⟩
  · rw [encode, String.toList_ofList]
    conv_rhs => rw [← whole]
    rw [List.take_left' (by rw [whole]; omega)]
  · rintro more inside ⟨text, read⟩
    have left := decodeAll_flatMap_append text.toList (bytes.drop more)
    rw [← encode, read, List.take_append_drop] at left
    have rest := congrArg List.length (decodeAll_append (bytes.drop more))
    rw [left]
    rw [List.length_append, List.length_drop] at rest
    simp only
    omega

end NameSieve.Utf8

import Mathlib.Tactic
import NameSieve.Text.Utf8

/-!
# Texts survive as bytes

* **`decode_encode`**: a text that is written in UTF-8 is read back as itself.
* `mem_encode_iff`: a character of ASCII stands in the bytes of a text just if it stands in the
  text, as the bytes of every other character lie above ASCII.  So what a format does to bytes
  with a meaning can be told from the characters.
* `mark_isPrefix_encode`: the bytes begin with a byte order mark just if the text does.
-/

namespace NameSieve.Utf8

/-! ## One character -/

lemma toNat_lt (c : Char) : c.toNat < 0x110000 := by
  rcases c.valid with low | ⟨-, high⟩
  · exact Nat.lt_trans low (by decide)
  · exact high

/-- A byte is its number, if that is less than two to the eighth. -/
lemma toNat_ofNat {n : Nat} (small : n < 0x100) : (UInt8.ofNat n).toNat = n :=
  UInt8.toNat_ofNat_of_lt' small

lemma tail?_ofNat {x : Nat} (small : x < 0x40) : tail? (UInt8.ofNat (0x80 + x)) = some x := by
  rw [tail?, toNat_ofNat (by omega), if_pos ⟨Nat.le_add_right _ _, by omega⟩,
    Nat.add_sub_cancel_left]

lemma charFrom?_toNat {c : Char} {least : Nat} (fits : least ≤ c.toNat) :
    charFrom? least c.toNat = some c := by
  rw [charFrom?, if_pos ⟨fits, c.valid⟩, Char.ofNat_toNat]

/-! What a first byte announces: the bytes that follow it, and how their bits are put together. -/

section Leads

variable {a b c d : UInt8} (rest : Bytes)

lemma decodeChar?_two (low : 0xC0 ≤ a.toNat) (high : a.toNat < 0xE0) :
    decodeChar? (a :: b :: rest) = (tail? b).bind fun x =>
      (charFrom? 0x80 ((a.toNat - 0xC0) * 0x40 + x)).bind fun char => some (char, rest) := by
  have notOne : ¬a.toNat < 0x80 := by omega
  simp only [decodeChar?, if_neg notOne, if_neg (Nat.not_lt.mpr low), if_pos high]
  rfl

lemma decodeChar?_three (low : 0xE0 ≤ a.toNat) (high : a.toNat < 0xF0) :
    decodeChar? (a :: b :: c :: rest) = (tail? b).bind fun x => (tail? c).bind fun y =>
      (charFrom? 0x800 ((a.toNat - 0xE0) * 0x1000 + x * 0x40 + y)).bind fun char =>
        some (char, rest) := by
  have notOne : ¬a.toNat < 0x80 := by omega
  have notTail : ¬a.toNat < 0xC0 := by omega
  simp only [decodeChar?, if_neg notOne, if_neg notTail, if_neg (Nat.not_lt.mpr low), if_pos high]
  rfl

lemma decodeChar?_four (low : 0xF0 ≤ a.toNat) (high : a.toNat < 0xF8) :
    decodeChar? (a :: b :: c :: d :: rest) = (tail? b).bind fun x => (tail? c).bind fun y =>
      (tail? d).bind fun z =>
        (charFrom? 0x10000 ((a.toNat - 0xF0) * 0x40000 + x * 0x1000 + y * 0x40 + z)).bind
          fun char => some (char, rest) := by
  have notOne : ¬a.toNat < 0x80 := by omega
  have notTail : ¬a.toNat < 0xC0 := by omega
  have notTwo : ¬a.toNat < 0xE0 := by omega
  simp only [decodeChar?, if_neg notOne, if_neg notTail, if_neg notTwo,
    if_neg (Nat.not_lt.mpr low), if_pos high]
  rfl

end Leads

/-- **A character is read back** from its bytes, whatever follows them. -/
theorem decodeChar?_encodeChar (c : Char) (rest : Bytes) :
    decodeChar? (encodeChar c ++ rest) = some (c, rest) := by
  have bound := toNat_lt c
  have tail : ∀ n, tail? (UInt8.ofNat (0x80 + n % 0x40)) = some (n % 0x40) :=
    fun n => tail?_ofNat (Nat.mod_lt n (by decide))
  simp only [encodeChar]
  split_ifs with one two three
  · have lead := toNat_ofNat (n := c.toNat) (by omega)
    simp only [List.cons_append, List.nil_append, decodeChar?, lead, if_pos one, Char.ofNat_toNat]
  · have lead := toNat_ofNat (n := 0xC0 + c.toNat / 0x40) (by omega)
    have whole : (0xC0 + c.toNat / 0x40 - 0xC0) * 0x40 + c.toNat % 0x40 = c.toNat := by omega
    rw [List.cons_append, List.cons_append, List.nil_append,
      decodeChar?_two rest (by omega) (by omega), lead, tail, Option.bind_some, whole,
      charFrom?_toNat (by omega), Option.bind_some]
  · have lead := toNat_ofNat (n := 0xE0 + c.toNat / 0x1000) (by omega)
    have whole : (0xE0 + c.toNat / 0x1000 - 0xE0) * 0x1000 + c.toNat / 0x40 % 0x40 * 0x40
        + c.toNat % 0x40 = c.toNat := by omega
    rw [List.cons_append, List.cons_append, List.cons_append, List.nil_append,
      decodeChar?_three rest (by omega) (by omega), lead, tail, Option.bind_some, tail,
      Option.bind_some, whole, charFrom?_toNat (by omega), Option.bind_some]
  · have lead := toNat_ofNat (n := 0xF0 + c.toNat / 0x40000) (by omega)
    have whole : (0xF0 + c.toNat / 0x40000 - 0xF0) * 0x40000 + c.toNat / 0x1000 % 0x40 * 0x1000
        + c.toNat / 0x40 % 0x40 * 0x40 + c.toNat % 0x40 = c.toNat := by omega
    rw [List.cons_append, List.cons_append, List.cons_append, List.cons_append, List.nil_append,
      decodeChar?_four rest (by omega) (by omega), lead, tail, Option.bind_some, tail,
      Option.bind_some, tail, Option.bind_some, whole, charFrom?_toNat (by omega),
      Option.bind_some]

/-! ## Whole texts -/

/-- Behind the bytes of some characters reading goes on. -/
lemma decodeAll_flatMap_append (cs : List Char) (rest : Bytes) :
    decodeAll (cs.flatMap encodeChar ++ rest)
      = (cs ++ (decodeAll rest).1, (decodeAll rest).2) := by
  induction cs with
  | nil => rfl
  | cons c cs ih =>
      rw [List.flatMap_cons, List.append_assoc, decodeAll]
      split
      · next d rest' h =>
          rw [decodeChar?_encodeChar] at h
          obtain ⟨rfl, rfl⟩ := Prod.mk.inj (Option.some.inj h)
          simp only [ih, List.cons_append]
      · next h =>
          rw [decodeChar?_encodeChar] at h
          cases h

lemma decodeAll_flatMap_encodeChar (cs : List Char) :
    decodeAll (cs.flatMap encodeChar) = (cs, []) := by
  have read := decodeAll_flatMap_append cs []
  have nothing : decodeAll [] = ([], []) := by
    rw [decodeAll]
    rfl
  rwa [nothing, List.append_nil, List.append_nil] at read

/-- **A text is read back** from its bytes. -/
theorem decode_encode (text : String) : decode (encode text) = .ok text := by
  rw [decode, encode, decodeAll_flatMap_encodeChar]
  simp

/-! ## Characters of ASCII -/

lemma encodeChar_of_lt {c : Char} (ascii : c.toNat < 0x80) :
    encodeChar c = [UInt8.ofNat c.toNat] := by
  simp only [encodeChar, if_pos ascii]

/-- Beyond ASCII every byte of a character is beyond ASCII. -/
lemma le_of_mem_encodeChar {c : Char} (beyond : 0x80 ≤ c.toNat) {byte : UInt8}
    (member : byte ∈ encodeChar c) : 0x80 ≤ byte.toNat := by
  have bound := toNat_lt c
  simp only [encodeChar, if_neg (Nat.not_lt.mpr beyond)] at member
  split_ifs at member
  all_goals
    simp only [List.mem_cons, List.not_mem_nil, or_false] at member
    rcases member with rfl | rfl | rfl | rfl
  all_goals
    rw [toNat_ofNat (by omega)]
    omega

/-- **A character of ASCII is a byte of its own**: it stands in the bytes of a text just if it
stands in the text. -/
theorem mem_encode_iff {c : Char} (ascii : c.toNat < 0x80) (text : String) :
    UInt8.ofNat c.toNat ∈ encode text ↔ c ∈ text.toList := by
  have value : (UInt8.ofNat c.toNat).toNat = c.toNat := toNat_ofNat (by omega)
  rw [encode, List.mem_flatMap]
  constructor
  · rintro ⟨d, member, hbyte⟩
    by_cases small : d.toNat < 0x80
    · rw [encodeChar_of_lt small, List.mem_singleton] at hbyte
      have same : c.toNat = d.toNat := by
        rw [← value, hbyte, toNat_ofNat (by omega)]
      rwa [Char.toNat_inj.mp same]
    · have beyond := le_of_mem_encodeChar (Nat.not_lt.mp small) hbyte
      omega
  · intro member
    exact ⟨c, member, by rw [encodeChar_of_lt ascii, List.mem_singleton]⟩

/-! ## The byte order mark -/

/-- The character that opens a file as a byte order mark. -/
def markChar : Char :=
  '\uFEFF'

lemma encodeChar_markChar : encodeChar markChar = [0xEF, 0xBB, 0xBF] := by
  decide

lemma encode_mark_append (text : String) (rest : List Char) (h : text.toList = markChar :: rest) :
    encode text = [0xEF, 0xBB, 0xBF] ++ rest.flatMap encodeChar := by
  rw [encode, h, List.flatMap_cons, encodeChar_markChar]

/-- **The mark in bytes is the mark in characters.** -/
theorem mark_isPrefix_encode (text : String) :
    [0xEF, 0xBB, 0xBF] <+: encode text ↔ text.toList.head? = some markChar := by
  constructor
  · rintro ⟨rest, hrest⟩
    have marked : decodeChar? (encode text) = some (markChar, rest) := by
      rw [← hrest, ← encodeChar_markChar, decodeChar?_encodeChar]
    cases h : text.toList with
    | nil =>
        rw [encode, h] at marked
        cases marked
    | cons c cs =>
        rw [encode, h, List.flatMap_cons, decodeChar?_encodeChar] at marked
        exact congrArg some (Prod.mk.inj (Option.some.inj marked)).1
  · intro h
    obtain ⟨rest, hrest⟩ := List.head?_eq_some_iff.mp h
    rw [encode_mark_append text rest hrest]
    exact List.prefix_append _ _

end NameSieve.Utf8

/-!
# Texts as bytes

* `encode` writes a text in UTF-8.
* `decode` reads one back, or answers how many bytes from the begin are well formed.

A character takes one to four bytes.  The first byte says how many; each further byte carries six
bits.  A character that fits fewer bytes is not accepted in more, and surrogates and numbers
beyond the last code point are no characters.
-/

namespace NameSieve

abbrev Bytes : Type :=
  List UInt8

namespace Utf8

/-! ## Writing -/

def encodeChar (c : Char) : Bytes :=
  let n := c.toNat
  if n < 0x80 then [UInt8.ofNat n]
  else if n < 0x800 then [UInt8.ofNat (0xC0 + n / 0x40), UInt8.ofNat (0x80 + n % 0x40)]
  else if n < 0x10000 then
    [UInt8.ofNat (0xE0 + n / 0x1000), UInt8.ofNat (0x80 + n / 0x40 % 0x40),
      UInt8.ofNat (0x80 + n % 0x40)]
  else
    [UInt8.ofNat (0xF0 + n / 0x40000), UInt8.ofNat (0x80 + n / 0x1000 % 0x40),
      UInt8.ofNat (0x80 + n / 0x40 % 0x40), UInt8.ofNat (0x80 + n % 0x40)]

def encode (text : String) : Bytes :=
  text.toList.flatMap encodeChar

/-! ## Reading -/

/-- The six bits that a further byte carries. -/
def tail? (byte : UInt8) : Option Nat :=
  if 0x80 ≤ byte.toNat ∧ byte.toNat < 0xC0 then some (byte.toNat - 0x80) else none

/-- The character of a number, if it is the number of one and not below a bound. -/
def charFrom? (least n : Nat) : Option Char :=
  if least ≤ n ∧ n.isValidChar then some (Char.ofNat n) else none

/-- The first character of some bytes and the bytes behind it; nothing if none is well formed. -/
def decodeChar? : Bytes → Option (Char × Bytes)
  | [] => none
  | a :: rest =>
      let lead := a.toNat
      if lead < 0x80 then some (Char.ofNat lead, rest)
      else if lead < 0xC0 then none
      else if lead < 0xE0 then
        match rest with
        | b :: rest => do
            let x ← tail? b
            let c ← charFrom? 0x80 ((lead - 0xC0) * 0x40 + x)
            some (c, rest)
        | [] => none
      else if lead < 0xF0 then
        match rest with
        | b :: c :: rest => do
            let x ← tail? b
            let y ← tail? c
            let c ← charFrom? 0x800 ((lead - 0xE0) * 0x1000 + x * 0x40 + y)
            some (c, rest)
        | _ => none
      else if lead < 0xF8 then
        match rest with
        | b :: c :: d :: rest => do
            let x ← tail? b
            let y ← tail? c
            let z ← tail? d
            let c ← charFrom? 0x10000 ((lead - 0xF0) * 0x40000 + x * 0x1000 + y * 0x40 + z)
            some (c, rest)
        | _ => none
      else none

theorem decodeChar?_length {bytes rest : Bytes} {c : Char}
    (h : decodeChar? bytes = some (c, rest)) : rest.length < bytes.length := by
  unfold decodeChar? at h
  split at h
  · cases h
  · simp only at h
    split at h
    · cases h
      simp
    · split at h
      · cases h
      · split at h
        · split at h
          · simp only [Option.bind_eq_bind, Option.bind_eq_some_iff, Option.some.injEq,
              Prod.mk.injEq] at h
            obtain ⟨_, _, _, _, _, rfl⟩ := h
            simp only [List.length_cons]
            omega
          · cases h
        · split at h
          · split at h
            · simp only [Option.bind_eq_bind, Option.bind_eq_some_iff, Option.some.injEq,
                Prod.mk.injEq] at h
              obtain ⟨_, _, _, _, _, _, _, rfl⟩ := h
              simp only [List.length_cons]
              omega
            · cases h
          · split at h
            · split at h
              · simp only [Option.bind_eq_bind, Option.bind_eq_some_iff, Option.some.injEq,
                  Prod.mk.injEq] at h
                obtain ⟨_, _, _, _, _, _, _, _, _, rfl⟩ := h
                simp only [List.length_cons]
                omega
              · cases h
            · cases h

/-- The characters of the longest well-formed beginning, and the bytes that are left. -/
def decodeAll (bytes : Bytes) : List Char × Bytes :=
  match h : decodeChar? bytes with
  | some (c, rest) =>
      have _shorter : rest.length < bytes.length := decodeChar?_length h
      let (cs, left) := decodeAll rest
      (c :: cs, left)
  | none => ([], bytes)
termination_by bytes.length

/-- The text of some bytes, or the number of bytes in their longest well-formed beginning. -/
def decode (bytes : Bytes) : Except Nat String :=
  let (cs, left) := decodeAll bytes
  if left.isEmpty then .ok (String.ofList cs) else .error (bytes.length - left.length)

end Utf8

end NameSieve

/-! The encoder pads its output, the decoder accepts both alphabets, skips characters outside of
them, and stops at the first complete padding. This is the non-strict decoder of Python's
`binascii`. -/

namespace Dynastore.Base64

/-- The URL-safe character of a six-bit group. -/
def sextetChar (sextet : Nat) : Char :=
  if sextet < 26 then Char.ofNat (65 + sextet)
  else if sextet < 52 then Char.ofNat (71 + sextet)
  else if sextet < 62 then Char.ofNat (sextet - 4)
  else if sextet = 62 then '-'
  else '_'

def sextetValue (char : Char) : Option Nat :=
  let code := char.toNat
  if 65 ≤ code ∧ code ≤ 90 then some (code - 65)
  else if 97 ≤ code ∧ code ≤ 122 then some (code - 71)
  else if 48 ≤ code ∧ code ≤ 57 then some (code + 4)
  else if char = '+' ∨ char = '-' then some 62
  else if char = '/' ∨ char = '_' then some 63
  else none

theorem sextetValue_sextetChar (bound : sextet < 64) :
    sextetValue (sextetChar sextet) = some sextet := by
  have every : ∀ value : Fin 64, sextetValue (sextetChar value.val) = some value.val := by decide
  exact every ⟨sextet, bound⟩

theorem sextetChar_ne_pad (bound : sextet < 64) : sextetChar sextet ≠ '=' := by
  have every : ∀ value : Fin 64, sextetChar value.val ≠ '=' := by decide
  exact every ⟨sextet, bound⟩

def encode : List UInt8 → List Char
  | [] => []
  | [first] =>
    [sextetChar (first.toNat / 4), sextetChar (first.toNat % 4 * 16), '=', '=']
  | [first, second] =>
    [sextetChar (first.toNat / 4), sextetChar (first.toNat % 4 * 16 + second.toNat / 16),
      sextetChar (second.toNat % 16 * 4), '=']
  | first :: second :: third :: rest =>
    sextetChar (first.toNat / 4) :: sextetChar (first.toNat % 4 * 16 + second.toNat / 16) ::
      sextetChar (second.toNat % 16 * 4 + third.toNat / 64) :: sextetChar (third.toNat % 64) ::
        encode rest

/-- `quad` is the position in the current group of four, `left` the bits
carried over from the previous character, `pads` the padding seen so far. -/
def decodeFrom : (quad left pads : Nat) → List Char → Option (List UInt8)
  | quad, _, _, [] => if quad = 0 then some [] else none
  | quad, left, pads, char :: rest =>
    if char = '=' then
      if 2 ≤ quad then
        if 4 ≤ quad + (pads + 1) then some [] else decodeFrom quad left (pads + 1) rest
      else decodeFrom quad left pads rest
    else
      match sextetValue char, quad with
      | none, _ => decodeFrom quad left pads rest
      | some sextet, 0 => decodeFrom 1 sextet 0 rest
      | some sextet, 1 =>
        (decodeFrom 2 (sextet % 16) 0 rest).map (UInt8.ofNat (left * 4 + sextet / 16) :: ·)
      | some sextet, 2 =>
        (decodeFrom 3 (sextet % 4) 0 rest).map (UInt8.ofNat (left * 16 + sextet / 4) :: ·)
      | some sextet, _ =>
        (decodeFrom 0 0 0 rest).map (UInt8.ofNat (left * 64 + sextet) :: ·)

def decode (text : List Char) : Option (List UInt8) := decodeFrom 0 0 0 text

/-! ## Round trip -/

private theorem decodeFrom_zero (bound : sextet < 64) :
    decodeFrom 0 left pads (sextetChar sextet :: rest) = decodeFrom 1 sextet 0 rest := by
  simp [decodeFrom, sextetChar_ne_pad bound, sextetValue_sextetChar bound]

private theorem decodeFrom_one (bound : sextet < 64) :
    decodeFrom 1 left pads (sextetChar sextet :: rest) =
      (decodeFrom 2 (sextet % 16) 0 rest).map (UInt8.ofNat (left * 4 + sextet / 16) :: ·) := by
  simp [decodeFrom, sextetChar_ne_pad bound, sextetValue_sextetChar bound]

private theorem decodeFrom_two (bound : sextet < 64) :
    decodeFrom 2 left pads (sextetChar sextet :: rest) =
      (decodeFrom 3 (sextet % 4) 0 rest).map (UInt8.ofNat (left * 16 + sextet / 4) :: ·) := by
  simp [decodeFrom, sextetChar_ne_pad bound, sextetValue_sextetChar bound]

private theorem decodeFrom_three (bound : sextet < 64) :
    decodeFrom 3 left pads (sextetChar sextet :: rest) =
      (decodeFrom 0 0 0 rest).map (UInt8.ofNat (left * 64 + sextet) :: ·) := by
  simp [decodeFrom, sextetChar_ne_pad bound, sextetValue_sextetChar bound]

private theorem ofNat_eq_of_toNat (byte : UInt8) (eq : value = byte.toNat) :
    UInt8.ofNat value = byte := by
  rw [eq]
  exact UInt8.ofNat_toNat

theorem decode_encode : decode (encode bytes) = some bytes := by
  unfold decode
  induction bytes using encode.induct with
  | case1 => rfl
  | case2 first =>
    have firstBound := first.toNat_lt
    rw [encode, decodeFrom_zero (by omega), decodeFrom_one (by omega)]
    simp only [decodeFrom, if_true, Option.map_some]
    rw [ofNat_eq_of_toNat first (by omega)]
    rfl
  | case3 first second =>
    have firstBound := first.toNat_lt
    have secondBound := second.toNat_lt
    rw [encode, decodeFrom_zero (by omega), decodeFrom_one (by omega), decodeFrom_two (by omega)]
    simp only [decodeFrom, if_true, Option.map_some]
    rw [ofNat_eq_of_toNat first (by omega), ofNat_eq_of_toNat second (by omega)]
    rfl
  | case4 first second third _ ih =>
    have firstBound := first.toNat_lt
    have secondBound := second.toNat_lt
    have thirdBound := third.toNat_lt
    rw [encode, decodeFrom_zero (by omega), decodeFrom_one (by omega),
      decodeFrom_two (by omega), decodeFrom_three (by omega), ih]
    simp only [Option.map_some]
    rw [ofNat_eq_of_toNat first (by omega),
      ofNat_eq_of_toNat second (by omega), ofNat_eq_of_toNat third (by omega)]

end Dynastore.Base64

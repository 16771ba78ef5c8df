import Cove.Protocol.Frame

/-!
The bytes of a terminal payload as text on the view bridge: three bytes are four letters, and what is missing of the
last three is padding. A text is decoded only if it is what its bytes are encoded as.
-/

namespace Cove.Client.BridgeBytes
open Protocol.Frame List

def alphabet : List Char := "ABCDEFGHIJKLMNOPQRSTUVWXYZabcdefghijklmnopqrstuvwxyz0123456789+/".toList

def letter (sextet : Nat) : Char := alphabet.getD sextet '='

/-- One pass of the encoding loop; past the end of the bytes there is `undefined`. -/
def group (a : UInt8) (b c : Option UInt8) : List Char :=
  [letter (a.toNat >>> 2), letter ((a.toNat &&& 3) <<< 4 ||| b.elim 0 UInt8.toNat >>> 4),
    b.elim '=' fun b => letter ((b.toNat &&& 15) <<< 2 ||| c.elim 0 UInt8.toNat >>> 6),
    c.elim '=' fun c => letter (c.toNat &&& 63)]

def encoded : Bytes → List Char
  | a :: b :: c :: rest => group a (some b) (some c) ++ encoded rest
  | [a, b] => group a (some b) none
  | [a] => group a none none
  | [] => []

def encodeBridgeBytes (bytes : Bytes) : Option (List Char) :=
  if bytes.length > maxPayloadBytes then none else some (encoded bytes)

/-- `alphabet.indexOf`. Only padding is outside the alphabet here, and no byte that is kept is computed from it. -/
def sextet (char : Char) : Nat := alphabet.idxOf char

/-- The bytes written while there is room for them. -/
def decoded : Nat → List Char → Bytes
  | room, a :: b :: c :: d :: rest =>
    [(sextet a <<< 2 ||| sextet b >>> 4).toUInt8, (sextet b <<< 4 ||| sextet c >>> 2).toUInt8,
      (sextet c <<< 6 ||| sextet d).toUInt8].take room ++ decoded (room - 3) rest
  | _, _ => []

def padding (text : List Char) : Nat :=
  if ['=', '='].isSuffixOf text then 2 else if ['='].isSuffixOf text then 1 else 0

/-- `^[A-Za-z0-9+/]*={0,2}$`. -/
def spelled (text : List Char) : Bool :=
  let rest := text.dropWhile alphabet.contains
  rest.all (· == '=') && decide (rest.length ≤ 2)

def fromEnd (text : List Char) (back : Nat) : Nat := sextet (text.getD (text.length - back) '=')

def decodedLength (text : List Char) : Nat := text.length / 4 * 3 - padding text

def decodeBridgeBytes (text : List Char) : Option Bytes :=
  if text.length > 4 * ((maxPayloadBytes + 2) / 3) ∨ text.length % 4 ≠ 0 ∨ spelled text = false then none
  else if decodedLength text > maxPayloadBytes then none
  else if padding text = 2 ∧ fromEnd text 3 &&& 15 ≠ 0 then none
  else if padding text = 1 ∧ fromEnd text 2 &&& 3 ≠ 0 then none
  else some (decoded (decodedLength text) text)

/-! ### Letters -/

theorem length_alphabet : alphabet.length = 64 := rfl

theorem nodup_alphabet : alphabet.Nodup := by decide +kernel

theorem pad_not_mem : '=' ∉ alphabet := by decide +kernel

theorem letter_eq {n : Nat} (small : n < alphabet.length) : letter n = alphabet[n] := by
  rw [letter, getD_eq_getElem?_getD, getElem?_eq_getElem small, Option.getD_some]

theorem sextet_letter {n : Nat} (small : n < 64) : sextet (letter n) = n ∧ letter n ∈ alphabet := by
  rw [← length_alphabet] at small
  rw [letter_eq small]
  exact ⟨nodup_alphabet.idxOf_getElem n small, getElem_mem small⟩

theorem exists_letter {char : Char} (member : char ∈ alphabet) : ∃ n < 64, letter n = char := by
  have small := idxOf_lt_length_iff.mpr member
  refine ⟨alphabet.idxOf char, length_alphabet ▸ small, ?_⟩
  rw [letter_eq small, getElem_idxOf small]

section Bits
variable (x : Nat) {y : Nat}

theorem or_eq_add {k : Nat} (small : y < 2 ^ k) : x <<< k ||| y = x * 2 ^ k + y := by
  rw [← Nat.shiftLeft_add_eq_or_of_lt small, Nat.shiftLeft_eq]

theorem or_shift_eq {k j : Nat} (small : y < 2 ^ (j + k)) : x <<< k ||| y >>> j = x * 2 ^ k + y / 2 ^ j := by
  rw [Nat.shiftRight_eq_div_pow]
  apply or_eq_add
  rw [Nat.div_lt_iff_lt_mul (Nat.two_pow_pos j), ← pow_add, Nat.add_comm]
  exact small

theorem and_mask (k : Nat) : x &&& 2 ^ k - 1 = x % 2 ^ k := Nat.and_two_pow_sub_one_eq_mod x k

end Bits

theorem group_eq (a : UInt8) (b c : Option UInt8) :
    group a b c =
      [letter (a.toNat / 4), letter (a.toNat % 4 * 16 + b.elim 0 UInt8.toNat / 16),
        b.elim '=' fun b => letter (b.toNat % 16 * 4 + c.elim 0 UInt8.toNat / 64),
        c.elim '=' fun c => letter (c.toNat % 64)] := by
  have bound (byte : Option UInt8) : byte.elim 0 UInt8.toNat < 256 := by
    cases byte with
    | none => decide
    | some byte => exact byte.toNat_lt
  have first : a.toNat >>> 2 = a.toNat / 4 := Nat.shiftRight_eq_div_pow _ 2
  have second : (a.toNat &&& 3) <<< 4 ||| b.elim 0 UInt8.toNat >>> 4 = a.toNat % 4 * 16 + b.elim 0 UInt8.toNat / 16 := by
    rw [show a.toNat &&& 3 = a.toNat % 4 from and_mask _ 2]
    exact or_shift_eq _ (bound b)
  have third (x : Nat) : (x &&& 15) <<< 2 ||| c.elim 0 UInt8.toNat >>> 6 = x % 16 * 4 + c.elim 0 UInt8.toNat / 64 := by
    rw [show x &&& 15 = x % 16 from and_mask _ 4]
    exact or_shift_eq _ (bound c)
  have last (x : Nat) : x &&& 63 = x % 64 := and_mask _ 6
  simp only [group, first, second, third, last]

theorem toNat_toUInt8 (number : Nat) : number.toUInt8.toNat = number % 256 := UInt8.toNat_ofNat'

theorem toUInt8_eq {number : Nat} {byte : UInt8} (same : number % 256 = byte.toNat) : number.toUInt8 = byte :=
  UInt8.toNat_inj.mp ((toNat_toUInt8 number).trans same)

/-! ### A group -/

section Groups
variable {i j k l : Nat} (a b c : UInt8)

theorem first_byte (first : i < 64) (second : j < 64) (same : i * 4 + j / 16 = a.toNat) :
    (sextet (letter i) <<< 2 ||| sextet (letter j) >>> 4).toUInt8 = a := by
  rw [(sextet_letter first).1, (sextet_letter second).1, or_shift_eq i second]
  exact toUInt8_eq (by have := a.toNat_lt; omega)

theorem second_byte (second : j < 64) (third : k < 64) (same : (j * 16 + k / 4) % 256 = b.toNat) :
    (sextet (letter j) <<< 4 ||| sextet (letter k) >>> 2).toUInt8 = b := by
  rw [(sextet_letter second).1, (sextet_letter third).1, or_shift_eq j third]
  exact toUInt8_eq same

theorem third_byte (third : k < 64) (last : l < 64) (same : (k * 64 + l) % 256 = c.toNat) :
    (sextet (letter k) <<< 6 ||| sextet (letter l)).toUInt8 = c := by
  rw [(sextet_letter third).1, (sextet_letter last).1, or_eq_add k last]
  exact toUInt8_eq same

theorem decoded_three (room : Nat) (rest : List Char) :
    decoded (room + 3) (group a (some b) (some c) ++ rest) = a :: b :: c :: decoded room rest := by
  have := a.toNat_lt
  have := b.toNat_lt
  have := c.toNat_lt
  simp only [group_eq, Option.elim, cons_append, nil_append, decoded]
  rw [first_byte a, second_byte b, third_byte c]
  · simp
  all_goals omega

theorem decoded_two : decoded 2 (group a (some b) none) = [a, b] := by
  have := a.toNat_lt
  have := b.toNat_lt
  simp only [group_eq, Option.elim, decoded]
  rw [first_byte a, second_byte b]
  · rfl
  all_goals omega

theorem decoded_one : decoded 1 (group a none none) = [a] := by
  have := a.toNat_lt
  simp only [group_eq, Option.elim, decoded]
  rw [first_byte a]
  · rfl
  all_goals omega

end Groups

section Letters
variable {a b c d : Char}

theorem exists_three (letters : ∀ char ∈ [a, b, c, d], char ∈ alphabet) :
    ∃ x y z, group x (some y) (some z) = [a, b, c, d] := by
  simp only [mem_cons, not_mem_nil, or_false, forall_eq_or_imp, forall_eq] at letters
  obtain ⟨first, second, third, last⟩ := letters
  obtain ⟨i, iSmall, rfl⟩ := exists_letter first
  obtain ⟨j, jSmall, rfl⟩ := exists_letter second
  obtain ⟨k, kSmall, rfl⟩ := exists_letter third
  obtain ⟨l, lSmall, rfl⟩ := exists_letter last
  refine ⟨(i * 4 + j / 16).toUInt8, (j * 16 + k / 4).toUInt8, (k * 64 + l).toUInt8, ?_⟩
  simp only [group_eq, Option.elim, toNat_toUInt8]
  congr <;> omega

theorem exists_two (first : a ∈ alphabet) (second : b ∈ alphabet) (third : c ∈ alphabet) (zero : sextet c % 4 = 0) :
    ∃ x y, group x (some y) none = [a, b, c, '='] := by
  obtain ⟨i, iSmall, rfl⟩ := exists_letter first
  obtain ⟨j, jSmall, rfl⟩ := exists_letter second
  obtain ⟨k, kSmall, rfl⟩ := exists_letter third
  rw [(sextet_letter kSmall).1] at zero
  refine ⟨(i * 4 + j / 16).toUInt8, (j * 16 + k / 4).toUInt8, ?_⟩
  simp only [group_eq, Option.elim, toNat_toUInt8]
  congr <;> omega

theorem exists_one (first : a ∈ alphabet) (second : b ∈ alphabet) (zero : sextet b % 16 = 0) :
    ∃ x, group x none none = [a, b, '=', '='] := by
  obtain ⟨i, iSmall, rfl⟩ := exists_letter first
  obtain ⟨j, jSmall, rfl⟩ := exists_letter second
  rw [(sextet_letter jSmall).1] at zero
  refine ⟨(i * 4 + j / 16).toUInt8, ?_⟩
  simp only [group_eq, Option.elim, toNat_toUInt8]
  congr <;> omega

end Letters

/-! ### The end of a text -/

variable {a b c d : Char} {text rest : List Char}

theorem padding_append (front : List Char) (long : 2 ≤ rest.length) : padding (front ++ rest) = padding rest := by
  have ends {last : List Char} (short : last.length ≤ 2) : last.isSuffixOf (front ++ rest) = last.isSuffixOf rest := by
    rw [Bool.eq_iff_iff, isSuffixOf_iff_suffix, isSuffixOf_iff_suffix]
    constructor
    · exact fun suffix => suffix_of_suffix_length_le suffix (suffix_append front rest) (short.trans long)
    · exact fun suffix => suffix.trans (suffix_append front rest)
  unfold padding
  rw [ends (by decide), ends (by decide)]

theorem padding_step (long : 4 ≤ rest.length) : padding (a :: b :: c :: d :: rest) = padding rest :=
  padding_append [a, b, c, d] (by omega)

theorem fromEnd_append (front : List Char) {back : Nat} (long : back ≤ rest.length) :
    fromEnd (front ++ rest) back = fromEnd rest back := by
  have later : front.length + rest.length - back = front.length + (rest.length - back) := by omega
  simp only [fromEnd, getD_eq_getElem?_getD, length_append, later, getElem?_append_right (Nat.le_add_right _ _),
    Nat.add_sub_cancel_left]

theorem spelled_cons (long : 2 ≤ rest.length) : spelled (a :: rest) = true ↔ a ∈ alphabet ∧ spelled rest = true := by
  by_cases member : a ∈ alphabet
  · simp [spelled, member]
  · have more : ¬rest.length + 1 ≤ 2 := by omega
    simp [spelled, member, more]

theorem padding_four : padding [a, b, c, d] = if d = '=' then if c = '=' then 2 else 1 else 0 := by
  have reads : padding [a, b, c, d] = if '=' = d ∧ '=' = c then 2 else if '=' = d then 1 else 0 := by
    simp [padding, isSuffixOf, isPrefixOf]
  simp only [reads, eq_comm (a := '=')]
  split_ifs <;> simp_all

theorem padding_le (text : List Char) : padding text ≤ 2 := by
  unfold padding
  split_ifs <;> omega

/-- What decoding asks of a text but its length: the bits that padding leaves over are zero. -/
structure Proper (text : List Char) : Prop where
  fours : text.length % 4 = 0
  spelled : spelled text = true
  two : padding text = 2 → fromEnd text 3 % 16 = 0
  one : padding text = 1 → fromEnd text 2 % 4 = 0

theorem decode_eq_some {bytes : Bytes} : decodeBridgeBytes text = some bytes ↔
    Proper text ∧ decodedLength text ≤ maxPayloadBytes ∧ decoded (decodedLength text) text = bytes := by
  have low (x : Nat) : (x &&& 15 = x % 16) ∧ (x &&& 3 = x % 4) := ⟨and_mask x 4, and_mask x 2⟩
  unfold decodeBridgeBytes
  simp only [(low _).1, (low _).2]
  constructor
  · intro accepted
    split_ifs at accepted with refused long two one
    obtain ⟨-, fours, spelled⟩ : _ ∧ _ ∧ _ := by simpa [not_or] using refused
    refine ⟨⟨fours, spelled, fun padded => ?_, fun padded => ?_⟩, not_lt.mp long, Option.some.inj accepted⟩
    · simpa [padded] using two
    · simpa [padded] using one
  · rintro ⟨proper, small, rfl⟩
    have short : ¬text.length > 4 * ((maxPayloadBytes + 2) / 3) := by
      have := proper.fours
      have := padding_le text
      unfold decodedLength at small
      omega
    rw [if_neg (by simp [short, proper.fours, proper.spelled]), if_neg (not_lt.mpr small),
      if_neg fun ⟨padded, left⟩ => left (proper.two padded), if_neg fun ⟨padded, left⟩ => left (proper.one padded)]

theorem proper_step (long : 4 ≤ rest.length) :
    Proper (a :: b :: c :: d :: rest) ↔ (∀ char ∈ [a, b, c, d], char ∈ alphabet) ∧ Proper rest := by
  have length : (a :: b :: c :: d :: rest).length % 4 = rest.length % 4 := Nat.add_mod_right rest.length 4
  have ends {back : Nat} (short : back ≤ 4) : fromEnd (a :: b :: c :: d :: rest) back = fromEnd rest back :=
    fromEnd_append [a, b, c, d] (short.trans long)
  have spells : spelled (a :: b :: c :: d :: rest) = true ↔
      (∀ char ∈ [a, b, c, d], char ∈ alphabet) ∧ spelled rest = true := by
    rw [spelled_cons (by simp), spelled_cons (by simp), spelled_cons (by simp; omega), spelled_cons (by omega)]
    simp [and_assoc]
  constructor
  · rintro ⟨fours, spelled, two, one⟩
    obtain ⟨letters, spelled⟩ := spells.mp spelled
    rw [padding_step long, ends (by decide)] at two one
    exact ⟨letters, length ▸ fours, spelled, two, one⟩
  · rintro ⟨letters, fours, spelled, two, one⟩
    refine ⟨length ▸ fours, spells.mpr ⟨letters, spelled⟩, ?_, ?_⟩
    · rwa [padding_step long, ends (by decide)]
    · rwa [padding_step long, ends (by decide)]

theorem proper_four : Proper [a, b, c, d] ↔ a ∈ alphabet ∧ b ∈ alphabet ∧
    (c ∈ alphabet ∧ d ∈ alphabet ∨ c ∈ alphabet ∧ d = '=' ∧ sextet c % 4 = 0 ∨
      c = '=' ∧ d = '=' ∧ sextet b % 16 = 0) := by
  have spells : spelled [a, b, c, d] = true ↔ a ∈ alphabet ∧ b ∈ alphabet ∧
      (c ∈ alphabet ∧ d ∈ alphabet ∨ c ∈ alphabet ∧ d = '=' ∨ c = '=' ∧ d = '=') := by
    rw [spelled_cons (by simp), spelled_cons (by simp)]
    by_cases third : c ∈ alphabet <;> by_cases last : d ∈ alphabet <;> simp [spelled, third, last]
  constructor
  · rintro ⟨-, spelled, two, one⟩
    obtain ⟨first, second, ⟨third, last⟩ | ⟨third, rfl⟩ | ⟨rfl, rfl⟩⟩ := spells.mp spelled
    · exact ⟨first, second, .inl ⟨third, last⟩⟩
    · have unpadded : c ≠ '=' := ne_of_mem_of_not_mem third pad_not_mem
      exact ⟨first, second, .inr (.inl ⟨third, rfl, one (by simp [padding_four, unpadded])⟩)⟩
    · exact ⟨first, second, .inr (.inr ⟨rfl, rfl, two padding_four⟩)⟩
  · rintro ⟨first, second, ⟨third, last⟩ | ⟨third, rfl, zero⟩ | ⟨rfl, rfl, zero⟩⟩
    · have unpadded : d ≠ '=' := ne_of_mem_of_not_mem last pad_not_mem
      exact ⟨by simp, spells.mpr ⟨first, second, .inl ⟨third, last⟩⟩, by simp [padding_four, unpadded],
        by simp [padding_four, unpadded]⟩
    · have unpadded : c ≠ '=' := ne_of_mem_of_not_mem third pad_not_mem
      exact ⟨by simp, spells.mpr ⟨first, second, .inr (.inl ⟨third, rfl⟩)⟩, by simp [padding_four, unpadded],
        fun _ => zero⟩
    · exact ⟨by simp, spells.mpr ⟨first, second, .inr (.inr ⟨rfl, rfl⟩)⟩, fun _ => zero, by simp [padding_four]⟩

theorem decodedLength_four : decodedLength [a, b, c, d] = 3 - padding [a, b, c, d] := by
  simp [decodedLength]

/-- Letters before a proper text. -/
theorem Proper.after_letters (proper : Proper rest) (letters : ∀ char ∈ [a, b, c, d], char ∈ alphabet) :
    Proper (a :: b :: c :: d :: rest) ∧ decodedLength (a :: b :: c :: d :: rest) = decodedLength rest + 3 := by
  rcases Nat.eq_zero_or_pos rest.length with empty | nonempty
  · cases length_eq_zero_iff.mp empty
    have unpadded : d ≠ '=' := ne_of_mem_of_not_mem (letters d (by simp)) pad_not_mem
    refine ⟨proper_four.mpr ?_, by rw [decodedLength_four, padding_four, if_neg unpadded]; rfl⟩
    exact ⟨letters a (by simp), letters b (by simp), .inl ⟨letters c (by simp), letters d (by simp)⟩⟩
  · have long : 4 ≤ rest.length := by
      have := proper.fours
      omega
    refine ⟨(proper_step long).mpr ⟨letters, proper⟩, ?_⟩
    have := padding_le rest
    simp only [decodedLength, length_cons, padding_step long]
    omega

/-! ### Round trip -/

theorem group_letters (a b c : UInt8) : ∀ char ∈ group a (some b) (some c), char ∈ alphabet := by
  have := a.toNat_lt
  have := b.toNat_lt
  have := c.toNat_lt
  simp only [group_eq, Option.elim, mem_cons, not_mem_nil, or_false, forall_eq_or_imp, forall_eq]
  refine ⟨(sextet_letter ?_).2, (sextet_letter ?_).2, (sextet_letter ?_).2, (sextet_letter ?_).2⟩ <;> omega

theorem proper_two (a b : UInt8) : Proper (group a (some b) none) ∧ decodedLength (group a (some b) none) = 2 := by
  have first := sextet_letter (n := a.toNat / 4) (by have := a.toNat_lt; omega)
  have second := sextet_letter (n := a.toNat % 4 * 16 + b.toNat / 16) (by have := b.toNat_lt; omega)
  have third := sextet_letter (n := b.toNat % 16 * 4) (by omega)
  have unpadded : letter (b.toNat % 16 * 4) ≠ '=' := ne_of_mem_of_not_mem third.2 pad_not_mem
  refine ⟨?_, by simp [group_eq, decodedLength_four, padding_four, unpadded]⟩
  simp [group_eq, proper_four, first, second, third]

theorem proper_one (a : UInt8) : Proper (group a none none) ∧ decodedLength (group a none none) = 1 := by
  have first := sextet_letter (n := a.toNat / 4) (by have := a.toNat_lt; omega)
  have second := sextet_letter (n := a.toNat % 4 * 16) (by omega)
  refine ⟨?_, by simp [group_eq, decodedLength_four, padding_four]⟩
  simp [group_eq, proper_four, first, second]

/-- By induction along the groups of three bytes: an encoding is proper, and its bytes are read back from it. -/
theorem encoded_proper (bytes : Bytes) : Proper (encoded bytes) ∧ decodedLength (encoded bytes) = bytes.length ∧
    decoded bytes.length (encoded bytes) = bytes := by
  fun_induction encoded bytes with
  | case1 a b c rest ih =>
    obtain ⟨proper, length, same⟩ := ih
    obtain ⟨whole, longer⟩ := proper.after_letters (group_letters a b c)
    exact ⟨whole, longer.trans (congrArg (· + 3) length),
      (decoded_three a b c rest.length _).trans (congrArg (a :: b :: c :: ·) same)⟩
  | case2 a b => exact ⟨(proper_two a b).1, (proper_two a b).2, decoded_two a b⟩
  | case3 a => exact ⟨(proper_one a).1, (proper_one a).2, decoded_one a⟩
  | case4 => exact ⟨⟨by simp, rfl, by simp [padding], by simp [padding]⟩, rfl, rfl⟩

/-- By induction along the groups of four letters. -/
theorem exists_encoded : (text : List Char) → Proper text → ∃ bytes, encoded bytes = text
  | [], _ => ⟨[], rfl⟩
  | [_], proper | [_, _], proper | [_, _, _], proper => absurd proper.fours (by simp)
  | [a, b, c, d], proper => by
    obtain ⟨first, second, ⟨third, last⟩ | ⟨third, rfl, zero⟩ | ⟨rfl, rfl, zero⟩⟩ := proper_four.mp proper
    · obtain ⟨x, y, z, same⟩ := exists_three (a := a) (b := b) (c := c) (d := d) (by simp [*])
      exact ⟨[x, y, z], (append_nil _).trans same⟩
    · obtain ⟨x, y, same⟩ := exists_two first second third zero
      exact ⟨[x, y], same⟩
    · obtain ⟨x, same⟩ := exists_one first second zero
      exact ⟨[x], same⟩
  | a :: b :: c :: d :: e :: rest, proper => by
    have long : 4 ≤ (e :: rest).length := by
      have := proper.fours
      simp only [length_cons] at this ⊢
      omega
    obtain ⟨letters, proper⟩ := (proper_step long).mp proper
    obtain ⟨x, y, z, same⟩ := exists_three letters
    obtain ⟨bytes, later⟩ := exists_encoded (e :: rest) proper
    exact ⟨x :: y :: z :: bytes, by rw [encoded, same, later]; rfl⟩

/-- Decoding and encoding are inverse to each other: a payload within the limit is read back, and a text is read as
some bytes only if they are encoded as this text. -/
theorem bridge_bytes_round_trip (bytes : Bytes) (text : List Char) :
    (bytes.length ≤ maxPayloadBytes ↔ (encodeBridgeBytes bytes).bind decodeBridgeBytes = some bytes) ∧
    (decodeBridgeBytes text = some bytes ↔ encodeBridgeBytes bytes = some text) := by
  obtain ⟨proper, length, same⟩ := encoded_proper bytes
  have back (small : bytes.length ≤ maxPayloadBytes) : decodeBridgeBytes (encoded bytes) = some bytes :=
    decode_eq_some.mpr ⟨proper, length.le.trans small, (congrArg (decoded · _) length).trans same⟩
  refine ⟨⟨fun small => ?_, fun read => ?_⟩, fun read => ?_, fun written => ?_⟩
  · rw [encodeBridgeBytes, if_neg (not_lt.mpr small)]
    exact back small
  · by_contra long
    simp [encodeBridgeBytes, not_le.mp long] at read
  · obtain ⟨accepted, small, here⟩ := decode_eq_some.mp read
    obtain ⟨others, rfl⟩ := exists_encoded text accepted
    obtain ⟨-, length, same⟩ := encoded_proper others
    rw [length] at small here
    obtain rfl : others = bytes := same.symm.trans here
    exact if_neg (not_lt.mpr small)
  · unfold encodeBridgeBytes at written
    split_ifs at written with long
    cases written
    exact back (not_lt.mp long)

end Cove.Client.BridgeBytes

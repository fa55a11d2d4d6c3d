import FfiBindings.Text.Utf8
import Mathlib.Data.List.Basic

/-!
# Texts and their bytes

Decoding undoes encoding, and only the encoding of a text decodes to it: the bytes that a text is
read from are the bytes it would be written as. Both laws hold character by character, since a lead
byte announces how many bytes follow and its narrowed ranges leave each code point one spelling.

The bytes of two texts in a row are those of the first and then those of the second. So bytes can be
cut wherever their text can, and such an offset is one at which no character is in the middle.
-/

namespace FfiBindings.Utf8

/-- The code point of a character is below the surrogates or above them. -/
theorem toNat_scalar (c : Char) :
    c.toNat < 0xD800 ∨ (0xDFFF < c.toNat ∧ c.toNat < 0x110000) := c.valid

theorem toNat_byte {n : Nat} (small : n < 256) : (UInt8.ofNat n).toNat = n := by
  simp only [UInt8.toNat_ofNat', Nat.reducePow]
  omega

theorem byte_eq {n : Nat} {b : UInt8} (same : n = b.toNat) : UInt8.ofNat n = b := by
  rw [same, UInt8.ofNat_toNat]

theorem toNat_ofNat_scalar {code : Nat}
    (scalar : code < 0xD800 ∨ (0xDFFF < code ∧ code < 0x110000)) : (Char.ofNat code).toNat = code := by
  have valid : code.isValidChar := scalar
  rw [Char.ofNat, dif_pos valid]
  rfl

/-- A lead byte whose second byte is in range takes as many further bytes as it announces. -/
theorem next_of_leadForm {b second : UInt8} {low high more : Nat} (rest : Bytes)
    (form : leadForm b.toNat = some (low, high, more)) (least : low ≤ second.toNat)
    (most : second.toNat ≤ high) :
    next b (second :: rest) =
      continuation more (leadValue b.toNat * 64 + second.toNat % 64) [b, second] rest := by
  have large : ¬ b.toNat < 0x80 := by
    intro small
    rw [leadForm, if_pos (by omega)] at form
    contradiction
  unfold next
  simp only [if_neg large, form, least, most, decide_true, Bool.and_self, if_true]

/-- A byte that goes on with a character. -/
def IsContinuation (b : UInt8) : Prop := 0x80 ≤ b.toNat ∧ b.toNat ≤ 0xBF

/-- A continuation byte is read onto the value. -/
theorem continuation_byte {more value : Nat} {seen : Bytes} {b : UInt8} (rest : Bytes)
    (goesOn : IsContinuation b) :
    continuation (more + 1) value seen (b :: rest) =
      continuation more (value * 64 + b.toNat % 64) (seen ++ [b]) rest := by
  have inside : (decide (0x80 ≤ b.toNat) && decide (b.toNat ≤ 0xBF)) = true := by
    simp [goesOn.1, goesOn.2]
  rw [continuation, if_pos inside]

/-- A continuation byte that holds the last six bits of a number is read as these. -/
theorem continuation_six (n more value : Nat) (seen rest : Bytes) :
    continuation (more + 1) value seen (UInt8.ofNat (0x80 + n % 64) :: rest) =
      continuation more (value * 64 + n % 64) (seen ++ [UInt8.ofNat (0x80 + n % 64)]) rest := by
  have byte := toNat_byte (n := 0x80 + n % 64) (by omega)
  have low : (0x80 + n % 64) % 64 = n % 64 := by omega
  rw [continuation_byte _ ⟨by omega, by omega⟩, byte, low]

/-- What a lead byte announces, by the length of the character it begins. The narrowed ranges of the
second byte belong to the least and the greatest code points of their length, and to the gap of the
surrogates. -/
theorem leadForm_cases {lead low high more : Nat}
    (form : leadForm lead = some (low, high, more)) :
    (0xC2 ≤ lead ∧ lead ≤ 0xDF ∧ 0x80 ≤ low ∧ high ≤ 0xBF ∧ more = 0) ∨
    (0xE0 ≤ lead ∧ lead ≤ 0xEF ∧ 0x80 ≤ low ∧ high ≤ 0xBF ∧ (lead = 0xE0 → 0xA0 ≤ low) ∧
      (lead = 0xED → high ≤ 0x9F) ∧ more = 1) ∨
    (0xF0 ≤ lead ∧ lead ≤ 0xF4 ∧ 0x80 ≤ low ∧ high ≤ 0xBF ∧ (lead = 0xF0 → 0x90 ≤ low) ∧
      (lead = 0xF4 → high ≤ 0x8F) ∧ more = 2) := by
  unfold leadForm at form
  simp only [beq_iff_eq] at form
  split_ifs at form <;> simp only [Option.some.injEq, Prod.mk.injEq] at form <;> omega

theorem leadForm_two {lead : Nat} (least : 0xC2 ≤ lead) (most : lead ≤ 0xDF) :
    leadForm lead = some (0x80, 0xBF, 0) := by
  unfold leadForm
  rw [if_neg (by omega), if_pos most]

theorem leadForm_three {lead : Nat} (least : 0xE0 ≤ lead) (most : lead ≤ 0xEF) :
    leadForm lead =
      some (if lead = 0xE0 then 0xA0 else 0x80, if lead = 0xED then 0x9F else 0xBF, 1) := by
  unfold leadForm
  simp only [beq_iff_eq]
  grind

theorem leadForm_four {lead : Nat} (least : 0xF0 ≤ lead) (most : lead ≤ 0xF4) :
    leadForm lead =
      some (if lead = 0xF0 then 0x90 else 0x80, if lead = 0xF4 then 0x8F else 0xBF, 2) := by
  unfold leadForm
  simp only [beq_iff_eq]
  grind

/-! ### Reading the bytes of a character -/

theorem next_two {code : Nat} (large : 0x80 ≤ code) (small : code < 0x800) (rest : Bytes) :
    next (UInt8.ofNat (0xC0 + code / 64)) (UInt8.ofNat (0x80 + code % 64) :: rest) =
      (.char (Char.ofNat code), rest) := by
  have lead := toNat_byte (n := 0xC0 + code / 64) (by omega)
  have second := toNat_byte (n := 0x80 + code % 64) (by omega)
  have form : leadForm (0xC0 + code / 64) = _ := leadForm_two (by omega) (by omega)
  rw [next_of_leadForm rest (lead.symm ▸ form) (by omega) (by omega), continuation, lead, second,
    leadValue, if_pos (by omega)]
  have value : (0xC0 + code / 64) % 32 * 64 + (0x80 + code % 64) % 64 = code := by omega
  rw [value]

theorem next_three {code : Nat} (large : 0x800 ≤ code) (small : code < 0x10000)
    (scalar : code < 0xD800 ∨ 0xDFFF < code) (rest : Bytes) :
    next (UInt8.ofNat (0xE0 + code / 4096))
        (UInt8.ofNat (0x80 + code / 64 % 64) :: UInt8.ofNat (0x80 + code % 64) :: rest) =
      (.char (Char.ofNat code), rest) := by
  have lead := toNat_byte (n := 0xE0 + code / 4096) (by omega)
  have second := toNat_byte (n := 0x80 + code / 64 % 64) (by omega)
  have form : leadForm (0xE0 + code / 4096) = _ := leadForm_three (by omega) (by omega)
  rw [next_of_leadForm _ (lead.symm ▸ form) (by split <;> omega) (by split <;> omega),
    continuation_six, continuation, lead, second, leadValue, if_neg (by omega), if_pos (by omega)]
  have value : ((0xE0 + code / 4096) % 16 * 64 + (0x80 + code / 64 % 64) % 64) * 64 + code % 64 =
      code := by omega
  rw [value]

theorem next_four {code : Nat} (large : 0x10000 ≤ code) (small : code < 0x110000) (rest : Bytes) :
    next (UInt8.ofNat (0xF0 + code / 262144))
        (UInt8.ofNat (0x80 + code / 4096 % 64) :: UInt8.ofNat (0x80 + code / 64 % 64) ::
          UInt8.ofNat (0x80 + code % 64) :: rest) =
      (.char (Char.ofNat code), rest) := by
  have lead := toNat_byte (n := 0xF0 + code / 262144) (by omega)
  have second := toNat_byte (n := 0x80 + code / 4096 % 64) (by omega)
  have form : leadForm (0xF0 + code / 262144) = _ := leadForm_four (by omega) (by omega)
  rw [next_of_leadForm _ (lead.symm ▸ form) (by split <;> omega) (by split <;> omega),
    continuation_six, continuation_six, continuation, lead, second, leadValue, if_neg (by omega),
    if_neg (by omega)]
  have value : (((0xF0 + code / 262144) % 8 * 64 + (0x80 + code / 4096 % 64) % 64) * 64 +
      code / 64 % 64) * 64 + code % 64 = code := by omega
  rw [value]

/-- The bytes of a character are read as that character, whatever follows. -/
theorem next_encodeChar (c : Char) :
    ∃ b more, encodeChar c = b :: more ∧ ∀ rest, next b (more ++ rest) = (.char c, rest) := by
  have scalar := toNat_scalar c
  unfold encodeChar
  dsimp only
  split_ifs with one two three
  · refine ⟨_, _, rfl, fun rest => ?_⟩
    unfold next
    rw [toNat_byte (by omega), if_pos one, Char.ofNat_toNat, List.nil_append]
  · refine ⟨_, _, rfl, fun rest => ?_⟩
    exact (next_two (by omega) two rest).trans (by rw [Char.ofNat_toNat])
  · refine ⟨_, _, rfl, fun rest => ?_⟩
    exact (next_three (by omega) three (by omega) rest).trans (by rw [Char.ofNat_toNat])
  · refine ⟨_, _, rfl, fun rest => ?_⟩
    exact (next_four (by omega) (by omega) rest).trans (by rw [Char.ofNat_toNat])

/-- The pieces of an encoded text are its characters. -/
theorem pieces_encode (text : Text) : pieces (encode text) = text.map .char := by
  induction text with
  | nil => rw [encode, List.flatMap_nil, pieces, List.map_nil]
  | cons c rest inductionHypothesis =>
    obtain ⟨b, more, spelled, read⟩ := next_encodeChar c
    have cut : encode (c :: rest) = b :: (more ++ encode rest) := by
      rw [encode, List.flatMap_cons, spelled, List.cons_append, encode]
    rw [cut, pieces, read, inductionHypothesis, List.map_cons]

/-- Every text is read back from its bytes. -/
theorem decode?_encode (text : Text) : decode? (encode text) = some text := by
  rw [decode?, pieces_encode]
  induction text with
  | nil => rfl
  | cons c rest inductionHypothesis =>
    rw [List.map_cons, List.mapM_cons, inductionHypothesis]
    rfl

/-- Every text is shown as it is from its bytes. -/
theorem decodeLossy_encode (text : Text) : decodeLossy (encode text) = text := by
  rw [decodeLossy, pieces_encode, List.map_map]
  exact List.map_id text

/-! ### Writing the bytes of a character -/

/-- Where a continuation ends in a character, each of its bytes was in range. -/
theorem continuation_inv {more value : Nat} {seen rest after : Bytes} {c : Char}
    (read : continuation (more + 1) value seen rest = (.char c, after)) :
    ∃ b tail, rest = b :: tail ∧ IsContinuation b ∧
      continuation more (value * 64 + b.toNat % 64) (seen ++ [b]) tail = (.char c, after) := by
  cases rest with
  | nil => simp [continuation] at read
  | cons b tail =>
    rw [continuation] at read
    split at read
    · next inside =>
      simp only [Bool.and_eq_true, decide_eq_true_eq] at inside
      exact ⟨b, tail, rfl, inside, read⟩
    · simp at read

theorem encodeChar_two {b second : UInt8} (least : 0xC2 ≤ b.toNat) (most : b.toNat ≤ 0xDF)
    (inSecond : IsContinuation second) :
    encodeChar (Char.ofNat (b.toNat % 32 * 64 + second.toNat % 64)) = [b, second] := by
  obtain ⟨secondLeast, secondMost⟩ := inSecond
  have code : (Char.ofNat (b.toNat % 32 * 64 + second.toNat % 64)).toNat = _ :=
    toNat_ofNat_scalar (by omega)
  simp only [encodeChar, code]
  rw [if_neg (by omega), if_pos (by omega), byte_eq (b := b) (by omega),
    byte_eq (b := second) (by omega)]

theorem encodeChar_three {b second third : UInt8} (least : 0xE0 ≤ b.toNat) (most : b.toNat ≤ 0xEF)
    (narrowLow : b.toNat = 0xE0 → 0xA0 ≤ second.toNat)
    (narrowHigh : b.toNat = 0xED → second.toNat ≤ 0x9F) (inSecond : IsContinuation second)
    (inThird : IsContinuation third) :
    encodeChar (Char.ofNat ((b.toNat % 16 * 64 + second.toNat % 64) * 64 + third.toNat % 64)) =
      [b, second, third] := by
  obtain ⟨secondLeast, secondMost⟩ := inSecond
  obtain ⟨thirdLeast, thirdMost⟩ := inThird
  have code : (Char.ofNat ((b.toNat % 16 * 64 + second.toNat % 64) * 64 +
      third.toNat % 64)).toNat = _ := toNat_ofNat_scalar (by omega)
  simp only [encodeChar, code]
  rw [if_neg (by omega), if_neg (by omega), if_pos (by omega), byte_eq (b := b) (by omega),
    byte_eq (b := second) (by omega), byte_eq (b := third) (by omega)]

theorem encodeChar_four {b second third fourth : UInt8} (least : 0xF0 ≤ b.toNat)
    (most : b.toNat ≤ 0xF4) (narrowLow : b.toNat = 0xF0 → 0x90 ≤ second.toNat)
    (narrowHigh : b.toNat = 0xF4 → second.toNat ≤ 0x8F) (inSecond : IsContinuation second)
    (inThird : IsContinuation third) (inFourth : IsContinuation fourth) :
    encodeChar (Char.ofNat (((b.toNat % 8 * 64 + second.toNat % 64) * 64 + third.toNat % 64) * 64 +
      fourth.toNat % 64)) = [b, second, third, fourth] := by
  obtain ⟨secondLeast, secondMost⟩ := inSecond
  obtain ⟨thirdLeast, thirdMost⟩ := inThird
  obtain ⟨fourthLeast, fourthMost⟩ := inFourth
  have code : (Char.ofNat (((b.toNat % 8 * 64 + second.toNat % 64) * 64 +
      third.toNat % 64) * 64 + fourth.toNat % 64)).toNat = _ := toNat_ofNat_scalar (by omega)
  simp only [encodeChar, code]
  rw [if_neg (by omega), if_neg (by omega), if_neg (by omega), byte_eq (b := b) (by omega),
    byte_eq (b := second) (by omega), byte_eq (b := third) (by omega),
    byte_eq (b := fourth) (by omega)]

/-- A piece that is a character was read from the bytes of that character. -/
theorem encodeChar_of_next {b : UInt8} {rest after : Bytes} {c : Char}
    (read : next b rest = (.char c, after)) : b :: rest = encodeChar c ++ after := by
  unfold next at read
  split at read
  · next one =>
    obtain ⟨rfl, rfl⟩ := by simpa using read
    have code : (Char.ofNat b.toNat).toNat = b.toNat := toNat_ofNat_scalar (by omega)
    simp only [encodeChar, code, if_pos one, UInt8.ofNat_toNat, List.singleton_append]
  · next large =>
    split at read
    · next low high more second tail form =>
      split at read
      · next inside =>
        simp only [Bool.and_eq_true, decide_eq_true_eq] at inside
        rcases leadForm_cases form with two | three | four
        · obtain ⟨least, most, lowest, highest, rfl⟩ := two
          obtain ⟨rfl, rfl⟩ := by simpa [continuation] using read
          rw [leadValue, if_pos (by omega), encodeChar_two least most ⟨by omega, by omega⟩]
          rfl
        · obtain ⟨least, most, lowest, highest, narrowLow, narrowHigh, rfl⟩ := three
          obtain ⟨third, tail, rfl, inThird, read⟩ := continuation_inv read
          obtain ⟨rfl, rfl⟩ := by simpa [continuation] using read
          rw [leadValue, if_neg (by omega), if_pos (by omega), encodeChar_three least most
            (by omega) (by omega) ⟨by omega, by omega⟩ inThird]
          rfl
        · obtain ⟨least, most, lowest, highest, narrowLow, narrowHigh, rfl⟩ := four
          obtain ⟨third, tail, rfl, inThird, read⟩ := continuation_inv read
          obtain ⟨fourth, tail, rfl, inFourth, read⟩ := continuation_inv read
          obtain ⟨rfl, rfl⟩ := by simpa [continuation] using read
          rw [leadValue, if_neg (by omega), if_neg (by omega), encodeChar_four least most
            (by omega) (by omega) ⟨by omega, by omega⟩ inThird inFourth]
          rfl
      · simp at read
    · simp at read

/-- The bytes that a text is read from are those of the text. -/
theorem encode_of_decode? {bytes : Bytes} {text : Text} (read : decode? bytes = some text) :
    encode text = bytes := by
  unfold decode? at read
  fun_induction pieces bytes generalizing text with
  | case1 =>
    obtain rfl := by simpa using read
    rfl
  | case2 b rest inductionHypothesis =>
    rw [List.mapM_cons] at read
    cases piece : (next b rest).1 with
    | broken bytes => simp [piece, Piece.char?] at read
    | char c =>
      cases later : (pieces (next b rest).2).mapM Piece.char? with
      | none => simp [piece, Piece.char?, later] at read
      | some tail =>
        obtain rfl : c :: tail = text := by simpa [piece, Piece.char?, later] using read
        have first : next b rest = (.char c, (next b rest).2) := by rw [← piece]
        rw [encodeChar_of_next first, encode, List.flatMap_cons, ← encode,
          inductionHypothesis later]

/-- A byte of ASCII stands for its character wherever it is found. -/
theorem toNat_of_mem_encodeChar {c : Char} {b : UInt8} (member : b ∈ encodeChar c)
    (ascii : b.toNat < 0x80) : c.toNat = b.toNat := by
  have large {n : Nat} (small : n < 0x100) (high : 0x80 ≤ n) : b ≠ UInt8.ofNat n := by
    rintro rfl
    rw [toNat_byte small] at ascii
    omega
  have valid := toNat_scalar c
  unfold encodeChar at member
  dsimp only at member
  split at member
  · next one =>
    rw [List.mem_singleton.mp member, toNat_byte (by omega)]
  · split at member
    · have lead := large (n := 0xC0 + c.toNat / 64) (by omega) (by omega)
      have last := large (n := 0x80 + c.toNat % 64) (by omega) (by omega)
      simp only [List.mem_cons, List.not_mem_nil, or_false, lead, last] at member
    · have last := large (n := 0x80 + c.toNat % 64) (by omega) (by omega)
      have third := large (n := 0x80 + c.toNat / 64 % 64) (by omega) (by omega)
      split at member
      · have lead := large (n := 0xE0 + c.toNat / 4096) (by omega) (by omega)
        simp only [List.mem_cons, List.not_mem_nil, or_false, lead, third, last] at member
      · have lead := large (n := 0xF0 + c.toNat / 262144) (by omega) (by omega)
        have second := large (n := 0x80 + c.toNat / 4096 % 64) (by omega) (by omega)
        simp only [List.mem_cons, List.not_mem_nil, or_false, lead, second, third, last] at member

/-! ### Cutting the bytes of a text -/

theorem encode_append (front back : Text) : encode (front ++ back) = encode front ++ encode back :=
  List.flatMap_append

/-- A byte of ASCII among the bytes of a text is a character of the text, and the bytes on its sides are
those of the text on its sides. -/
theorem exists_cut_of_ascii {b : UInt8} (ascii : b.toNat < 0x80) {text : Text} {front back : Bytes}
    (spelled : encode text = front ++ b :: back) :
    ∃ before after, text = before ++ Char.ofNat b.toNat :: after ∧ front = encode before ∧
      back = encode after := by
  induction text generalizing front with
  | nil => simp [encode] at spelled
  | cons c rest inductionHypothesis =>
    have whole : encodeChar c ++ encode rest = front ++ b :: back := spelled
    rcases List.append_eq_append_iff.mp whole with ⟨later, rfl, restSpelled⟩ | ⟨ahead, isFirst, tail⟩
    · obtain ⟨before, after, rfl, rfl, rfl⟩ := inductionHypothesis restSpelled
      exact ⟨c :: before, after, rfl, rfl, rfl⟩
    · rcases ahead with - | ⟨first, others⟩
      · have restSpelled : encode rest = [] ++ b :: back := tail.symm
        obtain ⟨before, after, rfl, empty, rfl⟩ := inductionHypothesis restSpelled
        refine ⟨c :: before, after, rfl, ?_, rfl⟩
        rw [encode, List.flatMap_cons, ← encode, ← empty, isFirst, List.append_nil, List.append_nil]
      · -- The byte lies in the bytes of the first character, which is therefore its only one.
        obtain ⟨rfl, restTail⟩ := List.cons.inj tail
        have code : c.toNat = b.toNat := toNat_of_mem_encodeChar (by simp [isFirst]) ascii
        have single : front ++ b :: others = [b] := by
          simp only [← isFirst, encodeChar, code, if_pos ascii, UInt8.ofNat_toNat]
        rcases List.append_eq_singleton_iff.mp single with ⟨rfl, alone⟩ | ⟨-, none⟩
        · rw [(List.cons.inj alone).2] at restTail
          exact ⟨[], rest, by rw [← code, Char.ofNat_toNat]; rfl, rfl, restTail⟩
        · contradiction

/-- An offset at which bytes can be cut: their end, or that of a byte which does not go on with a
character. -/
def IsBoundary (bytes : Bytes) (offset : Nat) : Prop :=
  offset = bytes.length ∨ ∃ b, bytes[offset]? = some b ∧ (b.toNat < 0x80 ∨ 0xC0 ≤ b.toNat)

/-- The first byte of a character goes on with none. -/
theorem exists_first_byte (c : Char) :
    ∃ b more, encodeChar c = b :: more ∧ (b.toNat < 0x80 ∨ 0xC0 ≤ b.toNat) := by
  have scalar := toNat_scalar c
  unfold encodeChar
  dsimp only
  split_ifs
  · exact ⟨_, _, rfl, .inl (by rw [toNat_byte (by omega)]; omega)⟩
  all_goals exact ⟨_, _, rfl, .inr (by rw [toNat_byte (by omega)]; omega)⟩

/-- A text has no more characters than bytes. -/
theorem length_le_encode (text : Text) : text.length ≤ (encode text).length := by
  induction text with
  | nil => exact Nat.le_refl 0
  | cons c rest inductionHypothesis =>
    obtain ⟨b, more, spelled, -⟩ := exists_first_byte c
    rw [encode, List.flatMap_cons, ← encode, spelled, List.length_append, List.length_cons,
      List.length_cons]
    omega

/-- What it means to cut the bytes of a text at an offset: it is a boundary, and the bytes on its sides
are those of two texts. -/
structure CutsAt (text : Text) (offset : Nat) (front back : Text) : Prop where
  boundary : IsBoundary (encode text) offset
  front : (encode text).take offset = encode front
  back : (encode text).drop offset = encode back

/-- Texts in a row can be cut apart. -/
theorem cutsAt_append (front back : Text) :
    CutsAt (front ++ back) (encode front).length front back where
  boundary := by
    rw [encode_append, IsBoundary]
    cases back with
    | nil => simp [encode]
    | cons c rest =>
      obtain ⟨b, more, spelled, first⟩ := exists_first_byte c
      refine .inr ⟨b, ?_, first⟩
      rw [encode, encode, List.flatMap_cons, spelled, List.getElem?_append_right (Nat.le_refl _)]
      simp
  front := by rw [encode_append, List.take_left']; rfl
  back := by rw [encode_append, List.drop_left']; rfl

end FfiBindings.Utf8

import Bindings.Text.Utf8

/-! A text is read back from its bytes. -/

set_option autoImplicit false

namespace Bindings.Text.Utf8

section Bytes
variable {n : Nat}

theorem toNat_ofNat_of_lt (small : n < 256) : (UInt8.ofNat n).toNat = n := by
  rw [UInt8.toNat_ofNat']
  omega

theorem ofNat_eq_iff {m : Nat} (small : n < 256) (inside : m < 256) :
    UInt8.ofNat n = UInt8.ofNat m ↔ n = m := by
  rw [← UInt8.toNat_inj, toNat_ofNat_of_lt small, toNat_ofNat_of_lt inside]

theorem ofNat_le_iff {m : Nat} (small : n < 256) (inside : m < 256) :
    UInt8.ofNat n ≤ UInt8.ofNat m ↔ n ≤ m := by
  rw [UInt8.le_iff_toNat_le, toNat_ofNat_of_lt small, toNat_ofNat_of_lt inside]

theorem isTail_ofNat (small : n < 256) : isTail (UInt8.ofNat n) = true ↔ 0x80 ≤ n ∧ n ≤ 0xbf := by
  rw [isTail, Bool.and_eq_true, decide_eq_true_eq, decide_eq_true_eq]
  exact and_congr (ofNat_le_iff (n := 0x80) (by decide) small)
    (ofNat_le_iff (m := 0xbf) small (by decide))

theorem extraOf?_ofNat (small : n < 256) : extraOf? (UInt8.ofNat n) =
    if n < 0x80 then some 0
    else if 0xc2 ≤ n ∧ n ≤ 0xdf then some 1
    else if 0xe0 ≤ n ∧ n ≤ 0xef then some 2
    else if 0xf0 ≤ n ∧ n ≤ 0xf4 then some 3
    else none := by
  simp only [extraOf?, UInt8.lt_iff_toNat_lt, UInt8.le_iff_toNat_le, toNat_ofNat_of_lt small,
    Bool.and_eq_true, decide_eq_true_eq]
  rfl

/-- The least second byte after a first one, and the greatest, as numbers. -/
theorem secondRange_ofNat (small : n < 256) : secondRange (UInt8.ofNat n) =
    (UInt8.ofNat (if n = 0xe0 then 0xa0 else if n = 0xf0 then 0x90 else 0x80),
      UInt8.ofNat (if n = 0xed then 0x9f else if n = 0xf4 then 0x8f else 0xbf)) := by
  have e0 : UInt8.ofNat n = 0xe0 ↔ n = 0xe0 := ofNat_eq_iff small (by decide)
  have ed : UInt8.ofNat n = 0xed ↔ n = 0xed := ofNat_eq_iff small (by decide)
  have f0 : UInt8.ofNat n = 0xf0 ↔ n = 0xf0 := ofNat_eq_iff small (by decide)
  have f4 : UInt8.ofNat n = 0xf4 ↔ n = 0xf4 := ofNat_eq_iff small (by decide)
  simp only [secondRange, e0, ed, f0, f4]
  by_cases h0 : n = 0xe0
  · subst h0; rfl
  by_cases hd : n = 0xed
  · subst hd; rfl
  by_cases h4 : n = 0xf0
  · subst h4; rfl
  by_cases h5 : n = 0xf4
  · subst h5; rfl
  simp only [h0, hd, h4, h5, if_false]
  rfl

end Bytes

/-- What a byte after the first one adds to the value of a character. -/
theorem tails_encoded (missing passed value part : Nat) (rest : Bytes) :
    tails (missing + 1) passed value (UInt8.ofNat (part % 64 + 128) :: rest) =
      tails missing (passed + 1) (value * 64 + part % 64) rest := by
  have small : part % 64 + 128 < 256 := by omega
  rw [tails, if_pos ((isTail_ofNat small).2 (by omega)), toNat_ofNat_of_lt small]
  congr 2
  omega

theorem head_encoded {n extra part : Nat} (small : n < 256)
    (announced : extraOf? (UInt8.ofNat n) = some (extra + 1))
    (least : (if n = 0xe0 then 0x20 else if n = 0xf0 then 0x10 else 0) ≤ part % 64)
    (greatest : part % 64 ≤ if n = 0xed then 0x1f else if n = 0xf4 then 0x0f else 0x3f)
    (rest : Bytes) :
    head (UInt8.ofNat n) (UInt8.ofNat (part % 64 + 128) :: rest) =
      tails extra 1 (leading (extra + 1) (UInt8.ofNat n) * 64 + part % 64) rest := by
  have second : part % 64 + 128 < 256 := by omega
  have within : ((secondRange (UInt8.ofNat n)).1 ≤ UInt8.ofNat (part % 64 + 128) &&
      UInt8.ofNat (part % 64 + 128) ≤ (secondRange (UInt8.ofNat n)).2) = true := by
    rw [secondRange_ofNat small, Bool.and_eq_true, decide_eq_true_eq, decide_eq_true_eq]
    constructor
    · rw [ofNat_le_iff (by grind) second]
      grind
    · rw [ofNat_le_iff second (by grind)]
      grind
  rw [head, announced]
  dsimp only
  rw [if_pos within, toNat_ofNat_of_lt second]
  congr 2
  omega

/-- The head of what a character is encoded as is the character, whatever follows. -/
theorem exists_head_encoded (c : Char) (rest : Bytes) : ∃ first others,
    String.utf8EncodeChar c = first :: others ∧
      head first (others ++ rest) = .char c others.length := by
  have valid : c.val.toNat < 0xd800 ∨ 0xdfff < c.val.toNat ∧ c.val.toNat < 0x110000 := c.valid
  have back : Char.ofNat c.val.toNat = c := Char.ofNat_toNat c
  rw [String.utf8EncodeChar]
  generalize c.val.toNat = v at valid back
  split
  · next one =>
    refine ⟨_, _, rfl, ?_⟩
    have announced : extraOf? (UInt8.ofNat v) = some 0 := by
      rw [extraOf?_ofNat (by omega), if_pos (by omega)]
    rw [head, announced, toNat_ofNat_of_lt (by omega)]
    exact congrArg (Head.char · 0) back
  split
  · next one two =>
    refine ⟨_, _, rfl, ?_⟩
    have announced : extraOf? (UInt8.ofNat (v / 64 % 32 + 192)) = some 1 := by
      rw [extraOf?_ofNat (by omega), if_neg (by omega), if_pos (by omega)]
    rw [List.singleton_append, head_encoded (by omega) announced (by grind) (by grind), tails,
      leading, toNat_ofNat_of_lt (by omega)]
    have value : (v / 64 % 32 + 192) % 32 * 64 + v % 64 = v := by omega
    rw [value, back]
    rfl
  split
  · next one two three =>
    refine ⟨_, _, rfl, ?_⟩
    have announced : extraOf? (UInt8.ofNat (v / 4096 % 16 + 224)) = some 2 := by
      rw [extraOf?_ofNat (by omega), if_neg (by omega), if_neg (by omega), if_pos (by omega)]
    rw [List.cons_append, List.singleton_append,
      head_encoded (by omega) announced (by grind) (by grind), tails_encoded, tails,
      leading, toNat_ofNat_of_lt (by omega)]
    have value : ((v / 4096 % 16 + 224) % 16 * 64 + v / 64 % 64) * 64 + v % 64 = v := by omega
    rw [value, back]
    rfl
  · next one two three =>
    refine ⟨_, _, rfl, ?_⟩
    have announced : extraOf? (UInt8.ofNat (v / 262144 % 8 + 240)) = some 3 := by
      rw [extraOf?_ofNat (by omega), if_neg (by omega), if_neg (by omega), if_neg (by omega),
        if_pos (by omega)]
    rw [List.cons_append, List.cons_append, List.singleton_append,
      head_encoded (by omega) announced (by grind) (by grind), tails_encoded, tails_encoded, tails,
      leading, toNat_ofNat_of_lt (by omega)]
    · have value : (((v / 262144 % 8 + 240) % 8 * 64 + v / 4096 % 64) * 64 + v / 64 % 64) * 64 +
          v % 64 = v := by omega
      rw [value, back]
      rfl
    all_goals simp

theorem decodeFrom_append (skipped : Bytes) (index : Nat) (rest : Bytes) :
    decodeFrom skipped.length index (skipped ++ rest) =
      decodeFrom 0 (index + skipped.length) rest := by
  induction skipped generalizing index with
  | nil => rfl
  | cons b skipped ih =>
    rw [List.cons_append, List.length_cons, decodeFrom, ih, Nat.add_assoc, Nat.add_comm 1]

theorem decodeFrom_encodeUtf8 (text : List Char) (index : Nat) :
    decodeFrom 0 index (encodeUtf8 text) = .ok text := by
  induction text generalizing index with
  | nil => rfl
  | cons c text ih =>
    obtain ⟨first, others, encoded, heads⟩ := exists_head_encoded c (encodeUtf8 text)
    have split : encodeUtf8 (c :: text) = first :: (others ++ encodeUtf8 text) := by
      rw [encodeUtf8, List.flatMap_cons, encoded]
      rfl
    rw [split, decodeFrom, heads]
    dsimp only
    rw [decodeFrom_append, ih]
    rfl

theorem decode_utf8 (text : String) : decode (utf8 text) = .ok text := by
  rw [decode, utf8, decodeFrom_encodeUtf8, Except.map, String.ofList_toList]

end Bindings.Text.Utf8

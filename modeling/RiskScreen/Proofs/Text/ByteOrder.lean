import RiskScreen.Text.Utf8
import Mathlib.Tactic.SplitIfs

/-!
# The order of texts by their bytes

Texts compare by code point. Their encodings compare by byte, and the two orders are the same:
the first byte of a longer encoding is the larger one, and among encodings of one length the
bytes are the digits of the code point.
-/

namespace RiskScreen.Text.Utf8

theorem ofNat_lt_ofNat_iff {m n : Nat} (hm : m < 256) (hn : n < 256) :
    UInt8.ofNat m < UInt8.ofNat n ↔ m < n := by
  rw [UInt8.lt_iff_toNat_lt, UInt8.toNat_ofNat_of_lt' hm, UInt8.toNat_ofNat_of_lt' hn]

theorem ofNat_eq_ofNat_iff {m n : Nat} (hm : m < 256) (hn : n < 256) :
    UInt8.ofNat m = UInt8.ofNat n ↔ m = n := by
  rw [← UInt8.toNat_inj, UInt8.toNat_ofNat_of_lt' hm, UInt8.toNat_ofNat_of_lt' hn]

/-- The encodings of two characters differ before either of them ends, so what follows them
does not matter. -/
theorem encodeChar_append_lt {c d : Char} (h : c < d) (front back : List UInt8) :
    String.utf8EncodeChar c ++ front < String.utf8EncodeChar d ++ back := by
  have less : c.val.toNat < d.val.toNat := h
  have bound : d.val.toNat < 0x110000 := by
    rcases d.valid with low | high
    · omega
    · exact high.2
  unfold String.utf8EncodeChar
  generalize c.val.toNat = m at *
  generalize d.val.toNat = n at *
  -- The digits of base 64 above the last one, in the form in which `omega` can add them up.
  have digits (k : Nat) : k / 64 / 64 = k / 4096 ∧ k / 4096 / 64 = k / 262144 :=
    ⟨Nat.div_div_eq_div_mul k 64 64, Nat.div_div_eq_div_mul k 4096 64⟩
  have digits_m := digits m
  have digits_n := digits n
  have top_m : m / 262144 % 8 = m / 262144 := by omega
  have top_n : n / 262144 % 8 = n / 262144 := by omega
  dsimp only
  split_ifs
  all_goals
    simp (disch := omega) only [List.cons_append, List.nil_append, List.cons_lt_cons_iff,
      top_m, top_n, ofNat_lt_ofNat_iff, ofNat_eq_ofNat_iff]
    omega

theorem encode_cons (c : Char) (text : List Char) :
    encode (c :: text) = String.utf8EncodeChar c ++ encode text := rfl

theorem encode_lt_encode {front back : List Char} (h : front < back) :
    encode front < encode back := by
  induction front generalizing back with
  | nil =>
    cases back with
    | nil => exact absurd h (List.lt_irrefl [])
    | cons d back =>
      obtain ⟨byte, bytes, first⟩ := List.exists_cons_of_ne_nil
        (String.utf8EncodeChar_ne_nil (c := d))
      rw [encode_cons, first]
      exact List.nil_lt_cons byte (bytes ++ encode back)
  | cons c front ih =>
    cases back with
    | nil => exact absurd h (List.not_lt_nil (c :: front))
    | cons d back =>
      rw [encode_cons, encode_cons]
      rcases List.cons_lt_cons_iff.mp h with less | ⟨rfl, less⟩
      · exact encodeChar_append_lt less (encode front) (encode back)
      · exact List.append_left_lt (ih less)

end RiskScreen.Text.Utf8

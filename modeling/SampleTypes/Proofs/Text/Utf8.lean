/-
The bytes of a text are those of the standard library's encoding, and the text is read back from
them (`decode_encode`).
-/
import SampleTypes.Text.Utf8

namespace SampleTypes.Text.Utf8

/-- A code point is below the seventeenth plane, so no quotient is too large for its byte. -/
theorem map_encodeCode (c : Char) :
    (encodeCode c.toNat).map UInt8.ofNat = String.utf8EncodeChar c := by
  have hc : c.val.toNat < 0x110000 := by
    rcases c.valid with h | ⟨-, h⟩
    · have : c.val.toNat < 0xD800 := h
      omega
    · exact h
  have hv : c.toNat = c.val.toNat := rfl
  simp only [encodeCode, String.utf8EncodeChar, hv]
  generalize c.val.toNat = v at hc
  by_cases h₁ : v < 0x80
  · rw [if_pos h₁, if_pos (by omega)]
    rfl
  by_cases h₂ : v < 0x800
  · rw [if_neg h₁, if_pos h₂, if_neg (by omega), if_pos (by omega)]
    have hlead : 0xC0 + v / 0x40 = v / 64 % 32 + 192 := by omega
    simp only [List.map_cons, List.map_nil, hlead, Nat.add_comm 0x80]
  by_cases h₃ : v < 0x10000
  · rw [if_neg h₁, if_neg h₂, if_pos h₃, if_neg (by omega), if_neg (by omega), if_pos (by omega)]
    have hlead : 0xE0 + v / 0x1000 = v / 4096 % 16 + 224 := by omega
    simp only [List.map_cons, List.map_nil, hlead, Nat.add_comm 0x80]
  · rw [if_neg h₁, if_neg h₂, if_neg h₃, if_neg (by omega), if_neg (by omega), if_neg (by omega)]
    have hlead : 0xF0 + v / 0x40000 = v / 262144 % 8 + 240 := by omega
    simp only [List.map_cons, List.map_nil, hlead, Nat.add_comm 0x80]

theorem encode_eq_toUTF8 (s : String) : encode s = s.toUTF8.data.toList := by
  have hbytes : s.toUTF8 = s.toList.utf8Encode := by
    rw [String.toUTF8_eq_toByteArray, ← String.toByteArray_ofList, String.ofList_toList]
  rw [hbytes, List.utf8Encode, List.toList_data_toByteArray, encode, List.map_flatMap]
  simp only [map_encodeCode]

theorem length_encode (s : String) : (encode s).length = s.utf8ByteSize := by
  rw [encode_eq_toUTF8, Array.length_toList]
  rfl

/-! ## Reading what was written -/

theorem demands_two {k : Nat} (hlow : 2 ≤ k) (hhigh : k < 0x20) :
    demands (0xC0 + k) = some (k, [(0x80, 0xBF)]) := by
  rw [demands, if_neg (by omega), if_pos (by omega), Nat.add_sub_cancel_left]

theorem demands_three : ∀ k < 0x10, demands (0xE0 + k) =
    some (k, [(if k = 0 then 0xA0 else 0x80, if k = 0xD then 0x9F else 0xBF), (0x80, 0xBF)]) := by
  decide

theorem demands_four : ∀ k < 5, demands (0xF0 + k) =
    some (k, [(if k = 0 then 0x90 else 0x80, if k = 4 then 0x8F else 0xBF), (0x80, 0xBF),
      (0x80, 0xBF)]) := by
  decide

theorem toNat_ofNat {n : Nat} (h : n < 256) : (UInt8.ofNat n).toNat = n := by
  rw [UInt8.toNat_ofNat']
  omega

theorem follow_cons {code count low high b : Nat} (bounds : List (Nat × Nat)) (bytes : List UInt8)
    (hb : low ≤ b ∧ b ≤ high) (h : b < 256) :
    follow code count ((low, high) :: bounds) (UInt8.ofNat b :: bytes) =
      follow (code * 0x40 + (b - 0x80)) (count + 1) bounds bytes := by
  rw [follow, toNat_ofNat h, if_pos hb]

/-- The further bytes of a code point go on as the first one demands. -/
theorem follow_encodeCode {n : Nat} (hn : n.isValidChar) :
    ∃ first further code bounds, encodeCode n = first :: further ∧ first < 256 ∧
      demands first = some (code, bounds) ∧
      ∀ rest, follow code 0 bounds (further.map UInt8.ofNat ++ rest) = .complete n rest := by
  unfold Nat.isValidChar at hn
  unfold encodeCode
  by_cases h₁ : n < 0x80
  · rw [if_pos h₁]
    exact ⟨n, [], n, [], rfl, by omega, by rw [demands, if_pos h₁], fun rest => rfl⟩
  by_cases h₂ : n < 0x800
  · rw [if_neg h₁, if_pos h₂]
    refine ⟨_, _, _, _, rfl, by omega, demands_two (by omega) (by omega), fun rest => ?_⟩
    rw [List.map_cons, List.cons_append, follow_cons _ _ (by omega) (by omega), follow,
      List.map_nil, List.nil_append, Follow.complete.injEq]
    exact ⟨by omega, rfl⟩
  by_cases h₃ : n < 0x10000
  · rw [if_neg h₁, if_neg h₂, if_pos h₃]
    refine ⟨_, _, _, _, rfl, by omega, demands_three (n / 0x1000) (by omega), fun rest => ?_⟩
    rw [List.map_cons, List.cons_append, follow_cons _ _ (by split <;> split <;> omega) (by omega),
      List.map_cons, List.cons_append, follow_cons _ _ (by omega) (by omega), follow,
      List.map_nil, List.nil_append, Follow.complete.injEq]
    exact ⟨by omega, rfl⟩
  · rw [if_neg h₁, if_neg h₂, if_neg h₃]
    refine ⟨_, _, _, _, rfl, by omega, demands_four (n / 0x40000) (by omega), fun rest => ?_⟩
    rw [List.map_cons, List.cons_append, follow_cons _ _ (by split <;> split <;> omega) (by omega),
      List.map_cons, List.cons_append, follow_cons _ _ (by omega) (by omega),
      List.map_cons, List.cons_append, follow_cons _ _ (by omega) (by omega), follow,
      List.map_nil, List.nil_append, Follow.complete.injEq]
    exact ⟨by omega, rfl⟩

theorem decodeFrom_cons {b : UInt8} {bytes rest : List UInt8} {code n : Nat}
    {bounds : List (Nat × Nat)} (hb : demands b.toNat = some (code, bounds))
    (hf : follow code 0 bounds bytes = .complete n rest) (position : Nat) :
    decodeFrom position (b :: bytes) =
      (decodeFrom (position + 1 + bounds.length) rest).map (Char.ofNat n :: ·) := by
  rw [decodeFrom]
  simp only [hb]
  split
  · next n' rest' h =>
    rw [hf, Follow.complete.injEq] at h
    obtain ⟨rfl, rfl⟩ := h
    rfl
  · next h => rw [hf] at h; cases h
  · next h => rw [hf] at h; cases h

theorem decodeFrom_flatMap_encodeCode (cs : List Char) (position : Nat) :
    decodeFrom position ((cs.flatMap fun c => encodeCode c.toNat).map UInt8.ofNat) = .ok cs := by
  induction cs generalizing position with
  | nil => rw [List.flatMap_nil, List.map_nil, decodeFrom]
  | cons c rest ih =>
    obtain ⟨first, further, code, bounds, hcode, hfirst, hdemands, hfollow⟩ :=
      follow_encodeCode (n := c.toNat) c.valid
    rw [List.flatMap_cons, hcode, List.map_append, List.map_cons, List.cons_append,
      decodeFrom_cons (by rwa [toNat_ofNat hfirst]) (hfollow _), ih, Except.map, Char.ofNat_toNat]

/-- **A text is read back from its bytes.** -/
theorem decode_encode (s : String) : decode (encode s) = .ok s := by
  rw [decode, encode, decodeFrom_flatMap_encodeCode, Except.map, String.ofList_toList]

end SampleTypes.Text.Utf8

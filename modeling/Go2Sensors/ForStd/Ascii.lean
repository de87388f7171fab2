import Mathlib.Data.List.TakeWhile

/-!
# ASCII text as bytes

A text of ASCII characters has one byte for each character, and the bytes give the
characters back (`chars_toUTF8`). As a C string such a text ends at the first zero byte
after it (`takeWhile_toUTF8_append`).
-/

namespace Ascii

/-- An ASCII character other than the one that ends a C string. -/
def IsText (c : Char) : Prop := c ≠ '\x00' ∧ c.toNat < 128

instance (c : Char) : Decidable (IsText c) := inferInstanceAs (Decidable (_ ∧ _))

variable {s : String} {c : Char}

/-- An ASCII character has one byte. -/
theorem utf8EncodeChar_of_ascii (hc : c.toNat < 128) :
    String.utf8EncodeChar c = [UInt8.ofNat c.toNat] := by
  have hsize : c.utf8Size = 1 := by
    rw [Char.utf8Size_eq_one_iff, UInt32.le_iff_toNat_le]
    exact Nat.le_of_lt_succ hc
  rw [String.utf8EncodeChar_eq_singleton hsize]
  rfl

/-- The bytes of an ASCII text, character by character. -/
theorem toUTF8_eq_map (hs : ∀ c ∈ s.toList, c.toNat < 128) :
    s.toUTF8.data.toList = s.toList.map fun c => UInt8.ofNat c.toNat := by
  have hencode : ∀ cs : List Char, (∀ c ∈ cs, c.toNat < 128) →
      cs.flatMap String.utf8EncodeChar = cs.map fun c => UInt8.ofNat c.toNat := by
    intro cs hcs
    induction cs with
    | nil => rfl
    | cons c cs ih =>
      rw [List.flatMap_cons, utf8EncodeChar_of_ascii (hcs c List.mem_cons_self),
        ih fun c hc => hcs c (List.mem_cons_of_mem _ hc)]
      rfl
  rw [← hencode _ hs, String.toUTF8_eq_toByteArray, ← String.utf8Encode_toList, List.utf8Encode,
    List.data_toByteArray]

/-- The bytes give the characters back. -/
theorem chars_toUTF8 (hs : ∀ c ∈ s.toList, c.toNat < 128) :
    (s.toUTF8.data.toList.map fun b => Char.ofNat b.toNat) = s.toList := by
  have hchar : ∀ c ∈ s.toList, Char.ofNat (UInt8.ofNat c.toNat).toNat = id c := by
    intro c hc
    have hlt : c.toNat < 2 ^ 8 := Nat.lt_trans (hs c hc) (by decide)
    rw [UInt8.toNat_ofNat', Nat.mod_eq_of_lt hlt, Char.ofNat_toNat, id]
  rw [toUTF8_eq_map hs, List.map_map]
  exact (List.map_congr_left hchar).trans (List.map_id _)

/-- As a C string the text goes on into the memory after it, up to a zero byte there. -/
theorem takeWhile_toUTF8_append (hs : ∀ c ∈ s.toList, IsText c) (memory : List UInt8) :
    (s.toUTF8.data.toList ++ memory).takeWhile (· != 0) =
      s.toUTF8.data.toList ++ memory.takeWhile (· != 0) := by
  apply List.takeWhile_append_of_pos
  intro b hb
  rw [toUTF8_eq_map fun c hc => (hs c hc).2] at hb
  obtain ⟨c, hc, rfl⟩ := List.mem_map.mp hb
  obtain ⟨hne, hlt⟩ := hs c hc
  rw [bne_iff_ne]
  intro hzero
  have hnat : c.toNat % 2 ^ 8 = 0 := by
    rw [← UInt8.toNat_ofNat', hzero]
    rfl
  have hzero' : c.toNat = 0 := by omega
  exact hne (Char.toNat_inj.mp hzero')

end Ascii

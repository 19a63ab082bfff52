import Mathlib
import XmlAudit.Text.Utf8

/-!
# Reading back UTF-8

* `Utf8.scan_encodeChar`: the bytes of a character are scanned as that character.
* `Utf8.decode_encode`: the bytes of a text spell that text.
* `Utf8.decodeLossy_append`: so do they before other bytes, valid or not.
-/

namespace XmlAudit.Text.Utf8

variable {n : Nat} {bs : List UInt8}

/-! ## Bytes as numbers -/

theorem toNat_ofNat (h : n < 256) : (UInt8.ofNat n).toNat = n := UInt8.toNat_ofNat_of_lt' h

/-- A byte of ASCII is a character. -/
theorem lead_ascii (h : n < 0x80) : lead (UInt8.ofNat n) = .complete (Char.ofNat n) := by
  have hn : (UInt8.ofNat n).toNat = n := toNat_ofNat (by omega)
  rw [lead, if_pos (by rw [UInt8.lt_iff_toNat_lt, hn]; exact h), hn]

/-- The first of two bytes. -/
theorem lead_two (h : 2 ≤ n) (h' : n < 32) :
    lead (UInt8.ofNat (n + 0xC0)) = .starts ⟨n, 1, 0x80, 0xBF⟩ := by
  have hn : (UInt8.ofNat (n + 0xC0)).toNat = n + 0xC0 := toNat_ofNat (by omega)
  simp only [lead, UInt8.lt_iff_toNat_lt, hn]
  rw [if_neg (by simp), if_neg (by simp; omega), if_pos (by simp; omega), Nat.add_sub_cancel]

/-- The first of three bytes. -/
theorem lead_three (h : n < 16) :
    lead (UInt8.ofNat (n + 0xE0)) =
      .starts ⟨n, 2, if n = 0 then 0xA0 else 0x80, if n = 13 then 0x9F else 0xBF⟩ := by
  have hn : (UInt8.ofNat (n + 0xE0)).toNat = n + 0xE0 := toNat_ofNat (by omega)
  simp only [lead, UInt8.lt_iff_toNat_lt, hn, ← UInt8.toNat_inj]
  rw [if_neg (by simp), if_neg (by simp), if_neg (by simp), if_pos (by simp; omega),
    Nat.add_sub_cancel]
  congr 3 <;> simp

/-- The first of four bytes. -/
theorem lead_four (h : n < 5) :
    lead (UInt8.ofNat (n + 0xF0)) =
      .starts ⟨n, 3, if n = 0 then 0x90 else 0x80, if n = 4 then 0x8F else 0xBF⟩ := by
  have hn : (UInt8.ofNat (n + 0xF0)).toNat = n + 0xF0 := toNat_ofNat (by omega)
  simp only [lead, UInt8.lt_iff_toNat_lt, hn, ← UInt8.toNat_inj]
  rw [if_neg (by simp), if_neg (by simp), if_neg (by simp), if_neg (by simp),
    if_pos (by simp; omega), Nat.add_sub_cancel]
  congr 3 <;> simp

/-- A byte after the first one adds six bits. -/
theorem scan_tail {p : Pending} (h : n < 64) (hlow : p.low.toNat ≤ n + 0x80)
    (hhigh : n + 0x80 ≤ p.high.toNat) :
    scan (some p) (UInt8.ofNat (n + 0x80) :: bs) =
      if p.owed ≤ 1 then some (Char.ofNat (p.bits * 64 + n)) :: scan none bs
      else scan (some ⟨p.bits * 64 + n, p.owed - 1, 0x80, 0xBF⟩) bs := by
  have hn : (UInt8.ofNat (n + 0x80)).toNat = n + 0x80 := toNat_ofNat (by omega)
  simp only [scan, UInt8.le_iff_toNat_le, hn]
  rw [if_pos ⟨hlow, hhigh⟩, Nat.add_sub_cancel]

/-! ## Characters and texts -/

/-- **The bytes of a character are scanned as that character.** -/
theorem scan_encodeChar (c : Char) :
    scan none (String.utf8EncodeChar c ++ bs) = some c :: scan none bs := by
  have hc : Char.ofNat c.val.toNat = c := Char.ofNat_toNat c
  have hvalid : c.val.toNat < 0xD800 ∨ 0xDFFF < c.val.toNat ∧ c.val.toNat < 0x110000 := c.valid
  generalize hv : c.val.toNat = v at hc hvalid
  simp only [String.utf8EncodeChar, hv]
  -- by the number of bytes, each of which gives back its share of the number of the character
  split
  · rw [List.singleton_append, scan, lead_ascii (by omega), hc]
  · split
    · rw [Nat.mod_eq_of_lt (show v / 64 < 0x20 by omega)]
      simp only [List.cons_append, List.nil_append]
      rw [scan, lead_two (by omega) (by omega)]
      simp only
      rw [scan_tail (Nat.mod_lt _ (by decide)) (by simp) (by simp; omega), if_pos (by simp),
        Nat.div_add_mod', hc]
    · split
      · rw [Nat.mod_eq_of_lt (show v / 4096 < 0x10 by omega)]
        simp only [List.cons_append, List.nil_append]
        rw [scan, lead_three (by omega)]
        simp only
        rw [scan_tail (Nat.mod_lt _ (by decide)) (by simp only; split <;> simp; omega)
          (by simp only; split <;> simp <;> omega), if_neg (by simp)]
        rw [scan_tail (Nat.mod_lt _ (by decide)) (by simp) (by simp; omega), if_pos (by simp)]
        rw [show (v / 4096 * 64 + v / 64 % 64) * 64 + v % 64 = v by omega, hc]
      · rw [Nat.mod_eq_of_lt (show v / 262144 < 0x08 by omega)]
        simp only [List.cons_append, List.nil_append]
        rw [scan, lead_four (by omega)]
        simp only
        rw [scan_tail (Nat.mod_lt _ (by decide)) (by simp only; split <;> simp; omega)
          (by simp only; split <;> simp <;> omega), if_neg (by simp)]
        rw [scan_tail (Nat.mod_lt _ (by decide)) (by simp) (by simp; omega), if_neg (by simp)]
        rw [scan_tail (Nat.mod_lt _ (by decide)) (by simp) (by simp; omega), if_pos (by simp)]
        rw [show ((v / 262144 * 64 + v / 4096 % 64) * 64 + v / 64 % 64) * 64 + v % 64 = v by omega,
          hc]

theorem toList_loop (bytes : ByteArray) (i : Nat) (read : List UInt8) :
    ByteArray.toList.loop bytes i read = read.reverse ++ bytes.data.toList.drop i := by
  fun_induction ByteArray.toList.loop bytes i read with
  | case1 i read h ih =>
    have hi : i < bytes.data.toList.length := h
    rw [ih, List.drop_eq_getElem_cons hi, List.reverse_cons, List.append_assoc,
      List.singleton_append]
    congr 2
    simp [ByteArray.get!, getElem!_pos, h]
  | case2 i read h =>
    have hi : bytes.data.toList.length ≤ i := Nat.le_of_not_lt h
    rw [List.drop_of_length_le hi, List.append_nil]

/-- The bytes of a text are those of its characters. -/
theorem encode_eq_flatMap (s : String) : encode s = s.toList.flatMap String.utf8EncodeChar := by
  rw [encode, String.toUTF8_eq_toByteArray, ByteArray.toList, toList_loop, ← String.utf8Encode_toList,
    List.utf8Encode, List.toList_data_toByteArray]
  rfl

/-- Bytes of characters are scanned as these, whatever follows them. -/
theorem scan_flatMap_encodeChar (cs : List Char) :
    scan none (cs.flatMap String.utf8EncodeChar ++ bs) = cs.map some ++ scan none bs := by
  induction cs with
  | nil => rfl
  | cons c cs ih =>
    rw [List.flatMap_cons, List.append_assoc, scan_encodeChar, ih, List.map_cons, List.cons_append]

/-- **The bytes of a text spell that text**, and no other. -/
theorem decode_encode (s : String) : decode? (encode s) = some s.toList := by
  have hscan := @scan_flatMap_encodeChar [] s.toList
  rw [List.append_nil] at hscan
  rw [decode?, encode_eq_flatMap, hscan, scan, List.append_nil, List.mapM_map]
  exact (List.mapM_pure (f := id)).trans (congrArg some (List.map_id _))

/-- Bytes of characters that are cut off only behind some of them are read as these first. -/
theorem decodeLossy_append (cs : List Char) :
    decodeLossy (cs.flatMap String.utf8EncodeChar ++ bs) = cs ++ decodeLossy bs := by
  rw [decodeLossy, scan_flatMap_encodeChar, List.map_append, List.map_map]
  congr 1
  exact List.map_id _

end XmlAudit.Text.Utf8

import Mathlib.Tactic.SplitIfs

/-!
# The order of texts

Texts are compared character by character. This is the order of their bytes in UTF-8: the bytes of
an earlier character come first, whatever stands behind them.
-/

namespace UsageReports

/-- The bytes of a text in UTF-8. -/
def utf8Bytes (s : String) : List UInt8 := s.toUTF8.data.toList

theorem utf8Bytes_eq (s : String) : utf8Bytes s = s.toList.flatMap String.utf8EncodeChar := by
  have h : s.toUTF8 = s.toList.utf8Encode := by
    conv => lhs; rw [← String.ofList_toList (s := s)]
    rfl
  rw [utf8Bytes, h, List.utf8Encode, List.data_toByteArray]

/-- The bytes of an earlier character come first. -/
theorem utf8EncodeChar_append_lt {c d : Char} (h : c < d) (bytes bytes' : List UInt8) :
    String.utf8EncodeChar c ++ bytes < String.utf8EncodeChar d ++ bytes' := by
  have hlt : c.val.toNat < d.val.toNat := h
  have hd : d.val.toNat < 1114112 := by
    rcases d.valid with hd | hd <;> omega
  simp only [String.utf8EncodeChar]
  generalize c.val.toNat = m at hlt
  generalize d.val.toNat = n at hlt hd
  -- The bytes are digits to the base 64, each divided off from the one before.
  have hm2 : m / 4096 = m / 64 / 64 := by omega
  have hm3 : m / 262144 = m / 64 / 64 / 64 := by omega
  have hn2 : n / 4096 = n / 64 / 64 := by omega
  have hn3 : n / 262144 = n / 64 / 64 / 64 := by omega
  -- One case for each pair of lengths; the shorter one never is the later character's.
  split_ifs <;>
    simp only [List.cons_append, List.nil_append, List.cons_lt_cons_iff, UInt8.lt_iff_toNat_lt,
      ← UInt8.toNat_inj, UInt8.toNat_ofNat'] <;>
    simp (disch := omega) only [Nat.mod_eq_of_lt, hm2, hm3, hn2, hn3] <;>
    omega

/-- An earlier text has the earlier bytes. -/
theorem utf8Bytes_lt_of_lt {s t : String} (h : s < t) : utf8Bytes s < utf8Bytes t := by
  rw [utf8Bytes_eq, utf8Bytes_eq]
  change List.Lex (· < ·) s.toList t.toList at h
  generalize s.toList = cs at h ⊢
  generalize t.toList = ds at h ⊢
  induction h with
  | @nil d ds =>
    obtain ⟨byte, bytes, h⟩ := List.exists_cons_of_ne_nil (String.utf8EncodeChar_ne_nil (c := d))
    rw [List.flatMap_nil, List.flatMap_cons, h]
    exact List.nil_lt_cons _ _
  | rel h =>
    rw [List.flatMap_cons, List.flatMap_cons]
    exact utf8EncodeChar_append_lt h _ _
  | cons _ ih =>
    rw [List.flatMap_cons, List.flatMap_cons]
    exact List.append_left_lt ih

/-- The order of texts is that of their bytes. -/
theorem lt_iff_utf8Bytes_lt {s t : String} : s < t ↔ utf8Bytes s < utf8Bytes t := by
  constructor
  · exact utf8Bytes_lt_of_lt
  · intro h
    apply String.not_le.mp
    intro hle
    rcases Std.le_iff_lt_or_eq.mp hle with hlt | rfl
    · exact List.lt_asymm h (utf8Bytes_lt_of_lt hlt)
    · exact List.lt_irrefl _ h

end UsageReports

import ViewLink.Text.Utf8

/-!
# UTF-8 octets of characters

A character below `0x80` is one octet, its own code point, and all octets of any other character are
at least `0x80`. So a reader that goes by octets meets an ASCII character only where the text has
one. What has been written as UTF-8 is read back as it was, and nothing else can be read.
-/

set_option autoImplicit false

namespace ViewLink.Text

@[simp]
theorem utf8_nil : utf8 [] = [] := rfl

theorem utf8_cons (c : Char) (cs : List Char) :
    utf8 (c :: cs) = String.utf8EncodeChar c ++ utf8 cs :=
  List.flatMap_cons

theorem bytes_append (s t : String) : bytes (s ++ t) = bytes s ++ bytes t := by
  rw [bytes, String.toList_append, utf8_append]
  rfl

theorem utf8EncodeChar_of_lt {c : Char} (h : c.toNat < 0x80) :
    String.utf8EncodeChar c = [UInt8.ofNat c.toNat] := by
  have hle : c.val.toNat ≤ 0x7F := Nat.lt_succ_iff.1 h
  simp only [String.utf8EncodeChar, if_pos hle]
  rfl

theorem le_of_mem_utf8EncodeChar {c : Char} (h : 0x80 ≤ c.toNat) :
    ∀ b ∈ String.utf8EncodeChar c, 0x80 ≤ b := by
  have hlt : ¬ c.val.toNat ≤ 0x7F := Nat.not_le.2 h
  have hoctet : ∀ n, 0x80 ≤ n → n < 0x100 → (0x80 : UInt8) ≤ UInt8.ofNat n := by
    intro n hle hlt
    rw [UInt8.le_iff_toNat_le, UInt8.toNat_ofNat_of_lt' hlt]
    exact hle
  intro b hb
  simp only [String.utf8EncodeChar, if_neg hlt] at hb
  -- Two, three or four octets, each a remainder on top of `0x80` or more.
  split at hb
  · simp only [List.mem_cons, List.not_mem_nil, or_false] at hb
    rcases hb with rfl | rfl <;> exact hoctet _ (by omega) (by omega)
  · split at hb
    · simp only [List.mem_cons, List.not_mem_nil, or_false] at hb
      rcases hb with rfl | rfl | rfl <;> exact hoctet _ (by omega) (by omega)
    · simp only [List.mem_cons, List.not_mem_nil, or_false] at hb
      rcases hb with rfl | rfl | rfl | rfl <;> exact hoctet _ (by omega) (by omega)

/-- A text of ASCII characters is written code point by code point. -/
theorem utf8_of_lt {cs : List Char} (h : ∀ c ∈ cs, c.toNat < 0x80) :
    utf8 cs = cs.map fun c => UInt8.ofNat c.toNat := by
  induction cs with
  | nil => rfl
  | cons c cs ih =>
      rw [utf8_cons, utf8EncodeChar_of_lt (h c (by simp)), ih fun d hd => h d (by simp [hd])]
      rfl

/-- An ASCII octet stands where the text has that character. -/
theorem exists_mem_of_mem_utf8 {cs : List Char} {b : UInt8} (hb : b ∈ utf8 cs)
    (hlt : b.toNat < 0x80) : ∃ c ∈ cs, c.toNat = b.toNat := by
  obtain ⟨c, hc, hb⟩ := List.mem_flatMap.1 hb
  refine ⟨c, hc, ?_⟩
  by_cases h : c.toNat < 0x80
  · rw [utf8EncodeChar_of_lt h] at hb
    rw [List.mem_singleton.1 hb, UInt8.toNat_ofNat_of_lt' (Nat.lt_trans h (by decide))]
  · have hle := UInt8.le_iff_toNat_le.1 (le_of_mem_utf8EncodeChar (Nat.not_lt.1 h) b hb)
    exact absurd hlt (Nat.not_lt.2 hle)

theorem not_mem_utf8 {cs : List Char} {c : Char} (h : c ∉ cs) (hlt : c.toNat < 0x80) :
    UInt8.ofNat c.toNat ∉ utf8 cs := by
  intro hmem
  have hnat : (UInt8.ofNat c.toNat).toNat = c.toNat :=
    UInt8.toNat_ofNat_of_lt' (Nat.lt_trans hlt (by decide))
  obtain ⟨c', hc', heq⟩ := exists_mem_of_mem_utf8 hmem (by rwa [hnat])
  exact h (Char.toNat_inj.1 (heq.trans hnat) ▸ hc')

/-- The octets of a text without control characters are above them, too. -/
theorem le_of_mem_utf8 {cs : List Char} (h : ∀ c ∈ cs, 0x20 ≤ c.toNat) :
    ∀ b ∈ utf8 cs, 0x20 ≤ b := by
  intro b hb
  rw [UInt8.le_iff_toNat_le]
  by_cases hlt : b.toNat < 0x80
  · obtain ⟨c, hc, heq⟩ := exists_mem_of_mem_utf8 hb hlt
    exact heq ▸ h c hc
  · exact Nat.le_trans (by decide) (Nat.not_lt.1 hlt)

/-- **What has been written is read back.** -/
theorem ofUtf8?_utf8 (cs : List Char) : ofUtf8? (utf8 cs) = some (String.ofList cs) := by
  have hvalid : (utf8 cs).toByteArray.IsValidUTF8 := ByteArray.isValidUTF8_utf8Encode
  rw [ofUtf8?, String.fromUTF8?, dif_pos hvalid]
  exact congrArg some (String.toByteArray_inj.1 String.toByteArray_ofList.symm)

/-- **What can be read has been written.** -/
theorem ofUtf8?_eq_some {bs : Bytes} {s : String} : ofUtf8? bs = some s ↔ bs = bytes s := by
  constructor
  · intro h
    have hread := h
    rw [ofUtf8?, String.fromUTF8?] at h
    split at h
    · next hvalid =>
        obtain ⟨cs, hcs⟩ := hvalid
        have hbytes : bs = utf8 cs := by
          have hdata := congrArg (fun b => b.data.toList) hcs
          simpa [List.utf8Encode, utf8] using hdata
        rw [hbytes, ofUtf8?_utf8] at hread
        rw [hbytes, bytes, ← Option.some.inj hread, String.toList_ofList]
    · cases h
  · rintro rfl
    rw [bytes, ofUtf8?_utf8, String.ofList_toList]

/-! ## Where characters begin and end -/

/-- **The octets of a character tell where they end**, whatever follows them. -/
theorem utf8EncodeChar_append_inj {c d : Char} {xs ys : Bytes}
    (h : String.utf8EncodeChar c ++ xs = String.utf8EncodeChar d ++ ys) : c = d ∧ xs = ys := by
  have hdecode : ∀ (e : Char) (zs : Bytes),
      (String.utf8EncodeChar e ++ zs).toByteArray.utf8DecodeChar? 0 = some e := by
    intro e zs
    rw [List.toByteArray_append]
    exact ByteArray.utf8DecodeChar?_utf8EncodeChar_append
  have hsome : some c = some d := by rw [← hdecode c xs, h, hdecode d ys]
  obtain rfl := Option.some.inj hsome
  exact ⟨rfl, List.append_cancel_left h⟩

/-- Only the first octet of a character can be the first octet of any. -/
theorem utf8EncodeChar_eq_cons (c : Char) :
    ∃ b bs, String.utf8EncodeChar c = b :: bs ∧ b.IsUTF8FirstByte
      ∧ ∀ x ∈ bs, ¬ x.IsUTF8FirstByte := by
  cases hbytes : String.utf8EncodeChar c with
  | nil => exact absurd hbytes String.utf8EncodeChar_ne_nil
  | cons b bs =>
      have hfirst : ∀ i (hi : i < (b :: bs).length), (b :: bs)[i].IsUTF8FirstByte ↔ i = 0 := by
        rw [← hbytes]
        exact fun i hi => UInt8.isUTF8FirstByte_getElem_utf8EncodeChar
      refine ⟨b, bs, rfl, (hfirst 0 (by simp)).2 rfl, fun x hx hstart => ?_⟩
      obtain ⟨i, hi, rfl⟩ := List.getElem_of_mem hx
      have := (hfirst (i + 1) (by simpa using hi)).1 hstart
      omega

end ViewLink.Text

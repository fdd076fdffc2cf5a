import Mathlib.Tactic.Lemma
import TestImpact.Text.Raw
import TestImpact.Proofs.Joining

/-!
# Text as bytes

Programs see the bytes of a text, and the text is read back from them. The bytes of an ASCII character
stand for no other one, so bytes are split at such a character like the text that they encode.
-/

namespace TestImpact.Proofs
open Text

variable {n more taken bits : Nat} {low high : UInt8} {rest : List UInt8} {c d : Char}

lemma toList_byteArray (bytes : ByteArray) : bytes.toList = bytes.data.toList := by
  have hloop : ∀ (i : Nat) (r : List UInt8),
      ByteArray.toList.loop bytes i r = r.reverse ++ bytes.data.toList.drop i := by
    intro i r
    fun_induction ByteArray.toList.loop bytes i r with
    | case1 i r h ih =>
      have hi : i < bytes.data.toList.length := by simpa using h
      rw [ih, List.drop_eq_getElem_cons hi]
      simp [ByteArray.get!, h]
    | case2 i r h => simpa using h
  exact hloop 0 []

lemma encode_eq (s : String) : encode s = s.toList.flatMap String.utf8EncodeChar := by
  conv => lhs; rw [← String.ofList_toList (s := s)]
  rw [encode, String.toUTF8_eq_toByteArray, String.toByteArray_ofList, List.utf8Encode,
    toList_byteArray, List.toList_data_toByteArray]

/-! ### A character -/

lemma toNat_byte (h : n < 256) : (UInt8.ofNat n).toNat = n := UInt8.toNat_ofNat_of_lt' h

lemma utf8Lead?_one (h : n < 0x80) : utf8Lead? (UInt8.ofNat n) = some ⟨0, 0, 0, n⟩ := by
  have hn : (UInt8.ofNat n).toNat = n := toNat_byte (by omega)
  rw [utf8Lead?, if_pos (UInt8.lt_iff_toNat_lt.mpr (hn.symm ▸ h)), hn]

lemma utf8Lead?_two (h : 0xC2 ≤ n) (h' : n < 0xE0) :
    utf8Lead? (UInt8.ofNat n) = some ⟨1, 0x80, 0xBF, n - 0xC0⟩ := by
  have hn : (UInt8.ofNat n).toNat = n := toNat_byte (by omega)
  simp only [utf8Lead?, UInt8.lt_iff_toNat_lt, hn]
  rw [if_neg (by simp; omega), if_neg (by simp; omega), if_pos (by simp; omega)]

lemma utf8Lead?_three (h : 0xE0 ≤ n) (h' : n < 0xF0) :
    utf8Lead? (UInt8.ofNat n) = some ⟨2, if n = 0xE0 then 0xA0 else 0x80,
      if n = 0xED then 0x9F else 0xBF, n - 0xE0⟩ := by
  have hn : (UInt8.ofNat n).toNat = n := toNat_byte (by omega)
  simp only [utf8Lead?, UInt8.lt_iff_toNat_lt, beq_iff_eq, ← UInt8.toNat_inj, hn]
  rw [if_neg (by simp; omega), if_neg (by simp; omega), if_neg (by simp; omega),
    if_pos (by simp; omega)]
  rfl

lemma utf8Lead?_four (h : 0xF0 ≤ n) (h' : n < 0xF5) :
    utf8Lead? (UInt8.ofNat n) = some ⟨3, if n = 0xF0 then 0x90 else 0x80,
      if n = 0xF4 then 0x8F else 0xBF, n - 0xF0⟩ := by
  have hn : (UInt8.ofNat n).toNat = n := toNat_byte (by omega)
  simp only [utf8Lead?, UInt8.lt_iff_toNat_lt, beq_iff_eq, ← UInt8.toNat_inj, hn]
  rw [if_neg (by simp; omega), if_neg (by simp; omega), if_neg (by simp; omega),
    if_neg (by simp; omega), if_pos (by simp; omega)]
  rfl

lemma utf8Tail_cons (hlow : low.toNat ≤ n + 128) (hhigh : n + 128 ≤ high.toNat) :
    utf8Tail bits taken (more + 1) low high (UInt8.ofNat (n + 128) :: rest) =
      utf8Tail (bits * 64 + n) (taken + 1) more 0x80 0xBF rest := by
  have hn : (UInt8.ofNat (n + 128)).toNat = n + 128 :=
    toNat_byte (by have := high.toNat_lt; omega)
  rw [utf8Tail, if_pos (by
    simp only [Bool.and_eq_true, decide_eq_true_eq, UInt8.le_iff_toNat_le, hn]
    exact ⟨hlow, hhigh⟩), hn, Nat.add_sub_cancel]

/-- The bytes of a character are read as that character, whatever follows them. -/
lemma utf8Step_encodeChar (c : Char) (rest : List UInt8) :
    ∃ b more, String.utf8EncodeChar c = b :: more ∧ utf8Step b (more ++ rest) = .char c rest := by
  have hvalid : c.val.toNat < 0xD800 ∨ 0xDFFF < c.val.toNat ∧ c.val.toNat < 0x110000 := c.valid
  have hc : Char.ofNat c.val.toNat = c := Char.ofNat_toNat c
  unfold String.utf8EncodeChar
  dsimp only
  generalize c.val.toNat = v at hvalid hc
  -- The cases are the lengths of a character. What the bounds of a second byte leave out, longer forms
  -- of shorter characters and surrogates, is no character of that length.
  split
  · exact ⟨_, _, rfl, by rw [utf8Step, utf8Lead?_one (by omega)]; simp [utf8Tail, hc]⟩
  split
  · refine ⟨_, _, rfl, ?_⟩
    rw [utf8Step, utf8Lead?_two (by omega) (by omega)]
    simp only [List.cons_append, List.nil_append]
    rw [utf8Tail_cons (by simp) (by simp; omega), utf8Tail, ← hc]
    congr 2
    omega
  split
  · refine ⟨_, _, rfl, ?_⟩
    rw [utf8Step, utf8Lead?_three (by omega) (by omega)]
    simp only [List.cons_append, List.nil_append]
    rw [utf8Tail_cons (by split <;> simp; omega) (by split <;> simp <;> omega),
      utf8Tail_cons (by simp) (by simp; omega), utf8Tail, ← hc]
    congr 2
    omega
  · refine ⟨_, _, rfl, ?_⟩
    rw [utf8Step, utf8Lead?_four (by omega) (by omega)]
    simp only [List.cons_append, List.nil_append]
    rw [utf8Tail_cons (by split <;> simp; omega) (by split <;> simp <;> omega),
      utf8Tail_cons (by simp) (by simp; omega), utf8Tail_cons (by simp) (by simp; omega), utf8Tail,
      ← hc]
    congr 2
    omega

lemma decodeLossyFrom_encode (chars : List Char) :
    ∀ n, (chars.flatMap String.utf8EncodeChar).length ≤ n →
      decodeLossyFrom n (chars.flatMap String.utf8EncodeChar) = chars := by
  induction chars with
  | nil =>
    intro n _
    cases n <;> rfl
  | cons c chars ih =>
    intro n hn
    obtain ⟨b, more, hbytes, hstep⟩ :=
      utf8Step_encodeChar c (chars.flatMap String.utf8EncodeChar)
    rw [List.flatMap_cons, hbytes, List.cons_append] at hn ⊢
    cases n with
    | zero => simp at hn
    | succ n =>
      rw [decodeLossyFrom, hstep]
      simp only [List.length_cons, List.length_append] at hn
      exact congrArg (c :: ·) (ih n (by omega))

/-- Encoded text is read back. -/
lemma decodeLossy_encode (s : String) : decodeLossy (encode s) = s := by
  rw [decodeLossy, encode_eq, decodeLossyFrom_encode _ _ (Nat.le_refl _), String.ofList_toList]

/-! ### Raw text -/

/-- The bytes of a character as raw text. -/
def rawChar (c : Char) : Raw := Raw.ofBytes (String.utf8EncodeChar c)

lemma rawText_eq (s : String) : Raw.ofText s = s.toList.flatMap rawChar := by
  rw [Raw.ofText, encode_eq, Raw.ofBytes, List.map_flatMap]
  rfl

lemma toNat_ofNat_byte (b : UInt8) : (Char.ofNat b.toNat).toNat = b.toNat := by
  have hb : b.toNat.isValidChar := .inl (by have := b.toNat_lt; omega)
  rw [Char.ofNat, dif_pos hb]
  rfl

lemma toBytes_ofBytes (bytes : List UInt8) : (Raw.ofBytes bytes).toBytes = bytes := by
  rw [Raw.ofBytes, Raw.toBytes, List.map_map]
  refine (List.map_congr_left fun b _ => ?_).trans (List.map_id _)
  simp [toNat_ofNat_byte]

/-- Programs that pass a text on as bytes do not change it. -/
lemma toText_rawText (s : String) : (Raw.ofText s).toText = s := by
  rw [Raw.ofText, Raw.toText, toBytes_ofBytes, decodeLossy_encode]

lemma rawText_inj {s s' : String} : Raw.ofText s = Raw.ofText s' ↔ s = s' :=
  ⟨fun h => by rw [← toText_rawText s, h, toText_rawText], congrArg _⟩

lemma rawChar_ascii (h : d.toNat < 0x80) : rawChar d = [d] := by
  have hd : String.utf8EncodeChar d = [UInt8.ofNat d.toNat] := by
    unfold String.utf8EncodeChar
    exact if_pos (Nat.le_of_lt_succ h)
  rw [rawChar, hd, Raw.ofBytes, List.map_singleton, toNat_byte (by omega), Char.ofNat_toNat]

lemma not_ascii_of_mem_encodeChar {b : UInt8} (hc : 0x80 ≤ c.toNat)
    (hb : b ∈ String.utf8EncodeChar c) : 0x80 ≤ b.toNat := by
  have hc' : 0x80 ≤ c.val.toNat := hc
  have hvalid : c.val.toNat < 0x110000 := by
    rcases c.valid with h | h
    · exact Nat.lt_trans h (by decide)
    · exact h.2
  unfold String.utf8EncodeChar at hb
  dsimp only at hb
  generalize c.val.toNat = v at hb hc' hvalid
  split at hb
  · omega
  split at hb
  · simp only [List.mem_cons, List.not_mem_nil, or_false] at hb
    rcases hb with rfl | rfl <;> rw [toNat_byte (by omega)] <;> omega
  split at hb
  · simp only [List.mem_cons, List.not_mem_nil, or_false] at hb
    rcases hb with rfl | rfl | rfl <;> rw [toNat_byte (by omega)] <;> omega
  · simp only [List.mem_cons, List.not_mem_nil, or_false] at hb
    rcases hb with rfl | rfl | rfl | rfl <;> rw [toNat_byte (by omega)] <;> omega

/-- An ASCII character is among the bytes of no other character. -/
lemma not_mem_rawChar (h : d.toNat < 0x80) (hne : c ≠ d) : d ∉ rawChar c := by
  intro hmem
  by_cases hc : c.toNat < 0x80
  · rw [rawChar_ascii hc, List.mem_singleton] at hmem
    exact hne hmem.symm
  · obtain ⟨b, hb, rfl⟩ := List.mem_map.mp hmem
    rw [toNat_ofNat_byte] at h
    have := not_ascii_of_mem_encodeChar (Nat.le_of_not_lt hc) hb
    omega

lemma rawChar_ne_nil (c : Char) : rawChar c ≠ [] := by
  obtain ⟨b, more, hbytes, -⟩ := utf8Step_encodeChar c []
  simp [rawChar, Raw.ofBytes, hbytes]

/-! ### Separators in raw text -/

lemma rawText_append (s s' : String) : Raw.ofText (s ++ s') = Raw.ofText s ++ Raw.ofText s' := by
  rw [rawText_eq, rawText_eq, rawText_eq, String.toList_append, List.flatMap_append]

/-- An ASCII text is its own raw text. -/
lemma rawText_ascii {s : String} (h : (s.toList.all fun c => c.toNat < 0x80) = true) :
    Raw.ofText s = s.toList := by
  rw [rawText_eq]
  generalize s.toList = chars at h
  induction chars with
  | nil => rfl
  | cons c chars ih =>
    rw [List.all_cons, Bool.and_eq_true, decide_eq_true_eq] at h
    rw [List.flatMap_cons, rawChar_ascii h.1, ih h.2]
    rfl

lemma mem_rawText (h : d.toNat < 0x80) (s : String) : d ∈ Raw.ofText s ↔ d ∈ s.toList := by
  rw [rawText_eq, List.mem_flatMap]
  constructor
  · rintro ⟨c, hc, hd⟩
    by_cases hcd : c = d
    · exact hcd ▸ hc
    · exact absurd hd (not_mem_rawChar h hcd)
  · intro hd
    exact ⟨d, hd, by rw [rawChar_ascii h]; exact List.mem_singleton_self d⟩

lemma getLast?_rawText (h : d.toNat < 0x80) (s : String) :
    (Raw.ofText s).getLast? = some d ↔ s.toList.getLast? = some d := by
  rw [rawText_eq]
  rcases List.eq_nil_or_concat s.toList with hs | ⟨before, c, hs⟩
  · simp [hs]
  obtain ⟨last, hlast⟩ := Option.ne_none_iff_exists'.mp
    (mt List.getLast?_eq_none_iff.mp (rawChar_ne_nil c))
  rw [hs, List.concat_eq_append, List.flatMap_append, List.flatMap_singleton, List.getLast?_concat,
    List.getLast?_append, hlast, Option.some_or, Option.some_inj, Option.some_inj]
  constructor
  · rintro rfl
    by_cases hcd : c = last
    · exact hcd
    · exact absurd (List.mem_of_getLast? hlast) (not_mem_rawChar h hcd)
  · rintro rfl
    rw [rawChar_ascii h] at hlast
    exact (Option.some.inj hlast).symm

lemma flatMap_joinWith (h : d.toNat < 0x80) (pieces : List (List Char)) :
    (joinWith d pieces).flatMap rawChar =
      joinWith d (pieces.map fun piece => piece.flatMap rawChar) := by
  induction pieces with
  | nil => rfl
  | cons piece pieces ih =>
    cases pieces with
    | nil => rfl
    | cons piece' pieces =>
      rw [joinWith, List.flatMap_append, List.flatMap_cons, ih, rawChar_ascii h]
      · rfl
      · simp

/-- Raw text is split at an ASCII character like the text. -/
lemma splitOn_rawText (h : d.toNat < 0x80) (s : String) :
    splitOn d (Raw.ofText s) =
      (splitOn d s.toList).map fun piece => Raw.ofText (String.ofList piece) := by
  have hpieces : ∀ piece : List Char,
      Raw.ofText (String.ofList piece) = piece.flatMap rawChar := by
    intro piece
    rw [rawText_eq, String.toList_ofList]
  rw [rawText_eq]
  conv => lhs; rw [← joinWith_splitOn d s.toList]
  rw [flatMap_joinWith h, List.map_congr_left fun piece _ => hpieces piece]
  apply splitOn_joinWith_of_not_mem (by simpa using splitOn_ne_nil d s.toList)
  intro raw hraw
  obtain ⟨piece, hpiece, rfl⟩ := List.mem_map.mp hraw
  rw [← hpieces, mem_rawText h, String.toList_ofList]
  exact not_mem_of_mem_splitOn hpiece

end TestImpact.Proofs

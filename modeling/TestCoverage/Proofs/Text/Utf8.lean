/-
  TestCoverage.Proofs.Text.Utf8

  Text that is written in UTF-8 is read back as it was, and no other bytes are read.

  The scan is followed through the bytes of one character: the first byte says how many
  are missing and in which range the second one lies, and each of the others adds six bits.
  So a character has one, two, three or four bytes.  The second of three or four lies in a
  narrower range behind some first bytes, which shuts out overlong forms, surrogates and numbers
  above `10FFFF`.
-/
import TestCoverage.Text.Utf8
import Mathlib.Tactic.SplitIfs

namespace TestCoverage.Utf8

/-! ## One byte of the scan -/

/-- The first byte of several begins a character. -/
theorem units_begin {b : UInt8} {begun : Begun} (rest : Bytes)
    (hb : begin? b.toNat = some begun) :
    units none (b :: rest) = units (some begun) rest := by
  have hbig : ¬ b.toNat < 0x80 := by
    intro h
    simp [begin?, show b.toNat < 0xC2 by omega] at hb
  simp [units, next, first, hbig, hb]

/-- A byte that is not the last one adds its six bits. -/
theorem units_more {b : UInt8} {missing low high bits n : Nat} (rest : Bytes)
    (hb : b.toNat = n + 0x80) (hlow : low ≤ n + 0x80) (hhigh : n + 0x80 ≤ high) :
    units (some ⟨missing + 2, low, high, bits⟩) (b :: rest) =
      units (some ⟨missing + 1, 0x80, 0xBF, bits * 64 + n⟩) rest := by
  simp [units, next, hb, hlow, hhigh]

/-- The last byte completes the character. -/
theorem units_last {b : UInt8} {low high bits n : Nat} (rest : Bytes) (hb : b.toNat = n + 0x80)
    (hlow : low ≤ n + 0x80) (hhigh : n + 0x80 ≤ high) :
    units (some ⟨1, low, high, bits⟩) (b :: rest) =
      some (Char.ofNat (bits * 64 + n)) :: units none rest := by
  simp [units, next, hb, hlow, hhigh]

/-! ## First bytes -/

theorem begin?_of_two {v : Nat} (hlow : 0x7F < v) (hhigh : v ≤ 0x7FF) :
    begin? (v / 64 % 32 + 0xC0) = some ⟨1, 0x80, 0xBF, v / 64⟩ := by
  have hbits : v / 64 % 32 = v / 64 := by omega
  simp [begin?, hbits, show ¬ v / 64 + 0xC0 < 0xC2 by omega, show v / 64 + 0xC0 < 0xE0 by omega]

/-- The range that the first of three bytes demands holds the second one: it shuts out
    overlong forms and surrogates only. -/
theorem begin?_of_three {v : Nat} (hlow : 0x7FF < v) (hhigh : v ≤ 0xFFFF)
    (hvalid : v < 0xD800 ∨ 0xDFFF < v) :
    ∃ low high, begin? (v / 4096 % 16 + 0xE0) = some ⟨2, low, high, v / 4096⟩ ∧
      low ≤ v / 64 % 64 + 0x80 ∧ v / 64 % 64 + 0x80 ≤ high := by
  have hbits : v / 4096 % 16 = v / 4096 := by omega
  rw [hbits]
  by_cases h0 : v / 4096 = 0
  · exact ⟨0xA0, 0xBF, by simp [begin?, h0], by omega, by omega⟩
  · by_cases hD : v / 4096 = 13
    · exact ⟨0x80, 0x9F, by simp [begin?, hD], by omega, by omega⟩
    · refine ⟨0x80, 0xBF, ?_, by omega, by omega⟩
      simp [begin?, h0, show ¬ v / 4096 + 0xE0 < 0xC2 by omega,
        show ¬ v / 4096 + 0xE0 = 0xED by omega, show v / 4096 + 0xE0 < 0xF0 by omega]

/-- The range that the first of four bytes demands holds the second one: it shuts out
    overlong forms and numbers that are too large only. -/
theorem begin?_of_four {v : Nat} (hlow : 0xFFFF < v) (hhigh : v < 0x110000) :
    ∃ low high, begin? (v / 262144 % 8 + 0xF0) = some ⟨3, low, high, v / 262144⟩ ∧
      low ≤ v / 4096 % 64 + 0x80 ∧ v / 4096 % 64 + 0x80 ≤ high := by
  have hbits : v / 262144 % 8 = v / 262144 := by omega
  rw [hbits]
  by_cases h0 : v / 262144 = 0
  · exact ⟨0x90, 0xBF, by simp [begin?, h0], by omega, by omega⟩
  · by_cases h4 : v / 262144 = 4
    · exact ⟨0x80, 0x8F, by simp [begin?, h4], by omega, by omega⟩
    · refine ⟨0x80, 0xBF, ?_, by omega, by omega⟩
      simp [begin?, h0, show ¬ v / 262144 + 0xF0 < 0xC2 by omega,
        show ¬ v / 262144 + 0xF0 < 0xE0 by omega, show ¬ v / 262144 + 0xF0 = 0xE0 by omega,
        show ¬ v / 262144 + 0xF0 = 0xED by omega, show v / 262144 + 0xF0 < 0xF4 by omega]

/-! ## Characters -/

/-- The scan finds a character in its bytes, and goes on behind them. -/
theorem units_utf8EncodeChar (c : Char) (rest : Bytes) :
    units none (String.utf8EncodeChar c ++ rest) = some c :: units none rest := by
  have hof : Char.ofNat c.val.toNat = c := Char.ofNat_toNat c
  have hvalid : c.val.toNat < 0xD800 ∨ (0xDFFF < c.val.toNat ∧ c.val.toNat < 0x110000) := c.valid
  simp only [String.utf8EncodeChar]
  generalize c.val.toNat = v at hof hvalid
  have hlast : (UInt8.ofNat (v % 64 + 0x80)).toNat = v % 64 + 0x80 :=
    UInt8.toNat_ofNat_of_lt (by simp only [UInt8.size]; omega)
  have hmiddle : (UInt8.ofNat (v / 64 % 64 + 0x80)).toNat = v / 64 % 64 + 0x80 :=
    UInt8.toNat_ofNat_of_lt (by simp only [UInt8.size]; omega)
  -- one case for each number of bytes
  split_ifs with h1 h2 h3 <;> simp only [List.cons_append, List.nil_append]
  · have hbyte : (UInt8.ofNat v).toNat = v :=
      UInt8.toNat_ofNat_of_lt (by simp only [UInt8.size]; omega)
    simp [units, next, first, hbyte, show v < 0x80 by omega, hof]
  · have hfirst : (UInt8.ofNat (v / 64 % 32 + 0xC0)).toNat = v / 64 % 32 + 0xC0 :=
      UInt8.toNat_ofNat_of_lt (by simp only [UInt8.size]; omega)
    have hbegin := begin?_of_two (v := v) (by omega) h2
    rw [units_begin _ (hfirst ▸ hbegin), units_last _ hlast (by omega) (by omega),
      show v / 64 * 64 + v % 64 = v by omega, hof]
  · have hfirst : (UInt8.ofNat (v / 4096 % 16 + 0xE0)).toNat = v / 4096 % 16 + 0xE0 :=
      UInt8.toNat_ofNat_of_lt (by simp only [UInt8.size]; omega)
    obtain ⟨low, high, hbegin, hlow, hhigh⟩ := begin?_of_three (v := v) (by omega) h3 (by omega)
    rw [units_begin _ (hfirst ▸ hbegin), units_more _ hmiddle hlow hhigh,
      units_last _ hlast (by omega) (by omega),
      show (v / 4096 * 64 + v / 64 % 64) * 64 + v % 64 = v by omega, hof]
  · have hfirst : (UInt8.ofNat (v / 262144 % 8 + 0xF0)).toNat = v / 262144 % 8 + 0xF0 :=
      UInt8.toNat_ofNat_of_lt (by simp only [UInt8.size]; omega)
    have hsecond : (UInt8.ofNat (v / 4096 % 64 + 0x80)).toNat = v / 4096 % 64 + 0x80 :=
      UInt8.toNat_ofNat_of_lt (by simp only [UInt8.size]; omega)
    obtain ⟨low, high, hbegin, hlow, hhigh⟩ := begin?_of_four (v := v) (by omega) (by omega)
    rw [units_begin _ (hfirst ▸ hbegin), units_more _ hsecond hlow hhigh,
      units_more _ hmiddle (by omega) (by omega), units_last _ hlast (by omega) (by omega),
      show ((v / 262144 * 64 + v / 4096 % 64) * 64 + v / 64 % 64) * 64 + v % 64 = v by omega, hof]

/-! ## Texts -/

/-- The scan finds the characters of a text in its bytes. -/
theorem units_encode (text : List Char) : units none (encode text) = text.map some := by
  induction text with
  | nil => rfl
  | cons c text ih => rw [encode_cons, units_utf8EncodeChar, ih, List.map_cons]

/-- A text is read back from its bytes. -/
@[simp] theorem decode?_encode (text : List Char) : decode? (encode text) = some text := by
  rw [decode?, units_encode]
  induction text with
  | nil => rfl
  | cons c text ih => simp [ih]

/-- Different texts have different bytes. -/
theorem encode_injective : Function.Injective encode :=
  fun text text' h => by
    have hread := congrArg decode? h
    simpa using hread

theorem encode_ne_nil {text : List Char} (h : text ≠ []) : encode text ≠ [] :=
  encode_injective.ne h

/-- A string is read back from its bytes. -/
@[simp] theorem decode?_ofString (text : String) : decode? (ofString text) = some text.toList :=
  decode?_encode text.toList

theorem ofString_injective : Function.Injective ofString :=
  encode_injective.comp fun _ _ => String.toList_inj.mp

/-! ## Well-formed bytes -/

/-- The byte goes on with a character. -/
def Continues (b : UInt8) : Prop :=
  0x80 ≤ b.toNat ∧ b.toNat ≤ 0xBF

/-- The bytes of one character. -/
inductive IsCharacter : Bytes → Prop where
  | one {a : UInt8} (ha : a.toNat ≤ 0x7F) : IsCharacter [a]
  | two {a b : UInt8} (ha : 0xC2 ≤ a.toNat ∧ a.toNat ≤ 0xDF) (hb : Continues b) :
      IsCharacter [a, b]
  | three {a b c : UInt8} (ha : 0xE0 ≤ a.toNat ∧ a.toNat ≤ 0xEF) (hb : Continues b)
      (hc : Continues c) (hoverlong : a.toNat = 0xE0 → 0xA0 ≤ b.toNat)
      (hsurrogate : a.toNat = 0xED → b.toNat ≤ 0x9F) : IsCharacter [a, b, c]
  | four {a b c d : UInt8} (ha : 0xF0 ≤ a.toNat ∧ a.toNat ≤ 0xF4) (hb : Continues b)
      (hc : Continues c) (hd : Continues d) (hoverlong : a.toNat = 0xF0 → 0x90 ≤ b.toNat)
      (hlarge : a.toNat = 0xF4 → b.toNat ≤ 0x8F) : IsCharacter [a, b, c, d]

/-- The bytes of characters, one after the other. -/
inductive WellFormed : Bytes → Prop where
  | nil : WellFormed []
  | append {character rest : Bytes} (hcharacter : IsCharacter character)
      (hrest : WellFormed rest) : WellFormed (character ++ rest)

/-! ## Characters from their bytes -/

/-- A number that is neither a surrogate nor too large is that of its character. -/
theorem toNat_ofNat_of_isValidChar {n : Nat} (h : n.isValidChar) :
    (Char.ofNat n).val.toNat = n := by
  rw [Char.ofNat, dif_pos h]
  rfl

/-- A byte is known by its number. -/
theorem ofNat_eq_of_toNat_eq {n : Nat} {b : UInt8} (h : b.toNat = n) : UInt8.ofNat n = b := by
  rw [← h, UInt8.ofNat_toNat]

/-- The bytes of a character are those that it is written with. -/
theorem IsCharacter.exists_char {bytes : Bytes} (h : IsCharacter bytes) :
    ∃ c, String.utf8EncodeChar c = bytes := by
  cases h with
  | @one a ha =>
    have hvalid : a.toNat.isValidChar := .inl (by omega)
    refine ⟨Char.ofNat a.toNat, ?_⟩
    rw [String.utf8EncodeChar, toNat_ofNat_of_isValidChar hvalid, if_pos ha, UInt8.ofNat_toNat]
  | @two a b ha hb =>
    obtain ⟨hlow, hhigh⟩ := hb
    obtain ⟨n, hn⟩ : ∃ n, n = (a.toNat - 0xC0) * 64 + (b.toNat - 0x80) := ⟨_, rfl⟩
    have hvalid : n.isValidChar := .inl (by omega)
    refine ⟨Char.ofNat n, ?_⟩
    rw [String.utf8EncodeChar, toNat_ofNat_of_isValidChar hvalid, if_neg (by omega),
      if_pos (by omega), ofNat_eq_of_toNat_eq (b := a) (by omega),
      ofNat_eq_of_toNat_eq (b := b) (by omega)]
  | @three a b c ha hb hc hoverlong hsurrogate =>
    obtain ⟨hblow, hbhigh⟩ := hb
    obtain ⟨hclow, hchigh⟩ := hc
    obtain ⟨n, hn⟩ : ∃ n, n = ((a.toNat - 0xE0) * 64 + (b.toNat - 0x80)) * 64 +
      (c.toNat - 0x80) := ⟨_, rfl⟩
    have hvalid : n.isValidChar := by
      -- surrogates would begin with 0xED and go on with at least 0xA0
      rcases Nat.lt_trichotomy a.toNat 0xED with hsmall | hed | hbig
      · exact .inl (by omega)
      · exact .inl (by have := hsurrogate hed; omega)
      · exact .inr ⟨by omega, by omega⟩
    have hlong : 0x7FF < n := by
      -- behind 0xE0 the second byte alone keeps the number out of reach of two bytes
      by_cases hfirst : a.toNat = 0xE0
      · have := hoverlong hfirst
        omega
      · omega
    refine ⟨Char.ofNat n, ?_⟩
    rw [String.utf8EncodeChar, toNat_ofNat_of_isValidChar hvalid, if_neg (by omega),
      if_neg (by omega), if_pos (by omega), ofNat_eq_of_toNat_eq (b := a) (by omega),
      ofNat_eq_of_toNat_eq (b := b) (by omega), ofNat_eq_of_toNat_eq (b := c) (by omega)]
  | @four a b c d ha hb hc hd hoverlong hlarge =>
    obtain ⟨hblow, hbhigh⟩ := hb
    obtain ⟨hclow, hchigh⟩ := hc
    obtain ⟨hdlow, hdhigh⟩ := hd
    obtain ⟨n, hn⟩ : ∃ n, n = (((a.toNat - 0xF0) * 64 + (b.toNat - 0x80)) * 64 +
      (c.toNat - 0x80)) * 64 + (d.toNat - 0x80) := ⟨_, rfl⟩
    have hlong : 0xFFFF < n := by
      by_cases hfirst : a.toNat = 0xF0
      · have := hoverlong hfirst
        omega
      · omega
    have hvalid : n.isValidChar := by
      refine .inr ⟨by omega, ?_⟩
      by_cases hfirst : a.toNat = 0xF4
      · have := hlarge hfirst
        omega
      · omega
    refine ⟨Char.ofNat n, ?_⟩
    rw [String.utf8EncodeChar, toNat_ofNat_of_isValidChar hvalid, if_neg (by omega),
      if_neg (by omega), if_neg (by omega), ofNat_eq_of_toNat_eq (b := a) (by omega),
      ofNat_eq_of_toNat_eq (b := b) (by omega), ofNat_eq_of_toNat_eq (b := c) (by omega),
      ofNat_eq_of_toNat_eq (b := d) (by omega)]

theorem WellFormed.exists_encode {bytes : Bytes} (h : WellFormed bytes) :
    ∃ text, encode text = bytes := by
  induction h with
  | nil => exact ⟨[], rfl⟩
  | append hcharacter hrest ih =>
    obtain ⟨c, rfl⟩ := hcharacter.exists_char
    obtain ⟨text, rfl⟩ := ih
    exact ⟨c :: text, rfl⟩

/-! ## Bytes without ill-formed stretches -/

theorem notMem_units_of_decode? {bytes : Bytes} {text : List Char}
    (h : decode? bytes = some text) : none ∉ units none bytes := by
  rw [decode?] at h
  generalize units none bytes = characters at h ⊢
  induction characters generalizing text with
  | nil => exact List.not_mem_nil
  | cons first others ih =>
    cases first with
    | none => simp at h
    | some c =>
      simp only [List.mapM_cons, id, Option.bind_eq_bind, Option.bind_some,
        Option.bind_eq_some_iff] at h
      obtain ⟨rest, hrest, -⟩ := h
      simpa using ih hrest

/-- What a first byte of several demands of the bytes behind it. -/
inductive Demands (a : UInt8) : Begun → Prop where
  | two {bits : Nat} (ha : 0xC2 ≤ a.toNat ∧ a.toNat ≤ 0xDF) : Demands a ⟨1, 0x80, 0xBF, bits⟩
  | three {low high bits : Nat} (ha : 0xE0 ≤ a.toNat ∧ a.toNat ≤ 0xEF)
      (hlow : 0x80 ≤ low) (hhigh : high ≤ 0xBF) (hoverlong : a.toNat = 0xE0 → 0xA0 ≤ low)
      (hsurrogate : a.toNat = 0xED → high ≤ 0x9F) : Demands a ⟨2, low, high, bits⟩
  | four {low high bits : Nat} (ha : 0xF0 ≤ a.toNat ∧ a.toNat ≤ 0xF4)
      (hlow : 0x80 ≤ low) (hhigh : high ≤ 0xBF) (hoverlong : a.toNat = 0xF0 → 0x90 ≤ low)
      (hlarge : a.toNat = 0xF4 → high ≤ 0x8F) : Demands a ⟨3, low, high, bits⟩

theorem demands_of_begin? {a : UInt8} {begun : Begun} (h : begin? a.toNat = some begun) :
    Demands a begun := by
  unfold begin? at h
  split_ifs at h <;> cases h
  · exact .two ⟨by omega, by omega⟩
  · exact .three ⟨by omega, by omega⟩ (by omega) (by omega) (by omega) (by omega)
  · exact .three ⟨by omega, by omega⟩ (by omega) (by omega) (by omega) (by omega)
  · exact .three ⟨by omega, by omega⟩ (by omega) (by omega) (by omega) (by omega)
  · exact .four ⟨by omega, by omega⟩ (by omega) (by omega) (by omega) (by omega)
  · exact .four ⟨by omega, by omega⟩ (by omega) (by omega) (by omega) (by omega)
  · exact .four ⟨by omega, by omega⟩ (by omega) (by omega) (by omega) (by omega)

/-- The byte that is awaited is there and lies in its range, and the scan goes on behind it. -/
theorem exists_next_of_notMem_units {begun : Begun} {bytes : Bytes}
    (h : none ∉ units (some begun) bytes) :
    ∃ b rest, bytes = b :: rest ∧ (begun.low ≤ b.toNat ∧ b.toNat ≤ begun.high) ∧
      none ∉ units (next (some begun) b).2 rest := by
  cases bytes with
  | nil => simp [units] at h
  | cons b rest =>
    rw [units, List.mem_append, not_or] at h
    by_cases hrange : begun.low ≤ b.toNat ∧ b.toNat ≤ begun.high
    · exact ⟨b, rest, rfl, hrange, h.2⟩
    · simp [next, hrange] at h

/-- Behind a byte that is not the last one, one byte less is awaited. -/
theorem exists_more_of_notMem_units {missing low high bits : Nat} {bytes : Bytes}
    (h : none ∉ units (some ⟨missing + 2, low, high, bits⟩) bytes) :
    ∃ b rest bits, bytes = b :: rest ∧ (low ≤ b.toNat ∧ b.toNat ≤ high) ∧
      none ∉ units (some ⟨missing + 1, 0x80, 0xBF, bits⟩) rest := by
  obtain ⟨b, rest, rfl, hb, hrest⟩ := exists_next_of_notMem_units h
  refine ⟨b, rest, bits * 64 + (b.toNat - 0x80), rfl, hb, ?_⟩
  simpa [next, hb] using hrest

/-- Behind the last byte of a character, a new one may begin. -/
theorem exists_last_of_notMem_units {low high bits : Nat} {bytes : Bytes}
    (h : none ∉ units (some ⟨1, low, high, bits⟩) bytes) :
    ∃ b rest, bytes = b :: rest ∧ (low ≤ b.toNat ∧ b.toNat ≤ high) ∧
      none ∉ units none rest := by
  obtain ⟨b, rest, rfl, hb, hrest⟩ := exists_next_of_notMem_units h
  refine ⟨b, rest, rfl, hb, ?_⟩
  simpa [next, hb] using hrest

/-- What is begun is brought to its end by the bytes of one character. -/
theorem Demands.exists_character {a : UInt8} {begun : Begun} (h : Demands a begun) {bytes : Bytes}
    (hbytes : none ∉ units (some begun) bytes) :
    ∃ others rest, bytes = others ++ rest ∧ IsCharacter (a :: others) ∧
      none ∉ units none rest := by
  cases h with
  | two ha =>
    obtain ⟨b, rest, rfl, hb, hrest⟩ := exists_last_of_notMem_units hbytes
    exact ⟨[b], rest, rfl, .two ha hb, hrest⟩
  | three ha hlow hhigh hoverlong hsurrogate =>
    obtain ⟨b, bytes, _, rfl, hb, hbytes⟩ := exists_more_of_notMem_units hbytes
    obtain ⟨c, rest, rfl, hc, hrest⟩ := exists_last_of_notMem_units hbytes
    have hcontinues : Continues b := ⟨by omega, by omega⟩
    exact ⟨[b, c], rest, rfl, .three ha hcontinues hc (by omega) (by omega), hrest⟩
  | four ha hlow hhigh hoverlong hlarge =>
    obtain ⟨b, bytes, _, rfl, hb, hbytes⟩ := exists_more_of_notMem_units hbytes
    obtain ⟨c, bytes, _, rfl, hc, hbytes⟩ := exists_more_of_notMem_units hbytes
    obtain ⟨d, rest, rfl, hd, hrest⟩ := exists_last_of_notMem_units hbytes
    have hcontinues : Continues b := ⟨by omega, by omega⟩
    exact ⟨[b, c, d], rest, rfl, .four ha hcontinues hc hd (by omega) (by omega), hrest⟩

/-- Bytes without ill-formed stretches are those of characters. -/
theorem wellFormed_of_notMem_units {bytes : Bytes} (h : none ∉ units none bytes) :
    WellFormed bytes := by
  -- a character takes up several bytes, so the induction is on the length
  induction hlength : bytes.length using Nat.strongRecOn generalizing bytes with
  | ind length ih =>
    subst hlength
    cases bytes with
    | nil => exact .nil
    | cons a bytes =>
      rw [units, List.mem_append, not_or] at h
      by_cases hsmall : a.toNat < 0x80
      · have hrest : none ∉ units none bytes := by simpa [next, first, hsmall] using h.2
        exact .append (.one (by omega)) (ih _ (by simp) hrest rfl)
      · cases hbegin : begin? a.toNat with
        | none => simp [next, first, hsmall, hbegin] at h
        | some begun =>
          have hbytes : none ∉ units (some begun) bytes := by
            simpa [next, first, hsmall, hbegin] using h.2
          obtain ⟨others, rest, rfl, hcharacter, hrest⟩ :=
            (demands_of_begin? hbegin).exists_character hbytes
          refine .append hcharacter (ih _ ?_ hrest rfl)
          rw [List.length_cons, List.length_append]
          omega

/-! ## Reading -/

/-- The bytes are read as a text exactly if they are the bytes of this text. -/
theorem decode?_eq_some_iff {bytes : Bytes} {text : List Char} :
    decode? bytes = some text ↔ encode text = bytes := by
  constructor
  · intro h
    obtain ⟨written, rfl⟩ :=
      (wellFormed_of_notMem_units (notMem_units_of_decode? h)).exists_encode
    rw [decode?_encode, Option.some_inj] at h
    rw [h]
  · rintro rfl
    exact decode?_encode text

/-- Well-formed bytes are those of texts. -/
theorem wellFormed_iff {bytes : Bytes} : WellFormed bytes ↔ ∃ text, encode text = bytes := by
  refine ⟨WellFormed.exists_encode, ?_⟩
  rintro ⟨text, rfl⟩
  exact wellFormed_of_notMem_units (notMem_units_of_decode? (decode?_encode text))

/-- Bytes that are not well-formed are refused. -/
theorem decode?_eq_none_iff {bytes : Bytes} : decode? bytes = none ↔ ¬ WellFormed bytes := by
  rw [wellFormed_iff, Option.eq_none_iff_forall_ne_some, not_exists]
  exact forall_congr' fun text => not_congr decode?_eq_some_iff

instance (bytes : Bytes) : Decidable (WellFormed bytes) :=
  decidable_of_iff ((decode? bytes).isSome = true) <| by
    rw [Option.isSome_iff_exists, wellFormed_iff]
    exact exists_congr fun text => decode?_eq_some_iff

/-- What is read for display is the text, if there is one. -/
theorem decodeLossy_encode (text : List Char) : decodeLossy (encode text) = text := by
  rw [decodeLossy, units_encode, List.map_map]
  exact List.map_id text

/-! ## ASCII characters -/

/-- An ASCII character is written as the byte with its number. -/
theorem utf8EncodeChar_of_toNat_eq {b : UInt8} {c : Char} (hb : b.toNat < 0x80)
    (hc : c.toNat = b.toNat) : String.utf8EncodeChar c = [b] := by
  have hvalue : c.val.toNat = b.toNat := hc
  rw [String.utf8EncodeChar, hvalue, if_pos (by omega), UInt8.ofNat_toNat]

/-- No other character is written with the byte of an ASCII character. -/
theorem toNat_eq_of_mem_utf8EncodeChar {b : UInt8} {c : Char} (hb : b.toNat < 0x80)
    (h : b ∈ String.utf8EncodeChar c) : c.toNat = b.toNat := by
  have hvalid : c.val.toNat < 0xD800 ∨ (0xDFFF < c.val.toNat ∧ c.val.toNat < 0x110000) := c.valid
  change c.val.toNat = b.toNat
  simp only [String.utf8EncodeChar] at h
  generalize c.val.toNat = v at h hvalid ⊢
  split_ifs at h <;> simp only [List.mem_cons, List.not_mem_nil, or_false] at h
  · rw [h, UInt8.toNat_ofNat']
    omega
  all_goals
    -- every byte of the longer forms is at least 0x80
    exfalso
    rcases h with rfl | rfl | rfl | rfl
    all_goals
      rw [UInt8.toNat_ofNat'] at hb
      omega

section
variable {b : UInt8} {c : Char}

/-- A text has the byte of an ASCII character only where it has this character. -/
theorem mem_encode_iff (hb : b.toNat < 0x80) (hc : c.toNat = b.toNat) {text : List Char} :
    b ∈ encode text ↔ c ∈ text := by
  rw [encode, List.mem_flatMap]
  constructor
  · rintro ⟨d, hd, hmem⟩
    have hsame : d.toNat = c.toNat := (toNat_eq_of_mem_utf8EncodeChar hb hmem).trans hc.symm
    rwa [← Char.toNat_inj.mp hsame]
  · intro h
    exact ⟨c, h, by simp [utf8EncodeChar_of_toNat_eq hb hc]⟩

/-- A text ends in the byte of an ASCII character only if it ends in this character. -/
theorem getLast?_encode_eq_iff (hb : b.toNat < 0x80) (hc : c.toNat = b.toNat)
    {text : List Char} : (encode text).getLast? = some b ↔ text.getLast? = some c := by
  rcases text.eq_nil_or_concat with rfl | ⟨init, d, rfl⟩
  · simp
  · have hlast : (encode (init ++ [d])).getLast? = (String.utf8EncodeChar d).getLast? := by
      rw [encode_append, encode_cons, encode_nil, List.append_nil, List.getLast?_append,
        List.getLast?_eq_some_getLast String.utf8EncodeChar_ne_nil, Option.some_or]
    rw [List.concat_eq_append, List.getLast?_concat, Option.some_inj, hlast]
    constructor
    · intro h
      have hsame := toNat_eq_of_mem_utf8EncodeChar hb (List.mem_of_getLast? h)
      exact Char.toNat_inj.mp (hsame.trans hc.symm)
    · rintro rfl
      rw [utf8EncodeChar_of_toNat_eq hb hc, List.getLast?_singleton]

end

end TestCoverage.Utf8

import Mathlib.Tactic.SplitIfs
import PageQuery.Text.Utf8

/-!
Texts survive as bytes: reading the bytes of a text gives its characters and nothing stray.
-/
namespace PageQuery.Text

@[simp] theorem encode_nil : encode [] = [] := rfl

@[simp] theorem encode_cons (c : Char) (t : Text) : encode (c :: t) = encodeChar c ++ encode t :=
  List.flatMap_cons

@[simp] theorem encode_append (t u : Text) : encode (t ++ u) = encode t ++ encode u :=
  List.flatMap_append

/-- A number that is no code point gives the character zero. -/
theorem toNat_ofNat_cases (n : Nat) : (Char.ofNat n).toNat = n ∨ (Char.ofNat n).toNat = 0 := by
  rw [Char.ofNat]
  by_cases hv : n.isValidChar
  · rw [dif_pos hv]
    exact .inl rfl
  · rw [dif_neg hv]
    exact .inr rfl

theorem toNat_byte {n : Nat} (h : n < 256) : (byte n).toNat = n := UInt8.toNat_ofNat_of_lt' h

private theorem lead_two : ∀ k < 32, 2 ≤ k →
    lead? (byte (0xC0 + k)) = some { following := 1, bits := k } := by decide

private theorem lead_three : ∀ k < 16,
    lead? (byte (0xE0 + k)) =
      some { following := 2, bits := k, low := if k = 0 then 0xA0 else 0x80
             high := if k = 0xD then 0x9F else 0xBF } := by decide

private theorem lead_four : ∀ k < 5,
    lead? (byte (0xF0 + k)) =
      some { following := 3, bits := k, low := if k = 0 then 0x90 else 0x80
             high := if k = 4 then 0x8F else 0xBF } := by decide

/-- A byte with six bits of a character that is not the first of its bytes. -/
theorem toNat_continuation (k : Nat) : (byte (0x80 + k % 64)).toNat = 0x80 + k % 64 :=
  toNat_byte (by omega)

theorem following_zero (low high : Nat) (rest : Bytes) : following 0 low high rest = [] := by
  cases rest <;> rfl

theorem following_cons {count low high : Nat} {b : UInt8} {rest : Bytes} (hlow : low ≤ b.toNat)
    (hhigh : b.toNat ≤ high) :
    following (count + 1) low high (b :: rest) = b :: following count 0x80 0xBF rest :=
  if_pos ⟨hlow, hhigh⟩

/-- A first byte, the bytes that it asks for, and what they stand for together. -/
theorem firstSymbol_of_lead {b : UInt8} {lead : Lead} {more rest : Bytes} {c : Char}
    (hb : 0x80 ≤ b.toNat) (hlead : lead? b = some lead)
    (hmore : following lead.following lead.low lead.high (more ++ rest) = more)
    (hlength : more.length = lead.following)
    (hbits : more.foldl (fun n c => n * 64 + (c.toNat - 0x80)) lead.bits = c.toNat) :
    firstSymbol b (more ++ rest) = (.char c, more.length) := by
  rw [firstSymbol, if_neg (by omega), hlead]
  simp only [hmore, hlength, hbits, ↓reduceIte, Char.ofNat_toNat]

/-- The first symbol of the bytes of a character is the character. -/
theorem exists_firstSymbol_encodeChar (c : Char) (rest : Bytes) :
    ∃ b more, encodeChar c = b :: more ∧ firstSymbol b (more ++ rest) = (.char c, more.length) := by
  have hvalid : c.toNat < 0xD800 ∨ 0xDFFF < c.toNat ∧ c.toNat < 0x110000 := c.valid
  simp only [encodeChar]
  split_ifs with h1 h2 h3
  · refine ⟨_, _, rfl, ?_⟩
    rw [firstSymbol, toNat_byte (by omega), if_pos h1, Char.ofNat_toNat]
    rfl
  · refine ⟨_, _, rfl,
      firstSymbol_of_lead ?_ (lead_two (c.toNat / 64) (by omega) (by omega)) ?_ rfl ?_⟩
    · rw [toNat_byte (by omega)]; omega
    · have hlast := toNat_continuation c.toNat
      simp only [List.cons_append, List.nil_append]
      rw [following_cons (by omega) (by omega), following_zero]
    · simp only [List.foldl_cons, List.foldl_nil, toNat_continuation]
      omega
  · refine ⟨_, _, rfl, firstSymbol_of_lead ?_ (lead_three (c.toNat / 4096) (by omega)) ?_ rfl ?_⟩
    · rw [toNat_byte (by omega)]; omega
    · have hsecond := toNat_continuation (c.toNat / 64)
      have hlast := toNat_continuation c.toNat
      simp only [List.cons_append, List.nil_append]
      rw [following_cons (by split_ifs <;> omega) (by split_ifs <;> omega),
        following_cons (by omega) (by omega), following_zero]
    · simp only [List.foldl_cons, List.foldl_nil, toNat_continuation]
      omega
  · refine ⟨_, _, rfl, firstSymbol_of_lead ?_ (lead_four (c.toNat / 262144) (by omega)) ?_ rfl ?_⟩
    · rw [toNat_byte (by omega)]; omega
    · have hsecond := toNat_continuation (c.toNat / 4096)
      have hthird := toNat_continuation (c.toNat / 64)
      have hlast := toNat_continuation c.toNat
      simp only [List.cons_append, List.nil_append]
      rw [following_cons (by split_ifs <;> omega) (by split_ifs <;> omega),
        following_cons (by omega) (by omega), following_cons (by omega) (by omega), following_zero]
    · simp only [List.foldl_cons, List.foldl_nil, toNat_continuation]
      omega

theorem length_encodeChar_pos (c : Char) : 0 < (encodeChar c).length := by
  obtain ⟨b, more, h, -⟩ := exists_firstSymbol_encodeChar c []
  simp [h]

theorem symbolsWithin_encodeChar_append (fuel : Nat) (c : Char) (rest : Bytes) :
    symbolsWithin (fuel + 1) (encodeChar c ++ rest) = .char c :: symbolsWithin fuel rest := by
  obtain ⟨b, more, hbytes, hfirst⟩ := exists_firstSymbol_encodeChar c rest
  simp [hbytes, symbolsWithin, hfirst]

/-- Enough fuel is one unit for each character; there is one for each byte. -/
theorem symbolsWithin_encode (t : Text) {fuel : Nat} (hfuel : t.length ≤ fuel) :
    symbolsWithin fuel (encode t) = t.map .char := by
  induction t generalizing fuel with
  | nil => cases fuel <;> rfl
  | cons c rest ih =>
    obtain ⟨fuel, rfl⟩ : ∃ k, fuel = k + 1 := ⟨fuel - 1, by simp at hfuel; omega⟩
    rw [encode_cons, symbolsWithin_encodeChar_append, ih (by simpa using hfuel), List.map_cons]

theorem length_le_length_encode (t : Text) : t.length ≤ (encode t).length := by
  induction t with
  | nil => simp
  | cons c rest ih =>
    have hpos := length_encodeChar_pos c
    simp only [encode_cons, List.length_append, List.length_cons]
    omega

@[simp] theorem symbols_encode (t : Text) : symbols (encode t) = t.map .char :=
  symbolsWithin_encode t (length_le_length_encode t)

/-! ### What bytes hold -/

theorem ofSymbols?_eq_some_iff {symbols : List Symbol} {t : Text} :
    ofSymbols? symbols = some t ↔ symbols = t.map .char := by
  induction symbols generalizing t with
  | nil => cases t <;> simp [ofSymbols?]
  | cons symbol more ih =>
    cases symbol with
    | stray bytes => cases t <;> simp [ofSymbols?]
    | char c =>
      rw [ofSymbols?, Option.map_eq_some_iff]
      constructor
      · rintro ⟨u, hu, rfl⟩
        rw [ih.mp hu, List.map_cons]
      · intro h
        cases t with
        | nil => cases h
        | cons d u =>
          obtain ⟨hd, hu⟩ := List.cons.inj h
          cases hd
          exact ⟨u, ih.mpr hu, rfl⟩

theorem decode?_eq_some_iff {bytes : Bytes} {t : Text} :
    decode? bytes = some t ↔ symbols bytes = t.map .char :=
  ofSymbols?_eq_some_iff

theorem decode?_encode (t : Text) : decode? (encode t) = some t :=
  decode?_eq_some_iff.mpr (symbols_encode t)

theorem encode_injective : Function.Injective encode := by
  intro t u h
  have ht := decode?_encode t
  rw [h, decode?_encode] at ht
  exact (Option.some.inj ht).symm

theorem le_toNat_of_mem_encodeChar {c : Char} (hc : 0x80 ≤ c.toNat) {b : UInt8}
    (hb : b ∈ encodeChar c) : 0x80 ≤ b.toNat := by
  have hvalid : c.toNat < 0x110000 := by
    have h : c.toNat < 0xD800 ∨ 0xDFFF < c.toNat ∧ c.toNat < 0x110000 := c.valid
    omega
  simp only [encodeChar] at hb
  split_ifs at hb with h1 h2 h3
  · omega
  all_goals
    simp only [List.mem_cons, List.not_mem_nil, or_false] at hb
    rcases hb with rfl | rfl | rfl | rfl
    all_goals
      rw [toNat_byte (by omega)]
      omega

/-- The byte of an ASCII character is in the bytes of no other one. -/
theorem byte_mem_encode_iff {c : Char} (hc : c.toNat < 0x80) {t : Text} :
    byte c.toNat ∈ encode t ↔ c ∈ t := by
  have hbyte := toNat_byte (n := c.toNat) (by omega)
  rw [encode, List.mem_flatMap]
  constructor
  · rintro ⟨d, hd, hmem⟩
    by_cases hascii : d.toNat < 0x80
    · rw [encodeChar, if_pos hascii, List.mem_singleton] at hmem
      have hsame : c.toNat = d.toNat := by
        rw [← hbyte, hmem, toNat_byte (by omega)]
      rwa [Char.toNat_inj.mp hsame]
    · have hlarge := le_toNat_of_mem_encodeChar (by omega) hmem
      omega
  · intro hmem
    exact ⟨c, hmem, by rw [encodeChar, if_pos hc]; exact List.mem_singleton_self _⟩

theorem lead_bounds {b : UInt8} {lead : Lead} (h : lead? b = some lead) :
    1 ≤ lead.following ∧
      (2 ≤ lead.bits ∨ 2 ≤ lead.following ∧ (1 ≤ lead.bits ∨ 0x90 ≤ lead.low)) := by
  simp only [lead?] at h
  split_ifs at h
  all_goals
    cases h
    simp only
    omega

theorem le_foldl_bits (more : Bytes) (bits : Nat) :
    bits ≤ more.foldl (fun n c => n * 64 + (c.toNat - 0x80)) bits := by
  induction more generalizing bits with
  | nil => exact Nat.le_refl bits
  | cons b rest ih =>
    have hstep : bits ≤ bits * 64 + (b.toNat - 0x80) := by omega
    rw [List.foldl_cons]
    exact Nat.le_trans hstep (ih _)

theorem le_of_following_eq_cons {count low high : Nat} {rest more : Bytes} {b : UInt8}
    (h : following count low high rest = b :: more) : low ≤ b.toNat := by
  cases count with
  | zero =>
    rw [following_zero] at h
    cases h
  | succ count =>
    cases rest with
    | nil => cases h
    | cons c rest =>
      rw [following] at h
      split_ifs at h with hc
      cases h
      exact hc.1

/-- Characters of more than one byte are not ASCII, as shorter forms are refused. -/
theorem le_bits_of_lead {b : UInt8} {lead : Lead} {rest more : Bytes} (hlead : lead? b = some lead)
    (hmore : following lead.following lead.low lead.high rest = more)
    (hlength : more.length = lead.following) :
    0x80 ≤ more.foldl (fun n c => n * 64 + (c.toNat - 0x80)) lead.bits := by
  obtain ⟨hpos, hbounds⟩ := lead_bounds hlead
  match more with
  | [] =>
    rw [← hlength] at hpos
    cases hpos
  | [second] =>
    simp only [List.length_singleton] at hlength
    have hle := le_foldl_bits [] (lead.bits * 64 + (second.toNat - 0x80))
    simp only [List.foldl_cons]
    omega
  | second :: third :: others =>
    have hlow := le_of_following_eq_cons hmore
    have hle := le_foldl_bits others
      ((lead.bits * 64 + (second.toNat - 0x80)) * 64 + (third.toNat - 0x80))
    simp only [List.foldl_cons]
    omega

theorem eq_byte_of_firstSymbol {b : UInt8} {rest : Bytes} {c : Char} {used : Nat}
    (h : firstSymbol b rest = (.char c, used)) (hpos : 0 < c.toNat) (hc : c.toNat < 0x80) :
    b = byte c.toNat := by
  rw [firstSymbol] at h
  split_ifs at h with hascii
  · cases h
    rcases toNat_ofNat_cases b.toNat with hn | hn
    · rw [hn]
      exact UInt8.ofNat_toNat.symm
    · omega
  · split at h
    · cases h
    · next lead hlead =>
      simp only at h
      split_ifs at h with hlength
      · cases h
        -- a number that is no code point reads as zero, so the character is not ASCII either way
        have hbits := le_bits_of_lead hlead rfl hlength
        have hn := toNat_ofNat_cases ((following lead.following lead.low lead.high rest).foldl
          (fun n c => n * 64 + (c.toNat - 0x80)) lead.bits)
        omega
      · cases h

/-- An ASCII character is read from its own byte only. -/
theorem byte_mem_of_mem_symbols {c : Char} (hpos : 0 < c.toNat) (hc : c.toNat < 0x80)
    {bytes : Bytes} (h : .char c ∈ symbols bytes) : byte c.toNat ∈ bytes := by
  have hwithin (fuel : Nat) (bytes : Bytes) (h : .char c ∈ symbolsWithin fuel bytes) :
      byte c.toNat ∈ bytes := by
    induction fuel generalizing bytes with
    | zero => cases bytes <;> cases h
    | succ fuel ih =>
      cases bytes with
      | nil => cases h
      | cons b rest =>
        rcases hfirst : firstSymbol b rest with ⟨symbol, used⟩
        rw [symbolsWithin, hfirst] at h
        rcases List.mem_cons.mp h with rfl | hmore
        · rw [eq_byte_of_firstSymbol hfirst hpos hc]
          exact List.mem_cons_self
        · exact List.mem_cons_of_mem b (List.mem_of_mem_drop (ih _ hmore))
  exact hwithin _ bytes h

theorem byte_mem_of_mem_decode? {c : Char} (hpos : 0 < c.toNat) (hc : c.toNat < 0x80)
    {bytes : Bytes} {t : Text} (h : decode? bytes = some t) (hmem : c ∈ t) :
    byte c.toNat ∈ bytes := by
  refine byte_mem_of_mem_symbols hpos hc ?_
  rw [decode?_eq_some_iff.mp h]
  exact List.mem_map_of_mem hmem

theorem byte_mem_of_mem_decodeLossy {c : Char} (hpos : 0 < c.toNat) (hc : c.toNat < 0x80)
    {bytes : Bytes} (hmem : c ∈ decodeLossy bytes) : byte c.toNat ∈ bytes := by
  obtain ⟨symbol, hsymbol, hread⟩ := List.mem_map.mp hmem
  cases symbol with
  | char d =>
    cases hread
    exact byte_mem_of_mem_symbols hpos hc hsymbol
  | stray _ =>
    have hlarge : ¬ replacement.toNat < 0x80 := by decide
    rw [← hread] at hc
    exact absurd hc hlarge

end PageQuery.Text

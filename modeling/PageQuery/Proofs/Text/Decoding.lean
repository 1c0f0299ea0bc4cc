import Mathlib.Data.List.Basic
import PageQuery.Proofs.Text.Utf8

/-!
Reading bytes as a text is the inverse of writing the text: bytes that hold a text are its bytes.
-/
namespace PageQuery.Text

variable {b : UInt8} {lead : Lead} {rest more : Bytes}

theorem le_of_following_succ {count low high : Nat}
    (h : following (count + 1) low high rest = b :: more) :
    (low ≤ b.toNat ∧ b.toNat ≤ high) ∧
      ∃ after, following count 0x80 0xBF after = more := by
  cases rest with
  | nil => cases h
  | cons c rest =>
    rw [following] at h
    split_ifs at h with hc
    obtain ⟨rfl, hmore⟩ := List.cons.inj h
    exact ⟨hc, rest, hmore⟩

theorem toNat_ofNat_of_valid {n : Nat} (h : n < 0xD800 ∨ 0xDFFF < n ∧ n < 0x110000) :
    (Char.ofNat n).toNat = n := by
  have hv : n.isValidChar := h
  rw [Char.ofNat, dif_pos hv]
  rfl

theorem byte_eq {n : Nat} (h : n = b.toNat) : byte n = b := by
  rw [h]
  exact UInt8.ofNat_toNat

/-- What first bytes of characters of two, three and four bytes ask for. -/
theorem lead?_cases (h : lead? b = some lead) :
    (lead.following = 1 ∧ 0xC2 ≤ b.toNat ∧ b.toNat < 0xE0 ∧ lead.bits = b.toNat - 0xC0 ∧
      0x80 ≤ lead.low ∧ lead.high ≤ 0xBF) ∨
    (lead.following = 2 ∧ 0xE0 ≤ b.toNat ∧ b.toNat < 0xF0 ∧ lead.bits = b.toNat - 0xE0 ∧
      0x80 ≤ lead.low ∧ lead.high ≤ 0xBF ∧ (b.toNat ≠ 0xE0 ∨ 0xA0 ≤ lead.low) ∧
      (b.toNat ≠ 0xED ∨ lead.high ≤ 0x9F)) ∨
    (lead.following = 3 ∧ 0xF0 ≤ b.toNat ∧ b.toNat < 0xF5 ∧ lead.bits = b.toNat - 0xF0 ∧
      0x80 ≤ lead.low ∧ lead.high ≤ 0xBF ∧ (b.toNat ≠ 0xF0 ∨ 0x90 ≤ lead.low) ∧
      (b.toNat ≠ 0xF4 ∨ lead.high ≤ 0x8F)) := by
  simp only [lead?] at h
  split_ifs at h
  all_goals
    cases h
    dsimp only
    omega

/-- What a first byte and the bytes that it asks for stand for is written as these bytes. -/
theorem encodeChar_of_lead (hlead : lead? b = some lead)
    (hmore : following lead.following lead.low lead.high rest = more)
    (hlength : more.length = lead.following) :
    encodeChar (Char.ofNat (more.foldl (fun n c => n * 64 + (c.toNat - 0x80)) lead.bits)) =
      b :: more := by
  obtain ⟨hcount, hlow, hhigh, hbits, hbounds⟩ | ⟨hcount, hlow, hhigh, hbits, hbounds⟩ |
    ⟨hcount, hlow, hhigh, hbits, hbounds⟩ := lead?_cases hlead
  · rw [hcount] at hmore hlength
    obtain ⟨x, rfl⟩ := List.length_eq_one_iff.mp hlength
    obtain ⟨hx, -⟩ := le_of_following_succ hmore
    rw [List.foldl_cons, List.foldl_nil, encodeChar, toNat_ofNat_of_valid (by omega)]
    rw [if_neg (by omega), if_pos (by omega), byte_eq (b := b) (by omega),
      byte_eq (b := x) (by omega)]
  · rw [hcount] at hmore hlength
    obtain ⟨x, y, rfl⟩ := List.length_eq_two.mp hlength
    obtain ⟨hx, after, hmore⟩ := le_of_following_succ hmore
    obtain ⟨hy, -⟩ := le_of_following_succ hmore
    simp only [List.foldl_cons, List.foldl_nil]
    rw [encodeChar, toNat_ofNat_of_valid (by omega)]
    rw [if_neg (by omega), if_neg (by omega), if_pos (by omega), byte_eq (b := b) (by omega),
      byte_eq (b := x) (by omega), byte_eq (b := y) (by omega)]
  · rw [hcount] at hmore hlength
    obtain ⟨x, y, z, rfl⟩ := List.length_eq_three.mp hlength
    obtain ⟨hx, after, hmore⟩ := le_of_following_succ hmore
    obtain ⟨hy, after', hmore⟩ := le_of_following_succ hmore
    obtain ⟨hz, -⟩ := le_of_following_succ hmore
    simp only [List.foldl_cons, List.foldl_nil]
    rw [encodeChar, toNat_ofNat_of_valid (by omega)]
    rw [if_neg (by omega), if_neg (by omega), if_neg (by omega), byte_eq (b := b) (by omega),
      byte_eq (b := x) (by omega), byte_eq (b := y) (by omega), byte_eq (b := z) (by omega)]

theorem following_prefix_rest (count low high : Nat) (rest : Bytes) :
    following count low high rest <+: rest := by
  induction count generalizing low high rest with
  | zero =>
    rw [following_zero]
    exact List.nil_prefix
  | succ count ih =>
    cases rest with
    | nil => exact List.nil_prefix
    | cons b rest =>
      rw [following]
      split
      · exact List.cons_prefix_cons.mpr ⟨rfl, ih _ _ _⟩
      · exact List.nil_prefix

theorem encodeChar_of_firstSymbol {c : Char} {used : Nat}
    (h : firstSymbol b rest = (.char c, used)) : b :: rest = encodeChar c ++ rest.drop used := by
  rw [firstSymbol] at h
  split_ifs at h with hascii
  · cases h
    have hc := toNat_ofNat_of_valid (n := b.toNat) (by omega)
    rw [encodeChar, hc, if_pos hascii, byte_eq rfl]
    rfl
  · split at h
    · cases h
    · next lead hlead =>
      simp only at h
      split_ifs at h with hlength
      · cases h
        have hfront := List.prefix_iff_eq_append.mp
          (following_prefix_rest lead.following lead.low lead.high rest)
        rw [encodeChar_of_lead hlead rfl hlength, List.cons_append, hfront]
      · cases h

theorem eq_encode_of_symbolsWithin {fuel : Nat} {bytes : Bytes} {t : Text}
    (hfuel : bytes.length ≤ fuel) (h : symbolsWithin fuel bytes = t.map .char) :
    bytes = encode t := by
  induction fuel generalizing bytes t with
  | zero =>
    rw [List.length_eq_zero_iff.mp (Nat.le_zero.mp hfuel)] at h ⊢
    rw [List.map_eq_nil_iff.mp h.symm, encode_nil]
  | succ fuel ih =>
    cases bytes with
    | nil => rw [List.map_eq_nil_iff.mp h.symm, encode_nil]
    | cons b rest =>
      rcases hfirst : firstSymbol b rest with ⟨symbol, used⟩
      rw [symbolsWithin, hfirst] at h
      cases t with
      | nil => cases h
      | cons c u =>
        obtain ⟨rfl, hrest⟩ := List.cons.inj h
        have hlength : (rest.drop used).length ≤ fuel := by
          rw [List.length_cons] at hfuel
          rw [List.length_drop]
          omega
        rw [encodeChar_of_firstSymbol hfirst, ih hlength hrest, encode_cons]

/-- Bytes hold a text iff they are its bytes. -/
theorem decode?_eq_some_iff_encode {bytes : Bytes} {t : Text} :
    decode? bytes = some t ↔ bytes = encode t := by
  constructor
  · intro h
    exact eq_encode_of_symbolsWithin (Nat.le_refl _) (decode?_eq_some_iff.mp h)
  · rintro rfl
    exact decode?_encode t

end PageQuery.Text

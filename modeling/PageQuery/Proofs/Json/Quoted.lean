import Mathlib.Tactic.SplitIfs
import PageQuery.Json.Value

/-!
Strings of the data format read back as what was written: each piece between the quotes is one
character, an escape or a number of four hexadecimal digits, and a quoted text has pieces that stand
for the text.
-/
namespace PageQuery.Json

open Text (Symbol)

/-- How a piece can be written. -/
inductive Piece.Spells : Text → Piece → Prop where
  | char {c : Char} (hquote : c ≠ '"') (hbackslash : c ≠ '\\') (hcontrol : 0x20 ≤ c.toNat) :
      Spells [c] (.char c)
  | escape {e c : Char} (h : unescape? e = some c) : Spells ['\\', e] (.escape c)
  | hex {a b c d : Char} {unit : Nat} (h : hexUnit? a b c d = some unit) :
      Spells ['\\', 'u', a, b, c, d] (.hex unit)

/-- How the pieces of a string can be written. -/
inductive Spells : Text → List Piece → Prop where
  | nil : Spells [] []
  | cons {w rest : Text} {p : Piece} {more : List Piece} (hpiece : p.Spells w)
      (hmore : Spells rest more) : Spells (w ++ rest) (p :: more)

namespace RawString

theorem take_char {c : Char} (hquote : c ≠ '"') (hbackslash : c ≠ '\\') (hcontrol : 0x20 ≤ c.toNat)
    (s : List Symbol) : take (.char c :: s) = cons (.char c) (take s) := by
  rw [take, if_neg (by omega)]
  all_goals simp_all

theorem take_escape {e c : Char} (h : unescape? e = some c) (s : List Symbol) :
    take (.char '\\' :: .char e :: s) = cons (.escape c) (take s) := by
  have hu : e ≠ 'u' := by rintro rfl; cases h
  rw [take, h]
  all_goals simp_all

theorem take_hex {a b c d : Char} {unit : Nat} (h : hexUnit? a b c d = some unit)
    (s : List Symbol) :
    take (symbolsOf ['\\', 'u', a, b, c, d] ++ s) = cons (.hex unit) (take s) := by
  simp only [symbolsOf, List.map_cons, List.map_nil, List.cons_append, List.nil_append]
  rw [take, h]

theorem take_piece {w : Text} {p : Piece} (h : p.Spells w) (s : List Symbol) :
    take (symbolsOf w ++ s) = cons p (take s) := by
  cases h with
  | char hquote hbackslash hcontrol => exact take_char hquote hbackslash hcontrol s
  | escape h => exact take_escape h s
  | hex h => exact take_hex h s

/-- A string is read up to its closing quote. -/
theorem take_spells {w : Text} {pieces : List Piece} (h : Spells w pieces) (rest : List Symbol) :
    take (symbolsOf w ++ .char '"' :: rest) = (⟨pieces, .closed⟩, rest) := by
  induction h with
  | nil => rw [symbolsOf, List.map_nil, List.nil_append, take]
  | cons hpiece hmore ih =>
    rw [symbolsOf, List.map_append, List.append_assoc, ← symbolsOf, ← symbolsOf,
      take_piece hpiece, ih]
    rfl

end RawString

theorem Spells.hasStray {w : Text} {pieces : List Piece} (h : Spells w pieces)
    (ending : StringEnd) : RawString.hasStray ⟨pieces, ending⟩ = false := by
  induction h with
  | nil => rfl
  | cons hpiece hmore ih =>
    cases hpiece <;> exact ih

theorem Spells.text_eq {w : Text} {pieces : List Piece} (h : Spells w pieces) :
    RawString.text ⟨pieces, .closed⟩ = textOfPieces .closed pieces := by
  simp only [RawString.text, StringEnd.problem?, h.hasStray]
  cases textOfPieces .closed pieces <;> rfl

/-- A piece that stands for a character, whatever follows it. -/
def Piece.StandsFor (p : Piece) (c : Char) : Prop :=
  ∀ ending more, textOfPieces ending (p :: more) = (textOfPieces ending more).map (c :: ·)

theorem Piece.standsFor_hex {unit : Nat} (h : unit < 0xD800) :
    (Piece.hex unit).StandsFor (Char.ofNat unit) := by
  intro ending more
  have hlow : isLowHalf unit = false := by simp [isLowHalf]; omega
  have hhigh : isHighHalf unit = false := by simp [isHighHalf]; omega
  match more with
  | .hex low :: rest => simp [textOfPieces, hlow, hhigh]
  | [] | .char _ :: _ | .stray _ :: _ | .escape _ :: _ => simp [textOfPieces, hlow, hhigh]

/-- A character without a name is written as four digits, of which the first two are zero. -/
private theorem escapeChar_control : ∀ n < 0x20,
    "\\u00" ++ List.replicate (if n < 0x10 then 1 else 0) '0' ++ Text.ofNatHex n =
        ['\\', 'u', '0', '0', Nat.digitChar (n / 16), Nat.digitChar (n % 16)] ∧
      hexUnit? '0' '0' (Nat.digitChar (n / 16)) (Nat.digitChar (n % 16)) = some n := by
  decide +kernel

/-- A character is written as one piece, which stands for it. -/
theorem exists_spells_escapeChar (c : Char) :
    ∃ p : Piece, p.Spells (escapeChar c) ∧ p.StandsFor c := by
  have hescape (e d : Char) (h : unescape? e = some d) :
      ∃ p : Piece, p.Spells ['\\', e] ∧ p.StandsFor d := ⟨.escape d, .escape h, fun _ _ => rfl⟩
  unfold escapeChar
  generalize hcontrol : "\\u00" ++ List.replicate (if c.toNat < 0x10 then 1 else 0) '0'
    ++ Text.ofNatHex c.toNat = control
  split_ifs with h1 h2 h3 h4 h5 h6 h7 h8
  · subst h1; exact hescape '"' '"' rfl
  · subst h2; exact hescape '\\' '\\' rfl
  · subst h3; exact hescape 'n' '\n' rfl
  · subst h4; exact hescape 'r' '\r' rfl
  · subst h5; exact hescape 't' '\t' rfl
  · subst h6; exact hescape 'b' '\x08' rfl
  · subst h7; exact hescape 'f' '\x0c' rfl
  · obtain ⟨hwritten, hunit⟩ := escapeChar_control c.toNat h8
    rw [hcontrol] at hwritten
    have hstands := Piece.standsFor_hex (show c.toNat < 0xD800 by omega)
    rw [Char.ofNat_toNat] at hstands
    exact ⟨.hex c.toNat, hwritten ▸ .hex hunit, hstands⟩
  · exact ⟨.char c, .char h1 h2 (by omega), fun _ _ => rfl⟩

/-- What stands between the quotes of a quoted text reads as the text. -/
theorem exists_spells_quote (t : Text) :
    ∃ pieces, Spells (t.flatMap escapeChar) pieces ∧
      RawString.text ⟨pieces, .closed⟩ = .ok t := by
  suffices h : ∃ pieces, Spells (t.flatMap escapeChar) pieces ∧
      textOfPieces .closed pieces = .ok t by
    obtain ⟨pieces, hspells, htext⟩ := h
    exact ⟨pieces, hspells, hspells.text_eq.trans htext⟩
  induction t with
  | nil => exact ⟨[], .nil, rfl⟩
  | cons c rest ih =>
    obtain ⟨more, hmore, htext⟩ := ih
    obtain ⟨p, hpiece, hstands⟩ := exists_spells_escapeChar c
    refine ⟨p :: more, .cons hpiece hmore, ?_⟩
    rw [hstands, htext]
    rfl

end PageQuery.Json

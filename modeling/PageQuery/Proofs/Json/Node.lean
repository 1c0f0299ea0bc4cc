import Mathlib.Data.List.TakeWhile
import PageQuery.Proofs.Json.Number
import PageQuery.Proofs.Json.Quoted

/-!
The grammar of the data format, and that a text of the grammar is read as the tree that it writes.
One relation covers values and what is left of a list or an object, as the reader has one function
for each of them.
-/
namespace PageQuery.Json

open Text (Symbol)

/-- White space only. -/
def IsSpace (w : Text) : Prop := ∀ c ∈ w, isSpace (.char c) = true

theorem isSpace_nil : IsSpace [] := fun _ h => nomatch h

theorem isSpace_cons {c : Char} (hc : isSpace (.char c) = true) {w : Text} (hw : IsSpace w) :
    IsSpace (c :: w) := by
  intro d hd
  rcases List.mem_cons.mp hd with rfl | hd
  · exact hc
  · exact hw d hd

/-- What stands in front of an item or a member: a comma, unless it is the first one. -/
inductive Separates : Bool → Text → Prop where
  | first {space : Text} (hspace : IsSpace space) : Separates true space
  | comma {space after : Text} (hspace : IsSpace space) (hafter : IsSpace after) :
      Separates false (space ++ ',' :: after)

/-- What a stretch of text writes: a value, or the items or members from some point on. -/
inductive Part where
  | value (n : Node)
  | items (isFirst : Bool) (items : List Node)
  | members (isFirst : Bool) (members : List (RawString × Node))

/-- A key and the colon behind it. -/
inductive KeySpells : Text → RawString → Prop where
  | mk {w before after : Text} {pieces : List Piece} (hkey : Spells w pieces)
      (hbefore : IsSpace before) (hafter : IsSpace after) :
      KeySpells ('"' :: w ++ '"' :: (before ++ ':' :: after)) ⟨pieces, .closed⟩

/-- How the parts of a text are written. No white space stands around a value. -/
inductive Writes : Text → Part → Prop where
  | null : Writes "null" (.value .null)
  | bool (b : Bool) : Writes (if b then "true" else "false" : Text) (.value (.bool b))
  | number {w : Text} {n : Numeral} (h : n.Spells w) : Writes w (.value (.number n))
  | string {w : Text} {pieces : List Piece} (h : Spells w pieces) :
      Writes ('"' :: w ++ ['"']) (.value (.string ⟨pieces, .closed⟩))
  | list {w : Text} {items : List Node} (h : Writes w (.items true items)) :
      Writes ('[' :: w) (.value (.list items .closed))
  | object {w : Text} {members : List (RawString × Node)} (h : Writes w (.members true members)) :
      Writes ('\x7b' :: w) (.value (.object members .closed))
  | endOfList {isFirst : Bool} {space : Text} (hspace : IsSpace space) :
      Writes (space ++ [']']) (.items isFirst [])
  | item {isFirst : Bool} {before w rest : Text} {n : Node} {more : List Node}
      (hbefore : Separates isFirst before) (hitem : Writes w (.value n))
      (hmore : Writes rest (.items false more)) :
      Writes (before ++ (w ++ rest)) (.items isFirst (n :: more))
  | endOfObject {isFirst : Bool} {space : Text} (hspace : IsSpace space) :
      Writes (space ++ ['\x7d']) (.members isFirst [])
  | member {isFirst : Bool} {before key w rest : Text} {raw : RawString} {n : Node}
      {more : List (RawString × Node)} (hbefore : Separates isFirst before)
      (hkey : KeySpells key raw) (hvalue : Writes w (.value n))
      (hmore : Writes rest (.members false more)) :
      Writes (before ++ (key ++ (w ++ rest))) (.members isFirst ((raw, n) :: more))

theorem exists_writes_quote (t : Text) :
    ∃ raw, Writes (quote t) (.value (.string raw)) ∧ raw.text = .ok t := by
  obtain ⟨pieces, hspells, htext⟩ := exists_spells_quote t
  exact ⟨_, .string hspells, htext⟩

theorem isSpace_space : IsSpace [' '] := isSpace_cons (by decide) isSpace_nil

/-- A quoted text and a colon are a key. -/
theorem exists_keySpells_quote (t : Text) {space : Text} (hspace : IsSpace space) :
    ∃ raw, KeySpells (quote t ++ ':' :: space) raw ∧ raw.text = .ok t := by
  obtain ⟨pieces, hspells, htext⟩ := exists_spells_quote t
  have hkey : KeySpells ('"' :: t.flatMap escapeChar ++ '"' :: ([] ++ ':' :: space)) _ :=
    .mk hspells isSpace_nil hspace
  refine ⟨_, ?_, htext⟩
  simpa [quote] using hkey

/-- Members with nothing but commas between them. -/
theorem exists_writes_members {values : List (Text × Text)} {nodes : List Node}
    (h : List.Forall₂ (fun value node => Writes value.2 (.value node)) values nodes)
    (hne : values ≠ []) {isFirst : Bool} {before : Text} (hbefore : Separates isFirst before) :
    ∃ keys : List RawString, keys.map RawString.text = values.map (fun value => .ok value.1) ∧
      Writes (before ++
          (Text.joined "," (values.map fun value => quote value.1 ++ ':' :: value.2) ++ ['\x7d']))
        (.members isFirst (keys.zip nodes)) := by
  induction h generalizing isFirst before with
  | nil => exact absurd rfl hne
  | @cons value node values nodes hvalue hmore ih =>
    obtain ⟨key, hkey, hname⟩ := exists_keySpells_quote value.1 isSpace_nil
    cases hmore with
    | nil =>
      have hmember := Writes.member hbefore hkey hvalue (.endOfObject isSpace_nil)
      refine ⟨[key], by simp [hname], ?_⟩
      simpa [Text.joined] using hmember
    | cons hnext hrest =>
      have hcomma : Separates false ([] ++ ',' :: []) := .comma isSpace_nil isSpace_nil
      obtain ⟨keys, hnames, hwrites⟩ := ih (List.cons_ne_nil _ _) hcomma
      have hmember := Writes.member hbefore hkey hvalue hwrites
      refine ⟨key :: keys, by simp [hname, hnames], ?_⟩
      simpa [Text.joined, List.intercalate_cons_cons] using hmember

theorem skipSpace_append {w : Text} (h : IsSpace w) (s : List Symbol) :
    skipSpace (symbolsOf w ++ s) = skipSpace s :=
  List.dropWhile_append_of_pos fun symbol hsymbol => by
    obtain ⟨c, hc, rfl⟩ := List.mem_map.mp hsymbol
    exact h c hc

theorem skipSpace_cons {c : Char} (h : isSpace (.char c) = false) (s : List Symbol) :
    skipSpace (.char c :: s) = .char c :: s := by
  rw [skipSpace, List.dropWhile_cons_of_neg (by simp [h])]

/-- The first character of a value. -/
def StartsValue (c : Char) : Prop :=
  c = '"' ∨ c = '[' ∨ c = '\x7b' ∨ c = 'n' ∨ c = 't' ∨ c = 'f' ∨ c = '-' ∨ c.isDigit = true

instance (c : Char) : Decidable (StartsValue c) := inferInstanceAs (Decidable (_ ∨ _))

theorem StartsValue.isSpace {c : Char} (h : StartsValue c) : isSpace (.char c) = false := by
  rcases h with rfl | rfl | rfl | rfl | rfl | rfl | rfl | h
  case inr.inr.inr.inr.inr.inr.inr =>
    simp only [Json.isSpace, Bool.or_eq_false_iff, decide_eq_false_iff_not]
    refine ⟨⟨⟨?_, ?_⟩, ?_⟩, ?_⟩ <;> (rintro rfl; exact absurd h (by decide))
  all_goals decide

theorem StartsValue.ne_endOfList {c : Char} (h : StartsValue c) : c ≠ ']' := by
  rintro rfl
  exact absurd h (by decide)

theorem Numeral.Spells.startsValue {w : Text} {n : Numeral} (h : n.Spells w) :
    ∃ c rest, w = c :: rest ∧ (c = '-' ∨ c.isDigit = true) := by
  obtain @⟨negative, whole, f, e, _, _, hwhole, _, _, _⟩ := h
  obtain ⟨d, more, rfl⟩ := List.exists_cons_of_ne_nil hwhole.ne_nil
  cases negative with
  | true => exact ⟨'-', _, rfl, .inl rfl⟩
  | false => exact ⟨d, _, rfl, .inr (hwhole.isDigit d List.mem_cons_self)⟩

theorem Writes.startsValue {w : Text} {n : Node} (h : Writes w (.value n)) :
    ∃ c rest, w = c :: rest ∧ StartsValue c := by
  cases h with
  | null => exact ⟨'n', _, rfl, by decide⟩
  | bool b => cases b with
    | true => exact ⟨'t', _, rfl, by decide⟩
    | false => exact ⟨'f', _, rfl, by decide⟩
  | number h =>
    obtain ⟨c, rest, rfl, hc⟩ := h.startsValue
    exact ⟨c, rest, rfl, by simp only [StartsValue, hc, or_true]⟩
  | string h => exact ⟨'"', _, rfl, .inl rfl⟩
  | list h => exact ⟨'[', _, rfl, .inr (.inl rfl)⟩
  | object h => exact ⟨'\x7b', _, rfl, .inr (.inr (.inl rfl))⟩

theorem IsSpace.endsNumber {space : Text} (h : IsSpace space) {s : List Symbol}
    (hs : EndsNumber s) : EndsNumber (symbolsOf space ++ s) := by
  cases space with
  | nil => exact hs
  | cons c _ =>
    refine startsOutside_cons.mpr fun hc => ?_
    have hspace := h c List.mem_cons_self
    simp only [isSpace, Bool.or_eq_true, decide_eq_true_eq] at hspace
    rcases hspace with ((rfl | rfl) | rfl) | rfl <;> exact absurd hc (by decide)

theorem Separates.endsNumber {before : Text} (h : Separates false before) (s : List Symbol) :
    EndsNumber (symbolsOf before ++ s) := by
  cases h with
  | comma hspace _ =>
    rw [symbolsOf_append, List.append_assoc]
    exact hspace.endsNumber (startsOutside_cons.mpr (by decide))

/-- What is left of a list cannot belong to a number in front of it. -/
theorem Writes.endsNumber_items {w : Text} {items : List Node}
    (h : Writes w (.items false items)) (s : List Symbol) : EndsNumber (symbolsOf w ++ s) := by
  cases h with
  | endOfList hspace =>
    rw [symbolsOf_append, List.append_assoc]
    exact hspace.endsNumber (startsOutside_cons.mpr (by decide))
  | item hbefore _ _ =>
    rw [symbolsOf_append, List.append_assoc]
    exact hbefore.endsNumber _

/-- What is left of an object cannot belong to a number in front of it. -/
theorem Writes.endsNumber_members {w : Text} {members : List (RawString × Node)}
    (h : Writes w (.members false members)) (s : List Symbol) : EndsNumber (symbolsOf w ++ s) := by
  cases h with
  | endOfObject hspace =>
    rw [symbolsOf_append, List.append_assoc]
    exact hspace.endsNumber (startsOutside_cons.mpr (by decide))
  | member hbefore _ _ _ =>
    rw [symbolsOf_append, List.append_assoc]
    exact hbefore.endsNumber _

theorem KeySpells.startsQuote {key : Text} {raw : RawString} (h : KeySpells key raw) :
    ∃ rest, key = '"' :: rest := by
  cases h with
  | mk => exact ⟨_, rfl⟩

namespace Node

theorem take_append_space {w : Text} (h : IsSpace w) (fuel : Nat) (s : List Symbol) :
    take fuel (symbolsOf w ++ s) = take fuel s := by
  cases fuel with
  | zero => simp only [take]
  | succ fuel => simp only [take, skipSpace_append h]

theorem takeItem_append_space {w : Text} (h : IsSpace w) (fuel : Nat) (s : List Symbol) :
    takeItem fuel (symbolsOf w ++ s) = takeItem fuel s := by
  cases fuel with
  | zero => simp only [takeItem]
  | succ fuel => simp only [takeItem, take_append_space h]

theorem takeItems_separates {isFirst : Bool} {before : Text} (h : Separates isFirst before)
    {c : Char} (hc : StartsValue c) (fuel : Nat) (s : List Symbol) :
    takeItems (fuel + 1) isFirst (symbolsOf before ++ .char c :: s) =
      takeItem fuel (.char c :: s) := by
  have hfirst := skipSpace_cons hc.isSpace s
  have hnotEnd := hc.ne_endOfList
  cases h with
  | first hspace => simp [takeItems, skipSpace_append hspace, hfirst, hnotEnd]
  | comma hspace hafter =>
    have hcomma (t : List Symbol) : skipSpace (.char ',' :: t) = .char ',' :: t :=
      skipSpace_cons (by decide) t
    simp [takeItems, skipSpace_append hspace, hcomma, skipSpace_append hafter, hfirst, hnotEnd,
      takeItem_append_space hafter]

theorem takeMembers_separates {isFirst : Bool} {before key : Text} {raw : RawString}
    (h : Separates isFirst before) (hkey : KeySpells key raw) (fuel : Nat) (s : List Symbol) :
    takeMembers (fuel + 1) isFirst (symbolsOf before ++ (symbolsOf key ++ s)) =
      takeMember fuel (symbolsOf key ++ s) := by
  obtain ⟨chars, rfl⟩ := hkey.startsQuote
  have hquote (t : List Symbol) : skipSpace (.char '"' :: t) = .char '"' :: t :=
    skipSpace_cons (by decide) t
  cases h with
  | first hspace => simp [takeMembers, skipSpace_append hspace, hquote]
  | comma hspace hafter =>
    have hcomma (t : List Symbol) : skipSpace (.char ',' :: t) = .char ',' :: t :=
      skipSpace_cons (by decide) t
    simp [takeMembers, skipSpace_append hspace, hcomma, skipSpace_append hafter, hquote]

theorem takeItems_end {space : Text} (h : IsSpace space) (isFirst : Bool) (fuel : Nat)
    (s : List Symbol) :
    takeItems (fuel + 1) isFirst (symbolsOf space ++ .char ']' :: s) = ([], .closed, some s) := by
  rw [takeItems, skipSpace_append h, skipSpace_cons (by decide)]
  rfl

theorem takeMembers_end {space : Text} (h : IsSpace space) (isFirst : Bool) (fuel : Nat)
    (s : List Symbol) :
    takeMembers (fuel + 1) isFirst (symbolsOf space ++ .char '\x7d' :: s) =
      ([], .closed, some s) := by
  rw [takeMembers, skipSpace_append h, skipSpace_cons (by decide)]
  rfl

/-- A member whose value is complete, and the members after it. -/
theorem takeMember_key {key : Text} {raw : RawString} (h : KeySpells key raw) {fuel : Nat}
    {s rest : List Symbol} {n : Node} (hvalue : take fuel s = (n, some rest)) :
    takeMember (fuel + 1) (symbolsOf key ++ s) =
      let (members, ending, rest) := takeMembers fuel false rest
      ((raw, n) :: members, ending, rest) := by
  obtain @⟨w, before, after, pieces, hkey, hbefore, hafter⟩ := h
  have hcolon (t : List Symbol) : skipSpace (.char ':' :: t) = .char ':' :: t :=
    skipSpace_cons (by decide) t
  simp only [symbolsOf_append, symbolsOf_cons, List.append_assoc, List.cons_append, takeMember,
    RawString.take_spells hkey, skipSpace_append hbefore, hcolon, take_append_space hafter, hvalue,
    ne_eq, not_true_eq_false, ↓reduceIte]

/-- An item that is complete, and the items after it. -/
theorem takeItem_of_take {fuel : Nat} {s rest : List Symbol} {n : Node}
    (h : take fuel s = (n, some rest)) :
    takeItem (fuel + 1) s =
      let (items, ending, rest) := takeItems fuel false rest
      (n :: items, ending, rest) := by
  rw [takeItem, h]

theorem take_string {w : Text} {pieces : List Piece} (h : Spells w pieces) (fuel : Nat)
    (s : List Symbol) :
    take (fuel + 1) (.char '"' :: (symbolsOf w ++ .char '"' :: s)) =
      (.string ⟨pieces, .closed⟩, some s) := by
  rw [take, skipSpace_cons (by decide)]
  simp only [takeString, RawString.take_spells h, ↓reduceIte]

theorem take_number {w : Text} {n : Numeral} (h : n.Spells w) (fuel : Nat) {s : List Symbol}
    (hs : EndsNumber s) : take (fuel + 1) (symbolsOf w ++ s) = (.number n, some s) := by
  obtain ⟨c, rest, rfl, hc⟩ := h.startsValue
  have hvalue : StartsValue c := by simp only [StartsValue, hc, or_true]
  have hnot (d : Char) (hd : ¬ (d = '-' ∨ d.isDigit = true)) : c ≠ d := by
    rintro rfl
    exact hd hc
  have htake := Numeral.take_spells h hs
  rw [symbolsOf_cons, List.cons_append] at htake ⊢
  rw [take, skipSpace_cons hvalue.isSpace]
  simp only [hnot '"' (by decide), hnot '[' (by decide), hnot '\x7b' (by decide),
    hnot 'n' (by decide), hnot 't' (by decide), hnot 'f' (by decide), hc, takeNumber, htake,
    ↓reduceIte]

theorem take_list {fuel : Nat} {s rest : List Symbol} {items : List Node}
    (h : takeItems fuel true s = (items, .closed, some rest)) :
    take (fuel + 1) (.char '[' :: s) = (.list items .closed, some rest) := by
  rw [take, skipSpace_cons (by decide)]
  simp [h]

theorem take_object {fuel : Nat} {s rest : List Symbol} {members : List (RawString × Node)}
    (h : takeMembers fuel true s = (members, .closed, some rest)) :
    take (fuel + 1) (.char '\x7b' :: s) = (.object members .closed, some rest) := by
  rw [take, skipSpace_cons (by decide)]
  simp [h]

end Node

/-- Symbols that are not read on as more of a part. Only a number has no mark at its end. -/
def Part.EndsBefore (part : Part) (rest : List Symbol) : Prop :=
  match part with
  | .value (.number _) => EndsNumber rest
  | _ => True

theorem EndsNumber.endsBefore {rest : List Symbol} (h : EndsNumber rest) (part : Part) :
    part.EndsBefore rest := by
  unfold Part.EndsBefore
  split
  · exact h
  · trivial

/-- The reader for a part reads it from symbols, up to the rest of them. -/
def Part.ReadsFrom (part : Part) (fuel : Nat) (s rest : List Symbol) : Prop :=
  match part with
  | .value n => Node.take fuel s = (n, some rest)
  | .items isFirst ns => Node.takeItems fuel isFirst s = (ns, .closed, some rest)
  | .members isFirst ms => Node.takeMembers fuel isFirst s = (ms, .closed, some rest)

theorem Writes.length_pos {w : Text} {part : Part} (h : Writes w part) : 0 < w.length := by
  cases h with
  | bool b => cases b <;> decide
  | number h =>
    obtain ⟨c, rest, rfl, -⟩ := h.startsValue
    exact Nat.succ_pos _
  | item _ hitem _ =>
    obtain ⟨c, rest, rfl, -⟩ := hitem.startsValue
    simp only [List.length_append, List.length_cons]
    omega
  | member _ _ hvalue _ =>
    obtain ⟨c, rest, rfl, -⟩ := hvalue.startsValue
    simp only [List.length_append, List.length_cons]
    omega
  | _ => simp

/-- A text of the grammar is read as what it writes, if what follows does not continue a number.
Three steps for each character are enough, as each character takes at most three. -/
theorem Writes.readsFrom {w : Text} {part : Part} (h : Writes w part) {rest : List Symbol}
    (hrest : part.EndsBefore rest) {fuel : Nat} (hfuel : 3 * w.length ≤ fuel) :
    part.ReadsFrom fuel (symbolsOf w ++ rest) rest := by
  obtain ⟨fuel, rfl⟩ :=
    Nat.exists_eq_add_of_le' (show 1 ≤ fuel by have hpos := h.length_pos; omega)
  induction h generalizing fuel rest with
  | null => rfl
  | bool b => cases b <;> rfl
  | number h => exact Node.take_number h fuel hrest
  | string h => simpa [Part.ReadsFrom] using Node.take_string h fuel rest
  | list h ih =>
    have hpos := h.length_pos
    rw [List.length_cons] at hfuel
    obtain ⟨fuel, rfl⟩ := Nat.exists_eq_add_of_le' (show 1 ≤ fuel by omega)
    exact Node.take_list (ih trivial fuel (by omega))
  | object h ih =>
    have hpos := h.length_pos
    rw [List.length_cons] at hfuel
    obtain ⟨fuel, rfl⟩ := Nat.exists_eq_add_of_le' (show 1 ≤ fuel by omega)
    exact Node.take_object (ih trivial fuel (by omega))
  | endOfList hspace => simpa [Part.ReadsFrom] using Node.takeItems_end hspace _ fuel rest
  | @item isFirst before w tail n more hbefore hitem hmore ihitem ihmore =>
    -- one step for the separator and one for the item; both what is read then and what is left
    -- are shorter by a character
    have hpos := hitem.length_pos
    have hposRest := hmore.length_pos
    simp only [List.length_append] at hfuel
    obtain ⟨fuel, rfl⟩ := Nat.exists_eq_add_of_le' (show 2 ≤ fuel by omega)
    have htake := ihitem ((hmore.endsNumber_items rest).endsBefore _) fuel (by omega)
    have hitems := @ihmore rest trivial fuel (by omega)
    obtain ⟨c, chars, rfl, hc⟩ := hitem.startsValue
    simp only [Part.ReadsFrom, symbolsOf_append, symbolsOf_cons, List.append_assoc,
      List.cons_append] at htake hitems ⊢
    rw [Node.takeItems_separates hbefore hc, Node.takeItem_of_take htake, hitems]
  | endOfObject hspace => simpa [Part.ReadsFrom] using Node.takeMembers_end hspace _ fuel rest
  | @member isFirst before key w tail raw n more hbefore hkey hvalue hmore ihvalue ihmore =>
    have hpos := hvalue.length_pos
    have hposRest := hmore.length_pos
    simp only [List.length_append] at hfuel
    obtain ⟨fuel, rfl⟩ := Nat.exists_eq_add_of_le' (show 2 ≤ fuel by omega)
    have htake := ihvalue ((hmore.endsNumber_members rest).endsBefore _) fuel (by omega)
    have hmembers := @ihmore rest trivial fuel (by omega)
    simp only [Part.ReadsFrom, symbolsOf_append, List.append_assoc] at htake hmembers ⊢
    rw [Node.takeMembers_separates hbefore hkey, Node.takeMember_key hkey htake, hmembers]

theorem Node.ofSymbols_writes {before w after : Text} {n : Node} (hbefore : IsSpace before)
    (h : Writes w (.value n)) (hafter : (Part.value n).EndsBefore (symbolsOf after)) :
    Node.ofSymbols (symbolsOf (before ++ (w ++ after))) = (n, some (symbolsOf after)) := by
  rw [Node.ofSymbols, symbolsOf_append, Node.take_append_space hbefore, symbolsOf_append]
  exact h.readsFrom hafter (by simp [symbolsOf]; omega)

/-- What stands behind a value may be white space only. -/
theorem checkRest_symbolsOf (after : Text) :
    (IsSpace after → checkRest (some (symbolsOf after)) = .ok ()) ∧
      (¬ IsSpace after → checkRest (some (symbolsOf after)) = .error .trailingCharacters) := by
  have hempty : (skipSpace (symbolsOf after)).isEmpty = true ↔ IsSpace after := by
    rw [List.isEmpty_iff, skipSpace, List.dropWhile_eq_nil_iff]
    exact List.forall_mem_map
  rw [checkRest, ← hempty]
  exact ⟨fun h => if_pos h, fun h => if_neg h⟩

/-- A text of the grammar is read as its tree is interpreted. -/
theorem read_writes {α : Type} (interpret : Node → Except Problem α) {before w after : Text}
    {n : Node} (hbefore : IsSpace before) (h : Writes w (.value n)) (hafter : IsSpace after) :
    read interpret (symbolsOf (before ++ (w ++ after))) = interpret n := by
  have hend : EndsNumber (symbolsOf after) := by
    simpa using hafter.endsNumber endsNumber_nil
  rw [read, Node.ofSymbols_writes hbefore h (hend.endsBefore _)]
  simp only [(checkRest_symbolsOf after).1 hafter]
  cases interpret n <;> rfl

/-- An object ends at its brace: whatever stands behind it, but white space, is refused. -/
theorem read_writes_object {α : Type} (interpret : Node → Except Problem α) {before w after : Text}
    {members : List (RawString × Node)} (hbefore : IsSpace before)
    (h : Writes w (.value (.object members .closed))) (hafter : ¬ IsSpace after) :
    ∃ problem, read interpret (symbolsOf (before ++ (w ++ after))) = .error problem := by
  rw [read, Node.ofSymbols_writes hbefore h trivial]
  simp only [(checkRest_symbolsOf after).2 hafter]
  cases interpret (.object members .closed) with
  | error problem => exact ⟨problem, rfl⟩
  | ok value => exact ⟨.trailingCharacters, rfl⟩

end PageQuery.Json

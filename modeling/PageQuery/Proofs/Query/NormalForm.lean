import PageQuery.Proofs.Query.Acceptance
import PageQuery.Proofs.Text.LetterCase

/-!
The normal form of queries. What is read of a query is an alternative of requirements of texts, each
in lower case and without operators; what is in this form is read again from the way it is written.
-/
namespace PageQuery.Query.Expression

mutual

/-- How many operators are nested in each other. -/
def depth : Expression → Nat
  | literal _ => 0
  | any parts => depthOfEach parts + 1
  | all parts => depthOfEach parts + 1

/-- The greatest depth of some expressions. -/
def depthOfEach : List Expression → Nat
  | [] => 0
  | part :: more => max (depth part) (depthOfEach more)

end

/-- A text that a query can ask for. -/
structure Askable (needle : Text) : Prop where
  no_any : anyOperator ∉ needle
  no_all : allOperator ∉ needle
  lower_eq : Text.lower needle = needle

/-- A text that a query can ask for between operators. -/
structure AskableBetween (needle : Text) : Prop extends Askable needle where
  trim_eq : Text.trim needle = needle

/-- What stands between two `|`: a text, or two or more texts that are required together. -/
inductive IsSegment : Expression → Prop
  | literal {needle : Text} (h : AskableBetween needle) : IsSegment (.literal needle)
  | all {needles : List Text} (htwo : 2 ≤ needles.length)
      (h : ∀ needle ∈ needles, AskableBetween needle) : IsSegment (.all (needles.map .literal))

/-- The normal form: a text, which may have white space around it, or a segment, or two or more
segments as alternatives. -/
inductive IsNormal : Expression → Prop
  | literal {needle : Text} (h : Askable needle) : IsNormal (.literal needle)
  | segment {e : Expression} (h : IsSegment e) : IsNormal e
  | any {segments : List Expression} (htwo : 2 ≤ segments.length)
      (h : ∀ e ∈ segments, IsSegment e) : IsNormal (.any segments)

/-! ### Nesting -/

theorem depthOfEach_le {parts : List Expression} {n : Nat} (h : ∀ e ∈ parts, depth e ≤ n) :
    depthOfEach parts ≤ n := by
  induction parts with
  | nil => exact Nat.zero_le n
  | cons part more ih =>
    obtain ⟨hpart, hmore⟩ := List.forall_mem_cons.mp h
    exact Nat.max_le.mpr ⟨hpart, ih hmore⟩

theorem IsSegment.depth_le {e : Expression} (h : IsSegment e) : depth e ≤ 1 := by
  cases h with
  | literal h => exact Nat.zero_le 1
  | @all needles htwo h =>
    have hliterals : ∀ e ∈ needles.map Expression.literal, depth e ≤ 0 := by
      intro e he
      obtain ⟨needle, -, rfl⟩ := List.mem_map.mp he
      exact Nat.le_refl 0
    exact Nat.succ_le_succ (depthOfEach_le hliterals)

theorem IsNormal.depth_le {e : Expression} (h : IsNormal e) : depth e ≤ 2 := by
  cases h with
  | literal h => exact Nat.zero_le 2
  | segment h => exact h.depth_le.trans (by decide)
  | any htwo h => exact Nat.succ_le_succ (depthOfEach_le fun e he => (h e he).depth_le)

/-! ### What is read is in normal form -/

theorem blank_anyOperator : Text.isBlank anyOperator = false := by decide

theorem blank_allOperator : Text.isBlank allOperator = false := by decide

theorem inert_anyOperator : Text.Inert anyOperator := Text.inert_bar

theorem inert_allOperator : Text.Inert allOperator := Text.inert_ampersand

/-- A piece of a lower-cased text is in lower case. -/
theorem lower_of_mem_pieces {operator : Char} (hinert : Text.Inert operator) {t piece : Text}
    (ht : Text.lower t = t) (h : piece ∈ pieces operator t) : Text.lower piece = piece := by
  have hpieces := hinert.pieces_lower t
  rw [ht] at hpieces
  have hsame : (pieces operator t).map id = (pieces operator t).map Text.lower := by
    rwa [List.map_id]
  exact (List.map_inj_left.mp hsame piece h).symm

theorem two_le_length_pieces {operator : Char} {t : Text} (h : operator ∈ t) :
    2 ≤ (pieces operator t).length := by
  have hcount := List.count_pos_iff.mpr h
  rw [length_pieces]
  omega

theorem ofSegment_of_mem {t : Text} (h : allOperator ∈ t) :
    ofSegment t = .all (((pieces allOperator t).map Text.trim).map .literal) := by
  rw [ofSegment, if_pos h, List.map_map]
  rfl

theorem ofSegment_of_notMem {t : Text} (h : allOperator ∉ t) : ofSegment t = .literal t := by
  rw [ofSegment, if_neg h]

theorem isSegment_of_mem {t : Text} (hany : anyOperator ∉ t) (hall : allOperator ∈ t)
    (hlower : Text.lower t = t) : IsSegment (ofSegment t) := by
  rw [ofSegment_of_mem hall]
  refine .all ?_ ?_
  · rw [List.length_map]
    exact two_le_length_pieces hall
  · intro needle hneedle
    obtain ⟨piece, hpiece, rfl⟩ := List.mem_map.mp hneedle
    have hfrom {c : Char} (hc : Text.isBlank c = false) (hmem : c ∈ Text.trim piece) :
        c ∈ t ∧ c ≠ allOperator :=
      mem_of_mem_pieces hpiece ((Text.mem_trim_iff hc piece).mp hmem)
    refine { no_any := ?_, no_all := ?_, lower_eq := ?_, trim_eq := Text.trim_trim piece }
    · exact fun hmem => hany (hfrom blank_anyOperator hmem).1
    · exact fun hmem => (hfrom blank_allOperator hmem).2 rfl
    · rw [← Text.trim_lower, lower_of_mem_pieces inert_allOperator hlower hpiece]

/-- A trimmed text between two `|` is read as a segment. -/
theorem isSegment_ofSegment {t : Text} (hany : anyOperator ∉ t) (hlower : Text.lower t = t)
    (htrim : Text.trim t = t) : IsSegment (ofSegment t) := by
  by_cases hall : allOperator ∈ t
  · exact isSegment_of_mem hany hall hlower
  · rw [ofSegment_of_notMem hall]
    exact .literal { no_any := hany, no_all := hall, lower_eq := hlower, trim_eq := htrim }

theorem ofLowered_of_mem {t : Text} (h : anyOperator ∈ t) :
    ofLowered t = .any (((pieces anyOperator t).map Text.trim).map ofSegment) := by
  rw [ofLowered, if_pos h, List.map_map]
  rfl

theorem ofLowered_of_notMem {t : Text} (h : anyOperator ∉ t) : ofLowered t = ofSegment t := by
  rw [ofLowered, if_neg h]

theorem isNormal_ofLowered {t : Text} (hlower : Text.lower t = t) : IsNormal (ofLowered t) := by
  by_cases hany : anyOperator ∈ t
  · rw [ofLowered_of_mem hany]
    refine .any ?_ ?_
    · rw [List.length_map, List.length_map]
      exact two_le_length_pieces hany
    · intro e he
      obtain ⟨segment, hsegment, rfl⟩ := List.mem_map.mp he
      obtain ⟨piece, hpiece, rfl⟩ := List.mem_map.mp hsegment
      have hnone : anyOperator ∉ Text.trim piece := fun hmem =>
        (mem_of_mem_pieces hpiece ((Text.mem_trim_iff blank_anyOperator piece).mp hmem)).2 rfl
      have hpieceLower := lower_of_mem_pieces inert_anyOperator hlower hpiece
      refine isSegment_ofSegment hnone ?_ (Text.trim_trim piece)
      rw [← Text.trim_lower, hpieceLower]
  · rw [ofLowered_of_notMem hany]
    by_cases hall : allOperator ∈ t
    · exact .segment (isSegment_of_mem hany hall hlower)
    · rw [ofSegment_of_notMem hall]
      exact .literal { no_any := hany, no_all := hall, lower_eq := hlower }

theorem isNormal_parse (query : Text) : IsNormal (parse query) :=
  isNormal_ofLowered (Text.lower_lower query)

/-- A query with a `|` is read as alternatives, one more than it has `|`; no other query is. -/
theorem parse_eq_any_iff (query : Text) :
    (anyOperator ∈ query ↔ ∃ parts, parse query = .any parts) ∧
      ∀ parts, parse query = .any parts → parts.length = query.count anyOperator + 1 := by
  have hmem := inert_anyOperator.mem_lower_iff query
  by_cases hany : anyOperator ∈ query
  · have hparse : parse query = .any _ := ofLowered_of_mem (hmem.mpr hany)
    refine ⟨iff_of_true hany ⟨_, hparse⟩, ?_⟩
    intro parts hparts
    rw [hparse] at hparts
    obtain rfl := Expression.any.inj hparts
    rw [List.length_map, List.length_map, inert_anyOperator.pieces_lower, List.length_map, length_pieces]
  · have hparse : parse query = ofSegment (Text.lower query) :=
      ofLowered_of_notMem (mt hmem.mp hany)
    have hne (parts : List Expression) : parse query ≠ .any parts := by
      intro hparts
      rw [hparse, ofSegment] at hparts
      split_ifs at hparts
    refine ⟨iff_of_false hany ?_, fun parts hparts => absurd hparts (hne parts)⟩
    rintro ⟨parts, hparts⟩
    exact hne parts hparts

/-! ### What is in normal form is read again -/

/-- Texts in lower case with an operator between them are a text in lower case. -/
theorem lower_joined_spaced {operator : Char} (hinert : Text.Inert operator) {parts : List Text}
    (hparts : ∀ p ∈ parts, Text.lower p = p) :
    Text.lower (Text.joined (spaced operator) parts) = Text.joined (spaced operator) parts := by
  have hspace : Text.Inert ' ' := Text.inert_of_isBlank (by decide)
  have hspaced : ∀ c ∈ spaced operator, Text.Inert c := by
    intro c hc
    simp only [spaced, List.mem_cons, List.not_mem_nil, or_false] at hc
    rcases hc with rfl | rfl | rfl
    · exact hspace
    · exact hinert
    · exact hspace
  have hne : spaced operator ≠ [] := List.cons_ne_nil _ _
  have hsame : parts.map Text.lower = parts.map id := List.map_congr_left hparts
  rw [Text.lower_joined hne hspaced, hsame, List.map_id]

/-- Expressions written with an operator between them are found between the operators. -/
theorem map_trim_pieces_spaced {operator : Char} (hoperator : Text.isBlank operator = false)
    {parts : List Text} (htwo : 2 ≤ parts.length) (hparts : ∀ p ∈ parts, operator ∉ p) :
    (pieces operator (Text.joined (spaced operator) parts)).map Text.trim =
      parts.map Text.trim := by
  have hspace : ∀ c ∈ [' '], Text.isBlank c = true := by simp [Text.isBlank]
  have hne : parts ≠ [] := List.ne_nil_of_length_pos (by omega)
  exact Text.map_trim_pieces_joined hoperator hspace hspace hne hparts

theorem operator_mem_joined {operator : Char} {parts : List Text} (htwo : 2 ≤ parts.length) :
    operator ∈ Text.joined (spaced operator) parts :=
  Text.mem_joined_iff.mpr (.inr ⟨by simp [spaced], htwo⟩)

theorem render_all_literals (needles : List Text) :
    (all (needles.map .literal)).render = Text.joined (spaced allOperator) needles := by
  rw [render, renderEach_eq, List.map_map]
  congr 1
  exact List.map_id needles

theorem render_any (segments : List Expression) :
    (any segments).render = Text.joined (spaced anyOperator) (segments.map render) := by
  rw [render, renderEach_eq]

/-- Required texts that are written are read again, with or without the white space around them. -/
theorem ofSegment_joined {needles : List Text} (htwo : 2 ≤ needles.length)
    (h : ∀ needle ∈ needles, AskableBetween needle) {t : Text} (ht : allOperator ∈ t)
    (htrim : (pieces allOperator t).map Text.trim =
      (pieces allOperator (Text.joined (spaced allOperator) needles)).map Text.trim) :
    ofSegment t = .all (needles.map .literal) := by
  have hsame : needles.map Text.trim = needles.map id :=
    List.map_congr_left fun needle hneedle => (h needle hneedle).trim_eq
  rw [ofSegment_of_mem ht, htrim, map_trim_pieces_spaced blank_allOperator htwo
    fun needle hneedle => (h needle hneedle).no_all, hsame, List.map_id]

/-- What a written segment looks like, and that it is read again from between two `|`. -/
structure ReadAgain (e : Expression) : Prop where
  no_any : anyOperator ∉ e.render
  lower_eq : Text.lower e.render = e.render
  ofSegment_eq : ofSegment e.render = e
  ofSegment_trim_eq : ofSegment (Text.trim e.render) = e

theorem IsSegment.readAgain {e : Expression} (h : IsSegment e) : ReadAgain e := by
  cases h with
  | @literal needle h =>
    have hrender : (Expression.literal needle).render = needle := by rw [render]
    have hread := ofSegment_of_notMem h.no_all
    constructor
    · rw [hrender]
      exact h.no_any
    · rw [hrender]
      exact h.lower_eq
    · rw [hrender, hread]
    · rw [hrender, h.trim_eq, hread]
  | @all needles htwo h =>
    have hmem : allOperator ∈ Text.joined (spaced allOperator) needles := operator_mem_joined htwo
    constructor
    · rw [render_all_literals, Text.mem_joined_iff]
      rintro (⟨needle, hneedle, hany⟩ | ⟨hany, -⟩)
      · exact (h needle hneedle).no_any hany
      · exact absurd hany (by decide)
    · rw [render_all_literals]
      exact lower_joined_spaced inert_allOperator fun needle hneedle => (h needle hneedle).lower_eq
    · rw [render_all_literals]
      exact ofSegment_joined htwo h hmem rfl
    · rw [render_all_literals]
      refine ofSegment_joined htwo h ((Text.mem_trim_iff blank_allOperator _).mpr hmem) ?_
      exact Text.map_trim_pieces_trim blank_allOperator _

/-- An expression in normal form is read from its written form. -/
theorem parse_render {e : Expression} (h : IsNormal e) : parse e.render = e := by
  cases h with
  | @literal needle h =>
    rw [render, parse, h.lower_eq, ofLowered_of_notMem h.no_any, ofSegment_of_notMem h.no_all]
  | segment h =>
    have hread := h.readAgain
    rw [parse, hread.lower_eq, ofLowered_of_notMem hread.no_any, hread.ofSegment_eq]
  | @any segments htwo h =>
    have hread (e : Expression) (he : e ∈ segments) : ReadAgain e := (h e he).readAgain
    have htwo' : 2 ≤ (segments.map render).length := by rwa [List.length_map]
    have hwritten : ∀ p ∈ segments.map render, anyOperator ∉ p ∧ Text.lower p = p := by
      intro p hp
      obtain ⟨e, he, rfl⟩ := List.mem_map.mp hp
      exact ⟨(hread e he).no_any, (hread e he).lower_eq⟩
    have hlower := lower_joined_spaced inert_anyOperator fun p hp => (hwritten p hp).2
    have hsegments : segments.map (fun e => ofSegment (Text.trim e.render)) = segments.map id :=
      List.map_congr_left fun e he => (hread e he).ofSegment_trim_eq
    rw [render_any, parse, hlower, ofLowered_of_mem (operator_mem_joined htwo'),
      map_trim_pieces_spaced blank_anyOperator htwo' fun p hp => (hwritten p hp).1, List.map_map,
      List.map_map]
    exact congrArg Expression.any (hsegments.trans (List.map_id segments))

/-- Every query is read into the normal form, with as many alternatives as there are segments, and
what is written of an expression in normal form is read into the expression. So reading what was
written of what was read changes nothing, the expressions in normal form are those that are read of
some query, and no two of them are written alike. -/
theorem parse_normalForm :
    (∀ query, IsNormal (parse query) ∧ depth (parse query) ≤ 2 ∧
      (anyOperator ∈ query ↔ ∃ parts, parse query = .any parts) ∧
      ∀ parts, parse query = .any parts → parts.length = query.count anyOperator + 1) ∧
    (∀ e, IsNormal e → parse e.render = e) ∧
    (∀ query, parse (parse query).render = parse query) ∧
    (∀ e, (∃ query, parse query = e) ↔ IsNormal e) ∧
    ∀ e e', IsNormal e → IsNormal e' → e.render = e'.render → e = e' := by
  refine ⟨?_, fun e => parse_render, fun query => parse_render (isNormal_parse query), ?_, ?_⟩
  · intro query
    obtain ⟨hany, hlength⟩ := parse_eq_any_iff query
    exact ⟨isNormal_parse query, (isNormal_parse query).depth_le, hany, hlength⟩
  · intro e
    constructor
    · rintro ⟨query, rfl⟩
      exact isNormal_parse query
    · intro h
      exact ⟨e.render, parse_render h⟩
  · intro e e' h h' hrender
    rw [← parse_render h, hrender, parse_render h']

/-- Parts that are empty, or have white space and a small sigma in them. -/
theorem parse_normalForm_emptyParts :
    let e : Expression := .any [.all [.literal [], .literal "οδός α".toList], .literal []]
    e.IsNormal ∧ e.render = " & οδός α | ".toList ∧ parse " & οδός α | ".toList = e := by
  intro e
  have hempty : AskableBetween [] := ⟨⟨by simp, by simp, rfl⟩, rfl⟩
  have hwords : AskableBetween "οδός α".toList :=
    ⟨⟨by decide, by decide, by decide +kernel⟩, by decide +kernel⟩
  have hall : IsSegment (.all [.literal [], .literal "οδός α".toList]) := by
    refine @IsSegment.all [[], "οδός α".toList] (Nat.le_refl 2) ?_
    simp only [List.forall_mem_cons]
    exact ⟨hempty, hwords, nofun⟩
  have hnormal : e.IsNormal := by
    refine .any (Nat.le_refl 2) ?_
    simp only [List.forall_mem_cons]
    exact ⟨hall, .literal hempty, nofun⟩
  have hrender : e.render = " & οδός α | ".toList := by decide +kernel
  refine ⟨hnormal, hrender, ?_⟩
  rw [← hrender]
  exact parse_normalForm.2.1 e hnormal

end PageQuery.Query.Expression

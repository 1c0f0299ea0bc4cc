import PageQuery.Printing.System
import PageQuery.Proofs.Text.Lines

/-!
The default printer is the one that the first line with a label and a name gives. Every other line
is passed over, wherever it stands.
-/
namespace PageQuery.SystemPrinter

open Text (IsTrimmed EndsLine Breaks)

/-- A line that names a printer, and what stands behind its first colon. The label stands before that
colon, and something else than white space behind it. -/
inductive Announces : Text → Text → Prop where
  | mk {label rest : Text} (hcolon : ':' ∉ label) (hlabel : destinationLabel <:+: label)
      (hrest : ∃ c ∈ rest, Text.isBlank c = false) : Announces (label ++ ':' :: rest) rest

/-- A line that names no printer. -/
def IsIrrelevant (line : Text) : Prop := ∀ rest, ¬ Announces line rest

/-- A line names no printer if it has no colon, another label, or only white space for a name. -/
theorem isIrrelevant_iff {line : Text} :
    IsIrrelevant line ↔ ':' ∉ line ∨ ∃ label rest, line = label ++ ':' :: rest ∧ ':' ∉ label ∧
      (¬ destinationLabel <:+: label ∨ ∀ c ∈ rest, Text.isBlank c = true) := by
  constructor
  · intro h
    by_cases hmem : ':' ∈ line
    · obtain ⟨label, rest, rfl, hcolon⟩ := List.eq_append_cons_of_mem hmem
      refine .inr ⟨label, rest, rfl, hcolon, ?_⟩
      by_contra hboth
      push Not at hboth
      obtain ⟨hlabel, c, hc, hblank⟩ := hboth
      exact h rest (.mk hcolon hlabel ⟨c, hc, Bool.eq_false_iff.mpr hblank⟩)
    · exact .inl hmem
  · rintro (hmem | ⟨label, rest, rfl, hcolon, hnot⟩) found hline
    · cases hline
      simp at hmem
    · generalize heq : label ++ ':' :: rest = line at hline
      obtain @⟨label', rest', hcolon', hlabel, c, hc, hblank⟩ := hline
      have hcut := cutAt?_eq_some_iff.mpr ⟨heq.symm, hcolon⟩
      rw [cutAt?_eq_some_iff.mpr ⟨rfl, hcolon'⟩] at hcut
      cases hcut
      rcases hnot with hother | hempty
      · exact hother hlabel
      · rw [hempty c hc] at hblank
        cases hblank

theorem nameInLine?_eq_some_iff {line name : Text} :
    nameInLine? line = some name ↔ ∃ rest, Announces line rest ∧ name = Text.trim rest := by
  have hnamed (rest : Text) : Text.trim rest ≠ [] ↔ ∃ c ∈ rest, Text.isBlank c = false := by
    simp [Text.trim_eq_nil_iff]
  constructor
  · intro h
    unfold nameInLine? at h
    cases hcut : cutAt? ':' line with
    | none => simp [hcut] at h
    | some parts =>
      obtain ⟨label, rest⟩ := parts
      obtain ⟨rfl, hcolon⟩ := cutAt?_eq_some_iff.mp hcut
      simp only [hcut, Option.ite_none_right_eq_some, occursIn_iff, Option.some.injEq] at h
      obtain ⟨⟨hlabel, hname⟩, rfl⟩ := h
      exact ⟨rest, .mk hcolon hlabel ((hnamed rest).mp hname), rfl⟩
  · rintro ⟨rest, ⟨hcolon, hlabel, hrest⟩, rfl⟩
    rw [nameInLine?, cutAt?_eq_some_iff.mpr ⟨rfl, hcolon⟩]
    exact if_pos ⟨(occursIn_iff _ _).mpr hlabel, (hnamed rest).mpr hrest⟩

theorem nameInLine?_eq_none_iff {line : Text} : nameInLine? line = none ↔ IsIrrelevant line := by
  rw [Option.eq_none_iff_forall_ne_some]
  constructor
  · intro h rest hline
    exact h _ (nameInLine?_eq_some_iff.mpr ⟨rest, hline, rfl⟩)
  · intro h name hname
    obtain ⟨rest, hline, -⟩ := nameInLine?_eq_some_iff.mp hname
    exact h rest hline

theorem nameInLine?_system {name : Text} (hne : name ≠ []) (h : IsTrimmed name) :
    nameInLine? ("system default destination: " ++ name) = some name := by
  have hcut : ("system default destination: " : Text) =
      ("system default destination" : Text) ++ [':', ' '] := by decide
  have hcolon : ':' ∉ ("system default destination" : Text) := by decide
  have hlabel : destinationLabel <:+: "system default destination" := ⟨"system ", [], by decide⟩
  obtain ⟨c, more, rfl⟩ := List.exists_cons_of_ne_nil hne
  have hnamed : ∃ d ∈ ' ' :: c :: more, Text.isBlank d = false := ⟨c, by simp, h c (.inl rfl)⟩
  have hspace : ∀ d ∈ [' '], Text.isBlank d = true := List.forall_mem_singleton.mpr (by decide)
  have htrim : Text.trim ([' '] ++ (c :: more)) = c :: more := by
    rw [Text.trim_append_left hspace, Text.trim_eq_self_iff.mpr h]
  rw [hcut, List.append_assoc, nameInLine?_eq_some_iff]
  exact ⟨_, .mk hcolon hlabel hnamed, htrim.symm⟩

/-- The carriage return of a line is white space behind the name, or behind no name. -/
theorem nameInLine?_concat_return (line : Text) :
    nameInLine? (line ++ ['\r']) = nameInLine? line := by
  have hblank : ∀ c ∈ ['\r'], Text.isBlank c = true := List.forall_mem_singleton.mpr (by decide)
  have hcolon : ':' ∉ ['\r'] := by decide
  simp only [nameInLine?, cutAt?_append_of_notMem hcolon]
  cases cutAt? ':' line with
  | none => rfl
  | some parts => simp only [Option.map_some, Text.trim_append_right hblank]

theorem nameInLine?_dropReturn (line : Text) :
    nameInLine? (Text.dropReturn line) = nameInLine? line := by
  rcases Text.dropReturn_cases line with h | h
  · rw [h]
  · conv_rhs => rw [h, nameInLine?_concat_return]

theorem defaultName?_append {front : Text} (h : EndsLine front) (t : Text) :
    defaultName? (front ++ t) = (defaultName? front).or (defaultName? t) := by
  rw [defaultName?, Text.lines_append h, List.findSome?_append]
  rfl

theorem defaultName?_eq_none_iff {output : Text} :
    defaultName? output = none ↔ ∀ line ∈ Text.lines output, IsIrrelevant line := by
  simp only [defaultName?, List.findSome?_eq_none_iff, nameInLine?_eq_none_iff]

/-- A line feed at the end starts no line, and what it ends names the same printer. -/
theorem defaultName?_concat_lineFeed (output : Text) :
    defaultName? (output ++ ['\n']) = defaultName? output := by
  induction output using pieces_induction '\n' with
  | uncut s hs =>
    rw [defaultName?, Text.lines_append_lineFeed hs]
    by_cases hne : s = []
    · subst hne
      rfl
    · rw [defaultName?, Text.lines_of_notMem hs hne]
      simp only [List.findSome?_cons, nameInLine?_dropReturn]
      rfl
  | cut p r hp ih =>
    unfold defaultName? at ih ⊢
    rw [List.append_assoc, List.cons_append, Text.lines_append_lineFeed hp,
      Text.lines_append_lineFeed hp, List.findSome?_cons, List.findSome?_cons, ih]

theorem defaultName?_append_lineFeed (output t : Text) :
    defaultName? (output ++ '\n' :: t) = (defaultName? output).or (defaultName? t) := by
  have hends : EndsLine (output ++ ['\n']) := .inr List.getLast?_concat
  have hcut := defaultName?_append hends t
  rwa [List.append_assoc, List.singleton_append, defaultName?_concat_lineFeed] at hcut

theorem defaultName?_of_announced {front line back name : Text} (hfront : EndsLine front)
    (hbefore : defaultName? front = none) (hline : '\n' ∉ line) (hback : Breaks back)
    (hname : nameInLine? line = some name) : defaultName? (front ++ (line ++ back)) = some name := by
  have hne : line ≠ [] := by
    rintro rfl
    cases hname
  obtain ⟨first, rest, hlines, hfirst⟩ := Text.exists_lines_append hline hne hback
  have hsame : nameInLine? first = some name := by
    rcases hfirst with rfl | rfl
    · exact hname
    · rwa [nameInLine?_concat_return] at hname
  rw [defaultName?_append hfront, hbefore, Option.none_or, defaultName?, hlines,
    List.findSome?_cons, hsame]

theorem exists_line_of_defaultName? {output name : Text} :
    defaultName? output = some name ↔
      ∃ before line after rest, Text.lines output = before ++ line :: after ∧
        (∀ l ∈ before, IsIrrelevant l) ∧ Announces line rest ∧ name = Text.trim rest := by
  rw [defaultName?, List.findSome?_eq_some_iff]
  simp only [nameInLine?_eq_some_iff, nameInLine?_eq_none_iff]
  constructor
  · rintro ⟨before, line, after, hlines, ⟨rest, hline, hname⟩, hbefore⟩
    exact ⟨before, line, after, rest, hlines, hbefore, hline, hname⟩
  · rintro ⟨before, line, after, rest, hlines, hbefore, hline, hname⟩
    exact ⟨before, line, after, hlines, ⟨rest, hline, hname⟩, hbefore⟩

/-- What a printer that is found is called. -/
theorem name_of_defaultName? {output name : Text} (h : defaultName? output = some name) :
    name ≠ [] ∧ IsTrimmed name ∧ '\n' ∉ name := by
  obtain ⟨before, line, after, rest, hlines, -, hline, rfl⟩ := exists_line_of_defaultName?.mp h
  have hmem : line ∈ Text.lines output := by simp [hlines]
  have hfeed := Text.lineFeed_notMem_of_mem_lines hmem
  obtain ⟨-, -, c, hc, hblank⟩ := hline
  refine ⟨fun hnil => ?_, Text.isTrimmed_trim rest, fun hname => hfeed ?_⟩
  · rw [Text.trim_eq_nil_iff.mp hnil c hc] at hblank
    cases hblank
  · exact List.mem_append_right _ (List.mem_cons_of_mem _ (Text.mem_of_mem_trim hname))

/-- The default printer is named by the first line that has a label before its first colon and a name
behind it. The name has no white space at its ends and no line feed. Lines that name no printer can be
put anywhere, and every name that can stand in a line is found, whatever ends the line. -/
theorem defaultName?_names_first_line (output : Text) :
    (defaultName? output = none ↔ ∀ line ∈ Text.lines output, IsIrrelevant line) ∧
    (∀ name, defaultName? output = some name ↔
      ∃ before line after rest, Text.lines output = before ++ line :: after ∧
        (∀ l ∈ before, IsIrrelevant l) ∧ Announces line rest ∧ name = Text.trim rest) ∧
    (∀ name, defaultName? output = some name → name ≠ [] ∧ IsTrimmed name ∧ '\n' ∉ name) ∧
    (∀ line, IsIrrelevant line ↔ ':' ∉ line ∨
      ∃ label rest, line = label ++ ':' :: rest ∧ ':' ∉ label ∧
        (¬ destinationLabel <:+: label ∨ ∀ c ∈ rest, Text.isBlank c = true)) ∧
    (∀ front between back, EndsLine front → EndsLine between ∨ back = [] →
      (∀ line ∈ Text.lines between, IsIrrelevant line) →
      defaultName? (front ++ (between ++ back)) = defaultName? (front ++ back)) ∧
    (∀ behind, (∀ line ∈ Text.lines behind, IsIrrelevant line) →
      defaultName? (output ++ '\n' :: behind) = defaultName? output) ∧
    ∀ front name back, EndsLine front → (∀ line ∈ Text.lines front, IsIrrelevant line) →
      name ≠ [] → IsTrimmed name → '\n' ∉ name → Breaks back →
      defaultName? (front ++ ("system default destination: " ++ name ++ back)) = some name := by
  refine ⟨defaultName?_eq_none_iff, fun _ => exists_line_of_defaultName?,
    fun _ => name_of_defaultName?, fun _ => isIrrelevant_iff, ?_, ?_, ?_⟩
  · intro front between back hfront hbetween hirrelevant
    have hnone := defaultName?_eq_none_iff.mpr hirrelevant
    rw [defaultName?_append hfront, defaultName?_append hfront]
    rcases hbetween with hbetween | rfl
    · rw [defaultName?_append hbetween, hnone, Option.none_or]
    · rw [List.append_nil, hnone]
      rfl
  · intro behind hirrelevant
    rw [defaultName?_append_lineFeed, defaultName?_eq_none_iff.mpr hirrelevant, Option.or_none]
  · intro front name back hfront hirrelevant hne htrimmed hfeed hback
    have hline : '\n' ∉ ("system default destination: " : Text) ++ name := by
      have hlabel : '\n' ∉ ("system default destination: " : Text) := by decide
      simp only [List.mem_append, hlabel, hfeed, or_self, not_false_eq_true]
    exact defaultName?_of_announced hfront (defaultName?_eq_none_iff.mpr hirrelevant) hline hback
      (nameInLine?_system hne htrimmed)

/-- A name with a colon in it, behind lines without a label, without a colon and without a name, and
before a line with another label. -/
theorem defaultName?_names_first_line_colon :
    let front : Text := "device for a: usb\r\nno default destination\ndefault destination: \t\n"
    let name : Text := "HP: 2"
    let output : Text := front ++ ("system default destination: " ++ name ++ ['\r', '\n'])
    defaultName? output = some name ∧
      defaultName? (output ++ '\n' :: "other: 3") = some name ∧
      IsTrimmed name := by
  intro front name output
  have hirrelevant (t : Text) (h : ∀ line ∈ Text.lines t, nameInLine? line = none) :
      ∀ line ∈ Text.lines t, IsIrrelevant line := fun line hline =>
    nameInLine?_eq_none_iff.mp (h line hline)
  obtain ⟨-, -, hnamed, -, -, hbehind, hfound⟩ := defaultName?_names_first_line output
  have hname : defaultName? output = some name :=
    hfound front name ['\r', '\n'] (.inr (by decide)) (hirrelevant front (by decide +kernel))
      (by decide) (Text.trim_eq_self_iff.mp (by decide)) (by decide) (.carriageReturn [])
  have hother := hbehind "other: 3" (hirrelevant "other: 3" (by decide +kernel))
  exact ⟨hname, hother.trans hname, (hnamed name hname).2.1⟩

end PageQuery.SystemPrinter

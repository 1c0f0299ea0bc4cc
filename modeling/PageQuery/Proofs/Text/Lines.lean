import PageQuery.Proofs.Text.Pieces

/-!
Lines of texts that are put together. Lines that end with a line feed stay lines, whatever follows
them.
-/
namespace PageQuery.Text

/-- A text that is empty or ends with a line feed, so that what follows it starts a line. -/
def EndsLine (t : Text) : Prop := t = [] ∨ t.getLast? = some '\n'

/-- What stands behind a line: the end of the text, or a line feed, with or without a carriage return
before it. -/
inductive Breaks : Text → Prop where
  | endOfText : Breaks []
  | lineFeed (t : Text) : Breaks ('\n' :: t)
  | carriageReturn (t : Text) : Breaks ('\r' :: '\n' :: t)

@[simp] theorem dropReturn_concat (line : Text) : dropReturn (line ++ ['\r']) = line := by
  simp [dropReturn]

/-- Only a carriage return at the end is ever dropped. -/
theorem dropReturn_cases (line : Text) :
    dropReturn line = line ∨ line = dropReturn line ++ ['\r'] := by
  unfold dropReturn
  split
  · next h => exact .inr (List.dropLast_append_getLast? '\r' h).symm
  · exact .inl rfl

theorem lines_of_notMem {t : Text} (h : '\n' ∉ t) (hne : t ≠ []) : lines t = [t] := by
  simp [lines, pieces_of_notMem h, hne]

theorem lines_append_lineFeed {line : Text} (h : '\n' ∉ line) (t : Text) :
    lines (line ++ '\n' :: t) = dropReturn line :: lines t := by
  have hne := pieces_ne_nil '\n' t
  simp only [lines, pieces_append_cons h, List.dropLast_cons_of_ne_nil hne, List.map_cons,
    List.cons_append, List.getLast?_cons_of_ne_nil hne]

theorem lines_append {front : Text} (h : EndsLine front) (t : Text) :
    lines (front ++ t) = lines front ++ lines t := by
  rcases h with rfl | h
  · rfl
  · obtain ⟨s, rfl⟩ := List.getLast?_eq_some_iff.mp h
    clear h
    rw [List.append_assoc, List.singleton_append]
    induction s using pieces_induction '\n' with
    | uncut s hs =>
      rw [lines_append_lineFeed hs, lines_append_lineFeed hs]
      rfl
    | cut p r hp ih =>
      simp only [List.append_assoc, List.cons_append, lines_append_lineFeed hp, ih]

/-- A line that something ends is read as it stands, if it is not empty: a carriage return belongs to
what ends it. -/
theorem exists_lines_append {line back : Text} (h : '\n' ∉ line) (hne : line ≠ [])
    (hback : Breaks back) :
    ∃ first rest, lines (line ++ back) = first :: rest ∧
      (first = line ∨ line = first ++ ['\r']) := by
  cases hback with
  | endOfText => exact ⟨line, [], by rw [List.append_nil, lines_of_notMem h hne], .inl rfl⟩
  | lineFeed t => exact ⟨_, _, lines_append_lineFeed h t, dropReturn_cases line⟩
  | carriageReturn t =>
    have hreturn : '\n' ∉ line ++ ['\r'] := by simp [h]
    have hcut := lines_append_lineFeed hreturn t
    rw [List.append_assoc, List.singleton_append, dropReturn_concat] at hcut
    exact ⟨line, lines t, hcut, .inl rfl⟩

theorem lineFeed_notMem_of_mem_lines {t line : Text} (h : line ∈ lines t) : '\n' ∉ line := by
  induction t using pieces_induction '\n' with
  | uncut s hs =>
    by_cases hne : s = []
    · subst hne
      cases h
    · rw [lines_of_notMem hs hne, List.mem_singleton] at h
      exact h ▸ hs
  | cut p r hp ih =>
    rw [lines_append_lineFeed hp, List.mem_cons] at h
    rcases h with rfl | h
    · rcases dropReturn_cases p with heq | heq
      · rwa [heq]
      · rw [heq] at hp
        exact fun hmem => hp (List.mem_append_left _ hmem)
    · exact ih h

end PageQuery.Text

import PageQuery.Proofs.Query.Acceptance

/-!
Texts that stand in a page as typed. A page is lower-cased as a whole and a query part by part, so
a part that ends in a capital sigma can be missed where the word goes on. An occurrence is found if
the page leaves the capital sigmas of the part as they are in the part by itself.
-/
namespace PageQuery.Query

/-- Whether a text stands in a page at a place that leaves its capital sigmas as they are. -/
def OccursUnchanged (page needle : Text) : Prop :=
  ∃ before after, page = before ++ needle ++ after ∧ Text.SigmasStay before needle after

/-- The lower-case form of a page has that of a part of it in its place iff the page leaves the
capital sigmas of the part alone. -/
theorem sigmasStay_iff (before needle after : Text) :
    Text.SigmasStay before needle after ↔
      Text.lower (before ++ needle ++ after) =
        Text.lowerBetween [] before (needle ++ after) ++ Text.lower needle ++
          Text.lowerBetween (needle.reverse ++ before.reverse) after [] := by
  have hpage : Text.lower (before ++ needle ++ after) =
      Text.lowerBetween [] before (needle ++ after) ++
        Text.lowerBetween before.reverse needle after ++
          Text.lowerBetween (needle.reverse ++ before.reverse) after [] := by
    simp [Text.lower_eq_lowerBetween, Text.lowerBetween_append]
  rw [hpage, List.append_left_inj, List.append_right_inj, Text.lowerBetween_eq_lower_iff]

theorem OccursUnchanged.lower_infix {page needle : Text} (h : OccursUnchanged page needle) :
    Text.lower needle <:+: Text.lower page := by
  obtain ⟨before, after, rfl, hstay⟩ := h
  exact ⟨_, _, ((sigmasStay_iff before needle after).mp hstay).symm⟩

/-- A query is not lost on a page on which it stands as typed, as long as the page leaves the
capital sigmas of its parts alone. At any other place of a part its lower-case form does not stand
in that of the page. -/
theorem accepts_of_occursUnchanged (query page : Text) :
    (MetBy (OccursUnchanged page) query → (Matcher.compile query).accepts page = true) ∧
    ∀ before needle after, page = before ++ needle ++ after →
      (Text.SigmasStay before needle after ↔
        Text.lower page =
          Text.lowerBetween [] before (needle ++ after) ++ Text.lower needle ++
            Text.lowerBetween (needle.reverse ++ before.reverse) after []) := by
  constructor
  · intro h
    rw [compile_accepts_iff]
    exact h.mono fun _ hpart => hpart.lower_infix
  · rintro before needle after rfl
    exact sigmasStay_iff before needle after

/-- Two parts that end in a sigma or start with one, each at a place that leaves it alone. -/
theorem accepts_of_occursUnchanged_example :
    MetBy (OccursUnchanged "Η ΟΔΟΣ ΣΑΣ".toList) "ΟΔΟΣ & ΣΑ".toList ∧
      (Matcher.compile "ΟΔΟΣ & ΣΑ".toList).accepts "Η ΟΔΟΣ ΣΑΣ".toList = true := by
  have hfirst : OccursUnchanged "Η ΟΔΟΣ ΣΑΣ".toList "ΟΔΟΣ".toList :=
    ⟨"Η ".toList, " ΣΑΣ".toList, by decide +kernel, by decide +kernel⟩
  have hsecond : OccursUnchanged "Η ΟΔΟΣ ΣΑΣ".toList "ΣΑ".toList :=
    ⟨"Η ΟΔΟΣ ".toList, "Σ".toList, by decide +kernel, by decide +kernel⟩
  have hparts :
      MetBy (fun part => part = "ΟΔΟΣ".toList ∨ part = "ΣΑ".toList) "ΟΔΟΣ & ΣΑ".toList := by
    decide +kernel
  have hmet : MetBy (OccursUnchanged "Η ΟΔΟΣ ΣΑΣ".toList) "ΟΔΟΣ & ΣΑ".toList := by
    apply hparts.mono
    rintro part (rfl | rfl)
    · exact hfirst
    · exact hsecond
  exact ⟨hmet, (accepts_of_occursUnchanged _ _).1 hmet⟩

/-- A text that ends in a capital sigma is not found inside a word, although it stands there. -/
theorem sigma_missed_inside_word :
    MetBy (· <:+: "ΑΣΑ".toList) "ΑΣ".toList ∧
      (Matcher.compile "ΑΣ".toList).accepts "ΑΣΑ".toList = false := by
  decide +kernel

end PageQuery.Query

import PageQuery.Document.StoredPages
import PageQuery.Proofs.Json.Node
import PageQuery.Proofs.Text.Utf8

/-!
Stored pages come back from the bytes of the file that they were written to.
-/
namespace PageQuery

open Json (KeySpells IsSpace Node RawString Separates Writes)

/-- A new line, indented by spaces. -/
def indented (spaces : Nat) : Text := '\n' :: List.replicate spaces ' '

theorem isSpace_indented (spaces : Nat) : IsSpace (indented spaces) := by
  refine Json.isSpace_cons (by decide) fun c hc => ?_
  rw [List.eq_of_mem_replicate hc]
  decide

theorem separates_indented (spaces : Nat) : Separates true (indented spaces) :=
  .first (isSpace_indented spaces)

theorem separates_comma_indented (spaces : Nat) : Separates false (',' :: indented spaces) := by
  rw [← List.nil_append (',' :: indented spaces)]
  exact .comma Json.isSpace_nil (isSpace_indented spaces)

namespace StoredPage

@[simp] theorem page_kind_content (p : StoredPage) : p.kind.page p.content = p := by cases p <;> rfl

@[simp] theorem Kind.ofTag_tag (k : Kind) : Kind.ofTag k.tag = .ok k := by
  cases k <;> decide +kernel

theorem Kind.field_ne_kindField (k : Kind) : k.field ≠ kindField := by cases k <;> decide +kernel

/-- A page is read from its two members. -/
theorem ofNode_object {p : StoredPage} {kindKey tag fieldKey content : RawString}
    (hkindKey : kindKey.text = .ok kindField) (htag : tag.text = .ok p.kind.tag)
    (hfieldKey : fieldKey.text = .ok p.kind.field) (hcontent : content.text = .ok p.content)
    {levels : Nat} (hlevels : 1 < levels) :
    ofNode levels (.object [(kindKey, .string tag), (fieldKey, .string content)] .closed) =
      .ok p := by
  have hother := p.kind.field_ne_kindField
  simp [ofNode, Json.enter_of_lt hlevels, Members.take, Members.checkNew, hkindKey, htag, hfieldKey,
    hcontent, hother, Kind.ofNode, Node.toText, Node.keep, Json.ObjectEnd.check, contentOfMembers,
    contentOf]

/-- A page in the file is indented, and what follows the indentation is read as the page. -/
theorem exists_writes_render (p : StoredPage) :
    ∃ w node, p.render = List.replicate 4 ' ' ++ w ∧ Writes w (.value node) ∧
      ∀ levels, 1 < levels → ofNode levels node = .ok p := by
  obtain ⟨kindKey, hkindKey, hkindText⟩ := Json.exists_keySpells_quote kindField Json.isSpace_space
  obtain ⟨tag, htag, htagText⟩ := Json.exists_writes_quote p.kind.tag
  obtain ⟨fieldKey, hfieldKey, hfieldText⟩ := Json.exists_keySpells_quote p.kind.field Json.isSpace_space
  obtain ⟨content, hcontent, hcontentText⟩ := Json.exists_writes_quote p.content
  refine ⟨_, _, ?_, .object (.member (separates_indented 6) hkindKey htag
    (.member (separates_comma_indented 6) hfieldKey hcontent
      (.endOfObject (isSpace_indented 4)))), ?_⟩
  · have hkind : Json.quote kindField = "\"kind\"" := by decide +kernel
    unfold render
    simp [hkind, indented, List.replicate]
  · intro levels hlevels
    exact ofNode_object hkindText htagText hfieldText hcontentText hlevels

/-- Pages in the file are items of a list, whatever stands in front of the first one. -/
theorem exists_writes_items (p : StoredPage) (more : List StoredPage) {isFirst : Bool}
    {before : Text} (hbefore : Separates isFirst (before ++ List.replicate 4 ' ')) :
    ∃ nodes, Writes
        (before ++ (Text.joined ",\n" ((p :: more).map render) ++ (indented 2 ++ [']'])))
        (.items isFirst nodes) ∧
      ∀ levels, 1 < levels → ofNodes levels nodes = .ok (p :: more) := by
  obtain ⟨w, node, hrender, hwrites, hread⟩ := p.exists_writes_render
  induction more generalizing p isFirst before w node with
  | nil =>
    have hitem := Writes.item hbefore hwrites (.endOfList (isSpace_indented 2))
    refine ⟨[node], ?_, fun levels hlevels => ?_⟩
    · simpa [Text.joined, hrender] using hitem
    · simp [ofNodes, hread levels hlevels]
  | cons q more ih =>
    obtain ⟨w', node', hrender', hwrites', hread'⟩ := q.exists_writes_render
    have hnext : Separates false (",\n" ++ List.replicate 4 ' ') := separates_comma_indented 4
    obtain ⟨nodes, hnodes, hreads⟩ := ih q hnext w' node' hrender' hwrites' hread'
    refine ⟨node :: nodes, ?_, fun levels hlevels => ?_⟩
    · have hitem := Writes.item hbefore hwrites hnodes
      simpa [Text.joined, List.intercalate_cons_cons, hrender] using hitem
    · simp [ofNodes, hread levels hlevels, hreads levels hlevels]

end StoredPage

namespace StoredPages

theorem exists_writes_list (pages : List StoredPage) :
    ∃ w node, render pages = "\x7b\n  \"pages\": " ++ w ++ "\n\x7d" ∧ Writes w (.value node) ∧
      ∀ levels, 2 < levels → ofList levels node = .ok pages := by
  cases pages with
  | nil =>
    refine ⟨_, _, rfl, .list (.endOfList Json.isSpace_nil), fun levels hlevels => ?_⟩
    simp [ofList, Json.enter_of_lt (show 1 < levels by omega), StoredPage.ofNodes,
      Json.ListEnd.check]
  | cons p more =>
    have hfirst : Separates true ("\n" ++ List.replicate 4 ' ') := separates_indented 4
    obtain ⟨nodes, hnodes, hreads⟩ := p.exists_writes_items more hfirst
    refine ⟨_, _, ?_, .list hnodes, fun levels hlevels => ?_⟩
    · unfold render
      simp [indented, List.replicate]
    · simp [ofList, Json.enter_of_lt (show 1 < levels by omega), hreads (levels - 1) (by omega),
        Json.ListEnd.check]

/-- A file with pages is a text of the grammar, and its tree is read as the pages. -/
theorem exists_writes_render (pages : List StoredPage) :
    ∃ node, Writes (render pages) (.value node) ∧ ofNode node = .ok pages := by
  obtain ⟨w, list, hrender, hlist, hread⟩ := exists_writes_list pages
  obtain ⟨key, hkey, hkeyText⟩ := Json.exists_keySpells_quote field Json.isSpace_space
  have hobject := Writes.object (.member (separates_indented 2) hkey hlist
    (.endOfObject (isSpace_indented 0)))
  refine ⟨.object [(key, list)] .closed, ?_, ?_⟩
  · have hfield : Json.quote field = "\"pages\"" := by decide +kernel
    simpa [hrender, hfield, indented, List.replicate] using hobject
  · simp [ofNode, Json.enter, Json.maxLevels, ofMembers, hkeyText, checkNew, hread,
      Json.ObjectEnd.check]

/-- Pages come back from the bytes that they were written as. -/
theorem parse_encode_render (pages : List StoredPage) :
    parse (Text.encode (render pages)) = .ok pages := by
  obtain ⟨node, hwrites, hread⟩ := exists_writes_render pages
  have hsymbols : Text.symbols (Text.encode (render pages)) =
      Json.symbolsOf ([] ++ (render pages ++ [])) := by
    rw [Text.symbols_encode, List.nil_append, List.append_nil, Json.symbolsOf]
  rw [parse, hsymbols, Json.read_writes ofNode Json.isSpace_nil hwrites Json.isSpace_nil, hread]

end StoredPages
end PageQuery

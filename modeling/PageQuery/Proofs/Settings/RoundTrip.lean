import PageQuery.Proofs.Json.Skipping
import PageQuery.Proofs.Settings.Entry
import PageQuery.Proofs.Text.Decoding

/-!
Settings come back from the text that they are written as, whatever characters the directory is made
of; and what comes back is written as the same text.
-/
namespace PageQuery.Settings

open Json (Node RawString Writes)

def directoryText : Option Text → Text
  | none => "null"
  | some name => Json.quote name

/-- The members of the file, with the directory as a text. -/
def members (s : Settings) (directory : Option Text) : List (Text × Text) :=
  [(Field.forcePrint.name, boolText s.forcePrint), (Field.printGrace.name, Text.ofNat s.printGrace),
    (Field.printWait.name, Text.ofNat s.printWait),
    (Field.outputDir.name, directoryText directory)]

theorem render?_eq_some_iff {s : Settings} {t : Text} :
    s.render? = some t ↔ ∃ directory : Option Text, s.outputDir = directory.map Path.ofText ∧
      t = '\x7b' :: (Text.joined "," ((s.members directory).map fun value =>
        Json.quote value.1 ++ ':' :: value.2) ++ ['\x7d']) := by
  obtain ⟨forcePrint, printGrace, printWait, outputDir⟩ := s
  cases outputDir with
  | none =>
    constructor
    · intro h
      exact ⟨none, rfl, (Option.some.inj h).symm⟩
    · rintro ⟨directory, hdirectory, rfl⟩
      cases directory with
      | none => rfl
      | some name => cases hdirectory
  | some path =>
    have hrender (name : Text) (hname : Text.decode? path.bytes = some name) :
        render? ⟨forcePrint, printGrace, printWait, some path⟩ =
          some ('\x7b' :: (Text.joined "," ((members ⟨forcePrint, printGrace, printWait, some path⟩
            (some name)).map fun value => Json.quote value.1 ++ ':' :: value.2) ++ ['\x7d'])) := by
      rw [render?]
      simp only [hname]
      rfl
    constructor
    · intro h
      cases hname : Text.decode? path.bytes with
      | none => simp [render?, hname] at h
      | some name =>
        rw [hrender name hname] at h
        have hpath : path = .ofText name :=
          congrArg Path.mk (Text.decode?_eq_some_iff_encode.mp hname)
        exact ⟨some name, by rw [hpath]; rfl, (Option.some.inj h).symm⟩
    · rintro ⟨directory, hdirectory, rfl⟩
      cases directory with
      | none => cases hdirectory
      | some name =>
        cases hdirectory
        exact hrender name (Text.decode?_encode name)

theorem writes_bool (b : Bool) : Writes (boolText b) (.value (.bool b)) := .bool b

theorem exists_writes_directory (directory : Option Text) :
    ∃ node, Writes (directoryText directory) (.value node) ∧
      Entry.WrittenAs (.outputDir directory) node := by
  cases directory with
  | none => exact ⟨.null, .null, .noDirectory⟩
  | some name =>
    obtain ⟨raw, hwrites, htext⟩ := Json.exists_writes_quote name
    exact ⟨.string raw, hwrites, .directory htext⟩

/-- The file is a text of the grammar, and its tree gives every setting. -/
theorem exists_writes_members (s : Settings) (directory : Option Text)
    (hgrace : s.printGrace < Word.bound64) (hwait : s.printWait < Word.bound64) :
    ∃ node, Writes ('\x7b' :: (Text.joined "," ((s.members directory).map fun value =>
        Json.quote value.1 ++ ':' :: value.2) ++ ['\x7d'])) (.value node) ∧
      Given.ofNode node = .ok
        { forcePrint := some s.forcePrint, printGrace := some s.printGrace
          printWait := some s.printWait, outputDir := some directory } := by
  obtain ⟨last, hlast, hdirectory⟩ := exists_writes_directory directory
  have hnumber (n : Nat) : Writes (Text.ofNat n)
      (.value (.number ⟨false, Text.ofNat n, none, none⟩)) := .number (Json.Numeral.spells_ofNat n)
  have hvalues : List.Forall₂ (fun value node => Writes value.2 (.value node)) (s.members directory)
      [.bool s.forcePrint, .number ⟨false, Text.ofNat s.printGrace, none, none⟩,
        .number ⟨false, Text.ofNat s.printWait, none, none⟩, last] :=
    .cons (writes_bool s.forcePrint) (.cons (hnumber s.printGrace) (.cons (hnumber s.printWait)
      (.cons hlast .nil)))
  obtain ⟨keys, hkeys, hwrites⟩ := Json.exists_writes_members hvalues (List.cons_ne_nil _ _)
    (.first Json.isSpace_nil)
  have hobject := Writes.object hwrites
  refine ⟨_, hobject, ?_⟩
  obtain ⟨k₁, keys, rfl, hk₁, hkeys⟩ := List.map_eq_cons_iff.mp hkeys
  obtain ⟨k₂, keys, rfl, hk₂, hkeys⟩ := List.map_eq_cons_iff.mp hkeys
  obtain ⟨k₃, keys, rfl, hk₃, hkeys⟩ := List.map_eq_cons_iff.mp hkeys
  obtain ⟨k₄, keys, rfl, hk₄, hkeys⟩ := List.map_eq_cons_iff.mp hkeys
  obtain rfl := List.map_eq_nil_iff.mp hkeys
  have hlists : Lists _ [.forcePrint s.forcePrint, .printGrace s.printGrace,
      .printWait s.printWait, .outputDir directory] :=
    .known hk₁ (.forcePrint s.forcePrint) (.known hk₂ (.printGrace (Entry.milliseconds_ofNat hgrace))
      (.known hk₃ (.printWait (Entry.milliseconds_ofNat hwait)) (.known hk₄ hdirectory .nil)))
  have hnodup : [Field.forcePrint, .printGrace, .printWait, .outputDir].Nodup := by decide
  rw [Given.ofNode_object]
  exact (ofMembers_start_eq_ok_iff hobject.skip_of_mem).mpr ⟨_, hlists, hnodup, rfl⟩

theorem parse_of_render? {s : Settings} {t : Text} (hgrace : s.printGrace < Word.bound64)
    (hwait : s.printWait < Word.bound64) (h : s.render? = some t) : parse t = .ok s := by
  obtain ⟨directory, hdirectory, ht⟩ := render?_eq_some_iff.mp h
  obtain ⟨node, hwrites, hgiven⟩ := exists_writes_members s directory hgrace hwait
  rw [← ht] at hwrites
  have hread := Json.read_writes Given.ofNode Json.isSpace_nil hwrites Json.isSpace_nil
  rw [List.nil_append, List.append_nil, hgiven] at hread
  rw [parse_eq_map, Given.parse, hread]
  have hsettings : s = ⟨s.forcePrint, s.printGrace, s.printWait, directory.map Path.ofText⟩ := by
    rw [← hdirectory]
  rw [hsettings]
  rfl

/-- Settings can be written iff the directory, if there is one, is a text. They are read again as they
were, and written again as the same text. -/
theorem render_parse_roundTrip (s : Settings) (hgrace : s.printGrace < Word.bound64)
    (hwait : s.printWait < Word.bound64) :
    ((∃ t, s.render? = some t) ↔
      ∀ path ∈ s.outputDir, ∃ name, Text.decode? path.bytes = some name) ∧
    ∀ t, s.render? = some t → ∃ again, parse t = .ok again ∧ again = s ∧ again.render? = some t := by
  refine ⟨⟨?_, ?_⟩, fun t h => ⟨s, parse_of_render? hgrace hwait h, rfl, h⟩⟩
  · rintro ⟨t, h⟩ path hpath
    obtain ⟨directory, hdirectory, -⟩ := render?_eq_some_iff.mp h
    rw [hdirectory, Option.mem_def, Option.map_eq_some_iff] at hpath
    obtain ⟨name, -, rfl⟩ := hpath
    exact ⟨name, Text.decode?_encode name⟩
  · intro hname
    cases hdir : s.outputDir with
    | none => exact ⟨_, render?_eq_some_iff.mpr ⟨none, hdir, rfl⟩⟩
    | some path =>
      obtain ⟨name, hname⟩ := hname path hdir
      have hpath : path = .ofText name :=
        congrArg Path.mk (Text.decode?_eq_some_iff_encode.mp hname)
      exact ⟨_, render?_eq_some_iff.mpr ⟨some name, by rw [hdir, hpath]; rfl, rfl⟩⟩

/-- The greatest number, and a directory with characters that are escaped, with the character zero and
with one of four bytes. -/
theorem render_parse_roundTrip_escapes :
    let s : Settings :=
      { forcePrint := true, printGrace := 18446744073709551615, printWait := 0
        outputDir := some (.ofText "/\"a\\b\"\r\u0000\u001f\u007f😀") }
    ∃ t, s.render? = some t ∧ parse t = .ok s := by
  intro s
  obtain ⟨hrender, hagain⟩ := render_parse_roundTrip s (by decide) (by decide)
  have hname : ∀ path ∈ s.outputDir, ∃ name, Text.decode? path.bytes = some name := by
    rintro path ⟨⟩
    exact ⟨_, Text.decode?_encode _⟩
  obtain ⟨t, ht⟩ := hrender.mpr hname
  obtain ⟨again, hparse, rfl, -⟩ := hagain t ht
  exact ⟨t, ht, hparse⟩

end PageQuery.Settings

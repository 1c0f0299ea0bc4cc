import PageQuery.Proofs.Action.Destination
import PageQuery.Proofs.Files.Child

/-!
What a query can do to the name of an export. The name is one that a file can have, except that it,
or the path with it, may be too long; only then does an export fail that would not fail for every
query.
-/
namespace PageQuery

namespace Naming

theorem ascii_of_mem_unsafeChars {c : Char} (h : c ∈ unsafeChars) : c.toNat < 0x80 := by
  have hall : unsafeChars.all (fun c => c.toNat < 0x80) = true := by decide
  exact of_decide_eq_true (List.all_eq_true.mp hall c h)

theorem length_encodeChar_of_ascii {c : Char} (h : c.toNat < 0x80) :
    (Text.encodeChar c).length = 1 := by
  rw [Text.encodeChar, if_pos h, List.length_singleton]

/-- Every character that is replaced has one byte, as the one in its stead has. -/
theorem length_encode_sanitize (query : Text) :
    (Text.encode (sanitize query)).length = (Text.encode query).length := by
  induction query with
  | nil => rfl
  | cons c rest ih =>
    have hchar : (Text.encodeChar (if c ∈ unsafeChars then placeholder else c)).length =
        (Text.encodeChar c).length := by
      split
      · next hunsafe =>
        have hplaceholder : placeholder.toNat < 0x80 := by decide
        rw [length_encodeChar_of_ascii hplaceholder,
          length_encodeChar_of_ascii (ascii_of_mem_unsafeChars hunsafe)]
      · rfl
    rw [sanitize, List.map_cons, ← sanitize, Text.encode_cons, Text.encode_cons, List.length_append,
      List.length_append, hchar, ih]

/-- Sanitizing brings in no character but the placeholder. -/
theorem mem_of_mem_sanitize {query : Text} {c : Char} (hc : c ≠ placeholder)
    (h : c ∈ sanitize query) : c ∈ query := by
  obtain ⟨d, hd, hsame⟩ := List.mem_map.mp h
  split at hsame
  · exact absurd hsame.symm hc
  · rwa [← hsame]

variable {source : Path} {query other suffix suffix' : Text} {time : Timestamp}

/-- A zero in the name of an export comes from the source or from the query. -/
theorem zero_notMem_nameWith (hsuffix : IsSuffix suffix) (hquery : '\u0000' ∉ query)
    (hother : '\u0000' ∉ nameWith source other time suffix') :
    '\u0000' ∉ nameWith source query time suffix := by
  have hsanitized : '\u0000' ∉ sanitize query := fun h =>
    hquery (mem_of_mem_sanitize (by decide) h)
  simp only [nameWith, List.mem_append, List.mem_cons, not_or] at hother ⊢
  obtain ⟨⟨⟨⟨hbase, -, -⟩, hmark, htime⟩, -⟩, hdot, hextension⟩ := hother
  have hnumber : '\u0000' ∉ suffix := hsuffix.notMem (by decide) (by decide)
  exact ⟨⟨⟨⟨hbase, hmark, hsanitized⟩, hmark, htime⟩, hnumber⟩, hdot, hextension⟩

end Naming

namespace StoredDocument

variable {σ : Type} {d : StoredDocument} {destination : Path} {selected : Selection}

/-- A path to which pages are copied names a file that can be written. -/
theorem writingPlace_of_run_copySelected {copied : CopyReport} {s s' : Session σ}
    (h : (d.toDocument.copySelected destination selected).run s = (.ok copied, s')) :
    ∃ key, s.files.writingPlace destination = .ok key := by
  cases hplace : s.files.writingPlace destination with
  | ok key => exact ⟨key, rfl⟩
  | error e =>
    have hcreate : s.files.create destination = .error e := by
      rw [FileTree.create, hplace, Except.error_bind]
    obtain ⟨s₁, hrun, -⟩ := d.run_copySelected_of_create_error hcreate selected
    rw [hrun] at h
    cases h

variable {path : Path} {query : Text} {directory : Option Path} {time : Timestamp} {s : Session σ}

/-- An export succeeds if its path names a file that can be written. -/
theorem run_exportSelected_of_writingPlace {key : TreeKey} (selected : Selection)
    (hpath : path = (d.toDocument (σ := σ)).exportPath s.files directory query time)
    (hleft : (d.toDocument (σ := σ)).NameLeft s.files directory query time)
    (hplace : s.files.writingPlace path = .ok key) :
    ∃ copied s', (d.toDocument.exportSelected selected query directory time).run s =
      (.ok (.exported path copied), s') := by
  have hfree : s.files.pathExists path = false := by
    rw [hpath]
    exact Naming.not_pathExists_exportPath hleft
  have hwritable : s.files.Writable path := by
    refine ⟨key, hplace, fun node hnode => ?_⟩
    rw [FileTree.node?_of_not_pathExists hfree hplace] at hnode
    cases hnode
  obtain ⟨copied, s₁, hcopied⟩ := d.run_copySelected_of_writable hwritable selected
  rcases hrun : (d.toDocument.exportSelected selected query directory time).run s with ⟨result, s'⟩
  cases Document.exportRun_of_run hrun with
  | saved hpath' =>
    rw [hpath, hpath']
    exact ⟨_, _, rfl⟩
  | failed hpath' hcopy =>
    rw [hpath', ← hpath, hcopied] at hcopy
    cases hcopy

/-- An export fails if its path names no file that can be written, and all files stay. -/
theorem run_exportSelected_of_writingPlace_error {e : SystemError} (selected : Selection)
    (hpath : path = (d.toDocument (σ := σ)).exportPath s.files directory query time)
    (hplace : s.files.writingPlace path = .error e) :
    ∃ s', (d.toDocument.exportSelected selected query directory time).run s =
      (.error (.cannotWrite path e.message), s') ∧ s'.files = s.files := by
  have hcreate : s.files.create path = .error e := by
    rw [FileTree.create, hplace, Except.error_bind]
  obtain ⟨s₁, hcopied, hsame⟩ := d.run_copySelected_of_create_error hcreate selected
  rcases hrun : (d.toDocument.exportSelected selected query directory time).run s with ⟨result, s'⟩
  cases Document.exportRun_of_run hrun with
  | saved hpath' hcopy =>
    rw [hpath', ← hpath, hcopied] at hcopy
    cases hcopy
  | failed hpath' hcopy hfiles =>
    rw [hpath', ← hpath] at hcopy hfiles
    rw [hcopied] at hcopy
    cases hcopy
    refine ⟨s', rfl, ?_⟩
    obtain ⟨key, -, hkey, -⟩ | ⟨hremoved, -⟩ := s.files.afterRemoval_cases path
    · rw [hplace] at hkey
      cases hkey
    · rw [hfiles, hsame, hremoved]

/-- What an export for the empty query shows: a name in the directory can be written. -/
theorem exists_writingPlace_of_dispatch {settings : Settings} {service : PrintService σ}
    {occasion : Occasion} {outcome : Outcome} {s' : Session σ}
    (h : (d.toDocument.dispatch settings service occasion .save selected []).run s =
      (.ok outcome, s')) :
    ∃ suffix key, Naming.IsSuffix suffix ∧
      s.files.writingPlace ((settings.outputDir.getD (Naming.directoryOf d.path)).join
        (.ofText (Naming.nameWith d.path [] occasion.time suffix))) = .ok key := by
  obtain ⟨suffix, hsuffix, hpath⟩ :=
    Naming.exists_nameWith s.files d.path settings.outputDir [] occasion.time
  simp only [Document.dispatch, Session.run_bind, Session.run_note] at h
  cases Document.exportRun_of_run h with
  | saved hexport hcopy =>
    obtain ⟨key, hplace⟩ := writingPlace_of_run_copySelected hcopy
    rw [hexport] at hplace
    exact ⟨suffix, key, hsuffix, hpath ▸ hplace⟩

/-- Only its length can make a query fail that has no zero in it. The name of the export has neither
a slash nor a zero, and sanitizing keeps the number of bytes; the export succeeds if the name and
the path with it are short enough, and else leaves all files as they are. -/
theorem dispatch_save_fails_only_of_length (d : StoredDocument) (settings : Settings)
    (service : PrintService σ) (occasion : Occasion) (selected₀ selected : Selection) (query : Text)
    (s s₀ : Session σ) (outcome : Outcome)
    (hempty : (d.toDocument.dispatch settings service occasion .save selected₀ []).run s =
      (.ok outcome, s₀))
    (hquery : '\u0000' ∉ query)
    (hleft : (d.toDocument (σ := σ)).NameLeft s.files settings.outputDir query occasion.time) :
    (Text.encode (Naming.sanitize query)).length = (Text.encode query).length ∧
      ∃ suffix name path, Naming.IsSuffix suffix ∧
        name = Naming.baseOf d.path ++ '_' :: Naming.sanitize query ++ '_' ::
          occasion.time.render ++ suffix ++ '.' :: Document.extensionOf d.path ∧
        '/' ∉ name ∧ '\u0000' ∉ name ∧
        path = (d.toDocument (σ := σ)).exportPath s.files settings.outputDir query occasion.time ∧
        path = (settings.outputDir.getD (Naming.directoryOf d.path)).join (.ofText name) ∧
        ((Text.encode name).length ≤ 255 ∧ path.bytes.length ≤ 4095 →
          ∃ copied s', (d.toDocument.dispatch settings service occasion .save selected query).run s =
            (.ok (.exported path copied), s')) ∧
        (255 < (Text.encode name).length ∨ 4095 < path.bytes.length →
          ∃ s', (d.toDocument.dispatch settings service occasion .save selected query).run s =
            (.error (.cannotWrite path SystemError.nameTooLong.message), s') ∧
              s'.files = s.files) := by
  refine ⟨Naming.length_encode_sanitize query, ?_⟩
  obtain ⟨suffix₀, key, hsuffix₀, hplace₀⟩ := exists_writingPlace_of_dispatch hempty
  obtain ⟨suffix, hsuffix, hpath⟩ :=
    Naming.exists_nameWith s.files d.path settings.outputDir query occasion.time
  generalize settings.outputDir.getD (Naming.directoryOf d.path) = directory at hplace₀ hpath ⊢
  have hname₀ : Path.IsName (Text.encode (Naming.nameWith d.path [] occasion.time suffix₀)) :=
    Naming.isName_nameWith hsuffix₀
  have hzero₀ : '\u0000' ∉ Naming.nameWith d.path [] occasion.time suffix₀ := by
    have hfree := FileTree.zero_notMem_of_writingPlace hplace₀
    rw [Path.ofText, Path.join_name directory hname₀.slash] at hfree
    intro hzero
    exact hfree (List.mem_append_right _ ((Text.byte_mem_encode_iff (by decide)).mpr hzero))
  obtain ⟨name, hspelt⟩ : ∃ name, Naming.nameWith d.path query occasion.time suffix = name :=
    ⟨_, rfl⟩
  have hname : Path.IsName (Text.encode name) := hspelt ▸ Naming.isName_nameWith hsuffix
  have hslash : '/' ∉ name := hspelt ▸ Naming.slash_notMem_nameWith hsuffix
  have hzero : '\u0000' ∉ name := hspelt ▸ Naming.zero_notMem_nameWith hsuffix hquery hzero₀
  rw [hspelt] at hpath
  obtain ⟨parent, hplace⟩ := FileTree.writingPlace_join hplace₀ hname₀ hname fun h =>
    hzero ((Text.byte_mem_encode_iff (by decide)).mp h)
  obtain ⟨path, hjoin⟩ : ∃ path, directory.join (.ofText name) = path := ⟨_, rfl⟩
  rw [← Path.ofText, hjoin] at hplace
  rw [hjoin] at hpath
  refine ⟨suffix, name, path, hsuffix, hspelt.symm, hslash, hzero, hpath.symm, hjoin.symm, ?_, ?_⟩
  · intro hfits
    have hfits' : (Text.encode name).length ≤ FileTree.maxName ∧
        path.bytes.length ≤ FileTree.maxPath := hfits
    rw [if_pos hfits'] at hplace
    simp only [Document.dispatch, Session.run_bind, Session.run_note]
    exact run_exportSelected_of_writingPlace selected hpath.symm hleft hplace
  · intro hlong
    have hnot : ¬ ((Text.encode name).length ≤ FileTree.maxName ∧
        path.bytes.length ≤ FileTree.maxPath) := by
      simp only [FileTree.maxName, FileTree.maxPath]
      omega
    rw [if_neg hnot] at hplace
    simp only [Document.dispatch, Session.run_bind, Session.run_note]
    exact run_exportSelected_of_writingPlace_error selected hpath.symm hplace

/-- A note of one page. -/
def singleNote : StoredDocument := .ofTexts (.ofText "notes.json") ["a"]

/-- Noon on a day in May. -/
def noonInMay : Occasion where
  time := { year := 2024, month := 5, day := 6, hour := 12, minute := 0, second := 0 }
  temporaryDir := .ofText "/"
  token := "x"

/-- The plain name of an export with a path as its query is taken. -/
def takenName : Session Unit where
  files := { entries := [([Text.encode "notes_tax_2024___20240506_120000.json"], .file [])] }
  outside := ()

/-- The empty query has an export, and so has a path. -/
theorem dispatch_save_fails_only_of_length_path :
    let run := fun query =>
      (singleNote.toDocument.dispatch {} .unsupported noonInMay .save { pages := [.first] } query).run takenName
    (run []).1 = .ok (.exported (.ofText "./notes__20240506_120000.json") { copied := [.first] }) ∧
      ∃ copied, (run "tax/2024:*").1 =
        .ok (.exported (.ofText "./notes_tax_2024___20240506_120000_1.json") copied) := by
  intro run
  have hempty : (run []).1 = .ok (.exported (.ofText "./notes__20240506_120000.json")
      { copied := [.first] }) := by decide +kernel
  have hpath : (singleNote.toDocument (σ := Unit)).exportPath takenName.files none "tax/2024:*"
      noonInMay.time = .ofText "./notes_tax_2024___20240506_120000_1.json" := by decide +kernel
  have hleft : (singleNote.toDocument (σ := Unit)).NameLeft takenName.files none "tax/2024:*"
      noonInMay.time := .inr ⟨1, by decide, by decide, by decide +kernel⟩
  refine ⟨hempty, ?_⟩
  generalize hrun : run [] = result at hempty
  obtain ⟨value, s₀⟩ := result
  obtain rfl : value = _ := hempty
  obtain ⟨-, suffix, name, path, -, -, hslash, -, hfound, hjoin, hfits, -⟩ :=
    dispatch_save_fails_only_of_length singleNote {} .unsupported noonInMay { pages := [.first] } { pages := [.first] }
      "tax/2024:*" takenName s₀ _ hrun (by decide) hleft
  obtain rfl := hfound.trans hpath
  have hlength : (Path.ofText "./notes_tax_2024___20240506_120000_1.json").bytes.length = 41 := by
    decide
  have hname : (Text.encode name).length ≤ 41 := by
    have hslash' : Path.slash ∉ Text.encode name := fun h =>
      hslash ((Text.byte_mem_encode_iff (by decide)).mp h)
    rw [← hlength, hjoin, Path.ofText, Path.join_name _ hslash', List.length_append]
    omega
  obtain ⟨copied, s', hexported⟩ := hfits (by omega)
  exact ⟨copied, congrArg Prod.fst hexported⟩

/-- The empty query has an export. A query of 300 letters has none, as the name of a file has 255
bytes at most, and a query with a zero has none. -/
theorem dispatch_save_of_long_query :
    let path := fun query =>
      (singleNote.toDocument (σ := Unit)).exportPath takenName.files none query noonInMay.time
    let run := fun query =>
      (singleNote.toDocument.dispatch {} .unsupported noonInMay .save { pages := [.first] } query).run takenName
    (run []).1 = .ok (.exported (path []) { copied := [.first] }) ∧
      (run (List.replicate 300 'a')).1 = .error (.cannotWrite (path (List.replicate 300 'a'))
        "File name too long (os error 36)") ∧
      (run ['\u0000']).1 = .error (.cannotWrite (path ['\u0000'])
        "file name contained an unexpected NUL byte") := by
  decide +kernel

end StoredDocument
end PageQuery

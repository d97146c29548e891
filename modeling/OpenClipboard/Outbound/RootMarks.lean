import OpenClipboard.Outbound.Resolve

/-!
# The marks that the outbound path puts on selected roots

For a complete manifest the set is structured exactly if a directory was
selected, and exactly one identity component is there.  The mark that tells
files from directories is right for every root only if every flat directory is
followed by few enough members.
-/

namespace OpenClipboard

open FileTree Text

section RootMarks

variable {unicode : UnicodeNormalization} {fs : FileSystem} {blake3 : Blake3}
variable {urlParse : UrlParse} {caps : FileSetCaps}
variable {snapshot : SystemClipboardSnapshot} {selection : Selection}
variable {fileSet : EntryFileSet}

theorem CompleteManifest.oneIdentity
    (manifest : CompleteManifest unicode fs blake3 selection fileSet)
    (someFile : fileSet.fileLines ≠ []) :
    fileSet.contentDigestContribution ≠ [] ↔
      fileSet.fileSetV1Component blake3 = none := by
  have flat := manifest.contentDigestContribution_ne_nil_iff someFile
  have structured := manifest.fileSetV1Component_isSome_iff someFile
  rw [flat, ← Option.not_isSome_iff_eq_none, structured,
    Bool.not_eq_true]

theorem directoryClassification
    (selected : selectTopLevel unicode urlParse snapshot = some selection)
    (built : buildEntryFileSet unicode fs blake3 urlParse caps snapshot =
      some fileSet)
    (complete : fileSet.hasExcluded = false) :
    (((fileSet.hasDirectoryStructure = true ↔
          ∃ root ∈ selection.roots, fs.isDirectory root.path = true) ∧
        (fileSet.fileLines ≠ [] →
          (fileSet.contentDigestContribution ≠ [] ↔
            fileSet.fileSetV1Component blake3 = none)) ∧
        ∀ root ∈ selection.roots,
          fileSet.rootIsFile root.rootIndex = true ↔
            fs.isRegularFile root.path = true) ↔
      FlatRootsReached fs selection.roots) ∧
      ∀ paths members,
        resolveOutboundFileSet urlParse (.ok (some fileSet)) snapshot =
            .directorySyncable paths members →
          ∀ member ∈ members,
            member.rootIsFile =
              fileSet.rootIsFile member.location.rootIndex := by
  have manifest := buildEntryFileSet_complete selected built complete
  constructor
  · constructor
    · rintro ⟨_, _, marked⟩
      exact manifest.rootsMarked_iff.mp marked
    · intro reached
      exact ⟨manifest.hasDirectoryStructure_iff, manifest.oneIdentity,
        manifest.rootsMarked_iff.mpr reached⟩
  · intro paths members resolved
    exact resolveOutboundFileSet_rootIsFile resolved

end RootMarks

/-! ## Small selections -/

/-- Text that is its own normal form. -/
def plainUnicode : UnicodeNormalization where
  nfc := id
  nfc_idempotent _ := rfl
  nfc_nonempty _ nonempty := nonempty
  nfc_noSeparator _ clean := clean

/-- URLs without escapes. -/
def plainUrlParse : UrlParse := fun text =>
  if startsWith text "file://" then
    some ⟨"file", some (PathBuf.fromText (String.ofList
      (text.toList.drop 7)))⟩
  else
    none

def positionalDigest : Blake3 := fun bytes =>
  let value := bytes.foldl
    (fun sum byte => (sum * 257 + byte.toNat + 1) % 2 ^ 256) 0
  ⟨(List.range 32).map fun index => UInt8.ofNat (value / 256 ^ index),
    by simp⟩

def plainName (text : String) : Component :=
  (Component.ofBytes (asBytes text)).getD
    ⟨[0x5F], by decide, by decide, by decide⟩

def plainFile (content : String) : FsTree :=
  .leaf (.file false true (asBytes content))

def uriListSnapshot (text : String) : SystemClipboardSnapshot where
  tsMs := 0
  representations :=
    [.new "files" "files" (some "text/uri-list") (asBytes text)]

def twoAlbums : FileSystem :=
  .ofTree (.directory
    [(plainName "a", .directory [(plainName "1", plainFile "x")]),
      (plainName "b", .directory
        [(plainName "2", plainFile "y"), (plainName "3", plainFile "z")])])
    (by decide)

def albumSelection (text : String) : Selection :=
  (selectTopLevel plainUnicode plainUrlParse (uriListSnapshot text)).getD
    ⟨[], [], 0⟩

def albumManifest (text : String) : EntryFileSet :=
  (buildEntryFileSet plainUnicode twoAlbums positionalDigest plainUrlParse
    ⟨0, 0⟩ (uriListSnapshot text)).getD ⟨[]⟩

/-- With the larger album first both are recognised. -/
theorem directoryClassification_larger_album_first :
    FlatRootsReached twoAlbums
      (albumSelection "file:///b\n# albums\nfile:///a").roots := by
  have selected : selectTopLevel plainUnicode plainUrlParse
      (uriListSnapshot "file:///b\n# albums\nfile:///a") =
        some (albumSelection "file:///b\n# albums\nfile:///a") := by
    decide +kernel
  have built : buildEntryFileSet plainUnicode twoAlbums positionalDigest
      plainUrlParse ⟨0, 0⟩
      (uriListSnapshot "file:///b\n# albums\nfile:///a") =
        some (albumManifest "file:///b\n# albums\nfile:///a") := by
    decide +kernel
  have classified := directoryClassification selected built
    (by decide +kernel)
  exact classified.1.mp (by decide +kernel)

/-- With the smaller album first it is marked as a file. -/
theorem smallerAlbumFirst_marked_as_file :
    selectTopLevel plainUnicode plainUrlParse
          (uriListSnapshot "file:///a\nfile:///b") =
        some (albumSelection "file:///a\nfile:///b") ∧
      buildEntryFileSet plainUnicode twoAlbums positionalDigest plainUrlParse
          ⟨0, 0⟩ (uriListSnapshot "file:///a\nfile:///b") =
        some (albumManifest "file:///a\nfile:///b") ∧
      (albumManifest "file:///a\nfile:///b").hasExcluded = false ∧
      ∃ root ∈ (albumSelection "file:///a\nfile:///b").roots,
        twoAlbums.isRegularFile root.path = false ∧
          (albumManifest "file:///a\nfile:///b").rootIsFile
            root.rootIndex = true := by
  decide +kernel

end OpenClipboard

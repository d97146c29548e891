import Mathlib.Data.List.Sort
import OpenClipboard.Core.Path
import OpenClipboard.Library.Table

/-!
# The members of a configuration bundle

A bundle is an archive of named members.  Their paths are relative and use
forward slashes; two directories of them hold files of any name.
-/

namespace OpenClipboard.ConfigMigration

/-! ## Member paths -/

def manifestMember : String := "manifest.json"
def dbMember : String := "db/uniclipboard.db"
def keyslotMember : String := "vault/keyslot.json"
def deviceIdMember : String := "vault/device_id.txt"
def setupStatusMember : String := "vault/.setup_status"
def settingsMember : String := "settings.json"
def secretsMember : String := "secrets.json"
def uiStatePrefix : String := "ui-state/"
def irohIdentityPrefix : String := "iroh-identity/"

structure FileName where
  text : String
  nonempty : text ≠ ""
  noSeparator : '/' ∉ text.toList
  notCurrent : text ≠ "."
  notParent : text ≠ ".."
  deriving DecidableEq, Repr

def FileName.ofString (text : String) : Option FileName :=
  if named : text ≠ "" ∧ '/' ∉ text.toList ∧ text ≠ "." ∧ text ≠ ".." then
    some ⟨text, named.1, named.2.1, named.2.2.1, named.2.2.2⟩
  else
    none

/-- The path of a file in one of the two flat directories. -/
def memberUnder (directory : String) (file : FileName) : String :=
  directory ++ file.text

/-- The file of a member that lies at the top level of a directory. -/
def fileUnder (directory member : String) : Option FileName :=
  if directory.toList <+: member.toList then
    FileName.ofString
      (String.ofList (member.toList.drop directory.toList.length))
  else
    none

theorem FileName.ofString_eq_some_iff {text : String} {file : FileName} :
    ofString text = some file ↔ text = file.text := by
  unfold ofString
  constructor
  · intro isFile
    split at isFile
    · cases isFile
      rfl
    · cases isFile
  · intro isText
    subst isText
    rw [dif_pos ⟨file.nonempty, file.noSeparator, file.notCurrent,
      file.notParent⟩]

theorem fileUnder_eq_some_iff {directory member : String} {file : FileName} :
    fileUnder directory member = some file ↔
      member = memberUnder directory file := by
  unfold fileUnder memberUnder
  constructor
  · intro isFile
    split at isFile
    case isFalse => cases isFile
    case isTrue isPrefix =>
      obtain ⟨rest, isRest⟩ := isPrefix
      rw [← isRest, List.drop_left] at isFile
      have isText := FileName.ofString_eq_some_iff.mp isFile
      rw [← isText]
      apply String.toList_inj.mp
      rw [String.toList_append, String.toList_ofList, isRest]
  · intro isMember
    subst isMember
    rw [String.toList_append, if_pos (List.prefix_append _ _), List.drop_left,
      String.ofList_toList]
    exact FileName.ofString_eq_some_iff.mpr rfl

theorem memberUnder_injective {directory : String} :
    Function.Injective (memberUnder directory) := by
  intro file other same
  have isFile := fileUnder_eq_some_iff.mpr same
  have isOther := fileUnder_eq_some_iff.mpr (rfl :
    memberUnder directory other = memberUnder directory other)
  rw [fileUnder_eq_some_iff.mpr rfl] at isFile
  exact Option.some.inj isFile

/-! ## Archives -/

/-- `BTreeMap::iter` of a map with string keys. -/
def inKeyOrder {α : Type} (map : Table String α) : List (String × α) :=
  map.rows.insertionSort fun left right => left.1 ≤ right.1

theorem mem_inKeyOrder {α : Type} {map : Table String α} {key : String}
    {value : α} : (key, value) ∈ inKeyOrder map ↔ map.find key = some value :=
  (List.mem_insertionSort _).trans Table.mem_rows_iff

theorem nodup_inKeyOrder {α : Type} (map : Table String α) :
    ((inKeyOrder map).map Prod.fst).Nodup := by
  have permuted : (inKeyOrder map).Perm map.rows := List.perm_insertionSort _ _
  apply (permuted.map Prod.fst).nodup_iff.mpr
  have isKeys : map.rows.map Prod.fst = map.keys := by
    simp [Table.rows, AList.keys, List.keys, Function.comp_def]
  rw [isKeys]
  exact map.nodupKeys

theorem find_putEach_inKeyOrder {α : Type} {map : Table String α}
    (key : String) :
    (Table.putEach Prod.fst Prod.snd ∅ (inKeyOrder map) :
      Table String α).find key = map.find key := by
  cases found : map.find key with
  | some value =>
      have isEntry := mem_inKeyOrder.mpr found
      exact Table.find_putEach_of_mem (nodup_inKeyOrder map) isEntry
  | none =>
      have absent : key ∉ (inKeyOrder map).map Prod.fst := by
        intro member
        obtain ⟨entry, isEntry, isKey⟩ := List.mem_map.mp member
        subst isKey
        rw [mem_inKeyOrder.mp isEntry] at found
        cases found
      rw [Table.find_putEach_of_not_mem absent]
      exact Table.find_empty

theorem find_putEach_of_agree {α : Type} {map : Table String α}
    {entries : List (String × α)} {key : String} {value : α}
    (listed : key ∈ entries.map Prod.fst)
    (agree : ∀ entry ∈ entries, entry.1 = key → entry.2 = value) :
    (map.putEach Prod.fst Prod.snd entries).find key = some value := by
  induction entries generalizing map with
  | nil => cases listed
  | cons entry rest inductionHypothesis =>
      have step : (map.putEach Prod.fst Prod.snd (entry :: rest)).find key =
          ((map.put entry.1 entry.2).putEach Prod.fst Prod.snd rest).find
            key := rfl
      rw [step]
      by_cases later : key ∈ rest.map Prod.fst
      · apply inductionHypothesis later
        exact fun other inRest => agree other (List.mem_cons_of_mem _ inRest)
      · have isKey : entry.1 = key := by
          rw [List.map_cons, List.mem_cons] at listed
          exact (listed.resolve_right later).symm
        rw [Table.find_putEach_of_not_mem later, ← isKey, Table.find_put_self]
        exact congrArg some (agree entry List.mem_cons_self isKey)

abbrev BundleArchive := Table String (List UInt8)

def BundleArchive.memberPaths (archive : BundleArchive) : List String :=
  (inKeyOrder archive).map Prod.fst

/-- No member is a directory of another one. -/
def Unnested (archive : BundleArchive) : Prop :=
  ∀ key ∈ archive.keys, ∀ other ∈ archive.keys,
    ¬ (key ++ "/").toList <+: other.toList

end OpenClipboard.ConfigMigration

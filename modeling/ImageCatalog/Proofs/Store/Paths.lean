import ImageCatalog.Proofs.Name
import ImageCatalog.Proofs.Store.Files
import Mathlib.Data.List.Nodup

/-!
# Files of a folder

A path that joins a folder and the name of a file leads to the place of the folder and then the
name, whatever text names the folder: relative or not, with slashes doubled or at its end. So
different names are different files, and all of them are right in the folder.

## Main results

* `FileTree.locate_join` — where the path of a file in a folder leads
* `FileTree.key_snoc_inj` — different names are at different keys
* `FileTree.mem_entries` — what is in a folder
* `Folder.path_of_valid` — the file of a valid name
-/

namespace ImageCatalog

/-! ### Paths in a folder -/

namespace FileTree

variable {t : FileTree} {root file path : String} {place : List String}

/-- The names that stand between the slashes of a text. -/
def parts (s : List Char) : List String :=
  ((Text.splitAtChar '/' s).filter fun part => !part.isEmpty).map String.ofList

/-- A text that may be the name of a file in a folder. -/
structure IsFile (file : String) : Prop where
  ne_empty : file ≠ ""
  no_slash : '/' ∉ file.toList
  ne_point : file ≠ "."
  ne_up : file ≠ ".."

theorem IsFile.toList_ne_nil (h : IsFile file) : file.toList ≠ [] :=
  fun hnil => h.ne_empty (String.toList_inj.1 hnil)

theorem parts_append (h : IsFile file) (s : List Char) :
    parts (s ++ '/' :: file.toList) = parts s ++ [file] := by
  have hne : file.toList.isEmpty = false := by simpa using h.toList_ne_nil
  rw [parts, Text.splitAtChar_append, Text.splitAtChar_of_not_mem h.no_slash, List.filter_append,
    List.map_append]
  simp [parts, hne]

theorem names_of_last (h : (Text.splitAtChar '/' path.toList).getLast? ≠ some []) :
    names path = parts path.toList := by
  unfold names parts
  simp only [if_neg h]

theorem names_of_slash {s : List Char} (h : path.toList = s ++ ['/']) :
    names path = parts s ++ ["."] := by
  have hsplit : Text.splitAtChar '/' path.toList = Text.splitAtChar '/' s ++ [[]] := by
    rw [h, Text.splitAtChar_append]
    rfl
  unfold names parts
  rw [hsplit]
  simp

/-- The path of a file in a folder goes along the names of the folder and then to the file. The
names of a folder with a slash at its end are followed by a point, which leads nowhere else. -/
theorem names_join (hroot : root ≠ "") (h : IsFile file) :
    ∃ s, names (Disk.join root file) = parts s ++ [file] ∧
      (names root = parts s ∨ names root = parts s ++ ["."]) := by
  have hlast : ∀ s, (Text.splitAtChar '/' (s ++ '/' :: file.toList)).getLast? ≠ some [] := by
    intro s hs
    rw [Text.splitAtChar_append, Text.splitAtChar_of_not_mem h.no_slash] at hs
    simp [h.toList_ne_nil] at hs
  have hnames : ∀ s, (Disk.join root file).toList = s ++ '/' :: file.toList →
      names (Disk.join root file) = parts s ++ [file] := by
    intro s hs
    rw [names_of_last (by rw [hs]; exact hlast s), hs, parts_append h]
  have hempty : root.isEmpty = false := by simpa using hroot
  have hends : root.endsWith "/" = true ↔ "/".toList <:+ root.toList := by
    rw [String.endsWith_eq_endsWith_toSlice, String.Slice.endsWith_string_iff, String.copy_toSlice]
  cases hslash : root.endsWith "/" with
  | true =>
    obtain ⟨s, hs⟩ := hends.1 hslash
    have hjoin : (Disk.join root file).toList = s ++ '/' :: file.toList := by
      rw [Disk.join, hslash, Bool.or_true, if_pos rfl, String.toList_append, ← hs,
        List.append_assoc]
      rfl
    exact ⟨s, hnames s hjoin, .inr (names_of_slash hs.symm)⟩
  | false =>
    have hjoin : (Disk.join root file).toList = root.toList ++ '/' :: file.toList := by
      rw [Disk.join, hslash, hempty, Bool.or_false, if_neg (by decide), String.toList_append,
        String.toList_append, List.append_assoc]
      rfl
    refine ⟨root.toList, hnames _ hjoin, .inl (names_of_last ?_)⟩
    rcases List.eq_nil_or_concat root.toList with hnil | ⟨s, c, hs⟩
    · exact absurd (String.toList_inj.1 hnil) hroot
    · rw [List.concat_eq_append] at hs
      rw [hs]
      refine Text.getLast?_splitAtChar_ne ?_ s
      rintro rfl
      have hyes : root.endsWith "/" = true := hends.2 ⟨s, by rw [hs]; rfl⟩
      rw [hslash] at hyes
      exact absurd hyes (by decide)

theorem walk_append (t : FileTree) (origin : List String) (xs ys : List String) :
    t.walk origin (xs ++ ys) = (t.walk origin xs).bind fun place => t.walk place ys := by
  induction xs generalizing origin with
  | nil => rfl
  | cons name rest ih =>
    rw [List.cons_append, walk_cons, walk_cons]
    cases t.node? origin with
    | none => rfl
    | some node =>
      cases node with
      | file text => rfl
      | folder => exact ih _

theorem start_join (hroot : root ≠ "") (t : FileTree) (file : String) :
    t.start (Disk.join root file) = t.start root := by
  have hprefix : root.toList <+: (Disk.join root file).toList := by
    unfold Disk.join
    split
    · rw [String.toList_append]
      exact List.prefix_append _ _
    · rw [String.toList_append, String.toList_append, List.append_assoc]
      exact List.prefix_append _ _
  obtain ⟨rest, hrest⟩ := hprefix
  obtain ⟨c, cs, hcons⟩ := List.exists_cons_of_ne_nil
    (fun hnil => hroot (String.toList_inj.1 hnil) : root.toList ≠ [])
  have hstarts : (Disk.join root file).startsWith "/" = root.startsWith "/" := by
    rw [Bool.eq_iff_iff, String.startsWith_string_iff, String.startsWith_string_iff, ← hrest, hcons]
    simp
  rw [start, start, hstarts]

/-- **Where the path of a file in a folder leads.** -/
theorem locate_join (hroot : t.find root = .ok (place, .folder)) (h : IsFile file) :
    t.locate (Disk.join root file) = .ok (place ++ [file]) := by
  obtain ⟨hlocate, hnode⟩ := find_eq_ok.1 hroot
  have hne : root ≠ "" := by
    rintro rfl
    simp [locate] at hlocate
  have hwalk : t.walk (t.start root) (names root) = .ok place := by
    rwa [locate, if_neg (by simpa using hne)] at hlocate
  obtain ⟨s, hnames, hfolder⟩ := names_join hne h
  have hparts : t.walk (t.start root) (parts s) = .ok place := by
    rcases hfolder with hfolder | hfolder
    · rwa [hfolder] at hwalk
    · -- the point behind a slash stays at the place
      rw [hfolder, walk_append] at hwalk
      cases hs : t.walk (t.start root) (parts s) with
      | error fault => simp [hs, Except.bind] at hwalk
      | ok found =>
        rw [hs, Except.bind, walk_cons] at hwalk
        split at hwalk
        · simp at hwalk
        · simp at hwalk
        · exact hwalk
  have hlast : t.walk place [file] = .ok (place ++ [file]) := by
    rw [walk_cons, hnode, along, if_neg h.ne_point, if_neg h.ne_up]
    rfl
  have hjoin : ¬ (Disk.join root file).isEmpty = true := by
    have hfile := h.ne_empty
    unfold Disk.join
    split <;> simp [hfile, hne]
  rw [locate, if_neg hjoin, start_join hne, hnames, walk_append, hparts, Except.bind, hlast]

/-! ### What is in a folder -/

theorem key_snoc (place : List String) (file : String) :
    key (place ++ [file]) = key place ++ "/" ++ file := by
  simp [key, String.join_append, String.append_assoc]

/-- Different names are at different keys. -/
theorem key_snoc_inj {file' : String} :
    key (place ++ [file]) = key (place ++ [file']) ↔ file = file' := by
  rw [key_snoc, key_snoc, String.append_right_inj]

/-- The name of an entry, if its key is right below the one of the folder. -/
theorem entry_eq_some {front : List Char} {k file : String} :
    (if front.isPrefixOf k.toList && !(k.toList.drop front.length).isEmpty &&
        !(k.toList.drop front.length).contains '/' then
      some (String.ofList (k.toList.drop front.length)) else none) = some file ↔
      k.toList = front ++ file.toList ∧ file ≠ "" ∧ '/' ∉ file.toList := by
  constructor
  · intro h
    split at h
    · rename_i hright
      obtain rfl := Option.some.inj h
      simp only [Bool.and_eq_true, List.isPrefixOf_iff_prefix, Bool.not_eq_true',
        List.isEmpty_eq_false_iff, List.contains_eq_mem, decide_eq_false_iff_not] at hright
      obtain ⟨⟨⟨rest, hrest⟩, hne⟩, hslash⟩ := hright
      rw [String.toList_ofList]
      refine ⟨by rw [← hrest, List.drop_left], ?_, hslash⟩
      intro hempty
      rw [← String.toList_inj, String.toList_ofList] at hempty
      exact hne hempty
    · simp at h
  · rintro ⟨hk, hne, hslash⟩
    have hdrop : k.toList.drop front.length = file.toList := by rw [hk, List.drop_left]
    have hfile : file.toList ≠ [] := fun hnil => hne (String.toList_inj.1 hnil)
    rw [hdrop, if_pos ?_, String.ofList_toList]
    simp [hk, hfile, hslash]

/-- **What is in a folder**: the names at which there is a file or a folder, each once. -/
theorem entries_of_find (h : t.find path = .ok (place, .folder)) :
    ∃ files, t.entries path = .ok files ∧ files.Nodup ∧
      ∀ file, file ∈ files ↔
        file ≠ "" ∧ '/' ∉ file.toList ∧ (t.node? (place ++ [file])).isSome := by
  have hkey : ∀ {k file : String}, k.toList = (key place ++ "/").toList ++ file.toList ↔
      k = key (place ++ [file]) := by
    intro k file
    rw [key_snoc, ← String.toList_append, String.toList_inj]
  refine ⟨_, by rw [entries, h]; rfl, ?_, ?_⟩
  · refine List.Nodup.filterMap ?_ t.nodes.nodup_keys
    intro k k' file hfile hfile'
    rw [Option.mem_def, entry_eq_some, hkey] at hfile hfile'
    rw [hfile.1, hfile'.1]
  · intro file
    rw [List.mem_filterMap, node?_eq_get? (by simp)]
    constructor
    · rintro ⟨k, hk, hfile⟩
      obtain ⟨htext, hne, hslash⟩ := entry_eq_some.1 hfile
      rw [hkey] at htext
      exact ⟨hne, hslash, by rwa [← htext, ← Dictionary.mem_keys]⟩
    · rintro ⟨hne, hslash, hnode⟩
      exact ⟨_, Dictionary.mem_keys.2 hnode, entry_eq_some.2 ⟨hkey.2 rfl, hne, hslash⟩⟩

end FileTree

/-! ### The files of records -/

/-- The file of a record. -/
def Folder.fileOf (name : String) : String :=
  name ++ ".json"

theorem Folder.fileOf_inj {name name' : String} : fileOf name = fileOf name' ↔ name = name' := by
  rw [fileOf, fileOf, String.append_left_inj]

theorem Folder.isFile_fileOf {name : String} (h : Name.fault? name = none) :
    FileTree.IsFile (fileOf name) := by
  have hne := Name.ne_nil_of_valid h
  have hchars := Name.chars_of_valid h
  have htext : (fileOf name).toList = name.toList ++ ['.', 'j', 's', 'o', 'n'] :=
    String.toList_append
  have hlength : 5 < (fileOf name).toList.length := by
    have hpos := List.length_pos_iff.2 hne
    rw [htext, List.length_append]
    exact Nat.lt_add_of_pos_left hpos
  constructor
  · intro heq
    rw [heq] at hlength
    exact absurd hlength (by decide)
  · rw [htext]
    intro hmem
    rcases List.mem_append.1 hmem with hmem | hmem
    · exact absurd (hchars _ hmem) (by decide)
    · exact absurd hmem (by decide)
  · intro heq
    rw [heq] at hlength
    exact absurd hlength (by decide)
  · intro heq
    rw [heq] at hlength
    exact absurd hlength (by decide)

theorem Folder.isRecordFile_fileOf {name : String} (h : Name.fault? name = none) :
    isRecordFile (fileOf name) = true := by
  have hne := List.length_pos_iff.2 (Name.ne_nil_of_valid h)
  have htext : (fileOf name).toList = name.toList ++ ".json".toList := String.toList_append
  have hlength : ".json".toList.length = 5 := rfl
  unfold isRecordFile
  simp only [htext, List.reverse_append, Bool.and_eq_true, List.isPrefixOf_iff_prefix,
    decide_eq_true_eq, List.length_append, List.length_reverse, hlength]
  exact ⟨List.prefix_append _ _, by omega⟩

theorem Folder.path_of_valid (f : Folder) {name : String} (h : Name.fault? name = none) :
    f.path name = .ok (Disk.join f.root (fileOf name)) := by
  rw [path, h]
  rfl

end ImageCatalog

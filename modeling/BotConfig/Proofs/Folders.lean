import BotConfig.Source
import Mathlib.Data.List.Basic

/-!
The folder of a path, and what a name in a document stands for.

A path is a text of names with slashes between them, where further slashes, and points between
slashes, add no name.  `Path.FolderOf` says in terms of this text which folder a path is in, and
`Source.Resolves` which file a name in a document stands for.  The traversal of included documents
computes both.
-/

namespace BotConfig.Path

/-- A text that adds no name to the path before it: slashes, and points that stand alone. -/
inductive Idle : List Char → Prop
  | nil : Idle []
  | slash {rest : List Char} : Idle rest → Idle ('/' :: rest)
  | point {rest : List Char} : Idle rest → Idle ('/' :: '.' :: rest)

/-- A text that leads from a folder to something else, be it the folder above. -/
structure IsName (name : List Char) : Prop where
  nonempty : name ≠ []
  noPoint : name ≠ ['.']
  unsplit : '/' ∉ name

/-- A path with nothing idle at its end: a single part, or one that ends in a name. -/
inductive Settled : List Char → Prop
  | part {part : List Char} : part ≠ [] → '/' ∉ part → Settled part
  | below {front name : List Char} : IsName name → Settled (front ++ '/' :: name)

/-- A path is in a folder, which is what stands before the last name. -/
inductive FolderOf : List Char → List Char → Prop
  /-- With a single part, a path is in the working folder. -/
  | alone {part idle : List Char} :
      '/' ∉ part → Idle idle →
      FolderOf (part ++ idle) ['.']
  /-- With a single name that follows a slash, it is in the root. -/
  | root {before name after : List Char} :
      Idle before → IsName name → Idle after →
      FolderOf (before ++ '/' :: name ++ after) ['/']
  | beside {folder before name after : List Char} :
      Settled folder → Idle before → IsName name → Idle after →
      FolderOf (folder ++ before ++ '/' :: name ++ after) folder

/-- A path that leads from the root. -/
def IsAbsolute (path : String) : Prop := ∃ rest, path.toList = '/' :: rest

/-! ### Parts -/

theorem parts_ne_nil (text : List Char) : parts text ≠ [] := by
  unfold parts
  split
  · exact List.cons_ne_nil _ _
  · exact List.cons_ne_nil _ _
  · split <;> exact List.cons_ne_nil _ _

theorem exists_parts_cons {c : Char} (noSlash : c ≠ '/') (rest : List Char) :
    ∃ part others, parts rest = part :: others ∧ parts (c :: rest) = (c :: part) :: others := by
  obtain ⟨part, others, cut⟩ := List.exists_cons_of_ne_nil (parts_ne_nil rest)
  refine ⟨part, others, cut, ?_⟩
  simp only [parts, cut]

/-- A slash separates the parts before it from those after it. -/
theorem parts_append_slash (first second : List Char) :
    parts (first ++ '/' :: second) = parts first ++ parts second := by
  induction first with
  | nil => rfl
  | cons c rest inductionHypothesis =>
      by_cases slash : c = '/'
      · subst slash
        simp only [List.cons_append, parts, inductionHypothesis]
      · obtain ⟨part, others, cut, cutLonger⟩ := exists_parts_cons slash rest
        obtain ⟨part', others', cut', cutLonger'⟩ :=
          exists_parts_cons slash (rest ++ '/' :: second)
        rw [List.cons_append, cutLonger', cutLonger]
        rw [inductionHypothesis, cut] at cut'
        cases cut'
        rfl

theorem parts_of_unsplit {text : List Char} (unsplit : '/' ∉ text) : parts text = [text] := by
  induction text with
  | nil => rfl
  | cons c rest inductionHypothesis =>
      obtain ⟨part, others, cut, cutLonger⟩ :=
        exists_parts_cons (List.ne_of_not_mem_cons unsplit).symm rest
      rw [inductionHypothesis (List.not_mem_of_not_mem_cons unsplit)] at cut
      cases cut
      exact cutLonger

theorem joined_cons {part : List Char} {others : List (List Char)} (more : others ≠ []) :
    joined (part :: others) = part ++ '/' :: joined others := by
  cases others with
  | nil => exact absurd rfl more
  | cons next rest => rfl

/-- Joining its parts gives a text back. -/
theorem joined_parts (text : List Char) : joined (parts text) = text := by
  induction text with
  | nil => rfl
  | cons c rest inductionHypothesis =>
      by_cases slash : c = '/'
      · subst slash
        rw [show parts ('/' :: rest) = [] :: parts rest from rfl, joined_cons (parts_ne_nil rest),
          inductionHypothesis, List.nil_append]
      · obtain ⟨part, others, cut, cutLonger⟩ := exists_parts_cons slash rest
        rw [cut] at inductionHypothesis
        rw [cutLonger, ← inductionHypothesis]
        cases others <;> rfl

theorem parts_injective {first second : List Char} (same : parts first = parts second) :
    first = second := by
  rw [← joined_parts first, same, joined_parts]

/-- What is idle adds only idle parts. -/
theorem Idle.exists_parts {idle : List Char} (isIdle : Idle idle) :
    ∃ added : List (List Char), (∀ part ∈ added, part = [] ∨ part = ['.']) ∧
      ∀ text, parts (text ++ idle) = parts text ++ added := by
  induction isIdle with
  | nil => exact ⟨[], by simp, by simp⟩
  | slash _ inductionHypothesis =>
      obtain ⟨added, idleParts, adds⟩ := inductionHypothesis
      refine ⟨[] :: added, by simpa using idleParts, fun text => ?_⟩
      rw [parts_append_slash]
      exact congrArg (parts text ++ ·) (adds [])
  | point _ inductionHypothesis =>
      obtain ⟨added, idleParts, adds⟩ := inductionHypothesis
      refine ⟨['.'] :: added, by simpa using idleParts, fun text => ?_⟩
      rw [parts_append_slash]
      exact congrArg (parts text ++ ·) (adds ['.'])

theorem Idle.append {first second : List Char} (isIdle : Idle first) (others : Idle second) :
    Idle (first ++ second) := by
  induction isIdle with
  | nil => exact others
  | slash _ inductionHypothesis => exact .slash inductionHypothesis
  | point _ inductionHypothesis => exact .point inductionHypothesis

/-! ### Idle parts -/

theorem dropIdle_append {idle kept : List (List Char)}
    (idleParts : ∀ part ∈ idle, part = [] ∨ part = ['.']) (some : kept ≠ []) :
    dropIdle (idle ++ kept) = dropIdle kept := by
  induction idle with
  | nil => rfl
  | cons part rest inductionHypothesis =>
      rw [List.forall_mem_cons] at idleParts
      obtain ⟨next, others, follows⟩ :=
        List.exists_cons_of_ne_nil (List.append_ne_nil_of_right_ne_nil rest some)
      rw [List.cons_append, ← inductionHypothesis idleParts.2, follows, dropIdle,
        if_pos idleParts.1]

theorem dropIdle_of_isName {name : List Char} (isName : IsName name)
    (others : List (List Char)) : dropIdle (name :: others) = name :: others := by
  cases others with
  | nil => rfl
  | cons next rest =>
      rw [dropIdle, if_neg (not_or.mpr ⟨isName.nonempty, isName.noPoint⟩)]

/-- What is idle at the end of a path is left out. -/
theorem dropIdle_parts_append {idle : List Char} (isIdle : Idle idle) (front : List Char) :
    dropIdle (parts (front ++ idle)).reverse = dropIdle (parts front).reverse := by
  obtain ⟨added, idleParts, adds⟩ := isIdle.exists_parts
  rw [adds, List.reverse_append]
  refine dropIdle_append (fun part membership => ?_) ?_
  · exact idleParts part (List.mem_reverse.mp membership)
  · exact List.reverse_ne_nil_iff.mpr (parts_ne_nil front)

theorem dropIdle_parts_below {name : List Char} (isName : IsName name) (front : List Char) :
    dropIdle (parts (front ++ '/' :: name)).reverse = name :: (parts front).reverse := by
  rw [parts_append_slash, parts_of_unsplit isName.unsplit, List.reverse_append,
    List.reverse_singleton, List.singleton_append, dropIdle_of_isName isName]

theorem Settled.dropIdle_parts {front : List Char} (settled : Settled front) :
    dropIdle (parts front).reverse = (parts front).reverse := by
  cases settled with
  | part nonempty unsplit =>
      rw [parts_of_unsplit unsplit]
      rfl
  | below isName =>
      rw [dropIdle_parts_below isName, parts_append_slash, parts_of_unsplit isName.unsplit,
        List.reverse_append, List.reverse_singleton, List.singleton_append]

theorem Settled.ne_nil {front : List Char} (settled : Settled front) : front ≠ [] := by
  cases settled with
  | part nonempty _ => exact nonempty
  | below _ => exact List.append_ne_nil_of_right_ne_nil _ (List.cons_ne_nil _ _)

/-- What is settled does not end in a slash. -/
theorem Settled.getLast?_ne {front : List Char} (settled : Settled front) :
    front.getLast? ≠ some '/' := by
  intro last
  cases settled with
  | part _ unsplit => exact unsplit (List.mem_of_getLast? last)
  | below isName =>
      rw [List.getLast?_append_of_ne_nil _ (List.cons_ne_nil _ _), List.getLast?_cons_of_ne_nil
        isName.nonempty] at last
      exact isName.unsplit (List.mem_of_getLast? last)

/-! ### Folders -/

theorem folder_of_dropIdle_eq_singleton {path : String} (part : List Char)
    (single : dropIdle (parts path.toList).reverse = [part]) : folder path = "." := by
  simp only [folder, single]

theorem folder_of_dropIdle_eq_root {path : String} {name front : List Char}
    (below : dropIdle (parts path.toList).reverse = name :: (parts front).reverse)
    (root : dropIdle (parts front).reverse = [[]]) : folder path = "/" := by
  obtain ⟨last, others, reversed⟩ :=
    List.exists_cons_of_ne_nil (List.reverse_ne_nil_iff.mpr (parts_ne_nil front))
  rw [reversed] at below root
  simp only [folder, below, root]
  rfl

theorem folder_of_dropIdle_eq_kept {path : String} {name front kept : List Char}
    (below : dropIdle (parts path.toList).reverse = name :: (parts front).reverse)
    (keeps : dropIdle (parts front).reverse = (parts kept).reverse) (nonempty : kept ≠ []) :
    folder path = String.ofList kept := by
  obtain ⟨last, others, reversed⟩ :=
    List.exists_cons_of_ne_nil (List.reverse_ne_nil_iff.mpr (parts_ne_nil front))
  rw [reversed] at below keeps
  simp only [folder, below, keeps, List.reverse_reverse]
  split
  · rename_i root
    rw [← joined_parts kept, root] at nonempty
    exact absurd rfl nonempty
  · rw [joined_parts]

theorem FolderOf.folder_eq {path : String} {folder : List Char}
    (isFolder : FolderOf path.toList folder) : Path.folder path = String.ofList folder := by
  generalize spelled : path.toList = text at isFolder
  cases isFolder with
  | @alone part idle unsplit isIdle =>
      refine folder_of_dropIdle_eq_singleton part ?_
      rw [spelled, dropIdle_parts_append isIdle, parts_of_unsplit unsplit]
      rfl
  | @root before name after isBefore isName isAfter =>
      have below : dropIdle (parts path.toList).reverse = name :: (parts before).reverse := by
        rw [spelled, dropIdle_parts_append isAfter, dropIdle_parts_below isName]
      exact folder_of_dropIdle_eq_root below (dropIdle_parts_append isBefore [])
  | @beside folder before name after settled isBefore isName isAfter =>
      have below : dropIdle (parts path.toList).reverse =
          name :: (parts (folder ++ before)).reverse := by
        rw [spelled, dropIdle_parts_append isAfter, dropIdle_parts_below isName]
      refine folder_of_dropIdle_eq_kept below ?_ settled.ne_nil
      rw [dropIdle_parts_append isBefore, settled.dropIdle_parts]

/-- A text ends in a name that follows a slash, or has a single part, apart from what is idle at
its end. -/
theorem exists_name_or_part (text : List Char) :
    (∃ front name idle, IsName name ∧ Idle idle ∧ text = front ++ '/' :: name ++ idle) ∨
      ∃ part idle, '/' ∉ part ∧ Idle idle ∧ text = part ++ idle := by
  by_cases slashed : '/' ∈ text
  · obtain ⟨behind, ahead, reversed, unsplit⟩ :=
      List.eq_append_cons_of_mem (List.mem_reverse.mpr slashed)
    obtain rfl : text = ahead.reverse ++ '/' :: behind.reverse := by
      rw [← List.reverse_reverse text, reversed]
      simp
    rw [← List.mem_reverse] at unsplit
    by_cases isIdle : Idle ('/' :: behind.reverse)
    · -- The last slash adds no name, so what counts is the text before it.
      obtain ⟨front, name, idle, isName, ends, cut⟩ | ⟨part, idle, single, ends, cut⟩ :=
        exists_name_or_part ahead.reverse
      · exact .inl ⟨front, name, _, isName, ends.append isIdle, by rw [cut, List.append_assoc]⟩
      · exact .inr ⟨part, _, single, ends.append isIdle, by rw [cut, List.append_assoc]⟩
    · refine .inl ⟨ahead.reverse, behind.reverse, [], ⟨?_, ?_, unsplit⟩, .nil, by simp⟩
      · intro empty
        exact isIdle (empty ▸ .slash .nil)
      · intro point
        exact isIdle (point ▸ .point .nil)
  · exact .inr ⟨text, [], slashed, .nil, by simp⟩
termination_by text.length
decreasing_by simp_all

/-- Every path is in some folder. -/
theorem exists_folderOf (text : List Char) : ∃ folder, FolderOf text folder := by
  obtain ⟨front, name, after, isName, ends, rfl⟩ | ⟨part, idle, single, ends, rfl⟩ :=
    exists_name_or_part text
  · obtain ⟨above, next, before, isNext, idles, rfl⟩ | ⟨part, before, single, idles, rfl⟩ :=
      exists_name_or_part front
    · exact ⟨_, .beside (.below isNext) idles isName ends⟩
    · by_cases empty : part = []
      · subst empty
        exact ⟨_, .root idles isName ends⟩
      · exact ⟨_, .beside (.part empty single) idles isName ends⟩
  · exact ⟨_, .alone single ends⟩

/-- The folder of a path is the one that it is in. -/
theorem folderOf_iff (path folder : String) :
    FolderOf path.toList folder.toList ↔ Path.folder path = folder := by
  constructor
  · intro isFolder
    rw [isFolder.folder_eq, String.ofList_toList]
  · rintro rfl
    obtain ⟨found, isFolder⟩ := exists_folderOf path.toList
    rwa [isFolder.folder_eq, String.toList_ofList]

example : folder "configs//./config.json" = "configs" := by decide +kernel

theorem FolderOf.settled {path folder : List Char} (isFolder : FolderOf path folder) :
    folder = ['/'] ∨ Settled folder := by
  cases isFolder with
  | alone => exact .inr (.part (by decide) (by decide))
  | root => exact .inl rfl
  | beside settled => exact .inr settled

/-- A name alone is in the working folder. -/
theorem folder_of_unsplit {name : String} (unsplit : '/' ∉ name.toList) : folder name = "." := by
  rw [← folderOf_iff, ← List.append_nil name.toList]
  exact .alone unsplit .nil

/-- What is named after a folder and a slash is in that folder. -/
theorem folder_append_name {folder name : String} (settled : Settled folder.toList)
    (isName : IsName name.toList) : Path.folder (folder ++ "/" ++ name) = folder := by
  rw [← folderOf_iff]
  simpa using FolderOf.beside settled .nil isName .nil

/-- What is named after a slash is in the root. -/
theorem folder_root_append_name {name : String} (isName : IsName name.toList) :
    folder ("/" ++ name) = "/" := by
  rw [← folderOf_iff]
  simpa using FolderOf.root .nil isName .nil

/-! ### Names relative to a folder -/

theorem head?_eq_slash_iff (path : String) : path.toList.head? = some '/' ↔ IsAbsolute path :=
  List.head?_eq_some_iff

/-- A name that leads from the root is not changed by the folder. -/
theorem join_of_isAbsolute {name : String} (absolute : IsAbsolute name) (folder : String) :
    join folder name = name :=
  if_pos ((head?_eq_slash_iff name).mpr absolute)

/-- A name in the root follows a slash. -/
theorem join_root {name : String} (relative : ¬ IsAbsolute name) : join "/" name = "/" ++ name := by
  rw [join, if_neg (mt (head?_eq_slash_iff name).mp relative)]
  exact if_pos (by decide)

/-- A name in another folder follows the folder and a slash. -/
theorem join_of_settled {folder name : String} (settled : Settled folder.toList)
    (relative : ¬ IsAbsolute name) : join folder name = folder ++ "/" ++ name := by
  rw [join, if_neg (mt (head?_eq_slash_iff name).mp relative), if_neg]
  rintro (empty | slash)
  · exact settled.ne_nil (by simpa using empty)
  · exact settled.getLast?_ne slash

end BotConfig.Path

namespace BotConfig.Source

/-- A name in the document of a source stands for a file: a name that leads from the root for
itself, any other for the file of that name in the folder of the document.  A document that is
given inline is in the working folder. -/
inductive Resolves : Source → String → Source → Prop
  | absolute {source : Source} {name : String} :
      Path.IsAbsolute name →
      Resolves source name (.file name)
  | inline {label text name : String} :
      ¬ Path.IsAbsolute name →
      Resolves (.inline label text) name (.file ("./" ++ name))
  | root {path name : String} :
      Path.FolderOf path.toList ['/'] → ¬ Path.IsAbsolute name →
      Resolves (.file path) name (.file ("/" ++ name))
  | beside {path folder name : String} :
      Path.FolderOf path.toList folder.toList → folder ≠ "/" → ¬ Path.IsAbsolute name →
      Resolves (.file path) name (.file (folder ++ "/" ++ name))

/-- A name in a document stands for the file that the traversal goes on to. -/
theorem resolves_iff (source : Source) (name : String) (next : Source) :
    Resolves source name next ↔ next = .file (Path.join source.folder name) := by
  have working : Path.Settled ".".toList := .part (by decide) (by decide)
  constructor
  · rintro (absolute | relative | ⟨inRoot, relative⟩ | ⟨inFolder, isBelow, relative⟩)
    · rw [Path.join_of_isAbsolute absolute]
    · exact congrArg Source.file (Path.join_of_settled working relative).symm
    · rw [Source.folder, (Path.folderOf_iff _ "/").mp inRoot, Path.join_root relative]
    · obtain root | settled := inFolder.settled
      · exact absurd (String.toList_inj.mp root) isBelow
      · rw [Source.folder, (Path.folderOf_iff _ _).mp inFolder,
          Path.join_of_settled settled relative]
  · rintro rfl
    by_cases absolute : Path.IsAbsolute name
    · rw [Path.join_of_isAbsolute absolute]
      exact .absolute absolute
    · cases source with
      | inline label text =>
          rw [Source.folder, Path.join_of_settled working absolute]
          exact .inline absolute
      | file path =>
          have inFolder := (Path.folderOf_iff path (Path.folder path)).mpr rfl
          obtain root | settled := inFolder.settled
          · rw [Source.folder, show Path.folder path = "/" from String.toList_inj.mp root,
              Path.join_root absolute]
            exact .root (root ▸ inFolder) absolute
          · rw [Source.folder, Path.join_of_settled settled absolute]
            exact .beside inFolder (fun root => settled.getLast?_ne (by rw [root]; rfl)) absolute

end BotConfig.Source

import BotConfig.Proofs.Inclusion
import Mathlib.Data.List.Infix

/-!
Following paths in a tree of files.

Where every folder stands in a folder, a file stands in the folder of its path, and what its
document names is followed from there.  Two paths to one file therefore include the same files, and
files that include one another end a merge with an error, even where their paths grow longer with
each turn.
-/

namespace BotConfig.FileTree

/-- The root is a folder, and every folder stands in a folder. -/
structure Nested (tree : FileTree) : Prop where
  root : tree.node? [] = some .folder
  above : ∀ place, tree.node? place = some .folder → tree.node? place.dropLast = some .folder

variable {tree : FileTree} {place reached : Place}

/-! ### Changes of a tree -/

theorem lookup_filter (nodes : List (Place × Node)) (place other : Place) :
    (nodes.filter (·.1 != place)).lookup other =
      if other = place then none else nodes.lookup other := by
  induction nodes with
  | nil => simp
  | cons entry rest inductionHypothesis =>
      obtain ⟨first, node⟩ := entry
      by_cases removed : first = place
      · rw [List.filter_cons_of_neg (by simpa using removed), inductionHypothesis]
        by_cases same : other = place
        · rw [if_pos same, if_pos same]
        · rw [if_neg same, if_neg same, List.lookup_cons, beq_false_of_ne (removed ▸ same)]
      · rw [List.filter_cons_of_pos (by simpa using removed), List.lookup_cons, List.lookup_cons,
          inductionHypothesis]
        by_cases same : other = place
        · rw [if_pos same, if_pos same, same, beq_false_of_ne (Ne.symm removed)]
        · rw [if_neg same, if_neg same]

/-- A place holds what was put there, and all others what they held before. -/
theorem node?_put (tree : FileTree) (place : Place) (node : Node) (other : Place) :
    (tree.put place node).node? other = if other = place then some node else tree.node? other := by
  rw [node?, put, List.lookup_cons, lookup_filter]
  by_cases same : other = place
  · subst same
    simp
  · rw [if_neg same, if_neg same, beq_false_of_ne same, node?]

theorem nested_empty : empty.Nested where
  root := rfl
  above place isFolder := by
    by_cases root : place = []
    · rw [root]
      rfl
    · by_cases working : place = workingFolder
      · rw [working]
        rfl
      · simp [node?, empty, List.lookup_cons, beq_false_of_ne root, beq_false_of_ne working]
          at isFolder

/-- A folder may be put where its own folder is. -/
theorem Nested.put_folder (nested : tree.Nested)
    (inFolder : tree.node? place.dropLast = some .folder) : (tree.put place .folder).Nested where
  root := by
    rw [node?_put, nested.root, ite_self]
  above other isFolder := by
    have above : tree.node? other.dropLast = some .folder := by
      by_cases same : other = place
      · rw [same]
        exact inFolder
      · rw [node?_put, if_neg same] at isFolder
        exact nested.above other isFolder
    rw [node?_put, above, ite_self]

/-- Only the folders matter. -/
theorem Nested.of_folders_iff {other : FileTree} (nested : tree.Nested)
    (same : ∀ place, other.node? place = some .folder ↔ tree.node? place = some .folder) :
    other.Nested where
  root := (same []).mpr nested.root
  above place isFolder := (same _).mpr (nested.above place ((same place).mp isFolder))

/-- A file may be put anywhere but at a folder. -/
theorem Nested.put_file (nested : tree.Nested) (noFolder : tree.node? place ≠ some .folder)
    (content : Content) : (tree.put place (.file content)).Nested := by
  refine nested.of_folders_iff fun other => ?_
  rw [node?_put]
  by_cases same : other = place
  · simp [same, noFolder]
  · rw [if_neg same]

theorem Nested.remove (nested : tree.Nested) (path : String) : (tree.remove path).Nested := by
  unfold FileTree.remove
  split
  · rename_i isFile
    have noFolder : tree.node? (placeOf path) ≠ some .folder := by
      intro isFolder
      simp [hasFile, isFolder] at isFile
    refine nested.of_folders_iff fun other => ?_
    rw [node?, lookup_filter]
    by_cases same : other = placeOf path
    · simp [same, noFolder]
    · rw [if_neg same, node?]
  · exact nested

/-- No file stands on the way to a place. -/
def Clear (tree : FileTree) (place : Place) : Prop :=
  ∀ earlier ∈ place.inits, tree.node? earlier = none ∨ tree.node? earlier = some .folder

instance (tree : FileTree) (place : Place) : Decidable (tree.Clear place) :=
  inferInstanceAs (Decidable (∀ earlier ∈ place.inits, _))

/-- The folders on the way to a place have been made down to a depth. -/
structure MadeDownTo (before after : FileTree) (place : Place) (depth : Nat) : Prop where
  nested : after.Nested
  clear : after.Clear place
  reached : after.node? (place.take depth) = some .folder
  frame : ∀ other, ¬ other <+: place → after.node? other = before.node? other

theorem MadeDownTo.put {after : FileTree} {depth : Nat}
    (made : MadeDownTo tree after place depth) (deeper : depth < place.length) :
    MadeDownTo tree (after.put (place.take (depth + 1)) .folder) place (depth + 1) where
  nested := by
    refine made.nested.put_folder ?_
    rw [List.take_succ_eq_append_getElem deeper, List.dropLast_concat]
    exact made.reached
  clear earlier onWay := by
    rw [node?_put]
    split
    · exact .inr rfl
    · exact made.clear earlier onWay
  reached := by rw [node?_put, if_pos rfl]
  frame other apart := by
    rw [node?_put, if_neg fun same => apart (by rw [same]; exact List.take_prefix _ _)]
    exact made.frame other apart

theorem Nested.madeDownTo (nested : tree.Nested) (clear : tree.Clear place) :
    MadeDownTo tree (tree.makeFolders place) place place.length := by
  unfold makeFolders
  suffices made : ∀ depth ≤ place.length, MadeDownTo tree
      ((List.range depth).foldl (fun tree count =>
        if (tree.node? (place.take (count + 1))).isSome then tree
        else tree.put (place.take (count + 1)) .folder) tree) place depth from
    made place.length (Nat.le_refl _)
  intro depth within
  induction depth with
  | zero => exact ⟨nested, clear, by simpa using nested.root, fun _ _ => rfl⟩
  | succ depth inductionHypothesis =>
      have made := inductionHypothesis (Nat.le_of_succ_le within)
      rw [List.range_succ, List.foldl_append, List.foldl_cons, List.foldl_nil]
      split
      · rename_i present
        refine ⟨made.nested, made.clear, ?_, made.frame⟩
        refine (made.clear _ (List.mem_inits _ _ |>.mpr (List.take_prefix _ _))).resolve_left ?_
        exact Option.ne_none_iff_isSome.mpr present
      · exact made.put within

/-- Folders are made inside folders. -/
theorem Nested.makeFolder (nested : tree.Nested) {path : String}
    (clear : tree.Clear (placeOf path)) : (tree.makeFolder path).Nested :=
  (nested.madeDownTo clear).nested

/-- Files are written into folders. -/
theorem Nested.write (nested : tree.Nested) {path : String}
    (clear : tree.Clear (placeOf path).dropLast)
    (noFolder : tree.node? (placeOf path) ≠ some .folder) (content : Content) :
    (tree.write path content).Nested := by
  have made := nested.madeDownTo clear
  refine made.nested.put_file ?_ content
  rw [made.frame]
  · exact noFolder
  · intro onWay
    have isShorter := onWay.length_le
    have nonempty : 0 < (placeOf path).length := by simp [placeOf, workingFolder]
    rw [List.length_dropLast] at isShorter
    omega

/-! ### Following names -/

/-- Where one name leads from a folder. -/
def onward (place : Place) (name : List Char) : Place :=
  if name = [] ∨ name = ['.'] then place
  else if name = ['.', '.'] then place.dropLast
  else place ++ [name]

theorem follow_cons_eq_ok_iff (name : List Char) (rest : List (List Char)) :
    tree.follow place (name :: rest) = .ok reached ↔
      tree.node? place = some .folder ∧ (String.ofList name).utf8ByteSize ≤ nameLimit ∧
        tree.follow (onward place name) rest = .ok reached := by
  rw [follow]
  cases tree.node? place with
  | none => simp
  | some node =>
      cases node with
      | file content => simp
      | folder =>
          unfold onward
          by_cases idle : name = [] ∨ name = ['.']
          · have short : (String.ofList name).utf8ByteSize ≤ nameLimit := by
              obtain rfl | rfl := idle <;> decide
            simp [idle, short]
          · by_cases up : name = ['.', '.']
            · have short : (String.ofList name).utf8ByteSize ≤ nameLimit := by
                rw [up]
                decide
              rw [if_neg idle, if_pos up, if_neg idle, if_pos up]
              simp [short]
            · by_cases long : nameLimit < (String.ofList name).utf8ByteSize
              · simp [idle, up, long, Nat.not_le_of_lt long]
              · simp [idle, up, long, Nat.le_of_not_lt long]

theorem follow_append_eq_ok_iff (first second : List (List Char)) :
    tree.follow place (first ++ second) = .ok reached ↔
      ∃ middle, tree.follow place first = .ok middle ∧ tree.follow middle second = .ok reached := by
  induction first generalizing place with
  | nil => simp [follow]
  | cons name rest inductionHypothesis =>
      simp only [List.cons_append, follow_cons_eq_ok_iff, inductionHypothesis, exists_and_left,
        and_assoc]

/-- Idle parts lead nowhere else, but only a folder can be followed by one. -/
theorem follow_idle {added : List (List Char)}
    (idle : ∀ part ∈ added, part = [] ∨ part = ['.'])
    (leads : tree.follow place added = .ok reached) :
    reached = place ∧ (added ≠ [] → tree.node? place = some .folder) := by
  induction added generalizing place with
  | nil =>
      cases leads
      exact ⟨rfl, fun nonempty => absurd rfl nonempty⟩
  | cons part rest inductionHypothesis =>
      rw [List.forall_mem_cons] at idle
      obtain ⟨isFolder, -, leads⟩ := (follow_cons_eq_ok_iff _ _).mp leads
      rw [onward, if_pos idle.1] at leads
      exact ⟨(inductionHypothesis idle.2 leads).1, fun _ => isFolder⟩

theorem Nested.node?_onward (nested : tree.Nested) {name : List Char}
    (isFolder : tree.node? place = some .folder)
    (noName : onward place name ≠ place ++ [name]) :
    tree.node? (onward place name) = some .folder := by
  unfold onward at noName ⊢
  split
  · exact isFolder
  · split
    · exact nested.above place isFolder
    · simp_all

/-- A file is reached by its name from the folder that it stands in, with nothing behind. -/
theorem Nested.follow_name (nested : tree.Nested) {name : List Char} {added : List (List Char)}
    {content : Content} (idle : ∀ part ∈ added, part = [] ∨ part = ['.'])
    (leads : tree.follow place (name :: added) = .ok reached)
    (isFile : tree.node? reached = some (.file content)) :
    tree.node? place = some .folder ∧ reached = place ++ [name] ∧ name ≠ [] ∧ added = [] := by
  obtain ⟨isFolder, -, leads⟩ := (follow_cons_eq_ok_iff _ _).mp leads
  obtain ⟨rfl, behind⟩ := follow_idle idle leads
  refine ⟨isFolder, ?_, ?_, ?_⟩
  · by_contra noName
    rw [nested.node?_onward isFolder noName] at isFile
    cases isFile
  · rintro rfl
    rw [onward, if_pos (.inl rfl), isFolder] at isFile
    cases isFile
  · by_contra nonempty
    rw [behind nonempty] at isFile
    cases isFile

/-! ### The folder of a file -/

/-- Where a path starts. -/
def start (path : List Char) : Place :=
  if path.head? = some '/' then [] else workingFolder

/-- Where the parts of a path lead, whatever its length. -/
def walk (tree : FileTree) (path : List Char) : Except ReadFault Place :=
  tree.follow (start path) (Path.parts path)

theorem start_append {front : List Char} (nonempty : front ≠ []) (rest : List Char) :
    start (front ++ rest) = start front := by
  obtain ⟨c, others, rfl⟩ := List.exists_cons_of_ne_nil nonempty
  rfl

theorem Nested.walk_of_place (nested : tree.Nested) {path : String}
    (leads : tree.place path = .ok place) : tree.walk path.toList = .ok place := by
  unfold FileTree.place at leads
  split at leads
  · cases leads
  · rename_i nonempty
    split at leads
    · cases leads
    · split at leads
      · cases leads
      · cases spelled : path.toList with
        | nil => exact absurd (by simpa using spelled) nonempty
        | cons c rest =>
            rw [spelled] at leads
            unfold walk start
            by_cases slash : c = '/'
            · subst slash
              simpa [Path.parts, follow, nested.root] using leads
            · obtain ⟨part, others, -, cut⟩ := Path.exists_parts_cons slash rest
              rw [cut] at leads ⊢
              simpa [slash] using leads

theorem Nested.walk_below (nested : tree.Nested) {front name after : List Char}
    {content : Content} (isName : Path.IsName name) (isAfter : Path.Idle after)
    (leads : tree.walk (front ++ '/' :: name ++ after) = .ok place)
    (isFile : tree.node? place = some (.file content)) :
    ∃ above, tree.follow (start (front ++ '/' :: name ++ after)) (Path.parts front) = .ok above ∧
      tree.node? above = some .folder ∧ place = above ++ [name] ∧ after = [] := by
  obtain ⟨added, idle, adds⟩ := isAfter.exists_parts
  have cut : Path.parts (front ++ '/' :: name ++ after) =
      Path.parts front ++ name :: added := by
    rw [adds, Path.parts_append_slash, Path.parts_of_unsplit isName.unsplit, List.append_assoc,
      List.singleton_append]
  rw [walk, cut, follow_append_eq_ok_iff] at leads
  obtain ⟨above, reaches, leads⟩ := leads
  obtain ⟨isFolder, rfl, -, rfl⟩ := nested.follow_name idle leads isFile
  have nothing : Path.parts after = Path.parts [] := adds []
  exact ⟨above, reaches, isFolder, rfl, Path.parts_injective nothing⟩

theorem Nested.walk_root (nested : tree.Nested) : tree.walk ['/'] = .ok [] := by
  simp [walk, start, Path.parts, follow, nested.root]

/-- A file stands in the folder of a path to it, and the path ends in its name. -/
theorem Nested.walk_folder (nested : tree.Nested) {path folder : List Char} {content : Content}
    (inFolder : Path.FolderOf path folder) (leads : tree.walk path = .ok place)
    (isFile : tree.node? place = some (.file content)) :
    ∃ above name, tree.walk folder = .ok above ∧ place = above ++ [name] ∧ '/' ∉ name ∧
      (path = name ∨ ∃ front, path = front ++ '/' :: name) := by
  cases inFolder with
  | @alone part idle unsplit isIdle =>
      obtain ⟨added, idleParts, adds⟩ := isIdle.exists_parts
      rw [walk, adds, Path.parts_of_unsplit unsplit, List.singleton_append] at leads
      obtain ⟨isFolder, rfl, nonempty, rfl⟩ := nested.follow_name idleParts leads isFile
      have begins : start (part ++ idle) = workingFolder := by
        rw [start_append nonempty, start, if_neg]
        exact fun slash => unsplit (List.mem_of_head? slash)
      rw [begins] at isFolder ⊢
      refine ⟨workingFolder, part, ?_, rfl, unsplit, .inl ?_⟩
      · exact (follow_cons_eq_ok_iff ['.'] []).mpr ⟨isFolder, by decide, rfl⟩
      · exact Path.parts_injective ((adds part).trans (List.append_nil _))
  | @root before name after isBefore isName isAfter =>
      obtain ⟨above, reaches, isFolder, rfl, rfl⟩ := nested.walk_below isName isAfter leads isFile
      obtain ⟨added, idleParts, adds⟩ := isBefore.exists_parts
      have begins : start (before ++ '/' :: name ++ []) = [] := by
        cases isBefore <;> rfl
      rw [begins, show Path.parts before = [] :: added from adds []] at reaches
      obtain ⟨rfl, -⟩ := follow_idle (by simpa using idleParts) reaches
      exact ⟨[], name, nested.walk_root, rfl, isName.unsplit, .inr ⟨before, List.append_nil _⟩⟩
  | @beside folder before name after settled isBefore isName isAfter =>
      obtain ⟨above, reaches, isFolder, rfl, rfl⟩ := nested.walk_below isName isAfter leads isFile
      obtain ⟨added, idleParts, adds⟩ := isBefore.exists_parts
      rw [adds, follow_append_eq_ok_iff] at reaches
      obtain ⟨middle, reaches, idles⟩ := reaches
      obtain ⟨rfl, -⟩ := follow_idle idleParts idles
      refine ⟨above, name, ?_, rfl, isName.unsplit, .inr ⟨folder ++ before, List.append_nil _⟩⟩
      rw [List.append_assoc, List.append_assoc, start_append settled.ne_nil] at reaches
      exact reaches

/-- A name in the document of a file is followed from the folder that the file stands in. -/
theorem Nested.follow_resolved (nested : tree.Nested) {path name next : String} {content : Content}
    (leads : tree.place path = .ok place) (isFile : tree.node? place = some (.file content))
    (resolves : Source.Resolves (.file path) name (.file next)) (relative : ¬ Path.IsAbsolute name)
    (leadsNext : tree.place next = .ok reached) :
    tree.follow place.dropLast (Path.parts name.toList) = .ok reached := by
  have leads := nested.walk_of_place leads
  have leadsNext := nested.walk_of_place leadsNext
  cases resolves with
  | absolute absolute => exact absurd absolute relative
  | root inRoot _ =>
      obtain ⟨above, last, reaches, rfl, -⟩ := nested.walk_folder inRoot leads isFile
      cases reaches.symm.trans nested.walk_root
      rw [List.dropLast_concat]
      simpa [walk, start, Path.parts, follow, nested.root] using leadsNext
  | @beside _ folder _ inFolder below _ =>
      obtain ⟨above, last, reaches, rfl, -⟩ := nested.walk_folder inFolder leads isFile
      have nonempty : folder.toList ≠ [] :=
        inFolder.settled.elim (fun root => absurd (String.toList_inj.mp root) below)
          Path.Settled.ne_nil
      have cut : (folder ++ "/" ++ name).toList = folder.toList ++ '/' :: name.toList := by simp
      rw [walk, cut, start_append nonempty, Path.parts_append_slash, follow_append_eq_ok_iff]
        at leadsNext
      obtain ⟨middle, reachesMiddle, leadsOn⟩ := leadsNext
      cases reaches.symm.trans reachesMiddle
      rwa [List.dropLast_concat]

/-! ### One file under two paths -/

/-- Two sources are one file of a tree, under the same path or under two. -/
def OneFile (tree : FileTree) (source other : Source) : Prop :=
  ∃ path otherPath place content,
    source = .file path ∧ other = .file otherPath ∧
    tree.place path = .ok place ∧ tree.place otherPath = .ok place ∧
    tree.node? place = some (.file content)

theorem isSuffixOf_append_slash {ending : List Char} (unsplit : '/' ∉ ending)
    (front rest : List Char) :
    ending.isSuffixOf (front ++ '/' :: rest) = ending.isSuffixOf rest := by
  rw [Bool.eq_iff_iff, List.isSuffixOf_iff_suffix, List.isSuffixOf_iff_suffix]
  induction front with
  | nil =>
      rw [List.nil_append, List.suffix_cons_iff, or_iff_right]
      rintro rfl
      exact unsplit List.mem_cons_self
  | cons c front inductionHypothesis =>
      rw [List.cons_append, List.suffix_cons_iff, or_iff_right, inductionHypothesis]
      rintro rfl
      exact unsplit (by simp)

/-- The format of a document depends on the name that its path ends in. -/
theorem format_of_last {path : String} {name : List Char}
    (ends : path.toList = name ∨ ∃ front, path.toList = front ++ '/' :: name) :
    Document.Format.ofName path = Document.Format.ofName (String.ofList name) := by
  unfold Document.Format.ofName
  rw [show (String.ofList name).toList = name from String.toList_ofList]
  obtain alone | ⟨front, below⟩ := ends
  · rw [alone]
  · rw [below, List.map_append, List.map_cons, show Char.toLower '/' = '/' from rfl]
    dsimp only
    rw [isSuffixOf_append_slash (by decide), isSuffixOf_append_slash (by decide)]

theorem Nested.format_eq (nested : tree.Nested) {path other : String} {content : Content}
    (leads : tree.place path = .ok place) (otherLeads : tree.place other = .ok place)
    (isFile : tree.node? place = some (.file content)) :
    Document.Format.ofName path = Document.Format.ofName other := by
  obtain ⟨folder, inFolder⟩ := Path.exists_folderOf path.toList
  obtain ⟨otherFolder, otherInFolder⟩ := Path.exists_folderOf other.toList
  obtain ⟨above, name, -, rfl, -, ends⟩ :=
    nested.walk_folder inFolder (nested.walk_of_place leads) isFile
  obtain ⟨otherAbove, otherName, -, same, -, otherEnds⟩ :=
    nested.walk_folder otherInFolder (nested.walk_of_place otherLeads) isFile
  obtain ⟨-, rfl⟩ := List.append_singleton_inj.mp same
  rw [format_of_last ends, format_of_last otherEnds]

theorem read_eq_ok_iff (path text : String) :
    tree.read path = .ok text ↔
      ∃ place, tree.place path = .ok place ∧ tree.node? place = some (.file (.text text)) := by
  unfold FileTree.read
  cases tree.place path with
  | error fault => simp [bind, Except.bind]
  | ok place =>
      cases stands : tree.node? place with
      | none => simp [bind, Except.bind, stands, throw, throwThe, MonadExceptOf.throw]
      | some node =>
          cases node with
          | folder => simp [bind, Except.bind, stands, throw, throwThe, MonadExceptOf.throw]
          | file content =>
              cases content <;> simp [bind, Except.bind, stands, throw, throwThe,
                MonadExceptOf.throw, pure, Except.pure]

theorem text_file_eq_ok_iff (path text : String) :
    (Source.file path).text tree.read = .ok text ↔ tree.read path = .ok text := by
  simp only [Source.text]
  cases tree.read path <;> simp [Except.mapError]

/-- A sound file has a place. -/
theorem exists_place_of_sound {path : String} (sound : (Source.file path).Sound tree.read) :
    ∃ place content, tree.place path = .ok place ∧ tree.node? place = some (.file content) := by
  obtain ⟨text, -, readable, -⟩ := sound
  rw [text_file_eq_ok_iff, read_eq_ok_iff] at readable
  obtain ⟨place, leads, isFile⟩ := readable
  exact ⟨place, _, leads, isFile⟩

/-- One file holds one document. -/
theorem OneFile.document (nested : tree.Nested) {source other : Source} {document : Fields}
    (same : tree.OneFile source other) (reads : source.document tree.read = .ok document) :
    other.document tree.read = .ok document := by
  obtain ⟨path, otherPath, place, content, rfl, rfl, leads, otherLeads, isFile⟩ := same
  obtain ⟨text, readable, holds⟩ := (Source.document_eq_ok_iff _ _).mp reads
  refine (Source.document_eq_ok_iff _ _).mpr ⟨text, ?_, ?_⟩
  · rw [text_file_eq_ok_iff, read_eq_ok_iff] at readable ⊢
    obtain ⟨found, leadsFound, isText⟩ := readable
    cases leads.symm.trans leadsFound
    exact ⟨place, otherLeads, isText⟩
  · rw [Source.name, nested.format_eq leads otherLeads isFile] at holds
    exact holds

/-- What one file names is one file, under whatever path it is seen. -/
theorem OneFile.resolves (nested : tree.Nested) {source other next otherNext : Source}
    {name : String} (same : tree.OneFile source other)
    (resolves : source.Resolves name next) (otherResolves : other.Resolves name otherNext)
    (sound : next.Sound tree.read) (otherSound : otherNext.Sound tree.read) :
    tree.OneFile next otherNext := by
  obtain ⟨path, otherPath, place, content, rfl, rfl, leads, otherLeads, isFile⟩ := same
  obtain rfl := (Source.resolves_iff _ _ _).mp resolves
  obtain rfl := (Source.resolves_iff _ _ _).mp otherResolves
  obtain ⟨reached, _, leadsNext, isNext⟩ := exists_place_of_sound sound
  obtain ⟨otherReached, _, otherLeadsNext, isOtherNext⟩ := exists_place_of_sound otherSound
  refine ⟨_, _, reached, _, rfl, rfl, leadsNext, ?_, isNext⟩
  by_cases absolute : Path.IsAbsolute name
  · rw [Path.join_of_isAbsolute absolute] at leadsNext ⊢
    exact leadsNext
  · have followed := nested.follow_resolved leads isFile resolves absolute leadsNext
    have otherFollowed :=
      nested.follow_resolved otherLeads isFile otherResolves absolute otherLeadsNext
    cases followed.symm.trans otherFollowed
    exact otherLeadsNext

/-- One file leads along the same ways to the same files. -/
theorem OneFile.leads (nested : tree.Nested) {source other reached : Source} {steps : List Nat}
    (same : tree.OneFile source other) (leads : Source.Leads tree.read source steps reached)
    (sound : ∀ way found, Source.Leads tree.read source way found → found.Sound tree.read)
    (otherSound : ∀ way found, Source.Leads tree.read other way found → found.Sound tree.read) :
    ∃ otherReached, Source.Leads tree.read other steps otherReached ∧
      tree.OneFile reached otherReached := by
  induction leads generalizing other with
  | here => exact ⟨other, .here, same⟩
  | @step source next reached below position steps includes found leads inductionHypothesis =>
      obtain ⟨document, names, reads, listed, rfl⟩ :=
        (Source.includes_eq_ok_iff _ _).mp ((Source.includes_iff _ _).mp includes)
      have otherIncludes : Source.Includes tree.read other (other.inner names) :=
        (Source.includes_iff _ _).mpr ((Source.includes_eq_ok_iff _ _).mpr
          ⟨document, names, same.document nested reads, listed, rfl⟩)
      rw [Source.inner, List.getElem?_map, Option.map_eq_some_iff] at found
      obtain ⟨name, named, resolved⟩ := found
      have otherFound : (other.inner names)[position]? =
          some (.file (Path.join other.folder name)) := by
        rw [Source.inner, List.getElem?_map, named]
        rfl
      have nextSame : tree.OneFile next (.file (Path.join other.folder name)) :=
        same.resolves nested ((Source.resolves_iff _ _ _).mpr resolved.symm)
          ((Source.resolves_iff _ _ _).mpr rfl)
          (sound [position] _ (.step includes (by simp [Source.inner, named, resolved]) .here))
          (otherSound [position] _ (.step otherIncludes otherFound .here))
      obtain ⟨otherReached, otherLeads, reachedSame⟩ := inductionHypothesis nextSame
        (fun way far onward => sound (position :: way) far
          (.step includes (by simp [Source.inner, named, resolved]) onward))
        (fun way far onward => otherSound (position :: way) far
          (.step otherIncludes otherFound onward))
      exact ⟨otherReached, .step otherIncludes otherFound otherLeads, reachedSame⟩

/-- A file that leads back to itself leads along ways as long as wanted.  A turn that starts at any
path to the file comes back to a path to it. -/
theorem Nested.exists_long_way (nested : tree.Nested) {path other : String} {loop : List Nat}
    (loops : Source.Leads tree.read (.file path) loop (.file other)) (moves : loop ≠ [])
    (same : tree.place other = tree.place path)
    (sound : ∀ way found, Source.Leads tree.read (.file path) way found → found.Sound tree.read)
    (times : Nat) :
    ∃ way found, times ≤ way.length ∧ Source.Leads tree.read (.file path) way found ∧
      tree.OneFile (.file path) found := by
  induction times with
  | zero =>
      obtain ⟨place, content, stands, isFile⟩ := exists_place_of_sound (sound [] _ .here)
      exact ⟨[], _, Nat.le_refl 0, .here, _, _, place, content, rfl, rfl, stands, stands, isFile⟩
  | succ times inductionHypothesis =>
      obtain ⟨way, found, isLong, onward, oneFile⟩ := inductionHypothesis
      obtain ⟨back, comesBack, otherPath, backPath, place, content, isOther, rfl, stands,
        backStands, isFile⟩ := oneFile.leads nested loops sound
          (fun further reached beyond => sound _ reached (onward.append beyond))
      cases isOther
      have isLonger : 0 < loop.length := List.length_pos_iff.mpr moves
      refine ⟨way ++ loop, _, ?_, onward.append comesBack, path, backPath, place, content, rfl,
        rfl, same.symm.trans stands, backStands, isFile⟩
      rw [List.length_append]
      omega

end BotConfig.FileTree

namespace BotConfig.Loader

/-- Files of a tree that include one another in a circle end a merge with an error, even where the
paths to them grow longer with each turn. -/
theorem exists_error_of_file_loop {tree : FileTree} (nested : tree.Nested) (loader : Loader)
    (environment : List (String × String)) {sources : List Source} {source : Source}
    {path other : String} {steps loop : List Nat} (listed : source ∈ sources)
    (leads : Source.Leads tree.read source steps (.file path))
    (loops : Source.Leads tree.read (.file path) loop (.file other)) (moves : loop ≠ [])
    (same : tree.place other = tree.place path) :
    ∃ error, (loader.merge ⟨tree.read, environment⟩ sources).outcome = .error error := by
  cases outcome : (loader.merge ⟨tree.read, environment⟩ sources).outcome with
  | error error => exact ⟨error, rfl⟩
  | ok merged =>
      have faultless := exists_outcome_merge_eq_ok_iff.mp ⟨merged, outcome⟩ source listed
      have sound : ∀ way found, Source.Leads tree.read (.file path) way found →
          found.Sound tree.read :=
        fun way found onward => (faultless _ found (leads.append onward)).2
      obtain ⟨way, found, isLong, onward, -⟩ :=
        nested.exists_long_way loops moves same sound (Source.maxIncludeDepth + 1)
      have shallow := (faultless _ found (leads.append onward)).1
      rw [List.length_append] at shallow
      omega

/-- A tree in which a document lists one in a folder below, which lists the first again. -/
def circle : FileTree :=
  (FileTree.empty.write "conf/loop.yaml" (.text "add_config_files: [parts/back.yaml]")).write
    "conf/parts/back.yaml" (.text "add_config_files: [../loop.yaml]")

theorem exists_error_of_circle :
    ∃ error, (merge ⟨none⟩ ⟨circle.read, []⟩ [.file "conf/loop.yaml"]).outcome = .error error := by
  have nested : circle.Nested :=
    (FileTree.nested_empty.write (by decide +kernel) (by decide +kernel) _).write
      (by decide +kernel) (by decide +kernel) _
  have loops : Source.Leads circle.read (.file "conf/loop.yaml") [0, 0]
      (.file "conf/parts/../loop.yaml") :=
    (Source.leads_iff _ _ _).mpr (by decide +kernel)
  exact exists_error_of_file_loop nested ⟨none⟩ [] List.mem_cons_self .here loops
    (List.cons_ne_nil 0 [0]) (by decide +kernel)

end BotConfig.Loader

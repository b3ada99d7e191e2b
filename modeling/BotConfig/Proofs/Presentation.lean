import BotConfig.Loader
import BotConfig.Proofs.Grammar
import BotConfig.Proofs.Includes
import BotConfig.Proofs.Reordering

/-!
What the presentation of a strict document does not change.

A text that the strict reader accepts has nothing to blank, so comments only add documents.  Blanks
and comments between the tokens of a document, and the order of the members of its mappings, change
neither what the document holds nor what is loaded from it.
-/

namespace BotConfig

open Comment

namespace Strict

/-! ### The order of members -/

namespace Form

/-- Somewhere in a form, mappings whose keys are distinct have their members in another order. -/
inductive Reordered : Form → Form → Prop
  | refl (form : Form) : Reordered form form
  | trans {first second third : Form} :
      Reordered first second → Reordered second third → Reordered first third
  | item {first second : Form} (before after : List Form) :
      Reordered first second →
      Reordered (.list (before ++ first :: after)) (.list (before ++ second :: after))
  | member {first second : Form} (before after : List (Name × Form)) (name : Name) :
      Reordered first second →
      Reordered (.mapping (before ++ (name, first) :: after))
        (.mapping (before ++ (name, second) :: after))
  | members {first second : List (Name × Form)} :
      (first.map fun member => member.1.content).Nodup → first.Perm second →
      Reordered (.mapping first) (.mapping second)

theorem itemValues_append (first second : List Form) :
    itemValues (first ++ second) = itemValues first ++ itemValues second := by
  induction first with
  | nil => rfl
  | cons item rest inductionHypothesis => simp [itemValues, inductionHypothesis]

theorem entries_eq_map (members : List (Name × Form)) :
    entries members = members.map fun member => (member.1.content, member.2.value) := by
  induction members with
  | nil => rfl
  | cons member rest inductionHypothesis => simp [entries, inductionHypothesis]

theorem itemsDepth_append (first second : List Form) :
    itemsDepth (first ++ second) = max (itemsDepth first) (itemsDepth second) := by
  induction first with
  | nil => simp [itemsDepth]
  | cons item rest inductionHypothesis =>
      rw [List.cons_append, itemsDepth, itemsDepth, inductionHypothesis, Nat.max_assoc]

theorem membersDepth_append (first second : List (Name × Form)) :
    membersDepth (first ++ second) = max (membersDepth first) (membersDepth second) := by
  induction first with
  | nil => simp [membersDepth]
  | cons member rest inductionHypothesis =>
      rw [List.cons_append, membersDepth, membersDepth, inductionHypothesis, Nat.max_assoc]

theorem membersDepth_eq_of_perm {first second : List (Name × Form)}
    (permuted : first.Perm second) : membersDepth first = membersDepth second := by
  induction permuted with
  | nil => rfl
  | cons member _ inductionHypothesis => rw [membersDepth, membersDepth, inductionHypothesis]
  | swap member other rest =>
      simp only [membersDepth]
      omega
  | trans _ _ firstSame secondSame => exact firstSame.trans secondSame

theorem Reordered.depth_eq {form other : Form} (reordered : Reordered form other) :
    form.depth = other.depth := by
  induction reordered with
  | refl form => rfl
  | trans _ _ firstSame secondSame => exact firstSame.trans secondSame
  | item before after _ same => simp only [depth, itemsDepth_append, itemsDepth, same]
  | member before after name _ same => simp only [depth, membersDepth_append, membersDepth, same]
  | members _ permuted => rw [depth, depth, membersDepth_eq_of_perm permuted]

theorem Reordered.value_eq {form other : Form} (reordered : Reordered form other) :
    form.value = other.value := by
  induction reordered with
  | refl form => rfl
  | trans _ _ firstSame secondSame => exact firstSame.trans secondSame
  | item before after _ same => simp only [value, itemValues_append, itemValues, same]
  | member before after name _ same =>
      simp only [value, entries_eq_map, List.map_append, List.map_cons, same]
  | members distinct permuted =>
      rw [value, value, entries_eq_map, entries_eq_map]
      refine congrArg Value.mapping (Fields.ofEntries_eq_of_perm (permuted.map _) ?_)
      rw [List.map_map]
      exact distinct

end Form

/-- A text has the tokens of a plain text without comments, but for the order of members, with any
blanks and comments between them. -/
def Rearranged (plain text : String) : Prop :=
  ∃ form other : Form, Spread AllBlank form.spellings plain.toList ∧ form.Reordered other ∧
    Spread Gap other.spellings text.toList

end Strict

/-! ### Documents -/

namespace Document

/-- The mapping that a value is, or the fault of a document that is none. -/
def ofValue : Value → Except Fault Fields
  | .mapping fields => .ok fields
  | value => .error (.noMapping value.kind)

theorem read_of_becomes {name text : String} (strict : Format.ofName name = .strict)
    {blanked : List Char} (becomes : Becomes text.toList blanked) {value : Value}
    (reads : Strict.read (String.ofList blanked) = .ok value) :
    read name text = ofValue value := by
  have readsValue : readValue (Format.ofName name) text = .ok value := by
    rw [strict, readValue, readStrict, becomes.blankAll_eq]
    dsimp only
    rw [reads]
    rfl
  rw [read, readsValue]
  cases value <;> rfl

theorem becomes_of_read {text : String} {value : Value} (reads : Strict.read text = .ok value) :
    Becomes text.toList text.toList := by
  obtain ⟨form, spread, _⟩ := (Strict.read_eq_ok_iff text value).mp reads
  exact spread.becomes

theorem read_eq_ofValue {text : String} {value : Value} (reads : Strict.read text = .ok value)
    {name : String} (strict : Format.ofName name = .strict) : read name text = ofValue value := by
  have again : Strict.read (String.ofList text.toList) = .ok value := by
    rw [String.ofList_toList]
    exact reads
  exact read_of_becomes strict (becomes_of_read reads) again

/-- Comments only add documents: a text that is read without them has nothing to blank, and is the
same document. -/
theorem read_without_comments {text : String} {value : Value}
    (reads : Strict.read text = .ok value) :
    blankAll text.toList = .ok text.toList ∧
      ∀ name, Format.ofName name = .strict → read name text = ofValue value := by
  refine ⟨(becomes_of_read reads).blankAll_eq, ?_⟩
  intro name strict
  exact read_eq_ofValue reads strict

theorem read_without_comments_slashes :
    ∃ value, Strict.read "\x7b\"url\": \"https://a.b/*.c\\\\\"\x7d" = .ok value ∧
      blankAll "\x7b\"url\": \"https://a.b/*.c\\\\\"\x7d".toList =
        .ok "\x7b\"url\": \"https://a.b/*.c\\\\\"\x7d".toList ∧
      read "c.json" "\x7b\"url\": \"https://a.b/*.c\\\\\"\x7d" = ofValue value := by
  have accepted :
      (Strict.read "\x7b\"url\": \"https://a.b/*.c\\\\\"\x7d").toOption.isSome = true := by
    decide +kernel
  cases reads : Strict.read "\x7b\"url\": \"https://a.b/*.c\\\\\"\x7d" with
  | error failure =>
      rw [reads] at accepted
      cases accepted
  | ok value =>
      obtain ⟨stays, same⟩ := read_without_comments reads
      exact ⟨value, rfl, stays, same "c.json" (by decide)⟩

/-- A text with the tokens of a form, and any blanks and comments between them, holds the value of
the form. -/
theorem read_of_spread {form : Strict.Form} {text : String}
    (spread : Strict.Spread Gap form.spellings text.toList) (shallow : form.depth ≤ Strict.maxDepth)
    {name : String} (strict : Format.ofName name = .strict) :
    read name text = ofValue form.value := by
  obtain ⟨blanked, becomes, blankedSpread⟩ := spread.exists_blanked
  rw [← String.toList_ofList (l := blanked)] at blankedSpread
  exact read_of_becomes strict becomes (Strict.read_of_spread blankedSpread shallow)

/-- What a rearranged text holds is what the plain text holds. -/
theorem read_rearranged {plain text : String} {fields : Fields}
    (reads : Strict.read plain = .ok (.mapping fields)) (rearranged : Strict.Rearranged plain text)
    {name : String} (strict : Format.ofName name = .strict) :
    read name plain = .ok fields ∧ read name text = .ok fields := by
  refine ⟨read_eq_ofValue reads strict, ?_⟩
  obtain ⟨form, other, spread, reordered, otherSpread⟩ := rearranged
  obtain ⟨shallow, holds⟩ := Strict.read_of_reads spread reads
  rw [read_of_spread otherSpread (reordered.depth_eq ▸ shallow) strict, ← reordered.value_eq, holds]
  rfl

end Document

/-! ### Loading -/

/-- A source in place of another one: a text may stand for another one in a document of the strict
format. -/
inductive Source.Replaced (plain text : String) : Source → Source → Prop
  | same (source : Source) : Replaced plain text source source
  | inline {name : String} :
      Document.Format.ofName name = .strict →
      Replaced plain text (.inline name plain) (.inline name text)

/-- A world in place of another one: files of the strict format may hold a text for another one. -/
structure World.Replaced (plain text : String) (world other : World) : Prop where
  environment : other.environment = world.environment
  read : ∀ path, other.read path = world.read path ∨
    Document.Format.ofName path = .strict ∧ world.read path = .ok plain ∧
      other.read path = .ok text

namespace Source

variable {plain text : String}

/-- In documents of the strict format two texts hold the same. -/
def Interchangeable (plain text : String) : Prop :=
  ∀ name, Document.Format.ofName name = .strict →
    Document.read name text = Document.read name plain

theorem Replaced.name_eq {source other : Source} (replaced : Replaced plain text source other) :
    other.name = source.name := by
  cases replaced <;> rfl

theorem Replaced.folder_eq {source other : Source} (replaced : Replaced plain text source other) :
    other.folder = source.folder := by
  cases replaced <;> rfl

theorem Replaced.document_eq {world otherWorld : World} {source other : Source}
    (interchangeable : Interchangeable plain text)
    (worlds : World.Replaced plain text world otherWorld)
    (replaced : Replaced plain text source other) :
    other.document otherWorld.read = source.document world.read := by
  cases replaced with
  | same source =>
      cases source with
      | inline name content => rfl
      | file path =>
          rcases worlds.read path with same | ⟨strict, reads, readsOther⟩
          · simp only [document, Source.text, same]
          · have same := interchangeable path strict
            simp [document, Source.text, reads, readsOther, Except.mapError, bind, Except.bind,
              Source.name, same]
  | inline strict =>
      have same := interchangeable _ strict
      simp [document, Source.text, bind, Except.bind, Source.name, same]

theorem layers_eq_of_replaced {world otherWorld : World}
    (interchangeable : Interchangeable plain text)
    (worlds : World.Replaced plain text world otherWorld) (levels : Nat) {source other : Source}
    (replaced : Replaced plain text source other) :
    layers otherWorld.read levels other = layers world.read levels source := by
  induction levels generalizing source other with
  | zero => rw [layers, layers, replaced.name_eq]
  | succ levels inductionHypothesis =>
      -- Included files are the same sources in both worlds.
      have below : layers otherWorld.read levels = layers world.read levels :=
        funext fun source => inductionHypothesis (.same source)
      rw [layers_succ, layers_succ, replaced.document_eq interchangeable worlds,
        replaced.name_eq, below]
      simp only [inner, replaced.folder_eq]

theorem mapM_layers_eq_of_replaced {world otherWorld : World}
    (interchangeable : Interchangeable plain text)
    (worlds : World.Replaced plain text world otherWorld) (levels : Nat)
    {sources others : List Source}
    (replaced : List.Forall₂ (Replaced plain text) sources others) :
    others.mapM (layers otherWorld.read levels) = sources.mapM (layers world.read levels) := by
  induction replaced with
  | nil => rfl
  | cons first _ inductionHypothesis =>
      rw [List.mapM_cons, List.mapM_cons, inductionHypothesis,
        layers_eq_of_replaced interchangeable worlds levels first]

end Source

namespace Loader

theorem merge_eq_of_replaced {plain text : String} {world otherWorld : World}
    (interchangeable : Source.Interchangeable plain text)
    (worlds : World.Replaced plain text world otherWorld) {sources others : List Source}
    (replaced : List.Forall₂ (Source.Replaced plain text) sources others) (loader : Loader) :
    loader.merge otherWorld others = loader.merge world sources := by
  have empty : others.isEmpty = sources.isEmpty := by
    cases replaced <;> rfl
  unfold merge Source.allLayers
  rw [empty, worlds.environment,
    Source.mapM_layers_eq_of_replaced interchangeable worlds _ replaced]

/-- Where a text holds a mapping, its blanks, comments and the order of members with distinct keys
do not matter: in the strict format a rearranged text holds the same mapping, and what is loaded
with it in place of the plain text is the same. -/
theorem load_rearranged {plain : String} {fields : Fields}
    (reads : Strict.read plain = .ok (.mapping fields)) :
    (∃ form : Strict.Form, Strict.Spread AllBlank form.spellings plain.toList) ∧
      ∀ text, Strict.Rearranged plain text →
        (∀ name, Document.Format.ofName name = .strict →
          Document.read name plain = .ok fields ∧ Document.read name text = .ok fields) ∧
        ∀ (loader : Loader) (world otherWorld : World) (sources others : List Source),
          World.Replaced plain text world otherWorld →
          List.Forall₂ (Source.Replaced plain text) sources others →
            loader.load otherWorld others = loader.load world sources := by
  obtain ⟨form, spread, _⟩ := (Strict.read_eq_ok_iff plain _).mp reads
  refine ⟨⟨form, spread⟩, fun text rearranged => ⟨?_, ?_⟩⟩
  · intro name strict
    exact Document.read_rearranged reads rearranged strict
  · intro loader world otherWorld sources others worlds replaced
    have interchangeable : Source.Interchangeable plain text := by
      intro name strict
      obtain ⟨holds, textHolds⟩ := Document.read_rearranged reads rearranged strict
      rw [textHolds, holds]
    unfold load
    rw [merge_eq_of_replaced interchangeable worlds replaced loader]

/-- A document of two members. -/
def plainPair : String := "\x7b\"a\": 1, \"b\": 2\x7d"

/-- The same members in another order, with comments. -/
def commentedPair : String := "\x7b\"b\": 2 /* two */, \"a\": 1 // one\n\x7d"

section Pair

open Strict

def nameA : Name :=
  .ofScan (show scanToken .start '"' ['a', '"'] = .ok (.text "a", ⟨1, 3⟩, []) from rfl)

def nameB : Name :=
  .ofScan (show scanToken .start '"' ['b', '"'] = .ok (.text "b", ⟨1, 3⟩, []) from rfl)

def one : Scalar :=
  .ofScan (show scanToken .start '1' [] = .ok (.number (.integer 1), ⟨1, 1⟩, []) from rfl) rfl

def two : Scalar :=
  .ofScan (show scanToken .start '2' [] = .ok (.number (.integer 2), ⟨1, 1⟩, []) from rfl) rfl

theorem rearranged_commentedPair : Rearranged plainPair commentedPair := by
  have space : Gap [' '] := .blank rfl .nil
  have block : Gap (' ' :: (blockComment " two ".toList ++ [])) :=
    .blank rfl (.block (by decide) .nil)
  have line : Gap (' ' :: (lineComment " one".toList ++ [])) := .blank rfl (.line (by decide) .nil)
  refine ⟨.mapping [(nameA, .scalar one), (nameB, .scalar two)],
    .mapping [(nameB, .scalar two), (nameA, .scalar one)], ?_,
    .members (by decide) (.swap _ _ _), ?_⟩
  · exact .of_gaps [([], .mappingOpen), ([], nameA.spelling), ([], .colon), ([' '], one.spelling),
      ([], .comma), ([' '], nameB.spelling), ([], .colon), ([' '], two.spelling),
      ([], .mappingClose)] (by simp [AllBlank, Strict.isBlank]) AllBlank.nil
  · exact .of_gaps [([], .mappingOpen), ([], nameB.spelling), ([], .colon), ([' '], two.spelling),
      (' ' :: (blockComment " two ".toList ++ []), .comma), ([' '], nameA.spelling), ([], .colon),
      ([' '], one.spelling), (' ' :: (lineComment " one".toList ++ []), .mappingClose)]
      (by simpa [Gap.nil, space] using ⟨block, line⟩) Gap.nil

def pairFields : Fields := [("a", .number (.integer 1)), ("b", .number (.integer 2))]

theorem read_plainPair : Strict.read plainPair = .ok (.mapping pairFields) := by
  have accepted : (Strict.read plainPair).toOption.any
      (fun value => value.same (.mapping pairFields)) = true := by
    decide +kernel
  cases reads : Strict.read plainPair with
  | error failure =>
      rw [reads] at accepted
      cases accepted
  | ok value =>
      rw [reads] at accepted
      rw [(Value.same_iff _ _).mp accepted]

theorem load_rearranged_pair :
    Strict.read plainPair = .ok (.mapping pairFields) ∧
      Rearranged plainPair commentedPair ∧
      Document.read "c.json" commentedPair = .ok pairFields ∧
      load ⟨none⟩ ⟨fun _ => .error .notFound, []⟩ [.inline "c.json" commentedPair] =
        load ⟨none⟩ ⟨fun _ => .error .notFound, []⟩ [.inline "c.json" plainPair] := by
  have strict : Document.Format.ofName "c.json" = .strict := by decide
  obtain ⟨documents, loads⟩ :=
    (load_rearranged read_plainPair).2 commentedPair rearranged_commentedPair
  exact ⟨read_plainPair, rearranged_commentedPair, (documents "c.json" strict).2,
    loads _ _ _ _ _ ⟨rfl, fun _ => .inl rfl⟩ (.cons (.inline strict) .nil)⟩

/-- In the other format comments are part of the values, and the strict format skips no white space
but its four blanks. -/
theorem rearranged_indented_differs :
    Strict.read plainPair = .ok (.mapping pairFields) ∧ Rearranged plainPair commentedPair ∧
      (Document.read "c.yaml" plainPair).toOption.any
        (fun fields => (Value.mapping fields).same (.mapping pairFields)) = true ∧
      (Document.read "c.yaml" commentedPair).toOption.any (fun fields => (Value.mapping fields).same
        (.mapping [("a", .text "1 // one"), ("b", .text "2 /* two */")])) = true ∧
      (Document.read "c.json" ("\x0c" ++ plainPair)).isOk = false := by
  refine ⟨read_plainPair, rearranged_commentedPair, ?_, ?_, ?_⟩
  · decide +kernel
  · decide +kernel
  · decide +kernel

end Pair

end Loader

end BotConfig

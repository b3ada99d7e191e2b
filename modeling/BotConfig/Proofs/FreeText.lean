import BotConfig.Proofs.Conservation
import BotConfig.Proofs.Literals
import BotConfig.Proofs.Substitution

/-!
Whole numbers in place of free text.

A document may write a free text as a whole number without quotes.  What is read is the text of the
number: the characters of the document where the number fits 64 bits, so that quotes make no
difference, and other characters where it does not.
-/

namespace BotConfig

open Comment

/-! ### Entries in order -/

namespace Fields

theorem ofEntries_concat (entries : List (String × Value)) (entry : String × Value) :
    ofEntries (entries ++ [entry]) = insert entry.1 entry.2 (ofEntries entries) :=
  List.foldl_concat _ _ _ _

theorem ascending_ofEntries (entries : List (String × Value)) : (ofEntries entries).Ascending := by
  induction entries using List.reverseRecOn with
  | nil => exact ascending_nil
  | append_singleton before entry inductionHypothesis =>
      rw [ofEntries_concat]
      exact inductionHypothesis.insert entry.1 entry.2

/-- The last entry with a key counts. -/
theorem get?_ofEntries_of_last {key : String} (before : List (String × Value))
    {after : List (String × Value)} (last : ∀ entry ∈ after, entry.1 ≠ key) (value : Value) :
    get? key (ofEntries (before ++ (key, value) :: after)) = some value := by
  induction after using List.reverseRecOn with
  | nil => rw [ofEntries_concat, get?_insert_self]
  | append_singleton others entry inductionHypothesis =>
      obtain ⟨othersAside, aside⟩ := List.forall_mem_append.mp last
      rw [← List.cons_append, ← List.append_assoc, ofEntries_concat,
        get?_insert_of_ne (aside entry (List.mem_singleton_self entry)),
        inductionHypothesis othersAside]

theorem Alike.ofEntries {may : String → Value → Value → Prop} {key : String} {value other : Value}
    (differ : may key value other) (before after : List (String × Value)) :
    Alike may (Fields.ofEntries (before ++ (key, value) :: after))
      (Fields.ofEntries (before ++ (key, other) :: after)) := by
  have same : Alike may (Fields.ofEntries before) (Fields.ofEntries before) := fun _ => .inl rfl
  induction after using List.reverseRecOn with
  | nil =>
      rw [ofEntries_concat, ofEntries_concat]
      exact same.insert key (.inr differ)
  | append_singleton others entry inductionHypothesis =>
      rw [← List.cons_append, ← List.append_assoc, ofEntries_concat, ← List.cons_append,
        ← List.append_assoc, ofEntries_concat]
      exact inductionHypothesis.insert entry.1 (.inl rfl)

end Fields

/-! ### Documents with room for a value -/

namespace Strict

/-- A document with room for a value at a key of a section. No later member stands at the section or
at the key. -/
structure Frame (outer name : String) where
  before : List (Name × Form)
  outerName : Name
  beforeInside : List (Name × Form)
  innerName : Name
  afterInside : List (Name × Form)
  after : List (Name × Form)
  spellsOuter : outerName.content = outer
  spellsName : innerName.content = name
  lastInside : ∀ member ∈ afterInside, member.1.content ≠ name
  last : ∀ member ∈ after, member.1.content ≠ outer

namespace Frame

variable {outer name : String} (frame : Frame outer name)

/-- The document with a value in the room for it. -/
def form (leaf : Scalar) : Form :=
  .mapping (frame.before ++ (frame.outerName, .mapping
    (frame.beforeInside ++ (frame.innerName, .scalar leaf) :: frame.afterInside)) :: frame.after)

/-- What the section holds. -/
def inside (value : Value) : Fields :=
  Fields.ofEntries (Form.entries frame.beforeInside ++ (name, value) ::
    Form.entries frame.afterInside)

/-- What the document holds. -/
def fields (value : Value) : Fields :=
  Fields.ofEntries (Form.entries frame.before ++ (outer, .mapping (frame.inside value)) ::
    Form.entries frame.after)

theorem value_form (leaf : Scalar) :
    (frame.form leaf).value = .mapping (frame.fields leaf.value) := by
  simp only [form, Form.value, Form.entries_eq_map, List.map_append, List.map_cons, fields, inside,
    frame.spellsOuter, frame.spellsName]

theorem depth_form (leaf other : Scalar) : (frame.form leaf).depth = (frame.form other).depth := by
  simp only [form, Form.depth, Form.membersDepth_append, Form.membersDepth]

theorem get?_fields (value : Value) :
    Fields.get? outer (frame.fields value) = some (.mapping (frame.inside value)) := by
  refine Fields.get?_ofEntries_of_last _ ?_ _
  rw [Form.entries_eq_map]
  exact List.forall_mem_map.mpr frame.last

theorem get?_inside (value : Value) : Fields.get? name (frame.inside value) = some value := by
  refine Fields.get?_ofEntries_of_last _ ?_ _
  rw [Form.entries_eq_map]
  exact List.forall_mem_map.mpr frame.lastInside

/-- Two spellings of a free text in the room for it. -/
theorem respelled {value other : Value} (isText : name ∈ freeTexts outer)
    (same : value.SameText other) : Respelled outer (frame.fields value) (frame.fields other) :=
  .ofEntries ⟨rfl, _, _, rfl, rfl, .ofEntries ⟨⟨name, isText, rfl⟩, same⟩ _ _⟩ _ _

end Frame

end Strict

/-! ### Fields of free text -/

/-- A text at a key is given as it is, unless it is empty. -/
def GivesText (fields : Fields) (name : String) (given : Option String) : Prop :=
  ∀ value content, Fields.get? name fields = some value → Decode.freeText value = .ok content →
    content.isEmpty = false → given = some content

theorem givesText_freeText {fields : Fields} {name data : String} {fallback : Option String}
    (gives : (Decode.Record.field name Decode.freeText fallback).Gives fields (.done data)) :
    GivesText fields name (some data) := by
  intro value content found reads _
  have decodes := Decode.Record.decode_of_gives_field found gives
  rw [reads] at decodes
  exact congrArg some (Except.ok.inj decodes).symm

theorem givesText_optionalFreeText {fields : Fields} {name : String} {data : Option String}
    {fallback : Option (Option String)}
    (gives : (Decode.Record.field name Decode.optionalFreeText fallback).Gives fields
      (.done data)) : GivesText fields name data := by
  intro value content found reads nonempty
  have decodes := Decode.Record.decode_of_gives_field found gives
  rw [Decode.optionalFreeText, reads, Except.map, nonempty, if_neg Bool.false_ne_true] at decodes
  exact (Except.ok.inj decodes).symm

theorem Exchange.reads_texts (fields : Fields) :
    Decode.Record.Reads record fields fun exchange =>
      GivesText fields "key" (some exchange.key) ∧
        GivesText fields "secret" (some exchange.secret) ∧
        GivesText fields "password" exchange.password ∧ GivesText fields "uid" exchange.uid := by
  refine .seq (.seq (.seq (.seq (.seq (.seq (.seq (.seq (.seq (.seq (.seq (.seq (.map ?_))))))))))))
  intro name _ key keyGives secret secretGives password passwordGives uid uidGives
  intros
  exact ⟨givesText_freeText keyGives, givesText_freeText secretGives,
    givesText_optionalFreeText passwordGives, givesText_optionalFreeText uidGives⟩

theorem Telegram.reads_texts (fields : Fields) :
    Decode.Record.Reads record fields fun telegram =>
      GivesText fields "token" (some telegram.token) ∧
        GivesText fields "chat_id" (some telegram.chatId) ∧
        GivesText fields "topic_id" telegram.topicId := by
  refine .seq (.seq (.seq (.seq (.seq (.seq (.seq (.map ?_)))))))
  intro enabled _ token tokenGives chat chatGives topic topicGives
  intros
  exact ⟨givesText_freeText tokenGives, givesText_freeText chatGives,
    givesText_optionalFreeText topicGives⟩

theorem ApiServer.reads_texts (fields : Fields) :
    Decode.Record.Reads record fields fun server =>
      GivesText fields "username" (some server.username) ∧
        GivesText fields "password" (some server.password) ∧
        GivesText fields "jwt_secret_key" server.tokenKey := by
  refine .seq (.seq (.seq (.seq (.seq (.seq (.seq (.seq (.map ?_))))))))
  intro enabled _ address _ port _ username usernameGives password passwordGives tokenKey
    tokenKeyGives
  intros
  exact ⟨givesText_freeText usernameGives, givesText_freeText passwordGives,
    givesText_optionalFreeText tokenKeyGives⟩

/-- A field of free text: its section, its key there, and the text that a configuration has for
it. -/
structure TextField where
  outer : String
  name : String
  view : Config → Option String

namespace TextField

/-- All fields that documents may write as bare numbers. -/
def all : List TextField := [
  ⟨"exchange", "key", fun config => some config.exchange.key⟩,
  ⟨"exchange", "secret", fun config => some config.exchange.secret⟩,
  ⟨"exchange", "password", fun config => config.exchange.password⟩,
  ⟨"exchange", "uid", fun config => config.exchange.uid⟩,
  ⟨"telegram", "token", fun config => config.telegram.map Telegram.token⟩,
  ⟨"telegram", "chat_id", fun config => config.telegram.map Telegram.chatId⟩,
  ⟨"telegram", "topic_id", fun config => config.telegram.bind Telegram.topicId⟩,
  ⟨"api_server", "username", fun config => config.apiServer.map ApiServer.username⟩,
  ⟨"api_server", "password", fun config => config.apiServer.map ApiServer.password⟩,
  ⟨"api_server", "jwt_secret_key", fun config => config.apiServer.bind ApiServer.tokenKey⟩]

theorem hasTexts_of_mem_all : ∀ field ∈ all,
    field.outer ∈ Config.textSections ∧ field.name ∈ freeTexts field.outer := by decide

theorem exists_of_optional {α : Type} {decode : Decode.Decoder α} {inside : Fields}
    {data : Option α} (reads : Decode.optional decode (.mapping inside) = .ok data) :
    ∃ given, decode (.mapping inside) = .ok given ∧ data = some given := by
  have mapped : (decode (.mapping inside)).map some = .ok data := reads
  obtain ⟨given, decodes, same⟩ := Strict.exists_of_map_eq_ok mapped
  exact ⟨given, decodes, same.symm⟩

/-- Every field of free text is what its own key gives. -/
theorem givesText_of_mem_all {document : Fields} {config : Config}
    (reads : Config.ofDocument document = .ok config) :
    ∀ field ∈ all, ∀ inside, Fields.get? field.outer document = some (.mapping inside) →
      GivesText inside field.name (field.view config) := by
  obtain ⟨decoded, decodes, rfl⟩ := Config.exists_completed reads
  have parts := Config.readFrom_of_decode decodes
  generalize Config.completed document decoded = config at parts
  have exchange {inside : Fields}
      (found : Fields.get? "exchange" document = some (.mapping inside)) :
      GivesText inside "key" (some config.exchange.key) ∧
        GivesText inside "secret" (some config.exchange.secret) ∧
        GivesText inside "password" config.exchange.password ∧
        GivesText inside "uid" config.exchange.uid := by
    have part : Config.Part.ReadFrom _ (Fields.get? "exchange" document) config :=
      parts (Config.part "exchange" Exchange.decode (some .absent) Config.exchange)
        (by simp [Config.parts])
    rw [found] at part
    exact Exchange.reads_texts inside _ (Decode.Record.gives_of_decoder part)
  have telegram {inside : Fields}
      (found : Fields.get? "telegram" document = some (.mapping inside)) :
      GivesText inside "token" (config.telegram.map Telegram.token) ∧
        GivesText inside "chat_id" (config.telegram.map Telegram.chatId) ∧
        GivesText inside "topic_id" (config.telegram.bind Telegram.topicId) := by
    have part : Config.Part.ReadFrom _ (Fields.get? "telegram" document) config :=
      parts (Config.part "telegram" (Decode.optional Telegram.decode) (some none) Config.telegram)
        (by simp [Config.parts])
    rw [found] at part
    obtain ⟨telegram, decodes, given⟩ := exists_of_optional part
    rw [given]
    exact Telegram.reads_texts inside _ (Decode.Record.gives_of_decoder decodes)
  have apiServer {inside : Fields}
      (found : Fields.get? "api_server" document = some (.mapping inside)) :
      GivesText inside "username" (config.apiServer.map ApiServer.username) ∧
        GivesText inside "password" (config.apiServer.map ApiServer.password) ∧
        GivesText inside "jwt_secret_key" (config.apiServer.bind ApiServer.tokenKey) := by
    have part : Config.Part.ReadFrom _ (Fields.get? "api_server" document) config :=
      parts (Config.part "api_server" (Decode.optional ApiServer.decode) (some none)
        Config.apiServer) (by simp [Config.parts])
    rw [found] at part
    obtain ⟨server, decodes, given⟩ := exists_of_optional part
    rw [given]
    exact ApiServer.reads_texts inside _ (Decode.Record.gives_of_decoder decodes)
  unfold all
  refine List.forall_mem_cons.mpr ⟨fun _ found => (exchange found).1, ?_⟩
  refine List.forall_mem_cons.mpr ⟨fun _ found => (exchange found).2.1, ?_⟩
  refine List.forall_mem_cons.mpr ⟨fun _ found => (exchange found).2.2.1, ?_⟩
  refine List.forall_mem_cons.mpr ⟨fun _ found => (exchange found).2.2.2, ?_⟩
  refine List.forall_mem_cons.mpr ⟨fun _ found => (telegram found).1, ?_⟩
  refine List.forall_mem_cons.mpr ⟨fun _ found => (telegram found).2.1, ?_⟩
  refine List.forall_mem_cons.mpr ⟨fun _ found => (telegram found).2.2, ?_⟩
  refine List.forall_mem_cons.mpr ⟨fun _ found => (apiServer found).1, ?_⟩
  refine List.forall_mem_cons.mpr ⟨fun _ found => (apiServer found).2.1, ?_⟩
  exact List.forall_mem_singleton.mpr fun _ found => (apiServer found).2.2

end TextField

/-! ### Literals in place of texts -/

namespace Loader

/-- A whole number without quotes is read for a free text as the text of the number, which has the
characters of the document exactly if the number fits 64 bits. In that case quotes around it make no
difference to what is read, nor to what is loaded where no override is one of the section as a
whole. -/
theorem text_of_literal {field : TextField} (listed : field ∈ TextField.all)
    (frame : Strict.Frame field.outer field.name) (literal : Strict.IntegerLiteral)
    {bare quoted : Strict.Scalar} (isBare : bare.spelling.text = literal.characters)
    (isQuoted : quoted.spelling.text = '"' :: (literal.characters ++ ['"']))
    (shallow : (frame.form bare).depth ≤ Strict.maxDepth) {plain text : String}
    (spells : Strict.Spread Gap (frame.form bare).spellings plain.toList)
    (otherSpells : Strict.Spread Gap (frame.form quoted).spellings text.toList) :
    ∃ number first second, literal.number? = some number ∧
      (∀ name, Document.Format.ofName name = .strict →
        Document.read name plain = .ok first ∧ Document.read name text = .ok second) ∧
      (∀ config, Config.ofDocument first = .ok config → field.view config = some number.text) ∧
      (∀ config, Config.ofDocument second = .ok config → field.view config = some literal.text) ∧
      (number.text = literal.text ↔ literal.Fits) ∧
      (literal.Fits → Config.ofDocument first = Config.ofDocument second ∧
        ∀ (loader : Loader) (world otherWorld : World) (sources others : List Source),
          World.Replaced plain text world otherWorld →
          List.Forall₂ (Source.Replaced plain text) sources others →
          (∀ override ∈ loader.overrides world.environment, override.path ≠ [field.outer]) →
            loader.load world sources = loader.load otherWorld others) := by
  obtain ⟨hasTexts, isText⟩ := TextField.hasTexts_of_mem_all field listed
  obtain ⟨number, isNumber, bareToken⟩ := literal.token_of_bare isBare
  have bareValue : bare.value = .number number := by
    have spells := bare.spells
    rw [bareToken] at spells
    exact (Option.some.inj spells).symm
  have quotedValue : quoted.value = .text literal.text := by
    have spells := quoted.spells
    rw [literal.token_of_quoted isQuoted] at spells
    exact (Option.some.inj spells).symm
  have documents (name : String) (strict : Document.Format.ofName name = .strict) :
      Document.read name plain = .ok (frame.fields (.number number)) ∧
        Document.read name text = .ok (frame.fields (.text literal.text)) := by
    rw [Document.read_of_spread spells shallow strict, Document.read_of_spread otherSpells
      (frame.depth_form bare quoted ▸ shallow) strict, frame.value_form, frame.value_form,
      bareValue, quotedValue]
    exact ⟨rfl, rfl⟩
  have gives {value : Value} {content : String} (reads : Decode.freeText value = .ok content)
      (nonempty : content.isEmpty = false) (config : Config)
      (decodes : Config.ofDocument (frame.fields value) = .ok config) :
      field.view config = some content :=
    TextField.givesText_of_mem_all decodes field listed _ (frame.get?_fields value) value content
      (frame.get?_inside value) reads nonempty
  have fits : number.text = literal.text ↔ literal.Fits := by
    rw [← literal.text_eq_iff_fits, isNumber, Option.map_some, Option.some.injEq]
  refine ⟨number, _, _, isNumber, documents, gives rfl number.isEmpty_text,
    gives rfl literal.isEmpty_text, fits, fun small => ?_⟩
  have respelled : Respelled field.outer (frame.fields (.number number))
      (frame.fields (.text literal.text)) :=
    frame.respelled isText ⟨.number number, .text _, congrArg Except.ok (fits.mpr small)⟩
  refine ⟨Config.ofDocument_respelled hasTexts respelled (Fields.ascending_ofEntries _)
    (Fields.ascending_ofEntries _), ?_⟩
  intro loader world otherWorld sources others worlds replaced stays
  refine load_respelled hasTexts (fun name strict => ?_) worlds replaced stays
  rw [(documents name strict).1, (documents name strict).2]
  exact .ok respelled

section Chat

open Strict

/-- A document with the chat of the bot. -/
def chatDocument (written : String) : String :=
  "\x7b\"telegram\": \x7b\"chat_id\": " ++ written ++ "\x7d\x7d"

/-- What is loaded of a small configuration and the chat of the bot, where a variable holds the
token. -/
def loadChat (written : String) : Traced Config :=
  load ⟨some "TRADING"⟩ ⟨fun _ => .error .notFound, [("TRADING__TELEGRAM__TOKEN", "7")]⟩
    [small, .inline "chat.json" (chatDocument written)]

def chat : IntegerLiteral :=
  ⟨true, "1001234567890".toList, List.all_eq_true.mp rfl, .inr ⟨_, _, rfl, by decide⟩⟩

def bareChat : Scalar :=
  .ofScan (show scanToken .start '-' chat.digits =
    .ok (.number (.integer (-1001234567890)), ⟨1, 14⟩, []) from rfl) rfl

def quotedChat : Scalar :=
  .ofScan (show scanToken .start '"' (chat.characters ++ ['"']) =
    .ok (.text "-1001234567890", ⟨1, 16⟩, []) from rfl) rfl

def chatFrame : Frame "telegram" "chat_id" where
  before := []
  outerName := .ofScan (show scanToken .start '"' "telegram\"".toList =
    .ok (.text "telegram", ⟨1, 10⟩, []) from rfl)
  beforeInside := []
  innerName := .ofScan (show scanToken .start '"' "chat_id\"".toList =
    .ok (.text "chat_id", ⟨1, 9⟩, []) from rfl)
  afterInside := []
  after := []
  spellsOuter := rfl
  spellsName := rfl
  lastInside := List.forall_mem_nil _
  last := List.forall_mem_nil _

theorem spread_between {spellings : List Spelling} {start middle finish : String}
    {text : List Char} (spells : text = middle.toList)
    (spread : Spread Gap spellings (start.toList ++ (text ++ finish.toList))) :
    Spread Gap spellings (start ++ middle ++ finish).toList := by
  subst spells
  rw [String.toList_append, String.toList_append, List.append_assoc]
  exact spread

theorem spread_chat {leaf : Scalar} {written : String}
    (spells : leaf.spelling.text = written.toList) :
    Spread Gap (chatFrame.form leaf).spellings (chatDocument written).toList := by
  have space : Gap [' '] := .blank rfl .nil
  refine spread_between spells ?_
  exact Spread.of_gaps [([], .mappingOpen), ([], chatFrame.outerName.spelling),
    ([], .colon), ([' '], .mappingOpen), ([], chatFrame.innerName.spelling), ([], .colon),
    ([' '], leaf.spelling), ([], .mappingClose), ([], .mappingClose)]
    (by simp [Gap.nil, space]) Gap.nil

/-- The number of a chat in a document, without quotes and with them. -/
theorem text_of_literal_chat :
    Spread Gap (chatFrame.form bareChat).spellings (chatDocument "-1001234567890").toList ∧
      Spread Gap (chatFrame.form quotedChat).spellings (chatDocument "\"-1001234567890\"").toList ∧
      chat.Fits ∧ loadChat "-1001234567890" = loadChat "\"-1001234567890\"" ∧
      ∃ config, (loadChat "-1001234567890").outcome = .ok config ∧
        config.telegram.map Telegram.chatId = some "-1001234567890" := by
  have listed : ⟨"telegram", "chat_id", fun config => config.telegram.map Telegram.chatId⟩ ∈
      TextField.all := by
    simp [TextField.all]
  have spread : Spread Gap (chatFrame.form bareChat).spellings
      (chatDocument "-1001234567890").toList := spread_chat rfl
  have quotedSpread : Spread Gap (chatFrame.form quotedChat).spellings
      (chatDocument "\"-1001234567890\"").toList := spread_chat rfl
  have fits : chat.Fits := by decide
  have reads : (loadChat "-1001234567890").outcome.toOption.any (fun config =>
      config.telegram.map Telegram.chatId == some "-1001234567890") = true := by
    decide +kernel
  obtain ⟨number, first, second, -, -, -, -, -, same⟩ :=
    text_of_literal listed chatFrame chat rfl rfl (by decide) spread quotedSpread
  have stays : ∀ override ∈ overrides ⟨some "TRADING"⟩ [("TRADING__TELEGRAM__TOKEN", "7")],
      override.path ≠ ["telegram"] := by
    decide +kernel
  obtain ⟨config, loads, isChat⟩ := Traced.exists_eq_ok_of_any reads
  refine ⟨spread, quotedSpread, fits, ?_, config, loads, beq_iff_eq.mp isChat⟩
  exact (same fits).2 _ ⟨_, _⟩ ⟨_, _⟩ _ _ ⟨rfl, fun _ => .inl rfl⟩
    (.cons (.same _) (.cons (.inline (by decide)) .nil)) stays

/-- A number with more digits than 64 bits have room for is written in another way, unless it stands
between quotes. -/
theorem text_of_literal_rounded :
    (∃ config, (loadChat "123456789012345678901").outcome = .ok config ∧
      config.telegram.map Telegram.chatId = some "1.2345678901234567e+20") ∧
    ∃ config, (loadChat "\"123456789012345678901\"").outcome = .ok config ∧
      config.telegram.map Telegram.chatId = some "123456789012345678901" := by
  have bare : (loadChat "123456789012345678901").outcome.toOption.any (fun config =>
      config.telegram.map Telegram.chatId == some "1.2345678901234567e+20") = true := by
    decide +kernel
  have quoted : (loadChat "\"123456789012345678901\"").outcome.toOption.any (fun config =>
      config.telegram.map Telegram.chatId == some "123456789012345678901") = true := by
    decide +kernel
  obtain ⟨config, loads, isRounded⟩ := Traced.exists_eq_ok_of_any bare
  obtain ⟨other, otherLoads, isKept⟩ := Traced.exists_eq_ok_of_any quoted
  exact ⟨⟨config, loads, beq_iff_eq.mp isRounded⟩, other, otherLoads, beq_iff_eq.mp isKept⟩

end Chat

end Loader

end BotConfig

import Mathlib.Data.List.Forall2
import Mhtml.Proofs.Editor.Publication
import Mhtml.Proofs.Json.Records

/-!
# Edits

An edit writes a version of a document or closes the document. `Message.Edits` says
which edit a message is in terms of its JSON alone: the method, the record under
`textDocument` with the identifier and the version, and the text of an opened document
or of the last change. `Message.edit?_eq_some_iff` says that what the server reads from
a message is that edit and nothing else.
-/

namespace Mhtml

/-- A version of a text. -/
structure Write where
  version : Int
  text : List Char
deriving DecidableEq, Repr

/-- What an editor does to a document. -/
inductive Edit where
  /-- It writes a version of it. -/
  | write (uri : String) (w : Write)
  /-- It closes it. -/
  | close (uri : String)
deriving DecidableEq, Repr

namespace Edit

/-- The document that is edited. -/
def uri : Edit → String
  | write uri _ => uri
  | close uri => uri

/-- What is written to a document, if anything. -/
def writeTo? (uri : String) : Edit → Option Write
  | write about w => if about = uri then some w else none
  | close _ => none

theorem writeTo?_of_ne {e : Edit} {uri : String} (other : e.uri ≠ uri) : e.writeTo? uri = none := by
  cases e with
  | write about w => exact if_neg other
  | close about => rfl

end Edit

/-! ## Edits in JSON -/

namespace Json

/-- An integer of 32 bits. -/
def IsInt32 (n : Int) (v : Json) : Prop :=
  v = int n ∧ -0x80000000 ≤ n ∧ n < 0x80000000

/-- An integer of 32 bits without a sign. -/
def IsNat32 (v : Json) : Prop :=
  ∃ n, v = int n ∧ 0 ≤ n ∧ n < 0x100000000

/-- A text. -/
def IsText (text : List Char) (v : Json) : Prop :=
  v = str (String.ofList text)

/-- A position. -/
def IsPosition (v : Json) : Prop :=
  v.Has ["line", "character"] "line" IsNat32 ∧ v.Has ["line", "character"] "character" IsNat32

/-- A range. -/
def IsRange (v : Json) : Prop :=
  v.Has ["start", "end"] "start" IsPosition ∧ v.Has ["start", "end"] "end" IsPosition

/-- The names in a change. -/
def changeNames : List String := ["range", "rangeLength", "text"]

/-- A change that leads to a text. -/
structure IsChange (v : Json) (text : List Char) : Prop where
  range : v.MayHave changeNames "range" IsRange
  rangeLength : v.MayHave changeNames "rangeLength" IsNat32
  text : v.Has changeNames "text" (IsText text)

/-- The names in an opened document. -/
def itemNames : List String := ["uri", "languageId", "version", "text"]

section Reading

variable [Uri.Reader]

/-- A text that identifies a document. -/
def Identifies (uri : String) (v : Json) : Prop :=
  ∃ text, v = str text ∧ Uri.Reader.normal? text = some uri

/-- A document that is opened. -/
structure IsItem (uri : String) (w : Write) (v : Json) : Prop where
  uri : v.Has itemNames "uri" (Identifies uri)
  languageId : v.Has itemNames "languageId" fun v => ∃ language, IsText language v
  version : v.Has itemNames "version" (IsInt32 w.version)
  text : v.Has itemNames "text" (IsText w.text)

/-- A version of a document. -/
structure IsVersion (uri : String) (version : Int) (v : Json) : Prop where
  uri : v.Has ["uri", "version"] "uri" (Identifies uri)
  version : v.Has ["uri", "version"] "version" (IsInt32 version)

/-- Changes of which the last one leads to a text. -/
def AreChanges (text : List Char) (v : Json) : Prop :=
  ∃ changes texts, v = arr changes ∧ List.Forall₂ IsChange changes texts ∧
    texts.getLast? = some text

end Reading

end Json

open Json in
/-- What a message does to a document, read off its JSON. -/
inductive Message.Edits [Uri.Reader] (m : Message) : Edit → Prop
  /-- It opens the document with a text. -/
  | opened {params : Json} {uri : String} {w : Write}
      (method : m.method = "textDocument/didOpen") (notification : m.id? = none)
      (carries : m.params? = some params)
      (document : params.Has ["textDocument"] "textDocument" (IsItem uri w)) :
      Edits m (.write uri w)
  /-- It changes the document; the last change counts. -/
  | changed {params : Json} {uri : String} {w : Write}
      (method : m.method = "textDocument/didChange") (notification : m.id? = none)
      (carries : m.params? = some params)
      (document : params.Has ["textDocument", "contentChanges"] "textDocument"
        (IsVersion uri w.version))
      (changes : params.Has ["textDocument", "contentChanges"] "contentChanges"
        (AreChanges w.text)) :
      Edits m (.write uri w)
  /-- It closes the document. -/
  | closed {params : Json} {uri : String}
      (method : m.method = "textDocument/didClose") (notification : m.id? = none)
      (carries : m.params? = some params)
      (document : params.Has ["textDocument"] "textDocument"
        (Has ["uri"] "uri" (Identifies uri))) :
      Edits m (.close uri)

/-! ## What the server reads -/

/-- What an action does to a document. Of the texts of a change the last one counts, and without any
it does nothing. -/
def Action.edit? : Action → Option Edit
  | openText uri version text => some (.write uri ⟨version, text⟩)
  | changeText uri version texts => texts.getLast?.map fun text => .write uri ⟨version, text⟩
  | closeText uri => some (.close uri)
  | _ => none

/-- What the server reads that a message does to a document. A request does nothing to it. -/
def Message.edit? [Uri.Reader] (m : Message) : Option Edit :=
  if m.isRequest then none
  else (Action.decode? (Method.ofName m.method) m.params?).bind Action.edit?

section Values

variable {v : Json} {text : List Char} {n : Int}

theorem Json.int32?_eq_some_iff : v.int32? = some n ↔ v.IsInt32 n := by
  cases v with
  | int m =>
    rw [int32?, Option.ite_none_right_eq_some, IsInt32, int.injEq, Option.some.injEq, and_comm]
    refine and_congr_right ?_
    rintro rfl
    rfl
  | _ => simp [int32?, IsInt32]

theorem Json.str?_eq_some_iff {t : String} : v.str? = some t ↔ v = str t := by
  cases v <;> simp [str?]

theorem Json.items?_eq_some_iff {items : List Json} : v.items? = some items ↔ v = arr items := by
  cases v <;> simp [items?]

theorem Json.toList_str?_eq_some_iff : v.str?.map String.toList = some text ↔ v.IsText text := by
  cases v <;> simp [str?, IsText, String.ext_iff]

theorem Shape.int32_eq_true_iff : int32 v = true ↔ ∃ n, v.IsInt32 n := by
  simp only [int32, Option.isSome_iff_exists, Json.int32?_eq_some_iff]

theorem Shape.uint32_eq_true_iff : uint32 v = true ↔ v.IsNat32 := by
  cases v <;> simp [uint32, Json.uint32?, Json.IsNat32]

theorem Shape.text_eq_true_iff : Shape.text v = true ↔ ∃ text, v.IsText text := by
  simp only [← Json.toList_str?_eq_some_iff, ← Option.isSome_iff_exists, Option.isSome_map,
    Shape.text]

end Values

namespace Action

variable {layout : Layout} {v : Json}

theorem textOf?_eq_some_iff (plain : layout.IsPlain) {name : String} {text : List Char} :
    textOf? layout name v = some text ↔ v.Has layout.names name (Json.IsText text) := by
  rw [textOf?, Option.map_bind]
  exact plain.bind_get?_iff fun _ => Json.toList_str?_eq_some_iff

theorem versionOf?_eq_some_iff (plain : layout.IsPlain) {version : Int} :
    versionOf? layout v = some version ↔ v.Has layout.names "version" (Json.IsInt32 version) :=
  plain.bind_get?_iff fun _ => Json.int32?_eq_some_iff

end Action

namespace Parameters

variable {v : Json}

theorem isPlain_position : position.IsPlain := ⟨rfl, rfl, rfl⟩

theorem isPlain_range : range.IsPlain := ⟨rfl, rfl, rfl⟩

theorem isPlain_change : change.IsPlain := ⟨rfl, rfl, rfl⟩

theorem position_shape_iff : position.shape v = true ↔ v.IsPosition := by
  rw [isPlain_position.shape_iff]
  simp only [position, List.forall_mem_cons, Member.takes_required_iff, Shape.uint32_eq_true_iff]
  simp [Json.IsPosition, Json.Has, Layout.names, Member.required]

theorem range_shape_iff : range.shape v = true ↔ v.IsRange := by
  rw [isPlain_range.shape_iff]
  simp only [range, List.forall_mem_cons, Member.takes_required_iff, position_shape_iff]
  simp [Json.IsRange, Json.Has, Layout.names, Member.required]

theorem isChange_iff {text : List Char} :
    change.shape v = true ∧ Action.textOf? change "text" v = some text ↔ v.IsChange text := by
  rw [isPlain_change.shape_iff, Action.textOf?_eq_some_iff isPlain_change]
  simp only [change, List.forall_mem_cons, Member.takes_required_iff, Member.takes_optional_iff,
    Shape.text_eq_true_iff, Shape.uint32_eq_true_iff, range_shape_iff]
  constructor
  · rintro ⟨⟨range, rangeLength, -⟩, text⟩
    exact ⟨range, rangeLength, text⟩
  · rintro ⟨range, rangeLength, text⟩
    exact ⟨⟨range, rangeLength, text.imp fun _ is => ⟨_, is⟩, by simp⟩, text⟩

/-- The texts of some changes are what the changes lead to. -/
theorem areChanges_iff {changes : List Json} {texts : List (List Char)} :
    changes.all change.shape = true ∧ changes.mapM (Action.textOf? change "text") = some texts ↔
      List.Forall₂ Json.IsChange changes texts := by
  induction changes generalizing texts with
  | nil => cases texts <;> simp
  | cons v changes ih =>
    rw [List.mapM_cons, List.all_cons, Bool.and_eq_true, List.forall₂_cons_left_iff]
    simp only [Option.bind_eq_bind, Option.bind_eq_some_iff, ← ih, ← isChange_iff]
    constructor
    · rintro ⟨⟨first, rest⟩, text, read, others, each, same⟩
      cases same
      exact ⟨text, others, ⟨first, read⟩, ⟨rest, each⟩, rfl⟩
    · rintro ⟨text, others, ⟨first, read⟩, ⟨rest, each⟩, rfl⟩
      exact ⟨⟨first, rest⟩, text, read, others, each, rfl⟩

end Parameters

section Reading

variable [Uri.Reader] {v : Json}

namespace Parameters

theorem uri_eq_true_iff : uri v = true ↔ ∃ uri, v.Identifies uri := by
  cases v <;> simp [uri, Json.str?, Json.Identifies, Uri.isValid, Option.isSome_iff_exists]

theorem isPlain_documentItem : documentItem.IsPlain := ⟨rfl, rfl, rfl⟩

theorem isPlain_versionedId : versionedId.IsPlain := ⟨rfl, rfl, rfl⟩

theorem isPlain_documentId : documentId.IsPlain := ⟨rfl, rfl, rfl⟩

theorem isPlain_didOpen : didOpen.IsPlain := ⟨rfl, rfl, rfl⟩

theorem isPlain_didChange : didChange.IsPlain := ⟨rfl, rfl, rfl⟩

theorem isPlain_didClose : didClose.IsPlain := ⟨rfl, rfl, rfl⟩

end Parameters

namespace Action

open Parameters

theorem uriOf?_eq_some_iff {layout : Layout} (plain : layout.IsPlain) {uri : String} :
    uriOf? layout v = some uri ↔ v.Has layout.names "uri" (Json.Identifies uri) := by
  rw [uriOf?, Option.bind_assoc]
  refine plain.bind_get?_iff fun w => ?_
  simp only [Option.bind_eq_some_iff, Json.str?_eq_some_iff, Json.Identifies]

theorem isItem_iff {uri : String} {version : Int} {text : List Char} :
    documentItem.shape v = true ∧ uriOf? documentItem v = some uri ∧
      versionOf? documentItem v = some version ∧ textOf? documentItem "text" v = some text ↔
      v.IsItem uri ⟨version, text⟩ := by
  rw [isPlain_documentItem.shape_iff, uriOf?_eq_some_iff isPlain_documentItem,
    versionOf?_eq_some_iff isPlain_documentItem, textOf?_eq_some_iff isPlain_documentItem]
  simp only [documentItem, List.forall_mem_cons, Member.takes_required_iff,
    Shape.text_eq_true_iff, Shape.int32_eq_true_iff, uri_eq_true_iff]
  constructor
  · rintro ⟨⟨-, language, -⟩, uri, version, text⟩
    exact ⟨uri, language, version, text⟩
  · rintro ⟨uri, language, version, text⟩
    exact ⟨⟨uri.imp fun _ is => ⟨_, is⟩, language,
      version.imp fun _ is => ⟨_, is⟩,
      text.imp fun _ is => ⟨_, is⟩, by simp⟩, uri, version, text⟩

theorem isVersion_iff {uri : String} {version : Int} :
    versionedId.shape v = true ∧ uriOf? versionedId v = some uri ∧
      versionOf? versionedId v = some version ↔ v.IsVersion uri version := by
  rw [isPlain_versionedId.shape_iff, uriOf?_eq_some_iff isPlain_versionedId,
    versionOf?_eq_some_iff isPlain_versionedId]
  simp only [versionedId, List.forall_mem_cons, Member.takes_required_iff,
    Shape.int32_eq_true_iff, uri_eq_true_iff]
  constructor
  · rintro ⟨-, uri, version⟩
    exact ⟨uri, version⟩
  · rintro ⟨uri, version⟩
    exact ⟨⟨uri.imp fun _ is => ⟨_, is⟩,
      version.imp fun _ is => ⟨_, is⟩, by simp⟩, uri, version⟩

theorem identifies_iff {uri : String} :
    documentId.shape v = true ∧ uriOf? documentId v = some uri ↔
      v.Has ["uri"] "uri" (Json.Identifies uri) := by
  rw [isPlain_documentId.shape_iff, uriOf?_eq_some_iff isPlain_documentId]
  simp only [documentId, List.forall_mem_cons, Member.takes_required_iff, uri_eq_true_iff]
  constructor
  · rintro ⟨-, uri⟩
    exact uri
  · intro uri
    exact ⟨⟨uri.imp fun _ is => ⟨_, is⟩, by simp⟩, uri⟩

/-- What is read of an opened document. -/
theorem ofParameters?_didOpen_iff {params : Json} {uri : String} {version : Int}
    {text : List Char} :
    didOpen.shape params = true ∧
      ofParameters? didOpen params .didOpen = some (.openText uri version text) ↔
      params.Has ["textDocument"] "textDocument" (Json.IsItem uri ⟨version, text⟩) := by
  simp only [ofParameters?, Option.bind_eq_bind, Option.bind_eq_some_iff, isPlain_didOpen.get?_eq]
  constructor
  · rintro ⟨shape, item, found, _, uri, _, version, _, text, same⟩
    cases same
    have fits := isPlain_didOpen.shape_of_field? shape (.head _) found
    exact ⟨item, found, isItem_iff.1 ⟨fits, uri, version, text⟩⟩
  · rintro ⟨item, found, is⟩
    obtain ⟨fits, uri, version, text⟩ := isItem_iff.2 is
    refine ⟨(isPlain_didOpen.shape_iff params).2 ?_, item, found, _, uri, _, version, _, text, rfl⟩
    simp only [didOpen, List.forall_mem_singleton,
      Member.takes_required_iff]
    exact ⟨item, found, fits⟩

/-- What is read of a changed document. -/
theorem ofParameters?_didChange_iff {params : Json} {uri : String} {version : Int}
    {texts : List (List Char)} :
    didChange.shape params = true ∧
      ofParameters? didChange params .didChange = some (.changeText uri version texts) ↔
      params.Has ["textDocument", "contentChanges"] "textDocument" (Json.IsVersion uri version) ∧
      params.Has ["textDocument", "contentChanges"] "contentChanges"
        fun v => ∃ changes, v = .arr changes ∧ List.Forall₂ Json.IsChange changes texts := by
  simp only [ofParameters?, Option.bind_eq_bind, Option.bind_eq_some_iff, isPlain_didChange.get?_eq]
  constructor
  · rintro ⟨shape, id, found, changes, ⟨v, below, items⟩, _, uri, _, version, _, read, same⟩
    cases same
    have fits := isPlain_didChange.shape_of_field? shape (.head _) found
    have each := isPlain_didChange.shape_of_field? shape (.tail _ (.head _)) below
    cases Json.items?_eq_some_iff.1 items
    exact ⟨⟨id, found, isVersion_iff.1 ⟨fits, uri, version⟩⟩, _, below, changes, rfl,
      areChanges_iff.1 ⟨each, read⟩⟩
  · rintro ⟨⟨id, found, is⟩, _, below, changes, rfl, are⟩
    obtain ⟨fits, uri, version⟩ := isVersion_iff.2 is
    obtain ⟨each, read⟩ := areChanges_iff.2 are
    refine ⟨(isPlain_didChange.shape_iff params).2 ?_, id, found, changes, ⟨_, below, rfl⟩, _, uri,
      _, version, _, read, rfl⟩
    simp only [didChange, List.forall_mem_cons,
      Member.takes_required_iff]
    exact ⟨⟨id, found, fits⟩, ⟨_, below, each⟩, by simp⟩

/-- What is read of a closed document. -/
theorem ofParameters?_didClose_iff {params : Json} {uri : String} :
    didClose.shape params = true ∧
      ofParameters? didClose params .didClose = some (.closeText uri) ↔
      params.Has ["textDocument"] "textDocument" (Json.Has ["uri"] "uri" (Json.Identifies uri)) := by
  simp only [ofParameters?, ofParameters?.uri?, Option.map_eq_some_iff, Option.bind_eq_some_iff,
    isPlain_didClose.get?_eq]
  constructor
  · rintro ⟨shape, _, ⟨id, found, uri⟩, same⟩
    cases same
    have fits := isPlain_didClose.shape_of_field? shape (.head _) found
    exact ⟨id, found, identifies_iff.1 ⟨fits, uri⟩⟩
  · rintro ⟨id, found, names⟩
    obtain ⟨fits, uri⟩ := identifies_iff.2 names
    refine ⟨(isPlain_didClose.shape_iff params).2 ?_, _, ⟨id, found, uri⟩, rfl⟩
    simp only [didClose, document, List.forall_mem_singleton,
      Member.takes_required_iff]
    exact ⟨id, found, fits⟩

end Action

/-- Only the three methods have their names. -/
theorem Method.eq_of_ofName {name : String} :
    (ofName name = .didOpen → name = "textDocument/didOpen") ∧
      (ofName name = .didChange → name = "textDocument/didChange") ∧
      (ofName name = .didClose → name = "textDocument/didClose") := by
  unfold ofName
  split <;> (try split) <;> (try split) <;> simp

/-- What the server takes for an edit is one. -/
theorem Message.edits_of_edit? {m : Message} {e : Edit} (edit : m.edit? = some e) : m.Edits e := by
  obtain ⟨notification, acts⟩ := Option.ite_none_left_eq_some.1 edit
  have unnamed : m.id? = none := by
    rwa [Message.isRequest, Option.not_isSome_iff_eq_none] at notification
  obtain ⟨action, read, same⟩ := Option.bind_eq_some_iff.1 acts
  obtain ⟨params, layout, carries, known, shape, read⟩ := Action.decode?_eq_some_iff.1 read
  have named := Action.method_of_ofParameters? read
  rw [named] at known read
  -- The action tells the method, and the method tells the layout of the parameters.
  cases action with
  | openText uri version text =>
    cases known
    cases same
    exact .opened (Method.eq_of_ofName.1 named) unnamed carries
      (Action.ofParameters?_didOpen_iff.1 ⟨shape, read⟩)
  | changeText uri version texts =>
    cases known
    obtain ⟨text, last, built⟩ := Option.map_eq_some_iff.1 same
    cases built
    obtain ⟨document, v, found, changes, is, each⟩ :=
      Action.ofParameters?_didChange_iff.1 ⟨shape, read⟩
    exact .changed (Method.eq_of_ofName.2.1 named) unnamed carries document
      ⟨v, found, changes, texts, is, each, last⟩
  | closeText uri =>
    cases known
    cases same
    exact .closed (Method.eq_of_ofName.2.2 named) unnamed carries
      (Action.ofParameters?_didClose_iff.1 ⟨shape, read⟩)
  | ready | hover | completion | outline => cases same

/-- The server takes a notification that is read as an edit for that edit. -/
theorem Message.edit?_eq_of_decode? {m : Message} {params : Json} {layout : Layout} {action : Action}
    (notification : m.id? = none) (carries : m.params? = some params)
    (known : (Method.ofName m.method).parameters? = some layout)
    (read : layout.shape params = true ∧
      Action.ofParameters? layout params (Method.ofName m.method) = some action) :
    m.edit? = action.edit? := by
  have plain : ¬ m.isRequest = true := by
    rw [isRequest, notification]
    exact Bool.false_ne_true
  rw [edit?, if_neg plain,
    Action.decode?_eq_some_iff.2 ⟨params, layout, carries, known, read⟩, Option.bind_some]

/-- An edit is taken for what it is. -/
theorem Message.edit?_of_edits {m : Message} {e : Edit} (edits : m.Edits e) : m.edit? = some e := by
  cases edits with
  | opened method notification carries document =>
    have named : Method.ofName m.method = .didOpen := by
      rw [method]
      rfl
    rw [edit?_eq_of_decode? notification carries (by rw [named]; rfl)
      (by rw [named]; exact Action.ofParameters?_didOpen_iff.2 document)]
    rfl
  | changed method notification carries document changes =>
    have named : Method.ofName m.method = .didChange := by
      rw [method]
      rfl
    obtain ⟨v, found, list, texts, is, each, last⟩ := changes
    rw [edit?_eq_of_decode? notification carries (by rw [named]; rfl) (by
      rw [named]
      exact Action.ofParameters?_didChange_iff.2 ⟨document, v, found, list, is, each⟩)]
    rw [Action.edit?, last]
    rfl
  | closed method notification carries document =>
    have named : Method.ofName m.method = .didClose := by
      rw [method]
      rfl
    rw [edit?_eq_of_decode? notification carries (by rw [named]; rfl)
      (by rw [named]; exact Action.ofParameters?_didClose_iff.2 document)]
    rfl

/-- The server reads from a message the edit that its JSON is, and no other one. -/
theorem Message.edit?_eq_some_iff {m : Message} {e : Edit} : m.edit? = some e ↔ m.Edits e :=
  ⟨edits_of_edit?, edit?_of_edits⟩

end Reading

end Mhtml

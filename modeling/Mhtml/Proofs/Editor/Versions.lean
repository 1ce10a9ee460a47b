import Mhtml.Proofs.Editor.Edits

/-!
# Which version is stored

An edit writes a version of a document or closes the document. The store compares
a write with the entry that it has and with nothing else. Along a session this
makes the entry the newest of the writes since the document was last closed: the
last one with the highest version, in whatever order the versions came. `Records`
says so, each thing that arrives keeps it so, and a write is refused just if one of
those writes has a higher version.
-/

namespace Mhtml

/-- The writes to a document after it was last closed. -/
def standing (uri : String) (edits : List Edit) : List Write :=
  (edits.reverse.takeWhile (· ≠ .close uri)).reverse.filterMap (Edit.writeTo? uri)

/-- The last of the writes with the highest version. -/
def IsNewest (w : Write) (ws : List Write) : Prop :=
  ∃ before after, ws = before ++ w :: after ∧ (∀ x ∈ before, x.version ≤ w.version) ∧
    ∀ x ∈ after, x.version < w.version

/-! ## The edits of a session -/

/-- An action that is no edit changes no document. -/
theorem Session.quiet_act {s : Session} (running : s.stage = .running) {action : Action}
    (none : action.edit? = none) : (s.act action).Quiet s := by
  cases action with
  | ready => exact quiet_ready running
  | openText uri version text => cases none
  | changeText uri version texts =>
    have empty : texts.getLast? = Option.none := Option.map_eq_none_iff.1 none
    rw [act, empty]
    exact quiet_of_eq rfl rfl
  | closeText uri => cases none
  | hover uri p => exact quiet_of_eq rfl rfl
  | completion uri p => exact quiet_of_eq rfl rfl
  | outline uri => exact quiet_of_eq rfl rfl

section Reading

variable [Uri.Reader]

/-- What something that arrives does to a document. -/
def Incoming.edit? : Incoming → Option Edit
  | message m => m.edit?
  | invalid => none
  | garbled => none

theorem Incoming.edit?_eq_some_iff {i : Incoming} {e : Edit} :
    i.edit? = some e ↔ ∃ m, i = .message m ∧ m.Edits e := by
  cases i with
  | message m => simp [edit?, Message.edit?_eq_some_iff]
  | invalid => simp [edit?]
  | garbled => simp [edit?]

namespace Session

/-- The edit that arrives at a session, if it is running. -/
def heeded (s : Session) (i : Incoming) : List Edit :=
  if s.stage = .running then i.edit?.toList else []

/-- The edits that arrive at a session while it is running, in order. -/
def edits (s : Session) : List Incoming → List Edit
  | [] => []
  | i :: arrivals => s.heeded i ++ (s.take i).session.edits arrivals

end Session

/-- Edits come with notifications. -/
theorem Action.isNotification_of_edit? {method : Method} {params? : Option Json} {action : Action}
    {e : Edit} (read : decode? method params? = some action) (edit : action.edit? = some e) :
    method.isNotification = true := by
  rw [method_of_decode? read]
  cases action with
  | openText | changeText | closeText => rfl
  | ready | hover | completion | outline => cases edit

namespace Session

variable {s : Session} {i : Incoming}

/-- A running session acts on an edit. -/
theorem exists_take_eq_act (running : s.stage = .running) {e : Edit} (edit : i.edit? = some e) :
    ∃ action, action.edit? = some e ∧ s.take i = s.act action := by
  cases i with
  | invalid => cases edit
  | garbled => cases edit
  | message m =>
    have edit : m.edit? = some e := edit
    rw [Message.edit?, Option.ite_none_left_eq_some, Option.bind_eq_some_iff] at edit
    obtain ⟨plain, action, read, edit⟩ := edit
    have notification := Action.isNotification_of_edit? read edit
    refine ⟨action, edit, ?_⟩
    show s.receive m = s.act action
    obtain ⟨params, -, parsed⟩ := Option.bind_eq_some_iff.1 read
    obtain ⟨layout, known, -⟩ := Option.bind_eq_some_iff.1 parsed
    have alive : s.stage ≠ .exited := by
      rw [running]
      decide
    have kind : (Method.ofName m.method).isNotification ≠ m.isRequest := by
      rw [notification]
      exact fun same => plain same.symm
    rw [receive_of_parameters? known alive, receiveAction, if_neg (not_not_intro running),
      if_neg kind, read]

/-- What is no edit changes no document, and neither does anything before or after the session runs. -/
theorem quiet_take (other : s.stage = .running → i.edit? = none) : (s.take i).Quiet s := by
  cases i with
  | invalid => exact quiet_breakOff _
  | garbled => exact quiet_breakOff _
  | message m =>
    show (s.receive m).Quiet s
    rcases s.receive_cases m with quiet | ⟨running, kind, action, read, acts⟩
    · exact quiet
    · rw [acts]
      apply quiet_act running
      have none : m.edit? = Option.none := other running
      cases edit : action.edit? with
      | none => rfl
      | some e =>
        have notification := Action.isNotification_of_edit? read edit
        rw [notification] at kind
        rw [Message.edit?, if_neg (fun request => kind request.symm), read, Option.bind_some,
          edit] at none
        cases none

/-- A running session stores what is written. -/
theorem take_of_write (running : s.stage = .running) {uri : String} {w : Write}
    (edit : i.edit? = some (.write uri w)) : s.take i = s.store uri (.ofText w.text w.version) := by
  obtain ⟨action, same, acts⟩ := exists_take_eq_act running edit
  rw [acts]
  cases action with
  | openText about version text =>
    cases same
    rfl
  | changeText about version texts =>
    obtain ⟨text, last, written⟩ := Option.map_eq_some_iff.1 same
    cases written
    rw [act, last]
  | closeText about => cases same
  | ready | hover | completion | outline => cases same

/-- A running session forgets what is closed. -/
theorem take_of_close (running : s.stage = .running) {uri : String}
    (edit : i.edit? = some (.close uri)) : s.take i = s.act (.closeText uri) := by
  obtain ⟨action, same, acts⟩ := exists_take_eq_act running edit
  rw [acts]
  cases action with
  | closeText about =>
    cases same
    rfl
  | changeText about version texts =>
    obtain ⟨text, -, written⟩ := Option.map_eq_some_iff.1 same
    cases written
  | openText about version text => cases same
  | ready | hover | completion | outline => cases same

/-- An edit of one document leaves the others as they are. -/
theorem get?_take_of_ne (running : s.stage = .running) {e : Edit} (edit : i.edit? = some e)
    {other : String} (ne : e.uri ≠ other) :
    (s.take i).session.documents.get? other = s.documents.get? other := by
  cases e with
  | write uri w =>
    rw [take_of_write running edit]
    by_cases accepted : s.documents.Accepts uri w.version
    · rw [store_of_accepts running (.ofText w.text w.version) accepted]
      exact (Store.get?_insert _ _ _ _).trans (if_neg ne)
    · rw [store_of_not_accepts (.ofText w.text w.version) accepted]
  | close uri =>
    rw [take_of_close running edit]
    exact (Store.get?_erase _ _ _).trans (if_neg ne)

/-- A session that is running still is after an edit. -/
theorem running_take (running : s.stage = .running) {e : Edit} (edit : i.edit? = some e) :
    (s.take i).session.stage = .running := by
  cases e with
  | write uri w =>
    rw [take_of_write running edit]
    by_cases accepted : s.documents.Accepts uri w.version
    · rw [store_of_accepts running (.ofText w.text w.version) accepted]
      exact running
    · rw [store_of_not_accepts (.ofText w.text w.version) accepted]
      exact running
  | close uri =>
    rw [take_of_close running edit]
    exact running

/-- While a session is running every edit counts. -/
theorem edits_of_forall₂ (running : s.stage = .running) {arrivals : List Incoming}
    {es : List Edit} (each : List.Forall₂ (fun i e => i.edit? = some e) arrivals es) :
    s.edits arrivals = es := by
  induction each generalizing s with
  | nil => rfl
  | cons edit _ ih =>
    rw [edits, heeded, if_pos running, edit, ih (running_take running edit)]
    rfl

/-- An edit wants no answer. -/
theorem messages_of_edit {e : Edit} (edit : i.edit? = some e) (t : Turn) :
    t.messages i = t.sent.map Notice.toJson := by
  cases i with
  | invalid => cases edit
  | garbled => cases edit
  | message m =>
    have plain := (Option.ite_none_left_eq_some.1 edit).1
    have unnamed : m.id? = none := by
      rw [Message.isRequest, Option.not_isSome_iff_eq_none] at plain
      exact plain
    rw [Turn.messages, Incoming.id?, unnamed]
    rfl

end Session

end Reading

/-! ## The newest write -/

/-- A further edit closes the document, or adds what it writes. -/
theorem standing_append (uri : String) (edits : List Edit) (e : Edit) :
    standing uri (edits ++ [e]) =
      if e = .close uri then [] else standing uri edits ++ (e.writeTo? uri).toList := by
  rw [standing, List.reverse_append, List.reverse_singleton, List.singleton_append,
    List.takeWhile_cons]
  by_cases closes : e = .close uri
  · simp [closes]
  · simp only [closes, ne_eq, not_false_eq_true, decide_true, if_true, if_false, List.reverse_cons,
      List.filterMap_append, standing]
    cases written : e.writeTo? uri <;> simp [written]

theorem standing_append_of_ne {e : Edit} {uri : String} (other : e.uri ≠ uri) (edits : List Edit) :
    standing uri (edits ++ [e]) = standing uri edits := by
  have stays : e ≠ .close uri := by
    rintro rfl
    exact other rfl
  rw [standing_append, if_neg stays, Edit.writeTo?_of_ne other]
  exact List.append_nil _

namespace IsNewest

variable {w x : Write} {ws : List Write}

theorem mem (newest : IsNewest w ws) : w ∈ ws := by
  obtain ⟨before, after, rfl, -, -⟩ := newest
  simp

theorem le (newest : IsNewest w ws) : ∀ x ∈ ws, x.version ≤ w.version := by
  obtain ⟨before, after, rfl, earlier, later⟩ := newest
  intro x found
  rcases List.mem_append.1 found with first | rest
  · exact earlier x first
  · rcases List.mem_cons.1 rest with rfl | last
    · exact Int.le_refl _
    · exact Int.le_of_lt (later x last)

/-- A write that no other one is newer than becomes the newest. -/
theorem append_self (le : ∀ x ∈ ws, x.version ≤ w.version) : IsNewest w (ws ++ [w]) :=
  ⟨ws, [], rfl, le, by simp⟩

/-- An older write changes nothing. -/
theorem append_of_lt (newest : IsNewest w ws) (older : x.version < w.version) :
    IsNewest w (ws ++ [x]) := by
  obtain ⟨before, after, rfl, earlier, later⟩ := newest
  refine ⟨before, after ++ [x], by simp, earlier, ?_⟩
  intro y found
  rcases List.mem_append.1 found with first | last
  · exact later y first
  · cases List.mem_singleton.1 last
    exact older

end IsNewest

/-- What is stored of a document after some writes. -/
inductive Keeps : List Write → Option StoredText → Prop
  /-- Nothing was written. -/
  | nothing : Keeps [] none
  /-- The newest write is stored. -/
  | newest {ws : List Write} {w : Write} (newest : IsNewest w ws) :
    Keeps ws (some (.ofText w.text w.version))

namespace Keeps

variable {ws : List Write} {stored? : Option StoredText}

/-- The entry that is stored stands for all the writes when a version is compared with it. -/
theorem forall_le_iff (keeps : Keeps ws stored?) (version : Int) :
    (∀ stored ∈ stored?, stored.version ≤ version) ↔ ∀ x ∈ ws, x.version ≤ version := by
  cases keeps with
  | nothing => simp
  | @newest _ w newest =>
    constructor
    · intro accepted x found
      have stored : w.version ≤ version := accepted _ rfl
      have := newest.le x found
      omega
    · rintro all _ same
      cases same
      exact all w newest.mem

/-- A write that is refused leaves the newest one in place: there is an entry, and it is newer. -/
theorem append_of_refused (keeps : Keeps ws stored?) {w : Write}
    (refused : ¬ ∀ stored ∈ stored?, stored.version ≤ w.version) : Keeps (ws ++ [w]) stored? := by
  cases keeps with
  | nothing => simp at refused
  | @newest _ stored newest =>
    refine .newest (newest.append_of_lt (Int.not_le.1 fun le => refused ?_))
    rintro _ same
    cases same
    exact le

end Keeps

/-- The documents of a session hold the newest of the writes among some edits. -/
def Session.Records (s : Session) (edits : List Edit) : Prop :=
  ∀ uri, Keeps (standing uri edits) (s.documents.get? uri)

theorem Session.records_start (limit : Nat) : Session.Records { limit } [] := by
  intro uri
  have none : (∅ : Store).get? uri = Option.none := by simp
  show Keeps [] ((∅ : Store).get? uri)
  rw [none]
  exact .nothing

section Reading

variable [Uri.Reader]

namespace Session

variable {s : Session} {i : Incoming} {edits : List Edit}

theorem Records.take_write (records : s.Records edits) (running : s.stage = .running)
    {uri : String} {w : Write} (edit : i.edit? = some (.write uri w)) :
    Keeps (standing uri (edits ++ [.write uri w])) ((s.take i).session.documents.get? uri) := by
  have writes : standing uri (edits ++ [.write uri w]) = standing uri edits ++ [w] := by
    rw [standing_append, if_neg (by simp), Edit.writeTo?, if_pos rfl]
    rfl
  rw [writes, take_of_write running edit]
  by_cases accepted : s.documents.Accepts uri w.version
  · rw [store_of_accepts running (.ofText w.text w.version) accepted]
    show Keeps _ ((s.documents.insert uri _).get? uri)
    rw [Store.get?_insert, if_pos rfl]
    exact .newest (IsNewest.append_self (((records uri).forall_le_iff w.version).1 accepted))
  · rw [store_of_not_accepts (.ofText w.text w.version) accepted]
    exact (records uri).append_of_refused accepted

theorem Records.take_close (running : s.stage = .running) {uri : String}
    (edit : i.edit? = some (.close uri)) :
    Keeps (standing uri (edits ++ [.close uri])) ((s.take i).session.documents.get? uri) := by
  rw [standing_append, if_pos rfl, take_of_close running edit]
  show Keeps [] ((s.documents.erase uri).get? uri)
  rw [Store.get?_erase, if_pos rfl]
  exact .nothing

/-- Whatever arrives, the documents hold the newest of the writes. -/
theorem Records.take (records : s.Records edits) (i : Incoming) :
    (s.take i).session.Records (edits ++ s.heeded i) := by
  -- Only an edit that arrives at a running session counts, and it touches one document.
  by_cases heeds : s.stage = .running ∧ ∃ e, i.edit? = some e
  · obtain ⟨running, e, edit⟩ := heeds
    have one : s.heeded i = [e] := by
      rw [heeded, if_pos running, edit]
      rfl
    rw [one]
    intro uri
    by_cases same : e.uri = uri
    · subst same
      cases e with
      | write about w => exact records.take_write running edit
      | close about => exact Records.take_close running edit
    · rw [standing_append_of_ne same, get?_take_of_ne running edit same]
      exact records uri
  · have other : s.stage = .running → i.edit? = none := by
      intro running
      cases edit : i.edit? with
      | none => rfl
      | some e => exact absurd ⟨running, e, edit⟩ heeds
    have none : s.heeded i = [] := by
      unfold heeded
      split
      next running =>
        rw [other running]
        rfl
      next => rfl
    intro uri
    rw [none, List.append_nil, (quiet_take other).documents]
    exact records uri

end Session

/-- A session that is running still is after any number of edits. -/
theorem Dialogue.running_run {d : Dialogue} (running : d.session.stage = .running)
    {arrivals : List Incoming} {es : List Edit}
    (each : List.Forall₂ (fun i e => i.edit? = some e) arrivals es) :
    (d.run arrivals).session.stage = .running := by
  induction each generalizing d with
  | nil => exact running
  | @cons i _ _ _ edit _ ih => exact ih (d := d.step i) (Session.running_take running edit)

/-- Along a whole dialogue the documents hold the newest of the writes. -/
theorem Dialogue.records_run {d : Dialogue} {edits : List Edit} (records : d.session.Records edits)
    (arrivals : List Incoming) :
    (d.run arrivals).session.Records (edits ++ d.session.edits arrivals) := by
  induction arrivals generalizing d edits with
  | nil =>
    rw [Session.edits, List.append_nil]
    exact records
  | cons i arrivals ih =>
    have next : (d.step i).session.Records (edits ++ d.session.heeded i) := records.take i
    have rest := ih next
    rw [List.append_assoc] at rest
    exact rest

/-- **The store keeps the newest version.** After whatever arrived, in whatever order, a document is
stored just if something was written to it since it was last closed, and then as the last of those
writes with the highest version. A further write is stored and published, once, if none of them has a
higher version, and else nothing changes and nothing is sent. An edit of one document leaves all
others as they are. -/
theorem newest_write_is_stored (limit : Nat) (arrivals : List Incoming) :
    let s := (Dialogue.run { session := { limit } } arrivals).session
    let writes := fun uri => standing uri (Session.edits { limit } arrivals)
    (∀ (i : Incoming) e, i.edit? = some e ↔ ∃ m, i = .message m ∧ m.Edits e) ∧
    (∀ uri, (writes uri = [] → s.documents.get? uri = none) ∧
      (writes uri ≠ [] → ∃ w, IsNewest w (writes uri) ∧
        s.documents.get? uri = some (.ofText w.text w.version))) ∧
    ∀ i, s.stage = .running →
      (∀ uri w, i.edit? = some (.write uri w) →
        ((∀ earlier ∈ writes uri, earlier.version ≤ w.version) →
          (s.take i).session.documents = s.documents.insert uri (.ofText w.text w.version) ∧
          (s.take i).messages i = [(Notice.publish uri (validate limit w.text).diagnostics
            (some w.version)).toJson]) ∧
        (¬ (∀ earlier ∈ writes uri, earlier.version ≤ w.version) →
          (s.take i).session = s ∧ (s.take i).messages i = [])) ∧
      ∀ e, i.edit? = some e → ∀ other, e.uri ≠ other →
        (s.take i).session.documents.get? other = s.documents.get? other := by
  intro s writes
  have kept : s.limit = limit := Dialogue.limit_run _ arrivals
  have records : s.Records (Session.edits { limit } arrivals) :=
    Dialogue.records_run (d := { session := { limit } }) (Session.records_start limit) arrivals
  refine ⟨fun i e => Incoming.edit?_eq_some_iff, ?_,
    fun i running => ⟨?_, fun e edit other => Session.get?_take_of_ne running edit⟩⟩
  · intro uri
    have keeps : Keeps (writes uri) (s.documents.get? uri) := records uri
    generalize writes uri = ws, s.documents.get? uri = stored? at keeps ⊢
    cases keeps with
    | nothing => exact ⟨fun _ => rfl, fun some => absurd rfl some⟩
    | @newest _ w newest =>
      refine ⟨fun none => ?_, fun _ => ⟨w, newest, rfl⟩⟩
      have found := newest.mem
      rw [none] at found
      cases found
  · intro uri w edit
    have decides : s.documents.Accepts uri w.version ↔ _ := (records uri).forall_le_iff w.version
    rw [Session.messages_of_edit edit, Session.take_of_write running edit, ← decides]
    constructor
    · intro accepted
      rw [Session.store_of_accepts running (.ofText w.text w.version) accepted, kept]
      exact ⟨rfl, rfl⟩
    · intro refused
      rw [Session.store_of_not_accepts (.ofText w.text w.version) refused]
      exact ⟨rfl, rfl⟩

end Reading

/-- The request that sets a session up. -/
def setupArrival : Incoming :=
  .message
    { method := "initialize", id? := some (.int 1),
      params? := some (.obj [("capabilities", .obj [])]) }

/-- The notification that a document is opened. -/
def openArrival (name : String) (version : Int) (text : List Char) : Incoming :=
  .message
    { method := "textDocument/didOpen", id? := none,
      params? := some (.obj
        [("textDocument", .obj
          [("uri", .str name), ("languageId", .str "mhtml"), ("version", .int version),
           ("text", .str (String.ofList text))])]) }

/-- The notification that a document has changed, once or several times. -/
def changeArrival (name : String) (version : Int) (texts : List (List Char)) : Incoming :=
  .message
    { method := "textDocument/didChange", id? := none,
      params? := some (.obj
        [("textDocument", .obj [("uri", .str name), ("version", .int version)]),
         ("contentChanges",
          .arr (texts.map fun text => .obj [("text", .str (String.ofList text))]))]) }

/-- The notification that a document is closed. -/
def closeArrival (name : String) : Incoming :=
  .message
    { method := "textDocument/didClose", id? := none,
      params? := some (.obj [("textDocument", .obj [("uri", .str name)])]) }

theorem isChange_text (text : List Char) :
    (Json.obj [("text", .str (String.ofList text))]).IsChange text where
  range _ found := by cases found
  rangeLength _ found := by cases found
  text := ⟨_, rfl, rfl⟩

section Reading

variable [Uri.Reader] {name uri : String} {version : Int}

theorem edit?_openArrival (normal : Uri.Reader.normal? name = some uri)
    (small : -0x80000000 ≤ version ∧ version < 0x80000000) (text : List Char) :
    (openArrival name version text).edit? = some (.write uri ⟨version, text⟩) := by
  refine Incoming.edit?_eq_some_iff.2 ⟨_, rfl, .opened rfl rfl rfl ⟨_, rfl, ?_⟩⟩
  exact ⟨⟨_, rfl, name, rfl, normal⟩, ⟨_, rfl, "mhtml".toList, rfl⟩, ⟨_, rfl, rfl, small⟩,
    ⟨_, rfl, rfl⟩⟩

theorem edit?_changeArrival (normal : Uri.Reader.normal? name = some uri)
    (small : -0x80000000 ≤ version ∧ version < 0x80000000) {texts : List (List Char)}
    {text : List Char} (last : texts.getLast? = some text) :
    (changeArrival name version texts).edit? = some (.write uri ⟨version, text⟩) := by
  have each : List.Forall₂ Json.IsChange
      (texts.map fun text => .obj [("text", .str (String.ofList text))]) texts := by
    rw [List.forall₂_map_left_iff, List.forall₂_same]
    exact fun text _ => isChange_text text
  exact Incoming.edit?_eq_some_iff.2 ⟨_, rfl, .changed rfl rfl rfl
    ⟨_, rfl, ⟨_, rfl, name, rfl, normal⟩, ⟨_, rfl, rfl, small⟩⟩ ⟨_, rfl, _, texts, rfl, each, last⟩⟩

theorem edit?_closeArrival (normal : Uri.Reader.normal? name = some uri) :
    (closeArrival name).edit? = some (.close uri) :=
  Incoming.edit?_eq_some_iff.2
    ⟨_, rfl, .closed rfl rfl rfl ⟨_, rfl, _, rfl, name, rfl, normal⟩⟩

end Reading

/-- Two documents are opened, one of them by another spelling of its identifier; that one is changed
twice at once, and the other one is closed. -/
def twoDocuments : List Incoming :=
  [openArrival "FILE:///t" 5 ['a'], openArrival "file:///u" 9 ['x'],
   changeArrival "file:///t" 7 [['b'], ['c']], closeArrival "file:///u"]

/-- What is done to the two documents. -/
def twoDocumentEdits : List Edit :=
  [.write "file:///t" ⟨5, ['a']⟩, .write "file:///u" ⟨9, ['x']⟩,
   .write "file:///t" ⟨7, ['c']⟩, .close "file:///u"]

theorem normal?_twoDocuments :
    Uri.Reader.normal? "FILE:///t" = some "file:///t" ∧
      Uri.Reader.normal? "file:///t" = some "file:///t" ∧
      Uri.Reader.normal? "file:///u" = some "file:///u" := by
  decide +kernel

theorem edits_twoDocuments :
    List.Forall₂ (fun i e => i.edit? = some e) twoDocuments twoDocumentEdits := by
  obtain ⟨other, t, u⟩ := normal?_twoDocuments
  exact .cons (edit?_openArrival other (by decide) _) <|
    .cons (edit?_openArrival u (by decide) _) <|
    .cons (edit?_changeArrival t (by decide) rfl) <|
    .cons (edit?_closeArrival u) .nil

/-- The document that was opened under another spelling has the last of its two changes, and a version
between the two that were written comes too late. The document that was closed takes any version
again. -/
theorem newest_write_is_stored_late :
    let s := (Dialogue.run { session := { limit := 1024 } } (setupArrival :: twoDocuments)).session
    let late := changeArrival "file:///t" 6 [['d']]
    let again := openArrival "file:///u" 2 ['y']
    (s.documents.get? "file:///t" = some (.ofText ['c'] 7) ∧
      s.documents.get? "file:///u" = none) ∧
    ((s.take late).session = s ∧ (s.take late).messages late = []) ∧
    (s.take again).session.documents = s.documents.insert "file:///u" (.ofText ['y'] 2) ∧
      (s.take again).messages again = [(Notice.publish "file:///u"
        (validate 1024 ['y']).diagnostics (some 2)).toJson] ∧
      (s.take again).session.documents.get? "file:///t" = s.documents.get? "file:///t" := by
  intro s late again
  obtain ⟨-, t, u⟩ := normal?_twoDocuments
  have setUp : (Session.take { limit := 1024 } setupArrival).session =
      { stage := .running, limit := 1024 } := rfl
  have running : s.stage = .running :=
    Dialogue.running_run (d := Dialogue.step { session := { limit := 1024 } } setupArrival)
      (congrArg Session.stage setUp) edits_twoDocuments
  have edits : Session.edits { limit := 1024 } (setupArrival :: twoDocuments) = twoDocumentEdits := by
    rw [Session.edits, setUp, Session.heeded, if_neg (by decide), List.nil_append]
    exact Session.edits_of_forall₂ rfl edits_twoDocuments
  have written : standing "file:///t" twoDocumentEdits = [⟨5, ['a']⟩, ⟨7, ['c']⟩] := by decide
  have closed : standing "file:///u" twoDocumentEdits = [] := by decide
  have lateEdit : late.edit? = some (.write "file:///t" ⟨6, ['d']⟩) :=
    edit?_changeArrival t (by decide) rfl
  have againEdit : again.edit? = some (.write "file:///u" ⟨2, ['y']⟩) :=
    edit?_openArrival u (by decide) _
  obtain ⟨-, stored, further⟩ := newest_write_is_stored 1024 (setupArrival :: twoDocuments)
  rw [edits] at stored further
  dsimp only at stored further
  obtain ⟨taken, apart⟩ := further again running
  refine ⟨⟨?_, (stored _).1 closed⟩, ((further late running).1 _ _ lateEdit).2 ?_, ?_⟩
  · obtain ⟨w, newest, entry⟩ := (stored "file:///t").2 (by rw [written]; simp)
    rw [written] at newest
    have latest : w = ⟨7, ['c']⟩ := by
      have bound := newest.le ⟨7, ['c']⟩ (by simp)
      have among := newest.mem
      simp only [List.mem_cons, List.not_mem_nil, or_false] at among
      rcases among with rfl | rfl
      · simp at bound
      · rfl
    rw [entry, latest]
  · rw [written]
    decide
  · obtain ⟨documents, messages⟩ := (taken _ _ againEdit).1 (by rw [closed]; simp)
    exact ⟨documents, messages, apart _ againEdit _ (by decide)⟩

end Mhtml
